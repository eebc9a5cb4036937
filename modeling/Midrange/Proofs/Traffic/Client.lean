import Midrange.Proofs.Traffic.Charge

/-!
# Clients in charge

Every client minds its connections, whatever it does with its handles and whatever the
calls are answered.  What it uses at the end is what it used before: each use of a
connection ends with a close or, after a whole round, among the idle ones.
-/

namespace Midrange

/-! ## Verbs control no transaction -/

section Verbs

variable {connection : Connection} {sql : String} {bindings : Value}
  {said : List Exchange}

theorem Executes.quiet {statement : Option Statement}
    (executes : Executes connection sql bindings statement said) :
    ∀ other ∈ said, other.isControl = false := by
  cases executes <;> simp [Exchange.isControl, DriverCall.controlled?]

theorem Fetches.quiet {statement : Statement} {returned : Bool}
    (fetches : Fetches statement returned said) :
    ∀ other ∈ said, other.isControl = false := by
  induction fetches with
  | enough => simp
  | last | failed => simp [Exchange.isControl, DriverCall.controlled?]
  | next row _ induction =>
      exact List.forall_mem_cons.mpr ⟨rfl, induction⟩

theorem VerbCalls.quiet {verb : Verb} {returned : Bool}
    (calls : VerbCalls connection sql bindings verb returned said) :
    ∀ other ∈ said, other.isControl = false := by
  cases calls with
  | stopped executes | execute executes => exact executes.quiet
  | query executes fetches =>
      exact List.forall_mem_append.mpr ⟨executes.quiet, fetches.quiet⟩
  | update _ executes | unidentified _ executes | insert _ _ executes =>
      refine List.forall_mem_append.mpr ⟨executes.quiet, ?_⟩
      simp [Exchange.isControl, DriverCall.controlled?]

end Verbs

namespace Charge

variable {charge : Charge} {connection : Connection}

theorem permits_of_quiet {request : DriverCall} (quiet : request.controlled? = none)
    (owned : request.connection? charge.made = some connection)
    (plain : charge.isPlain = true → charge.uses connection = some []) :
    charge.Permits request where
  controls := by simp [quiet]
  begins := by rintro _ rfl; cases quiet
  plain := fun verb => .inr ⟨connection, owned, plain verb⟩

end Charge

variable {α : Type} {charge : Charge} {connection : Connection}

/-- Minds its connections, and uses at the end what it used before. -/
def Routine.Restores (charge : Charge) (routine : Routine journal α) : Prop :=
  routine.Minds (fun _ after => after.uses = charge.uses) charge

/-- A routine that controls no transaction on its connection uses what it used
before. -/
theorem Routine.Speaks.restores {routine : Routine journal α}
    {spoken : Made → List Exchange → Except Fault α → Prop} {made : Made}
    {past : List Exchange} (speaks : routine.Speaks connection spoken made past)
    (same : charge.made = made)
    (quiet : ∀ made past outcome, spoken made past outcome →
      ∀ other ∈ past, other.isControl = false)
    (plain : charge.isPlain = true → charge.uses connection = some []) :
    routine.Restores charge := by
  induction routine generalizing charge made past with
  | done | fail => rfl
  | step | emit | aside => exact speaks.elim
  | call request next induction =>
      cases request with
      | makeGuest | guest => exact speaks.elim
      | driver asked =>
          obtain ⟨owned, notClose, rest⟩ := speaks
          -- Where the routine can end, it has made this call, and the call is quiet.
          have silent (answer : Except Fault asked.Answer) :
              Exchange.isControl ⟨asked, answer⟩ = false := by
            obtain ⟨_, later, _, ended⟩ := (rest answer).ends
            exact quiet _ _ _ ended _ (by simp)
          have uncontrolled : asked.controlled? = none := by
            simpa [Exchange.isControl] using silent (.error (.outside .runtime ""))
          refine ⟨Charge.permits_of_quiet uncontrolled (same ▸ owned) plain,
            fun answer => ?_⟩
          rw [Charge.hear_of_quiet (silent answer) notClose]
          have restores : (next answer).Restores
              { charge with made := asked.madeAfter charge.made answer } :=
            induction answer (rest answer) (by rw [same]) plain
          exact restores

theorem Connection.perform_restores {timeout : Option Int} {sql : String}
    {bindings : Value} {verb : Verb}
    (plain : charge.isPlain = true → charge.uses connection = some []) :
    (connection.perform timeout sql bindings verb :
      Routine journal verb.Answer).Restores charge := by
  have speaks : (connection.perform timeout sql bindings verb :
      Routine journal verb.Answer).Speaks connection
      (fun _ past outcome => VerbCalls connection sql bindings verb outcome.isOk past)
      charge.made [] :=
    perform_speaks fun _ _ _ calls => calls
  exact speaks.restores rfl (fun _ _ _ calls => calls.quiet) plain

/-! ## Closing -/

namespace Connection

theorem tolerate_minds {event : String → Event} {routine : Routine journal Unit}
    {post : Charge → Prop} (minds : routine.Minds (fun _ after => post after) charge) :
    (tolerate event routine).Minds (fun _ after => post after) charge := by
  rw [tolerate, Routine.bind_eq, Routine.minds_bind, Routine.minds_attempt]
  refine minds.mono fun outcome after holds => ?_
  cases outcome with
  | ok => exact holds
  | error fault =>
      rw [Routine.ends_ok]
      by_cases ordinary : fault.isOrdinary = true
      · simpa [ordinary, Routine.report, Routine.Minds] using holds
      · simpa [ordinary] using holds

theorem closeQuietly_minds
    (plain : charge.isPlain = true → charge.uses connection = some []) :
    (connection.closeQuietly : Routine journal Unit).Minds
      (fun _ after => after = charge.drop connection) charge := by
  apply tolerate_minds
  exact ⟨Charge.permits_of_quiet rfl rfl plain,
    fun _ => Routine.minds_ofExcept.mpr rfl⟩

/-- Closing connections that are not in use changes nothing of what is. -/
theorem forM_closeQuietly_restores {connections : List Connection}
    (unmarked : charge.isPlain = false)
    (free : ∀ connection ∈ connections, charge.uses connection = none) :
    (connections.forM closeQuietly : Routine journal PUnit).Restores charge := by
  induction connections with
  | nil => rfl
  | cons connection connections induction =>
      obtain ⟨here, later⟩ := List.forall_mem_cons.mp free
      refine Routine.minds_bind.mpr ((closeQuietly_minds (by simp [unmarked])).mono ?_)
      intro outcome after dropped
      have same : after = charge := by
        rw [dropped, Charge.drop, ← here, Function.update_eq_self]
      rw [same]
      cases outcome with
      | ok => exact induction later
      | error fault => rfl

/-! ## Beginning and ending a transaction -/

theorem control_minds {request : DriverCall} {said : List Exchange}
    {post : Except Fault request.Answer → Charge → Prop}
    (controls : request.controlled? = some connection)
    (begins : request = .autocommit connection false → said = [])
    (unmarked : charge.isPlain = false) (used : charge.uses connection = some said)
    (holds : ∀ answer after, after.isPlain = false →
      after.uses = Function.update charge.uses connection
        (some (said ++ [⟨request, answer⟩])) → post answer after) :
    (Routine.drive request : Routine journal request.Answer).Minds post charge := by
  rw [Routine.minds_drive]
  refine ⟨⟨?_, ?_, by simp [unmarked]⟩, fun answer => holds answer _ unmarked ?_⟩
  · intro other controls'
    obtain rfl : connection = other := by simpa [controls] using controls'
    simp [used]
  · rintro other rfl
    obtain rfl : other = connection := Option.some.inj controls
    rw [used, begins rfl]
  · rw [Charge.hear_of_control controls, used]
    rfl

theorem finish_minds {request : DriverCall} {said : List Exchange}
    {post : Except Fault Unit → Charge → Prop}
    (controls : request.controlled? = some connection)
    (begins : request ≠ .autocommit connection false)
    (unmarked : charge.isPlain = false) (used : charge.uses connection = some said)
    (holds : ∀ answer restored after, after.isPlain = false →
      after.uses = Function.update charge.uses connection
        (some (said ++ [⟨request, answer⟩, ⟨.autocommit connection true, restored⟩])) →
      post (finished (answer.map fun _ => ()) restored) after) :
    (connection.finish request : Routine journal Unit).Minds post charge := by
  rw [finish, Routine.bind_eq, Routine.minds_bind, Routine.minds_attempt]
  refine control_minds controls (fun same => (begins same).elim) unmarked used
    fun answer middle unmarked first => ?_
  rw [Routine.ends_ok, Routine.bind_eq, Routine.minds_bind]
  have used : middle.uses connection = some (said ++ [⟨request, answer⟩]) := by
    rw [first, Function.update_self]
  refine control_minds rfl (by simp) unmarked used fun restored after unmarked second => ?_
  have rest := holds answer restored after unmarked
    (by rw [second, first, Function.update_idem, List.append_assoc]; rfl)
  cases restored with
  | error fault => exact rest
  | ok => cases answer <;> exact rest

theorem commit_minds {said : List Exchange} (unmarked : charge.isPlain = false)
    (used : charge.uses connection = some said) :
    (connection.commit : Routine journal Unit).Minds
      (fun outcome after => after.isPlain = false ∧ ∃ later,
        after.uses = Function.update charge.uses connection (some (said ++ later)) ∧
        (outcome.isOk = true →
          later = [⟨.commit connection, .ok ()⟩,
            ⟨.autocommit connection true, .ok ()⟩])) charge := by
  refine finish_minds rfl nofun unmarked used
    fun answer restored after unmarked uses => ?_
  refine ⟨unmarked, _, uses, fun returned => ?_⟩
  cases answer <;> cases restored <;> first | rfl | cases returned

theorem rollbackQuietly_minds {said : List Exchange} (unmarked : charge.isPlain = false)
    (used : charge.uses connection = some said) :
    (connection.rollbackQuietly : Routine journal Unit).Minds
      (fun _ after => after.isPlain = false ∧ ∃ later,
        after.uses = Function.update charge.uses connection (some later)) charge := by
  apply tolerate_minds
  exact finish_minds rfl nofun unmarked used fun answer restored after unmarked uses =>
    ⟨unmarked, _, uses⟩

/-- Only a commit that succeeds, with the change back to automatic commit, lets a
transaction return. -/
theorem conclude_minds {outcome : Except Fault α} {said : List Exchange}
    (unmarked : charge.isPlain = false) (used : charge.uses connection = some said) :
    (connection.conclude outcome : Routine journal α).Minds
      (fun outcome after => after.isPlain = false ∧ ∃ later,
        after.uses = Function.update charge.uses connection (some later) ∧
        (outcome.isOk = true →
          later = said ++ [⟨.commit connection, .ok ()⟩,
            ⟨.autocommit connection true, .ok ()⟩])) charge := by
  cases outcome with
  | ok value =>
      refine Routine.minds_bind.mpr ((commit_minds unmarked used).mono ?_)
      rintro outcome after ⟨unmarked, later, uses, committed⟩
      cases outcome with
      | ok => exact ⟨unmarked, _, uses, fun _ => by rw [committed rfl]⟩
      | error fault => exact ⟨unmarked, _, uses, nofun⟩
  | error fault =>
      refine Routine.minds_bind.mpr ((rollbackQuietly_minds unmarked used).mono ?_)
      rintro outcome after ⟨unmarked, later, uses⟩
      cases outcome with
      | ok => exact ⟨unmarked, later, uses, nofun⟩
      | error fault => exact ⟨unmarked, later, uses, nofun⟩

end Connection

/-! ## Uses of a connection -/

namespace Pool

variable {number : Nat}

theorem checkout_minds {post : Except Fault Connection → Charge → Prop}
    (fails : ∀ fault, post (.error fault) charge)
    (takes : ∀ connection, charge.uses connection = none →
      post (.ok connection) (charge.take connection)) :
    (checkout number : Routine journal Connection).Minds post charge := by
  have permits {request : DriverCall} (quiet : request.controlled? = none)
      (opening : request.isOpening = true) : charge.Permits request :=
    { controls := by simp [quiet]
      begins := by rintro _ rfl; cases quiet
      plain := fun _ => .inl opening }
  have opens : (openConnection number : Routine journal Connection).Minds
      post charge := by
    refine ⟨permits rfl rfl, fun located => ?_⟩
    match located with
    | .error fault => exact fails fault
    | .ok false => exact fails _
    | .ok true =>
        intro world _
        refine ⟨charge, .other rfl rfl, permits rfl rfl, fun answer => ?_⟩
        cases answer with
        | error fault => exact fails fault
        | ok => exact fun world fits => ⟨_, .opened, takes _ fits.fresh⟩
  rw [checkout, Routine.bind_eq, Routine.minds_bind]
  intro world fits
  by_cases closed : (world.pools number).closed = true
  · refine ⟨charge, .other ?_ ?_, ?_⟩
    · simp [takeIdle, closed]
    · simp [takeIdle, closed]
    · simpa [takeIdle, closed, Routine.refuse] using fails _
  · cases idle : (world.pools number).idle with
    | nil =>
        refine ⟨charge, .other ?_ ?_, ?_⟩
        · simp [takeIdle, closed, idle]
        · simp [takeIdle, closed, idle]
        · simpa [takeIdle, closed, idle] using opens
    | cons connection rest =>
        have free : charge.uses connection = none :=
          fits.idle number connection (by simp [Fleet.idle, idle])
        refine ⟨charge.take connection, ?_, ?_⟩
        · simpa [takeIdle, closed, idle] using Charge.Changes.take idle
        · simpa [takeIdle, closed, idle] using takes connection free

theorem checkin_minds {said : List Exchange} (used : charge.uses connection = some said)
    (rounds : Rounds connection said)
    (plain : charge.isPlain = true → charge.uses connection = some []) :
    (checkin number connection : Routine journal Unit).Minds
      (fun _ after => after = charge.drop connection) charge := by
  rw [checkin, Routine.bind_eq, Routine.minds_bind]
  intro world _
  by_cases room : !(world.pools number).closed &&
      decide (((world.pools number).idle.length : Int) < (world.pools number).maxIdle)
  · refine ⟨charge.drop connection, ?_, ?_⟩
    · simpa [putIdle, room] using Charge.Changes.put number used rounds
    · simp [putIdle, room]
  · refine ⟨charge, .other ?_ ?_, ?_⟩
    · simp [putIdle, room]
    · simp [putIdle, room]
    · simpa [putIdle, room] using Connection.closeQuietly_minds plain

/-- A use that returns had whole rounds on its connection, and one of a verb had no
transaction at all.  Then the connection goes back, or it is closed. -/
theorem withConnection_restores {use : Connection → Routine journal α}
    (minds : ∀ connection, charge.uses connection = none →
      (use connection).Minds (fun outcome after => ∃ said,
        after.uses = Function.update charge.uses connection (some said) ∧
        (outcome.isOk = true → Rounds connection said) ∧
        (after.isPlain = true → said = [])) (charge.take connection)) :
    (withConnection number use).Restores charge := by
  rw [Routine.Restores, withConnection, Routine.bind_eq, Routine.minds_bind]
  refine checkout_minds (fun _ => rfl) fun connection free => ?_
  rw [Routine.ends_ok, Routine.bind_eq, Routine.minds_bind, Routine.minds_attempt]
  refine (minds connection free).mono ?_
  rintro outcome middle ⟨said, uses, rounds, plain⟩
  have used : middle.uses connection = some said := by rw [uses, Function.update_self]
  have plain' (verb : middle.isPlain = true) : middle.uses connection = some [] := by
    rw [used, plain verb]
  have dropped : (middle.drop connection).uses = charge.uses := by
    rw [Charge.drop, uses, Function.update_idem, ← free, Function.update_eq_self]
  cases outcome with
  | ok value =>
      refine Routine.minds_bind.mpr ((checkin_minds used (rounds rfl) plain').mono ?_)
      rintro outcome after rfl
      cases outcome <;> exact dropped
  | error fault =>
      refine Routine.minds_bind.mpr ((Connection.closeQuietly_minds plain').mono ?_)
      rintro outcome after rfl
      cases outcome <;> exact dropped

theorem perform_restores {verb : Verb} {sql : String} {bindings : Value} :
    (perform number verb sql bindings : Routine journal verb.Answer).Restores
      charge := by
  refine withConnection_restores fun connection _ => ?_
  rw [Routine.bind_eq, Routine.minds_bind]
  refine Routine.minds_look fun world _ => ?_
  refine (Connection.perform_restores fun _ => Function.update_self _ _ _).mono ?_
  exact fun outcome after uses => ⟨[], uses, fun _ => .none, fun _ => rfl⟩

theorem close_restores (unmarked : charge.isPlain = false) :
    (close number : Routine journal Unit).Restores charge := by
  rw [Routine.Restores, close, Routine.bind_eq, Routine.minds_bind]
  intro world fits
  refine ⟨charge, .shut number, Connection.forM_closeQuietly_restores unmarked ?_⟩
  intro connection member
  exact fits.idle number connection (List.mem_reverse.mp member)

end Pool

/-! ## Transactions -/

theorem Client.note_minds {entry : Note} {rest : Routine journal α}
    {post : Except Fault α → Charge → Prop} :
    ((note entry).bind fun _ => rest).Minds post charge ↔
      rest.Minds post (charge.write entry) := Iff.rfl

theorem Client.note_restores {entry : Note} {rest : Routine journal α} :
    ((note entry).bind fun _ => rest).Restores charge ↔
      rest.Restores (charge.write entry) := Iff.rfl

theorem Client.inScope_minds {inner : Handle} {body : Routine journal α}
    (restores : ∀ charge : Charge, body.Restores charge) :
    (inScope inner body).Minds
      (fun _ after => after.isPlain = false ∧ after.uses = charge.uses) charge := by
  rw [inScope, Routine.bind_eq, note_minds, Routine.bind_eq, Routine.minds_bind,
    Routine.minds_attempt]
  refine (restores _).mono fun outcome after uses => ?_
  rw [Routine.ends_ok, Routine.bind_eq, note_minds, Routine.minds_ofExcept]
  exact ⟨rfl, uses⟩

/-- A transaction begins with the change to manual commit, and returns only after its
round is whole. -/
theorem Pool.transaction_minds {number : Nat} {body : Handle → Routine journal α}
    (unmarked : charge.isPlain = false)
    (restores : ∀ inner (charge : Charge), (body inner).Restores charge) :
    (transaction number fun inner =>
      Client.inScope inner (body inner)).Restores charge := by
  refine withConnection_restores fun connection _ => ?_
  rw [Routine.bind_eq, Routine.minds_bind]
  refine Connection.control_minds rfl (fun _ => rfl) unmarked (Function.update_self _ _ _)
    fun answer began unmarked uses => ?_
  rw [Charge.take, Function.update_idem, List.nil_append] at uses
  cases answer with
  | error fault => exact ⟨_, uses, nofun, by simp [unmarked]⟩
  | ok =>
      rw [Routine.ends_ok, Routine.bind_eq, Routine.minds_bind]
      refine fun world _ => ⟨began, .other rfl rfl, ?_⟩
      rw [Routine.minds_done, Routine.ends_ok, Routine.bind_eq, Routine.minds_bind,
        Routine.minds_attempt]
      refine (Client.inScope_minds (restores _)).mono ?_
      rintro outcome middle ⟨unmarked, same⟩
      rw [Routine.ends_ok, Routine.bind_eq, Routine.minds_bind]
      refine fun world _ => ⟨middle, .other rfl rfl, ?_⟩
      have used : middle.uses connection =
          some [⟨.autocommit connection false, .ok ()⟩] := by
        rw [same, uses, Function.update_self]
      refine (Connection.conclude_minds unmarked used).mono ?_
      rintro outcome after ⟨unmarked, later, last, whole⟩
      refine ⟨later, ?_, fun returned => ?_, by simp [unmarked]⟩
      · rw [last, same, uses, Function.update_idem]
      · rw [whole returned]
        exact .next .none

theorem Handle.guestTransaction_restores {number : Nat} {dedicated : Bool}
    {body : Handle → Routine journal α}
    (restores : ∀ inner (charge : Charge), (body inner).Restores charge) :
    (guestTransaction number dedicated fun inner =>
      Client.inScope inner (body inner)).Restores charge := by
  intro answer
  cases answer with
  | error fault => rfl
  | ok =>
      refine fun world _ => ⟨charge, .other rfl rfl, ?_⟩
      change (((Client.inScope _ (body _)).attempt).bind _).Minds _ charge
      rw [Routine.minds_bind, Routine.minds_attempt]
      refine (Client.inScope_minds (restores _)).mono ?_
      rintro outcome after ⟨_, uses⟩
      cases outcome with
      | ok value =>
          intro answer
          cases answer <;> exact uses
      | error fault =>
          intro answer
          cases answer <;> exact uses

/-! ## Clients -/

theorem Handle.perform_restores {demand : Demand} (marked : charge.demand = some demand) :
    (demand.handle.perform demand.verb demand.sql demand.bindings :
      Routine journal demand.verb.Answer).Restores charge := by
  obtain ⟨handle, verb, sql, bindings⟩ := demand
  cases handle with
  | pool number => exact Pool.perform_restores
  | scope number =>
      have unmarked : charge.isPlain = false := by
        rw [Charge.isPlain, marked]
        rfl
      refine fun world _ => ⟨charge, .other rfl rfl, ?_⟩
      change Routine.Restores charge (if _ then _ else _)
      split
      · exact Connection.perform_restores (by simp [unmarked])
      · exact rfl
  | guest number dedicated => exact fun _ => Routine.minds_ofExcept.mpr rfl

/-- Every client minds its connections, and uses at the end what it used before. -/
theorem Client.restores (client : Client α) (charge : Charge) :
    client.routine.Restores charge := by
  induction client generalizing charge with
  | done value => exact rfl
  | fail fault => exact rfl
  | bind first second firstRestores secondRestores =>
      refine Routine.minds_bind.mpr ((firstRestores charge).mono ?_)
      intro outcome middle uses
      cases outcome with
      | error fault => exact uses
      | ok value =>
          rw [Routine.ends_ok, ← uses]
          exact secondRestores value middle
  | attempt client restores => exact Routine.minds_attempt.mpr (restores charge)
  | perform demand =>
      rw [routine, Routine.bind_eq, note_restores]
      exact Handle.perform_restores rfl
  | transaction handle body restores =>
      rw [routine, Routine.bind_eq, note_restores]
      cases handle with
      | pool number =>
          rw [Handle.transaction]
          exact Pool.transaction_minds rfl restores
      | scope number => exact rfl
      | guest number dedicated =>
          rw [Handle.transaction]
          exact Handle.guestTransaction_restores restores
  | close handle =>
      rw [routine, Routine.bind_eq, note_restores]
      cases handle with
      | pool number => exact Pool.close_restores rfl
      | scope number => exact rfl
      | guest number dedicated => exact fun _ => Routine.minds_ofExcept.mpr rfl

end Midrange
