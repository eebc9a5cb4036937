import Midrange.Proofs.Tending
import Midrange.Proofs.Traffic

/-!
# Spoilt connections

A verb of a pool that raises spoils its connection.  The next call of its task is then
the close of that connection, and before it the task puts the connection back to no pool.
`Routine.Discards` holds of a routine that treats its spoilt connections so, whatever the
calls are answered; every client does.
-/

namespace Midrange

/-! ## Verbs that raise -/

/-- Bindings that count as something and cannot be listed. -/
def Value.isUnpassable (bindings : Value) : Bool :=
  bindings.isTrue && bindings.items?.isNone

/-- Holds where a verb raises: its call raised, or its statement is prepared and the
bindings cannot be passed to it. -/
def Exchange.raises (bindings : Value) : Exchange → Bool
  | ⟨.autocommit .., _⟩ | ⟨.commit _, _⟩ | ⟨.rollback _, _⟩ | ⟨.close _, _⟩ => false
  | ⟨.prepare .., .ok _⟩ => bindings.isUnpassable
  | ⟨_, answer⟩ => !answer.isOk

theorem Exchange.isControl_of_raises {bindings : Value} {said : Exchange}
    (raises : said.raises bindings = true) : said.isControl = false := by
  obtain ⟨call, answer⟩ := said
  cases call <;> first | rfl | cases raises

/-- Only the last exchange can raise, and a verb that returns has none that does. -/
def Halts (bindings : Value) (returned : Bool) : List Exchange → Prop
  | [] => True
  | said :: later =>
      if said.raises bindings then later = [] ∧ returned = false
      else Halts bindings returned later

section Verbs

variable {connection : Connection} {sql : String} {bindings : Value} {returned : Bool}
  {earlier later said : List Exchange}

theorem Halts.of_raises {raised : Exchange}
    (halts : Halts bindings returned (earlier ++ raised :: later))
    (raises : raised.raises bindings = true) : later = [] ∧ returned = false := by
  induction earlier with
  | nil => simpa [Halts, raises] using halts
  | cons first earlier induction =>
      rw [List.cons_append, Halts] at halts
      split at halts
      · simp at halts
      · exact induction halts

theorem Halts.append (quiet : ∀ other ∈ earlier, other.raises bindings = false)
    (halts : Halts bindings returned later) :
    Halts bindings returned (earlier ++ later) := by
  induction earlier with
  | nil => exact halts
  | cons first earlier induction =>
      obtain ⟨here, others⟩ := List.forall_mem_cons.mp quiet
      simpa [Halts, here] using induction others

theorem Executes.raises {statement : Statement} (passable : bindings.isUnpassable = false)
    (executes : Executes connection sql bindings (some statement) said) :
    ∀ other ∈ said, other.raises bindings = false := by
  cases executes
  simp [Exchange.raises, passable, Except.isOk, Except.toBool]

theorem Executes.halts (passable : bindings.isUnpassable = false)
    (executes : Executes connection sql bindings none said) :
    Halts bindings false said := by
  cases executes <;> simp [Halts, Exchange.raises, passable]

theorem Fetches.halts {statement : Statement} (fetches : Fetches statement returned said) :
    Halts bindings returned said := by
  induction fetches with
  | enough => trivial
  | last | failed => simp [Halts, Exchange.raises, Except.isOk, Except.toBool]
  | next row _ induction => simpa [Halts, Exchange.raises, Except.isOk, Except.toBool]

theorem VerbCalls.halts {verb : Verb} (passable : bindings.isUnpassable = false)
    (calls : VerbCalls connection sql bindings verb returned said) :
    Halts bindings returned said := by
  cases calls with
  | stopped executes => exact executes.halts passable
  | query executes fetches => exact fetches.halts.append (executes.raises passable)
  | update answer executes =>
      refine .append (executes.raises passable) ?_
      simp [Halts, Exchange.raises]
  | unidentified fault executes =>
      refine .append (executes.raises passable) ?_
      simp [Halts, Exchange.raises]
  | insert identity answer executes =>
      refine .append (executes.raises passable) ?_
      simp [Halts, Exchange.raises, Except.isOk, Except.toBool]
  | execute executes =>
      rw [← List.append_nil said]
      exact .append (executes.raises passable) trivial

end Verbs

namespace Connection

variable {caller : Caller} {connection : Connection} {timeout : Option Int}
  {sql : String} {bindings : Value} {made : Made} {past : List Exchange}

/-- A statement with bindings that cannot be passed is prepared at most. -/
theorem run_speaks_of_unpassable (unpassable : bindings.isUnpassable = true)
    {post : Made → List Exchange → Except Fault Statement → Prop}
    (fails : ∀ made said fault, post made (past ++ [said]) (.error fault)) :
    (connection.run timeout sql bindings : Routine caller Statement).Speaks
      connection post made past := by
  simp only [Value.isUnpassable, Bool.and_eq_true, Option.isNone_iff_eq_none] at unpassable
  obtain ⟨counts, items⟩ := unpassable
  rw [run, Routine.bind_eq, Routine.speaks_bind, Routine.speaks_drive]
  refine ⟨rfl, rfl, fun answer => ?_⟩
  cases answer with
  | error fault => exact fails _ _ fault
  | ok statement => simpa [counts, items] using fails _ _ _

theorem perform_halts {verb : Verb} :
    (connection.perform timeout sql bindings verb : Routine caller verb.Answer).Speaks
      connection (fun _ past outcome => Halts bindings outcome.isOk past) made [] := by
  cases unpassable : bindings.isUnpassable with
  | false => exact perform_speaks fun _ _ _ calls => calls.halts unpassable
  | true =>
      cases verb <;>
        exact Routine.speaks_bind.mpr (run_speaks_of_unpassable unpassable fun _ _ _ => by
          simp [Halts, Except.isOk, Except.toBool])

end Connection

/-! ## Routines that discard -/

namespace Observed

/-- Holds where a verb raises. -/
def raises (observed : Observed) : Bool :=
  observed.demand.any fun demand => observed.said.raises demand.bindings

/-- The connection that a verb of a pool spoils with a call. -/
def spoilt? (observed : Observed) : Option Connection :=
  if observed.isPlain && observed.raises then observed.connection? else none

theorem spoilt?_eq_some {observed : Observed} {connection : Connection} :
    observed.spoilt? = some connection ↔ observed.isPlain = true ∧
      observed.raises = true ∧ observed.connection? = some connection := by
  simp [spoilt?, and_assoc]

end Observed

/-- What a task has to discard: the connection that it has spoilt and not closed yet;
and what its calls are marked with. -/
structure Spoil where
  spoilt : Option Connection := none
  demand : Option Demand := none
  made : Made := none

namespace Spoil

def isPlain (spoil : Spoil) : Bool :=
  spoil.demand.any Demand.isPlain

def hear (said : Exchange) (spoil : Spoil) : Spoil :=
  { spoil with
    spoilt :=
      if said.call.isClose then none
      else (Observed.spoilt? ⟨spoil.demand, spoil.made, said⟩).or spoil.spoilt
    made := said.call.madeAfter spoil.made said.answer }

def write (entry : Note) (spoil : Spoil) : Spoil :=
  { spoil with demand := Fleet.demandOf entry }

/-- The change of the shared state puts no spoilt connection back. -/
def Allows (spoil : Spoil) (before after : World) : Prop :=
  ∀ connection, spoil.spoilt = some connection →
    ∀ number, connection ∈ Fleet.idle number after → connection ∈ Fleet.idle number before

/-- With a spoilt connection, the call is its close. -/
def Permits (spoil : Spoil) (request : DriverCall) : Prop :=
  ∀ connection, spoil.spoilt = some connection → request = .close connection

variable {spoil : Spoil}

theorem allows_of_fresh (fresh : spoil.spoilt = none) (before after : World) :
    spoil.Allows before after := by
  simp [Allows, fresh]

theorem permits_of_fresh (fresh : spoil.spoilt = none) (request : DriverCall) :
    spoil.Permits request := by
  simp [Permits, fresh]

/-- Only a verb of a pool spoils its connection. -/
theorem hear_of_unmarked (unmarked : spoil.isPlain = false) (fresh : spoil.spoilt = none)
    (said : Exchange) : (spoil.hear said).spoilt = none := by
  have plain : Observed.isPlain ⟨spoil.demand, spoil.made, said⟩ = false := unmarked
  simp [hear, Observed.spoilt?, plain, fresh]

/-- A call that is at no connection spoils none. -/
theorem hear_of_apart (said : Exchange) (fresh : spoil.spoilt = none)
    (apart : said.call.connection? spoil.made = none) : (spoil.hear said).spoilt = none := by
  simp [hear, Observed.spoilt?, Observed.connection?, apart, fresh]

/-- A verb of a pool that raises spoils its connection. -/
theorem hear_of_spoils {said : Exchange} {connection : Connection}
    (spoils : Observed.spoilt? ⟨spoil.demand, spoil.made, said⟩ = some connection) :
    (spoil.hear said).spoilt = some connection := by
  have notClose : said.call.isClose = false := by
    obtain ⟨_, raises, _⟩ := Observed.spoilt?_eq_some.mp spoils
    obtain ⟨demand, _, raises⟩ := (Option.any_eq_true _ _).mp raises
    obtain ⟨call, answer⟩ := said
    cases call <;> first | rfl | cases raises
  simp [hear, notClose, spoils]

end Spoil

namespace Routine

variable {α β : Type}

/-- Closes what it spoils before it makes another call, and puts it back to no pool,
whatever the other tasks do in between.  The condition relates the outcome and what is
left to discard at the end. -/
def Discards (post : Except Fault α → Spoil → Prop) : Spoil → Routine journal α → Prop
  | spoil, .done value => post (.ok value) spoil
  | spoil, .fail fault => post (.error fault) spoil
  | spoil, .step update next =>
      ∀ world, spoil.Allows world (update world) ∧ Discards post spoil (next world)
  | spoil, .emit _ next => Discards post spoil next
  | spoil, .call (.driver request) next =>
      spoil.Permits request ∧
        ∀ answer, Discards post (spoil.hear ⟨request, answer⟩) (next answer)
  | spoil, .call _ next => ∀ answer, Discards post spoil (next answer)
  | spoil, .aside entry next => Discards post (spoil.write entry) (next ())

variable {post : Except Fault α → Spoil → Prop} {spoil : Spoil}

@[simp] theorem discards_done {value : α} :
    (done value : Routine journal α).Discards post spoil ↔ post (.ok value) spoil := by
  simp [Discards]

@[simp] theorem discards_fail {fault : Fault} :
    (fail fault : Routine journal α).Discards post spoil ↔ post (.error fault) spoil := by
  simp [Discards]

@[simp] theorem discards_ofExcept {outcome : Except Fault α} :
    (ofExcept outcome : Routine journal α).Discards post spoil ↔ post outcome spoil := by
  cases outcome <;> simp [ofExcept]

/-- A second routine has to discard what the first one left. -/
theorem discards_bind {first : Routine journal β} {second : β → Routine journal α} :
    (first.bind second).Discards post spoil ↔
      first.Discards (fun outcome after =>
        Ends (fun value => (second value).Discards post after)
          (fun fault => post (.error fault) after) outcome) spoil := by
  induction first generalizing spoil with
  | done | fail => simp [Routine.bind]
  | step update next induction => simp only [Routine.bind, Discards, induction]
  | emit event next induction => simp only [Routine.bind, Discards, induction]
  | call request next induction =>
      cases request <;> simp only [Routine.bind, Discards, induction]
  | aside entry next induction => simp only [Routine.bind, Discards, induction]

theorem discards_attempt {routine : Routine journal β}
    {post : Except Fault (Except Fault β) → Spoil → Prop} :
    routine.attempt.Discards post spoil ↔
      routine.Discards (fun outcome after => post (.ok outcome) after) spoil := by
  induction routine generalizing spoil with
  | done | fail => simp [attempt]
  | step update next induction => simp only [attempt, Discards, induction]
  | emit event next induction => simp only [attempt, Discards, induction]
  | call request next induction =>
      cases request <;> simp only [attempt, Discards, induction]
  | aside entry next induction => simp only [attempt, Discards, induction]

theorem discards_drive {request : DriverCall}
    {post : Except Fault request.Answer → Spoil → Prop} :
    (drive request : Routine journal request.Answer).Discards post spoil ↔
      spoil.Permits request ∧ ∀ answer, post answer (spoil.hear ⟨request, answer⟩) := by
  simp only [drive, perform, Discards, discards_ofExcept]

theorem Discards.mono {routine : Routine journal α}
    {weaker : Except Fault α → Spoil → Prop} (discards : routine.Discards post spoil)
    (implies : ∀ outcome after, post outcome after → weaker outcome after) :
    routine.Discards weaker spoil := by
  induction routine generalizing spoil with
  | done value => exact implies _ _ discards
  | fail fault => exact implies _ _ discards
  | step update next induction =>
      exact fun world => ⟨(discards world).1, induction world (discards world).2⟩
  | emit event next induction => exact induction discards
  | call request next induction =>
      cases request with
      | driver => exact ⟨discards.1, fun answer => induction answer (discards.2 answer)⟩
      | makeGuest | guest => exact fun answer => induction answer (discards answer)
  | aside entry next induction => exact induction () discards

/-- Away from the verbs of pools nothing is spoilt. -/
theorem Tends.discards {routine : Routine journal α} (tends : routine.Tends)
    (unmarked : spoil.isPlain = false) (fresh : spoil.spoilt = none) :
    routine.Discards (fun _ after => after.isPlain = false ∧ after.spoilt = none) spoil := by
  induction routine generalizing spoil with
  | done | fail => exact ⟨unmarked, fresh⟩
  | step update next induction =>
      exact fun world => ⟨spoil.allows_of_fresh fresh _ _,
        induction world (tends world).2 unmarked fresh⟩
  | emit event next induction => exact induction tends unmarked fresh
  | call request next induction =>
      cases request with
      | driver request =>
          exact ⟨spoil.permits_of_fresh fresh _, fun answer =>
            induction answer (tends.2 answer) unmarked
              (Spoil.hear_of_unmarked unmarked fresh _)⟩
      | makeGuest | guest =>
          exact fun answer => induction answer (tends.2 answer) unmarked fresh
  | aside => exact tends.elim

section Speaks

variable {connection : Connection} {demand : Demand} {made : Made}
  {past : List Exchange} {spoken : Made → List Exchange → Except Fault α → Prop}

/-- A verb makes no call after it raised. -/
theorem Speaks.fails {routine : Routine journal α} {bindings : Value} {raised : Exchange}
    (speaks : routine.Speaks connection spoken made (past ++ [raised]))
    (halts : ∀ made past outcome, spoken made past outcome →
      Halts bindings outcome.isOk past)
    (raises : raised.raises bindings = true) : ∃ fault, routine = .fail fault := by
  cases routine with
  | done value =>
      have returned := ((halts _ _ _ speaks).of_raises raises).2
      cases returned
  | fail fault => exact ⟨fault, rfl⟩
  | step | emit | aside => exact speaks.elim
  | call request next =>
      cases request with
      | makeGuest | guest => exact speaks.elim
      | driver asked =>
          obtain ⟨_, rest, outcome, ended⟩ :=
            (speaks.2.2 (.error (.outside .runtime ""))).ends
          simp only [List.append_assoc, List.cons_append, List.nil_append] at ended
          have last := ((halts _ _ _ ended).of_raises raises).1
          simp at last

/-- A verb that spoils its connection raises. -/
theorem Speaks.discards {routine : Routine journal α}
    (speaks : routine.Speaks connection spoken made past)
    (halts : ∀ made past outcome, spoken made past outcome →
      Halts demand.bindings outcome.isOk past)
    (marked : spoil.demand = some demand) (same : spoil.made = made)
    (fresh : spoil.spoilt = none) :
    routine.Discards (fun outcome after => after.spoilt = none ∨
      outcome.isOk = false ∧ after.spoilt = some connection) spoil := by
  induction routine generalizing spoil made past with
  | done | fail => exact .inl fresh
  | step | emit | aside => exact speaks.elim
  | call request next induction =>
      cases request with
      | makeGuest | guest => exact speaks.elim
      | driver asked =>
          obtain ⟨owned, notClose, rest⟩ := speaks
          refine ⟨spoil.permits_of_fresh fresh _, fun answer => ?_⟩
          have heard : (spoil.hear ⟨asked, answer⟩).spoilt =
              Observed.spoilt? ⟨spoil.demand, spoil.made, ⟨asked, answer⟩⟩ := by
            simp [Spoil.hear, notClose, fresh]
          have rest := rest answer
          by_cases raises : Exchange.raises demand.bindings ⟨asked, answer⟩ = true
          · obtain ⟨fault, failed⟩ := rest.fails halts raises
            rw [failed, discards_fail, heard, Observed.spoilt?]
            split
            · exact .inr ⟨rfl, same ▸ owned⟩
            · exact .inl rfl
          · refine induction answer rest marked (by rw [← same]; rfl) ?_
            rw [heard, Observed.spoilt?, Observed.raises, marked]
            simp [raises]

end Speaks

end Routine

/-! ## Uses of a connection -/

variable {α : Type} {spoil : Spoil} {connection : Connection} {number : Nat}

/-- Closes all that it spoils before its end. -/
def Routine.Clears (spoil : Spoil) (routine : Routine journal α) : Prop :=
  routine.Discards (fun _ after => after.spoilt = none) spoil

/-- Whatever was spoilt, it is closed. -/
theorem Connection.closeQuietly_discards (permits : spoil.Permits (.close connection)) :
    (connection.closeQuietly : Routine journal Unit).Clears spoil := by
  rw [Routine.Clears, closeQuietly, tolerate, Routine.bind_eq, Routine.discards_bind,
    Routine.discards_attempt]
  refine Routine.discards_drive.mpr ⟨permits, fun answer => ?_⟩
  have closed : (spoil.hear ⟨.close connection, answer⟩).spoilt = none := rfl
  cases answer with
  | ok => exact closed
  | error fault =>
      rw [Routine.ends_ok]
      by_cases ordinary : fault.isOrdinary = true
      · simpa [ordinary, Routine.report, Routine.Discards] using closed
      · simpa [ordinary] using closed

namespace Pool

theorem checkout_discards (fresh : spoil.spoilt = none) :
    (checkout number : Routine journal Connection).Discards
      (fun _ after => after.spoilt = none ∧ after.demand = spoil.demand) spoil := by
  have opens : (openConnection number : Routine journal Connection).Discards
      (fun _ after => after.spoilt = none ∧ after.demand = spoil.demand) spoil := by
    refine ⟨Spoil.permits_of_fresh fresh _, fun located => ?_⟩
    have fresh := Spoil.hear_of_apart ⟨.locate, located⟩ fresh rfl
    match located with
    | .error fault => exact ⟨fresh, rfl⟩
    | .ok false => exact ⟨fresh, rfl⟩
    | .ok true =>
        refine fun world => ⟨Spoil.allows_of_fresh fresh _ _,
          Spoil.permits_of_fresh fresh _, fun answer => ?_⟩
        have fresh := Spoil.hear_of_apart ⟨.connect _, answer⟩ fresh rfl
        cases answer with
        | error fault => exact ⟨fresh, rfl⟩
        | ok => exact fun world => ⟨Spoil.allows_of_fresh fresh _ _, fresh, rfl⟩
  rw [checkout, Routine.bind_eq, Routine.discards_bind]
  refine fun world => ⟨Spoil.allows_of_fresh fresh _ _, ?_⟩
  rw [Routine.discards_done, Routine.ends_ok]
  cases (takeIdle number world).1 with
  | closed | idle => exact ⟨fresh, rfl⟩
  | none => exact opens

theorem checkin_discards (fresh : spoil.spoilt = none) :
    (checkin number connection : Routine journal Unit).Clears spoil := by
  rw [Routine.Clears, checkin, Routine.bind_eq, Routine.discards_bind]
  refine fun world => ⟨Spoil.allows_of_fresh fresh _ _, ?_⟩
  rw [Routine.discards_done, Routine.ends_ok]
  cases (putIdle number connection world).1 with
  | true => exact fresh
  | false => exact connection.closeQuietly_discards (Spoil.permits_of_fresh fresh _)

/-- A use that returns has spoilt nothing, and what one that fails has spoilt is the
connection that is closed then. -/
theorem withConnection_discards {use : Connection → Routine journal α}
    (fresh : spoil.spoilt = none)
    (discards : ∀ connection (begun : Spoil), begun.spoilt = none →
      begun.demand = spoil.demand →
      (use connection).Discards (fun outcome after => after.spoilt = none ∨
        outcome.isOk = false ∧ after.spoilt = some connection) begun) :
    (withConnection number use).Clears spoil := by
  rw [Routine.Clears, withConnection, Routine.bind_eq, Routine.discards_bind]
  refine (checkout_discards fresh).mono fun outcome begun ⟨fresh, same⟩ => ?_
  cases outcome with
  | error fault => exact fresh
  | ok connection =>
      rw [Routine.ends_ok, Routine.bind_eq, Routine.discards_bind, Routine.discards_attempt]
      refine (discards connection begun fresh same).mono fun outcome after spoilt => ?_
      cases outcome with
      | ok value =>
          have fresh : after.spoilt = none := by simpa [Except.isOk, Except.toBool] using spoilt
          refine Routine.discards_bind.mpr ((checkin_discards fresh).mono ?_)
          intro outcome last fresh
          cases outcome <;> exact fresh
      | error fault =>
          have permits : after.Permits (.close connection) := by
            intro other there
            rcases spoilt with none | ⟨_, here⟩
            · simp [none] at there
            · simp_all
          refine Routine.discards_bind.mpr
            ((connection.closeQuietly_discards permits).mono ?_)
          intro outcome last fresh
          cases outcome <;> exact fresh

theorem close_discards (unmarked : spoil.isPlain = false) (fresh : spoil.spoilt = none) :
    (close number : Routine journal Unit).Clears spoil := by
  rw [Routine.Clears, close, Routine.bind_eq, Routine.discards_bind]
  refine fun world => ⟨Spoil.allows_of_fresh fresh _ _, ?_⟩
  have tends : ((shut number world).1.forM Connection.closeQuietly :
      Routine journal PUnit).Tends := .forM fun connection => connection.closeQuietly_tends
  exact (tends.discards unmarked fresh).mono fun _ _ last => last.2

end Pool

/-! ## Clients -/

theorem Client.note_discards {entry : Note} {rest : Routine journal α}
    {post : Except Fault α → Spoil → Prop} :
    ((note entry).bind fun _ => rest).Discards post spoil ↔
      rest.Discards post (spoil.write entry) := Iff.rfl

theorem Client.inScope_discards {inner : Handle} {body : Routine journal α}
    (discards : ∀ spoil : Spoil, spoil.spoilt = none → body.Clears spoil)
    (fresh : spoil.spoilt = none) :
    (inScope inner body).Discards
      (fun _ after => after.isPlain = false ∧ after.spoilt = none) spoil := by
  rw [inScope, Routine.bind_eq, note_discards, Routine.bind_eq, Routine.discards_bind,
    Routine.discards_attempt]
  have entered : (spoil.write (.entered inner)).spoilt = none := fresh
  refine (discards _ entered).mono fun outcome after fresh => ?_
  rw [Routine.ends_ok, Routine.bind_eq, note_discards, Routine.discards_ofExcept]
  exact ⟨rfl, fresh⟩

theorem Pool.transaction_discards {body : Handle → Routine journal α}
    (discards : ∀ inner (spoil : Spoil), spoil.spoilt = none →
      (body inner).Clears spoil)
    (unmarked : spoil.isPlain = false) (fresh : spoil.spoilt = none) :
    (transaction number fun inner => Client.inScope inner (body inner)).Clears spoil := by
  refine withConnection_discards fresh fun connection begun fresh same => ?_
  have unmarked : begun.isPlain = false := by rwa [Spoil.isPlain, same]
  have begins : (connection.begin : Routine journal Unit).Tends := .drive _
  rw [Routine.bind_eq, Routine.discards_bind]
  refine (begins.discards unmarked fresh).mono fun outcome after ⟨_, fresh⟩ => ?_
  cases outcome with
  | error fault => exact .inl fresh
  | ok =>
      rw [Routine.ends_ok, Routine.bind_eq, Routine.discards_bind]
      refine fun world => ⟨Spoil.allows_of_fresh fresh _ _, ?_⟩
      rw [Routine.discards_done, Routine.ends_ok, Routine.bind_eq, Routine.discards_bind,
        Routine.discards_attempt]
      refine (Client.inScope_discards (discards _) fresh).mono ?_
      rintro outcome left ⟨unmarked, fresh⟩
      rw [Routine.ends_ok, Routine.bind_eq, Routine.discards_bind]
      refine fun world => ⟨Spoil.allows_of_fresh fresh _ _, ?_⟩
      have tends : (connection.conclude outcome : Routine journal α).Tends := by
        cases outcome with
        | ok value => exact .bind connection.commit_tends fun _ => trivial
        | error fault => exact .bind connection.rollbackQuietly_tends fun _ => trivial
      exact (tends.discards unmarked fresh).mono fun _ _ last => .inl last.2

theorem Handle.guestTransaction_discards {dedicated : Bool}
    {body : Handle → Routine journal α}
    (discards : ∀ inner (spoil : Spoil), spoil.spoilt = none →
      (body inner).Clears spoil)
    (fresh : spoil.spoilt = none) :
    (guestTransaction number dedicated fun inner =>
      Client.inScope inner (body inner)).Clears spoil := by
  intro answer
  cases answer with
  | error fault => exact fresh
  | ok =>
      refine fun world => ⟨Spoil.allows_of_fresh fresh _ _, ?_⟩
      change (((Client.inScope _ (body _)).attempt).bind _).Discards _ spoil
      rw [Routine.discards_bind, Routine.discards_attempt]
      refine (Client.inScope_discards (discards _) fresh).mono ?_
      rintro outcome after ⟨_, fresh⟩
      cases outcome with
      | ok value =>
          intro answer
          cases answer <;> exact fresh
      | error fault =>
          intro answer
          cases answer <;> exact fresh

theorem Handle.perform_discards {demand : Demand} (marked : spoil.demand = some demand)
    (fresh : spoil.spoilt = none) :
    (demand.handle.perform demand.verb demand.sql demand.bindings :
      Routine journal demand.verb.Answer).Clears spoil := by
  cases plain : demand.isPlain with
  | false =>
      have unmarked : spoil.isPlain = false := by simpa [Spoil.isPlain, marked] using plain
      have tends : (demand.handle.perform demand.verb demand.sql demand.bindings :
        Routine journal demand.verb.Answer).Tends := Handle.perform_tends _ _ _ _
      exact (tends.discards unmarked fresh).mono fun _ _ last => last.2
  | true =>
      obtain ⟨handle, verb, sql, bindings⟩ := demand
      cases handle with
      | scope | guest => cases plain
      | pool number =>
          refine Pool.withConnection_discards fresh fun connection begun fresh same => ?_
          rw [Routine.bind_eq, Routine.discards_bind]
          refine fun world => ⟨Spoil.allows_of_fresh fresh _ _, ?_⟩
          rw [Routine.discards_done, Routine.ends_ok]
          exact Connection.perform_halts.discards (fun _ _ _ halts => halts)
            (same.trans marked) rfl fresh

/-- Every client discards what it spoils. -/
theorem Client.discards (client : Client α) (fresh : spoil.spoilt = none) :
    client.routine.Clears spoil := by
  induction client generalizing spoil with
  | done value => exact fresh
  | fail fault => exact fresh
  | bind first second firstDiscards secondDiscards =>
      refine Routine.discards_bind.mpr ((firstDiscards fresh).mono ?_)
      intro outcome middle fresh
      cases outcome with
      | error fault => exact fresh
      | ok value => exact secondDiscards value fresh
  | attempt client discards => exact Routine.discards_attempt.mpr (discards fresh)
  | perform demand =>
      have marked : (spoil.write (.verb demand)).spoilt = none := fresh
      rw [Routine.Clears, routine, Routine.bind_eq, note_discards]
      exact Handle.perform_discards rfl marked
  | transaction handle body discards =>
      have fresh : (spoil.write (.transaction handle)).spoilt = none := fresh
      rw [Routine.Clears, routine, Routine.bind_eq, note_discards]
      have body (inner : Handle) (spoil : Spoil) (fresh : spoil.spoilt = none) :
          (body inner).routine.Clears spoil :=
        discards inner fresh
      cases handle with
      | pool number =>
          rw [Handle.transaction]
          exact Pool.transaction_discards body rfl fresh
      | scope number => exact fresh
      | guest number dedicated =>
          rw [Handle.transaction]
          exact Handle.guestTransaction_discards body fresh
  | close handle =>
      have fresh : (spoil.write (.close handle)).spoilt = none := fresh
      rw [Routine.Clears, routine, Routine.bind_eq, note_discards]
      cases handle with
      | pool number => exact Pool.close_discards rfl fresh
      | scope number => exact fresh
      | guest number dedicated => exact fun _ => Routine.discards_ofExcept.mpr fresh

end Midrange
