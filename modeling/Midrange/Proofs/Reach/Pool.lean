import Midrange.Handle
import Midrange.Proofs.Reach

/-!
# Where the runs of a pool end

The operations of a pool ask nothing of their caller and leave the sessions as
they are, but for the body of a transaction.  What is said to the driver before
and after that body depends on what the body and the driver answer.
-/

namespace Midrange

variable {caller : Caller} {σ α : Type} {outside : Outside caller σ}
  {world : World} {state : σ}

namespace Connection

variable {connection : Connection}

theorem tolerate_reaches {event : String → Event} {routine : Routine caller Unit}
    {post : Except Fault Unit → World → σ → List (Entry caller) → Prop}
    (reaches : routine.Reaches outside (fun outcome final state trace =>
      ∀ reports, Unasked reports → exchanges reports = [] →
        post (tolerated outcome) final state (trace ++ reports)) world state) :
    (tolerate event routine).Reaches outside post world state := by
  rw [tolerate, Routine.bind_eq, Routine.reaches_bind, Routine.reaches_attempt]
  apply reaches.mono
  intro outcome final state trace holds
  have plain := holds [] unasked_nil rfl
  cases outcome with
  | ok => exact plain
  | error fault =>
      rw [Routine.ends_ok]
      by_cases ordinary : fault.isOrdinary = true
      · have reported := holds [.event (event fault.text)] (by simp) rfl
        simpa [tolerated, ordinary] using reported
      · simpa [tolerated, ordinary] using plain

theorem tolerate_follows {relation : World → World → List (Entry caller) → Prop}
    [Routine.Path relation] {event : String → Event} {routine : Routine caller Unit}
    (follows : routine.Follows relation) : (tolerate event routine).Follows relation := by
  apply Routine.Follows.bind follows.attempt
  rintro (fault | ⟨⟩)
  · by_cases ordinary : fault.isOrdinary = true
    · simp only [ordinary, if_true]
      exact .remarks (.report _)
    · simp only [ordinary]
      exact .remarks (.fail _)
  · exact .remarks (.done _)

theorem tolerated_error {answer : Except Fault Unit} {raised : Fault}
    (failed : tolerated answer = .error raised) :
    answer = .error raised ∧ raised.isOrdinary = false := by
  cases answer with
  | ok => cases failed
  | error fault =>
      by_cases ordinary : fault.isOrdinary = true
      · simp [tolerated, ordinary] at failed
      · simp only [tolerated, if_neg ordinary, Except.error.injEq] at failed
        subst failed
        exact ⟨rfl, Bool.eq_false_iff.mpr ordinary⟩

theorem closeQuietly_reaches
    {post : Except Fault Unit → World → σ → List (Entry caller) → Prop}
    (holds : ∀ answer state trace, Unasked trace →
      exchanges trace = [⟨.close connection, answer⟩] →
      post (tolerated answer) world state trace) :
    (connection.closeQuietly : Routine caller Unit).Reaches outside post world
      state := by
  refine tolerate_reaches (Routine.reaches_drive (.close connection) ?_)
  intro answer state reports unasked silent
  exact holds answer state _ (by simp [unasked]) (by simp [silent])

theorem conclude_reaches {returned : Except Fault α}
    {post : Except Fault α → World → σ → List (Entry caller) → Prop}
    (holds : ∀ answer restored state trace, Unasked trace →
      exchanges trace = [connection.ending returned.isOk answer,
        ⟨.autocommit connection true, restored⟩] →
      post (concluded returned answer restored) world state trace) :
    (connection.conclude returned).Reaches outside post world state := by
  cases returned with
  | ok value =>
      rw [conclude, Routine.bind_eq, Routine.reaches_bind]
      have speaks : (connection.commit : Routine caller Unit).Speaks connection
          (fun _ said outcome => ∃ answer restored,
            said = [⟨.commit connection, answer⟩,
              ⟨.autocommit connection true, restored⟩] ∧
            outcome = finished answer restored) none [] :=
        commit_speaks fun answer restored => ⟨answer, restored, rfl, rfl⟩
      apply speaks.reaches
      rintro _ _ state trace unasked ⟨answer, restored, said, rfl⟩
      have rest := holds answer restored state trace unasked said
      rw [concluded] at rest
      generalize finished answer restored = outcome at rest ⊢
      cases outcome with
      | ok => simpa [Except.map, Except.bind] using rest
      | error fault => exact rest
  | error fault =>
      rw [conclude, Routine.bind_eq, Routine.reaches_bind]
      have speaks : (connection.rollback : Routine caller Unit).Speaks connection
          (fun _ said outcome => ∃ answer restored,
            said = [⟨.rollback connection, answer⟩,
              ⟨.autocommit connection true, restored⟩] ∧
            outcome = finished answer restored) none [] :=
        rollback_speaks fun answer restored => ⟨answer, restored, rfl, rfl⟩
      refine tolerate_reaches (speaks.reaches ?_)
      rintro _ _ state trace unasked ⟨answer, restored, said, rfl⟩ reports quiet silent
      have said' : exchanges (trace ++ reports) =
          [connection.ending false answer,
            ⟨.autocommit connection true, restored⟩] := by
        rw [exchanges_append, silent, List.append_nil]
        exact said
      have rest := holds answer restored state (trace ++ reports)
        (by simp [unasked, quiet]) said'
      rw [concluded] at rest
      generalize tolerated (finished answer restored) = outcome at rest ⊢
      cases outcome with
      | ok => simpa [Except.map, Except.bind] using rest
      | error fault => exact rest

end Connection

namespace Pool

variable {pool : Nat}

/-- Nothing but looking for the driver and connecting. -/
def Opens (said : List Exchange) : Prop :=
  ∀ exchange ∈ said, exchange.call = .locate ∨
    ∃ target, exchange.call = .connect target

/-- Nothing but opening a connection, failing to begin a transaction on it, and
closing it. -/
def Refuses (said : List Exchange) : Prop :=
  ∀ exchange ∈ said, exchange.call = .locate ∨
    (∃ target, exchange.call = .connect target) ∨
    (∃ connection fault, exchange = ⟨.autocommit connection false, .error fault⟩) ∨
    ∃ connection, exchange.call = .close connection

theorem Opens.refuses {said : List Exchange} (opens : Opens said) : Refuses said := by
  intro exchange member
  rcases opens exchange member with locate | connect
  · exact .inl locate
  · exact .inr (.inl connect)

/-- How a connection leaves a pool: it was the first of the idle ones, or it is new. -/
inductive CheckedOut (pool : Nat) (world : World) : Connection → World → Prop where
  | idle {connection : Connection} {rest : List Connection} :
      (world.pools pool).idle = connection :: rest →
      CheckedOut pool world connection
        (world.changePool pool fun pool => { pool with idle := rest })
  | opened : CheckedOut pool world world.addConnection.1 world.addConnection.2

theorem CheckedOut.sessions {connection : Connection} {entered : World}
    (out : CheckedOut pool world connection entered) : entered.sessions = world.sessions := by
  cases out <;> rfl

/-- A checkout that fails leaves the shared state as it is. -/
theorem checkout_reaches
    {post : Except Fault Connection → World → σ → List (Entry caller) → Prop}
    (fails : ∀ fault state trace, Unasked trace → Opens (exchanges trace) →
      post (.error fault) world state trace)
    (opens : ∀ connection entered state trace, CheckedOut pool world connection entered →
      Unasked trace → Opens (exchanges trace) → post (.ok connection) entered state trace) :
    (checkout pool).Reaches outside post world state := by
  have anew (state : σ) : (openConnection pool : Routine caller Connection).Reaches
      outside post world state := by
    rw [openConnection, Routine.bind_eq, Routine.reaches_bind]
    apply Routine.reaches_drive .locate
    intro located state
    match located with
    | .error fault => exact fails _ state _ (by simp) (by simp [Opens])
    | .ok false =>
        rw [Routine.ends_ok, if_neg (by simp), Routine.refuse, Routine.reaches_fail]
        exact fails _ state _ (by simp) (by simp [Opens])
    | .ok true =>
        rw [Routine.ends_ok, if_pos rfl, Routine.bind_eq, Routine.reaches_bind,
          Routine.reaches_look, Routine.ends_ok, Routine.bind_eq, Routine.reaches_bind]
        apply Routine.reaches_drive (.connect _)
        intro answer state
        cases answer with
        | error fault => exact fails _ state _ (by simp) (by simp [Opens])
        | ok =>
            rw [Routine.ends_ok, Routine.reaches_atomic]
            exact opens _ _ state _ .opened (by simp) (by simp [Opens])
  rw [checkout, Routine.bind_eq, Routine.reaches_bind, Routine.reaches_atomic]
  by_cases closed : (world.pools pool).closed = true
  · simpa [takeIdle, closed, Routine.refuse] using
      fails Misuse.poolClosed.fault state [] (by simp) (by simp [Opens])
  · cases idle : (world.pools pool).idle with
    | nil => simpa [takeIdle, closed, idle] using anew state
    | cons connection rest =>
        simpa [takeIdle, closed, idle] using
          opens connection _ state [] (.idle idle) (by simp) (by simp [Opens])

/-- A fault that reports a misuse. -/
def IsMisuse (fault : Fault) : Prop :=
  ∃ misuse : Misuse, fault = misuse.fault

/-- A checkout stops at the first fault of the driver; of itself it only reports
misuses. -/
theorem checkout_relays : (checkout pool : Routine caller Connection).Relays IsMisuse := by
  have opens : (openConnection pool : Routine caller Connection).Relays IsMisuse := by
    apply Routine.Relays.bind (.drive .locate)
    intro located
    cases located with
    | false => exact ⟨.missingDriver, rfl⟩
    | true =>
        intro world
        apply Routine.Relays.bind (.drive _)
        intro connected world
        trivial
  rw [checkout, Routine.bind_eq]
  refine Routine.Relays.bind (fun world => trivial) fun offer => ?_
  cases offer with
  | closed => exact ⟨.poolClosed, rfl⟩
  | idle connection => trivial
  | none => exact opens

/-- The calls of giving a connection back. -/
def returning (connection : Connection) (answer : Option (Except Fault Unit)) :
    List Exchange :=
  answer.toList.map fun answer => ⟨.close connection, answer⟩

theorem returning_refuses (connection : Connection)
    (answer : Option (Except Fault Unit)) : Refuses (returning connection answer) := by
  intro exchange member
  obtain ⟨_, _, rfl⟩ := List.mem_map.mp member
  exact .inr (.inr (.inr ⟨connection, rfl⟩))

/-- Giving a connection back fails only if its close is cancelled. -/
theorem mem_faults_of_closed (connection : Connection) {closing : Option (Except Fault Unit)}
    {raised : Fault} (failed : Connection.closed closing = .error raised) :
    raised ∈ faults (returning connection closing) ∧ raised.isOrdinary = false := by
  cases closing with
  | none => cases failed
  | some answer =>
      obtain ⟨rfl, cancelled⟩ := Connection.tolerated_error failed
      exact ⟨List.mem_cons_self, cancelled⟩

/-- What becomes of a connection after its use: one that served well may be put among the
idle ones, any other is closed. -/
inductive GivenBack (pool : Nat) (connection : Connection) (left : World) (served : Bool) :
    Option (Except Fault Unit) → World → Prop where
  | put : served = true →
      GivenBack pool connection left served none
        (left.changePool pool fun pool => { pool with idle := connection :: pool.idle })
  | closed (answer : Except Fault Unit) :
      GivenBack pool connection left served (some answer) left

theorem GivenBack.sessions {connection : Connection} {left final : World} {served : Bool}
    {answer : Option (Except Fault Unit)}
    (back : GivenBack pool connection left served answer final) :
    final.sessions = left.sessions := by
  cases back <;> rfl

theorem checkin_reaches {connection : Connection}
    {post : Except Fault Unit → World → σ → List (Entry caller) → Prop}
    (holds : ∀ answer final state trace, GivenBack pool connection world true answer final →
      Unasked trace → exchanges trace = returning connection answer →
      post (Connection.closed answer) final state trace) :
    (checkin pool connection).Reaches outside post world state := by
  rw [checkin, Routine.bind_eq, Routine.reaches_bind, Routine.reaches_atomic]
  by_cases room : (world.pools pool).closed = false ∧
      ((world.pools pool).idle.length : Int) < (world.pools pool).maxIdle
  · simpa [putIdle, room, Connection.closed] using
      holds none _ state [] (.put rfl) (by simp) rfl
  · have full : putIdle pool connection world = (false, world) := by
      simp only [putIdle]
      rw [if_neg (by simpa using room)]
    rw [full]
    apply Connection.closeQuietly_reaches
    intro answer state trace unasked said
    exact holds (some answer) world state trace (.closed answer) unasked said

/-- What the failure of a use of a pool comes from, by the faults of the driver: the
first of them, a misuse, or one that cancels the cleanup. -/
inductive Origin (raised : List Fault) : Fault → Prop where
  | first {fault : Fault} : raised.head? = some fault → Origin raised fault
  | refused {fault : Fault} : raised = [] → IsMisuse fault → Origin raised fault
  | cancelled {fault : Fault} :
      fault ∈ raised → fault.isOrdinary = false → Origin raised fault

/-- A use of a connection, between the checkout and giving the connection back. -/
theorem withConnection_reaches {use : Connection → Routine caller α}
    {post : Except Fault α → World → σ → List (Entry caller) → Prop}
    (refuses : ∀ fault state trace, Unasked trace → Opens (exchanges trace) →
      Origin (faults (exchanges trace)) fault → post (.error fault) world state trace)
    (uses : ∀ connection entered state (opening : List (Entry caller)),
      CheckedOut pool world connection entered → Unasked opening →
      Opens (exchanges opening) → faults (exchanges opening) = [] →
      (use connection).Reaches outside (fun outcome left _ trace =>
        ∀ answer final state last, GivenBack pool connection left outcome.isOk answer final →
          Unasked last → exchanges last = returning connection answer →
          post ((Connection.closed answer).bind fun _ => outcome) final state
            (opening ++ (trace ++ last))) entered state) :
    (withConnection pool use).Reaches outside post world state := by
  have opens : (checkout pool).Reaches outside (fun outcome entered _ opening =>
      Unasked opening ∧ Opens (exchanges opening) ∧
        match outcome with
        | .error _ => entered = world
        | .ok connection => CheckedOut pool world connection entered) world state :=
    checkout_reaches (fun _ _ _ unasked opens => ⟨unasked, opens, rfl⟩)
      fun _ _ _ _ out unasked opens => ⟨unasked, opens, out⟩
  have relays : (checkout pool).Reaches outside (fun outcome _ _ opening =>
      Routine.Relayed IsMisuse outcome (faults (exchanges opening))) world state :=
    checkout_relays.reaches fun _ _ _ _ relayed => relayed
  rw [withConnection, Routine.bind_eq, Routine.reaches_bind]
  apply (relays.and opens).mono
  rintro outcome entered state opening ⟨relayed, unasked, opens, given⟩
  cases outcome with
  | error fault =>
      have kept : entered = world := given
      rw [kept]
      apply refuses fault state opening unasked opens
      generalize faults (exchanges opening) = raised at relayed
      cases relayed with
      | refused misuse => exact .refused rfl misuse
      | raised => exact .first rfl
  | ok connection =>
      have clean : faults (exchanges opening) = [] := by
        generalize faults (exchanges opening) = raised at relayed
        cases relayed
        rfl
      rw [Routine.ends_ok, Routine.bind_eq, Routine.reaches_bind, Routine.reaches_attempt]
      refine (uses connection entered state opening given unasked opens clean).mono ?_
      intro outcome left state trace holds
      cases outcome with
      | ok value =>
          simp only [Routine.ends_ok, Routine.bind_eq, Routine.reaches_bind]
          apply checkin_reaches
          intro answer final state last back unasked said
          have rest := holds answer final state last back unasked said
          generalize Connection.closed answer = closed at rest ⊢
          cases closed with
          | ok => simpa [Except.bind] using rest
          | error fault => exact rest
      | error fault =>
          simp only [Routine.ends_ok, Routine.bind_eq, Routine.reaches_bind]
          apply Connection.closeQuietly_reaches
          intro answer state last unasked said
          have rest := holds (some answer) left state last (.closed answer) unasked said
          rw [Connection.closed] at rest
          generalize Connection.tolerated answer = closed at rest ⊢
          cases closed with
          | ok => simpa [Except.bind] using rest
          | error fault => exact rest

/-- The calls that end a transaction and give its connection back. -/
def cleanup (connection : Connection) (returned : Bool)
    (answer restored : Except Fault Unit) (closing : Option (Except Fault Unit)) :
    List Exchange :=
  [connection.ending returned answer, ⟨.autocommit connection true, restored⟩] ++
    returning connection closing

/-- The outcome of a transaction whose work has ended. -/
def cleaned (returned : Except Fault α) (answer restored : Except Fault Unit)
    (closing : Option (Except Fault Unit)) : Except Fault α :=
  (Connection.closed closing).bind fun _ =>
    Connection.concluded returned answer restored

/-- Begins a scope on a connection of a pool. -/
def withScope (pool : Nat) (connection : Connection) (world : World) : World :=
  (world.addScope
    { connection, timeout := (world.pools pool).timeout, active := true }).2

/-- A transaction, whose body runs in a new scope on a connection on which automatic
commit was switched off, with what becomes of the connection. -/
theorem transaction_runs {body : Handle → Routine caller α}
    {post : Except Fault α → World → σ → List (Entry caller) → Prop}
    (refuses : ∀ fault state trace, Unasked trace → Refuses (exchanges trace) →
      Origin (faults (exchanges trace)) fault → post (.error fault) world state trace)
    (unbegun : ∀ connection entered fault state trace,
      CheckedOut pool world connection entered → Unasked trace →
      Refuses (exchanges trace) → Origin (faults (exchanges trace)) fault →
      post (.error fault) entered state trace)
    (runs : ∀ connection opened state before opening,
      CheckedOut pool world connection opened → Unasked before → Opens opening →
      exchanges before = opening ++ [⟨.autocommit connection false, .ok ()⟩] →
      (body (.scope opened.scopeCount)).Reaches outside (fun returned left _ inner =>
        ∀ answer restored closing final state after,
          GivenBack pool connection
            (left.changeScope opened.scopeCount fun scope => { scope with active := false })
            (Connection.concluded returned answer restored).isOk closing final →
          Unasked after →
          exchanges after = cleanup connection returned.isOk answer restored closing →
          post (cleaned returned answer restored closing) final state
            (before ++ inner ++ after)) (withScope pool connection opened) state) :
    (transaction pool body).Reaches outside post world state := by
  refine withConnection_reaches (fun fault state trace unasked opens =>
    refuses fault state trace unasked opens.refuses) ?_
  intro connection opened state opening out unasked opens clean
  rw [Routine.bind_eq, Routine.reaches_bind]
  apply Routine.reaches_drive (.autocommit connection false)
  intro begun state
  cases begun with
  | error fault =>
      intro answer final state last back unasked' said
      have kept : final = opened := by
        cases back with
        | put served => cases served
        | closed => rfl
      have failed : Refuses (exchanges (opening ++
          ([.call (.driver (.autocommit connection false)) (.error fault)] ++ last))) := by
        intro exchange member
        simp only [exchanges_append, exchanges_driver, exchanges_nil, said,
          List.mem_append, List.mem_singleton] at member
        rcases member with earlier | rfl | later
        · exact opens.refuses exchange earlier
        · exact .inr (.inr (.inl ⟨connection, fault, rfl⟩))
        · exact returning_refuses connection answer exchange later
      have said : faults (exchanges (opening ++
          ([.call (.driver (.autocommit connection false)) (.error fault)] ++ last))) =
          fault :: faults (returning connection answer) := by
        rw [exchanges_append, faults_append, clean, List.nil_append, List.singleton_append,
          exchanges_driver, said]
        rfl
      have refused (raised : Fault) := unbegun connection opened raised state _ out
        (by simp [unasked, unasked']) failed
      rw [said] at refused
      rw [kept]
      cases ended : Connection.closed answer with
      | ok => exact refused fault (.first rfl)
      | error raised =>
          obtain ⟨member, cancelled⟩ := mem_faults_of_closed connection ended
          exact refused raised (.cancelled (List.mem_cons_of_mem _ member) cancelled)
  | ok =>
      have began := runs connection opened state
        (opening ++ [.call (.driver (.autocommit connection false)) (.ok ())])
        (exchanges opening) out (by simp [unasked]) opens (by simp)
      simp only [Routine.ends_ok, Routine.bind_eq, Routine.reaches_bind,
        Routine.reaches_atomic, Routine.reaches_attempt, Routine.reaches_modify]
      apply began.mono
      intro returned left state inner holds
      apply Connection.conclude_reaches
      intro answer restored state after unasked' said closing final state last back
        unasked'' said'
      have rest := holds answer restored closing final state (after ++ last) back
        (by simp [unasked', unasked'']) (by simp [cleanup, said, said'])
      simpa [cleaned] using rest

/-- A transaction, whose body runs in a new scope on a connection on which automatic
commit was switched off. -/
theorem transaction_reaches {body : Handle → Routine caller α}
    {post : Except Fault α → World → σ → List (Entry caller) → Prop}
    (refuses : ∀ fault final state trace, final.sessions = world.sessions →
      Unasked trace → Refuses (exchanges trace) →
      Origin (faults (exchanges trace)) fault → post (.error fault) final state trace)
    (runs : ∀ connection scope entered state before opening,
      entered.sessions = world.sessions →
      (entered.scopes scope).active = true →
      (entered.scopes scope).connection = connection →
      Unasked before → Opens opening →
      exchanges before = opening ++ [⟨.autocommit connection false, .ok ()⟩] →
      (body (.scope scope)).Reaches outside (fun returned left _ inner =>
        ∀ answer restored closing final state after,
          final.sessions = left.sessions → Unasked after →
          exchanges after = cleanup connection returned.isOk answer restored closing →
          post (cleaned returned answer restored closing) final state
            (before ++ inner ++ after)) entered state) :
    (transaction pool body).Reaches outside post world state := by
  apply transaction_runs
  · intro fault state trace unasked refused origin
    exact refuses fault world state trace rfl unasked refused origin
  · intro connection entered fault state trace out unasked refused origin
    exact refuses fault entered state trace out.sessions unasked refused origin
  · intro connection opened state before opening out unasked opens began
    have entered : (withScope pool connection opened).sessions = world.sessions := out.sessions
    apply (runs connection opened.scopeCount (withScope pool connection opened) state before
      opening entered (by simp [withScope, World.addScope]) (by simp [withScope, World.addScope])
      unasked opens began).mono
    intro returned left _ inner holds answer restored closing final state after back
    exact holds answer restored closing final state after back.sessions

end Pool

/-- A transaction of any handle: the body runs once at most, and nothing around it
has to do with sessions. -/
theorem Handle.transaction_reaches {handle : Handle}
    {body : Handle → Routine caller α}
    {post : Except Fault α → World → σ → List (Entry caller) → Prop}
    (refuses : ∀ fault final state trace, final.sessions = world.sessions →
      Unasked trace → post (.error fault) final state trace)
    (runs : ∀ inner entered state before, entered.sessions = world.sessions →
      Unasked before →
      (body inner).Reaches outside (fun _ left _ said =>
        ∀ outcome final state after, final.sessions = left.sessions → Unasked after →
          post outcome final state (before ++ said ++ after)) entered state) :
    (handle.transaction body).Reaches outside post world state := by
  cases handle with
  | pool number =>
      refine Pool.transaction_reaches (fun fault final state trace same unasked _ _ =>
        refuses fault final state trace same unasked) ?_
      intro connection scope entered state before _ same _ _ unasked _ _
      refine (runs _ entered state before same unasked).mono ?_
      intro _ left _ said holds _ _ _ final state after same' unasked' _
      exact holds _ final state after same' unasked'
  | scope number => exact refuses _ world state [] rfl (by simp)
  | guest number dedicated =>
      rw [transaction, guestTransaction, Routine.bind_eq, Routine.reaches_bind]
      apply Routine.reaches_perform (.guest number dedicated .begin)
      intro begun state
      cases begun with
      | error fault => exact refuses fault world state _ rfl (by simp)
      | ok =>
          have began := runs (.guest world.guestCount true) world.addGuest.2 state
            [.call (.guest number dedicated .begin) (.ok ())] rfl (by simp)
          simp only [Routine.ends_ok, Routine.bind_eq, Routine.reaches_bind,
            Routine.reaches_atomic, Routine.reaches_attempt]
          apply began.mono
          intro returned left state inner holds
          cases returned with
          | ok value =>
              simp only [Routine.reaches_bind]
              apply Routine.reaches_perform (.guest number dedicated .commit)
              intro answer state
              have rest (outcome : Except Fault α) := holds outcome left state
                [.call (.guest number dedicated .commit) answer] rfl (by simp)
              cases answer with
              | ok => simpa using rest (.ok value)
              | error raised => simpa using rest (.error raised)
          | error fault =>
              simp only [Routine.reaches_bind]
              apply Routine.reaches_perform (.guest number dedicated .rollback)
              intro answer state
              have rest (outcome : Except Fault α) := holds outcome left state
                [.call (.guest number dedicated .rollback) answer] rfl (by simp)
              cases answer with
              | ok => simpa using rest (.error fault)
              | error raised => simpa using rest (.error raised)

end Midrange
