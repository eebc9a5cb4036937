import Midrange.Proofs.Reach.Pool
import Midrange.Session

/-!
# Where the runs of a session end

A command of a session makes one verb at most, on its current connection.  A
transaction changes its session when the scope is entered and when it is left, and
in between there is only the work.
-/

namespace Midrange

variable {caller : Caller} {σ α β : Type} {outside : Outside caller σ}
  {world : World} {state : σ}

/-! ## Routines that spare the sessions -/

/-- All sessions are as they were, and the caller was not asked for anything. -/
def Spared (world final : World) (trace : List (Entry caller)) : Prop :=
  final.sessions = world.sessions ∧ Unasked trace

instance : Routine.Path (@Spared caller) where
  quiet := fun _ _ quiet => ⟨rfl, quiet.unasked⟩
  trans := by
    rintro first middle last earlier later ⟨same, unasked⟩ ⟨same', unasked'⟩
    exact ⟨same'.trans same, unasked_append.mpr ⟨unasked, unasked'⟩⟩

/-- A routine that leaves all sessions as they are and asks nothing of its
caller. -/
abbrev Routine.Spares (routine : Routine caller α) : Prop :=
  routine.Follows Spared

theorem Routine.spares_modify {change : World → World}
    (same : ∀ world, (change world).sessions = world.sessions) :
    (Routine.modify change : Routine caller Unit).Spares :=
  ⟨fun _ world _ => ⟨same world, unasked_nil⟩⟩

theorem Routine.spares_atomic {act : World → α × World}
    (same : ∀ world, (act world).2.sessions = world.sessions) :
    (Routine.atomic act : Routine caller α).Spares :=
  ⟨fun _ world _ => ⟨same world, unasked_nil⟩⟩

theorem Routine.spares_perform (request : Call) :
    (Routine.perform request : Routine caller request.Answer).Spares :=
  ⟨fun _ _ _ => Routine.reaches_perform request fun _ _ => ⟨rfl, by simp⟩⟩

theorem Routine.Speaks.spares {routine : Routine caller α} {connection : Connection}
    {post : Made → List Exchange → Except Fault α → Prop}
    (speaks : routine.Speaks connection post none []) : routine.Spares :=
  ⟨fun _ _ _ => speaks.reaches fun _ _ _ _ unasked _ => ⟨rfl, unasked⟩⟩

theorem Connection.perform_spares (connection : Connection) (timeout : Option Int)
    (sql : String) (bindings : Value) (verb : Verb) :
    (connection.perform timeout sql bindings verb :
      Routine caller verb.Answer).Spares := by
  have speaks : (connection.perform timeout sql bindings verb :
      Routine caller verb.Answer).Speaks connection (fun _ _ _ => True) none [] :=
    perform_speaks fun _ _ _ _ => trivial
  exact speaks.spares

theorem Pool.withConnection_spares {pool : Nat} {use : Connection → Routine caller α}
    (spares : ∀ connection, (use connection).Spares) :
    (withConnection pool use).Spares := by
  constructor
  intro σ outside world state
  apply withConnection_reaches
  · intro _ _ _ unasked _ _
    exact ⟨rfl, unasked⟩
  · intro connection entered state opening out unasked _ _
    apply ((spares connection).reaches outside entered state).mono
    rintro _ left _ trace ⟨same, unasked'⟩ _ final _ last back unasked'' _
    exact ⟨back.sessions.trans (same.trans out.sessions),
      by simp [unasked, unasked', unasked'']⟩

theorem Handle.perform_spares (handle : Handle) (verb : Verb) (sql : String)
    (bindings : Value) :
    (handle.perform verb sql bindings : Routine caller verb.Answer).Spares := by
  cases handle with
  | pool number =>
      apply Pool.withConnection_spares
      intro connection
      apply Routine.Follows.bind (.remarks (.look _))
      intro timeout
      exact connection.perform_spares timeout sql bindings verb
  | scope number =>
      apply Routine.Follows.bind (.remarks (.look _))
      intro scope
      by_cases active : scope.active = true
      · rw [if_pos active]
        exact scope.connection.perform_spares scope.timeout sql bindings verb
      · rw [if_neg active]
        exact .remarks (.fail _)
  | guest number dedicated =>
      exact Routine.spares_perform (.guest number dedicated (.perform verb sql bindings))

theorem Registry.make_spares (number : Nat) (options : Fields Value) :
    (make number options : Routine caller Handle).Spares := by
  apply Routine.Follows.bind (.remarks (.look _))
  intro factory
  cases factory with
  | driver =>
      apply Routine.Follows.bind (.remarks (.ofExcept _))
      intro pool
      exact .bind (Routine.spares_atomic fun _ => rfl) fun number => .remarks (.done _)
  | guest =>
      apply Routine.Follows.bind (Routine.spares_perform (.makeGuest options))
      intro _
      exact .bind (Routine.spares_atomic fun _ => rfl) fun number => .remarks (.done _)

theorem Registry.acquire_spares (number : Nat) (dsn : String)
    (options : Fields Value) :
    (acquire number dsn options : Routine caller Handle).Spares := by
  apply Routine.Follows.bind (.remarks (.look _))
  intro found
  cases found with
  | some handle => exact .remarks (.bind (.report _) fun _ => .done handle)
  | none =>
      apply Routine.Follows.bind (make_spares number options)
      intro handle
      refine Routine.Follows.bind (Routine.spares_modify ?_) fun _ => ?_
      · intro world
        rfl
      · exact .remarks (.bind (.report _) fun _ => .done handle)

namespace Session

variable {number : Nat}

/-! ## Commands -/

theorem report_remarks (number : Nat) (event : SessionEvent) :
    (report number event : Routine caller Unit).Remarks :=
  .bind (.look _) fun _ => .report _

/-- A routine that makes one verb at most, on a handle that the shared state allows
at its start, and reports around it. -/
structure Commands (allows : World → Handle → Prop) (routine : Routine caller α) :
    Prop where
  reaches : ∀ {σ : Type} {outside : Outside caller σ} {world : World} {state : σ}
    {post : Except Fault α → World → σ → List (Entry caller) → Prop},
    (∀ outcome reports, Quiet reports → post outcome world state reports) →
    (∀ handle verb sql bindings, allows world handle →
      (handle.perform verb sql bindings).Reaches outside
        (fun _ final state trace => ∀ outcome before after, Quiet before →
          Quiet after → post outcome final state (before ++ trace ++ after))
        world state) →
    routine.Reaches outside post world state

namespace Commands

variable {allows : World → Handle → Prop}

theorem after {first : Routine caller β} {second : β → Routine caller α}
    (remarks : first.Remarks) (commands : ∀ value, Commands allows (second value)) :
    Commands allows (first.bind second) := by
  refine ⟨fun holds performs => Routine.reaches_bind.mpr (remarks.reaches ?_)⟩
  intro outcome earlier quiet
  cases outcome with
  | error fault => exact holds _ earlier quiet
  | ok value =>
      refine Routine.ends_ok.mpr ((commands value).reaches
        (fun outcome reports quiet' => holds outcome _ (quiet.append quiet')) ?_)
      intro handle verb sql bindings allowed
      refine (performs handle verb sql bindings allowed).mono ?_
      intro _ final state trace rest outcome before after quiet' quiet''
      have said := rest outcome (earlier ++ before) after (quiet.append quiet') quiet''
      simpa using said

theorem bind {first : Routine caller β} {second : β → Routine caller α}
    (commands : Commands allows first) (remarks : ∀ value, (second value).Remarks) :
    Commands allows (first.bind second) := by
  refine ⟨fun holds performs => Routine.reaches_bind.mpr (commands.reaches ?_ ?_)⟩
  · intro outcome earlier quiet
    cases outcome with
    | error fault => exact holds _ earlier quiet
    | ok value =>
        refine Routine.ends_ok.mpr ((remarks value).reaches ?_)
        exact fun outcome later quiet' => holds outcome _ (quiet.append quiet')
  · intro handle verb sql bindings allowed
    refine (performs handle verb sql bindings allowed).mono ?_
    intro _ final state trace rest outcome before later quiet quiet'
    cases outcome with
    | error fault => exact rest _ before later quiet quiet'
    | ok value =>
        refine Routine.ends_ok.mpr ((remarks value).reaches ?_)
        intro outcome reports quiet''
        have said := rest outcome before (later ++ reports) quiet (quiet'.append quiet'')
        simpa using said

end Commands

/-- The current connection of a session. -/
def Current (number : Nat) (world : World) (handle : Handle) : Prop :=
  (world.sessions number).connection = some handle

theorem requireConnection_commands {rest : Handle → Routine caller α}
    (commands : ∀ handle, Commands (fun _ other => other = handle) (rest handle)) :
    Commands (Current number) ((requireConnection number).bind rest) := by
  refine ⟨fun {_ _ world state _} holds performs => Routine.reaches_bind.mpr ?_⟩
  rw [requireConnection, get, Routine.bind_eq, Routine.reaches_bind,
    Routine.reaches_look, Routine.ends_ok]
  cases connected : (world.sessions number).connection with
  | none => exact holds _ [] .nil
  | some handle =>
      refine (commands handle).reaches (fun outcome => holds outcome) ?_
      rintro _ verb sql bindings rfl
      exact performs _ verb sql bindings connected

theorem performVerb_commands (number : Nat) (handle : Handle) (command : String)
    (verb : Verb) (sql : String) (parameters : List Value) :
    Commands (fun _ other => other = handle)
      (performVerb number handle command verb sql parameters :
        Routine caller verb.Answer) := by
  constructor
  intro σ outside world state post _ performs
  rw [performVerb, Routine.bind_eq, Routine.reaches_bind, Routine.reaches_attempt]
  apply (performs handle verb sql (.list parameters) rfl).mono
  intro outcome final state trace holds
  apply Routine.ends_ok.mpr
  cases outcome with
  | ok answer =>
      apply (Routine.Remarks.done answer).reaches
      exact fun outcome reports quiet => holds outcome [] reports .nil quiet
  | error fault =>
      by_cases ordinary : fault.isOrdinary = true
      · simp only [ordinary, if_true]
        apply (Routine.Remarks.bind (report_remarks number _) fun _ =>
          .bind (.look _) fun _ => .fail _).reaches
        exact fun outcome reports quiet => holds outcome [] reports .nil quiet
      · simp only [ordinary]
        apply (Routine.Remarks.fail fault).reaches
        exact fun outcome reports quiet => holds outcome [] reports .nil quiet

theorem dispatch_commands (number : Nat) (command : Command) (sql : String)
    (bindings : Value) :
    Commands (Current number)
      (dispatch number command sql bindings : Routine caller QueryResult) := by
  apply requireConnection_commands
  intro handle
  apply Commands.after (.ofExcept _)
  intro parameters
  cases command with
  | insert =>
      exact .bind (performVerb_commands number handle _ .insert sql parameters)
        fun _ => .done _
  | update | delete =>
      exact .bind (performVerb_commands number handle _ .update sql parameters)
        fun _ => .done _
  | select | other =>
      exact .bind (performVerb_commands number handle _ .query sql parameters)
        fun _ => .done _

theorem execute_commands (number : Nat) (sql : String) (bindings : Value) :
    Commands (Current number) (execute number sql bindings : Routine caller Unit) := by
  apply requireConnection_commands
  intro handle
  apply Commands.after (.ofExcept _)
  intro parameters
  exact performVerb_commands number handle _ .execute sql parameters

theorem createTable_commands (number : Nat) (table : Table) :
    Commands (Current number) (createTable number table : Routine caller String) := by
  apply Commands.after (.ofExcept _)
  intro sql
  apply Commands.after (.report _)
  intro _
  exact .bind (execute_commands number _ _) fun _ => .done _

theorem select_commands (number : Nat) (query : Select) (bindings : Value) :
    Commands (Current number)
      (select number query bindings : Routine caller (List Row)) := by
  apply Commands.after (.ofExcept _)
  intro sql
  apply Commands.after (.report _)
  intro _
  exact .bind (dispatch_commands number .select sql bindings) fun _ => .done _

/-! ## Connecting, closing, and transactions -/

@[simp] theorem reaches_get
    {post : Except Fault Session → World → σ → List (Entry caller) → Prop} :
    (get number : Routine caller Session).Reaches outside post world state ↔
      post (.ok (world.sessions number)) world state [] := Iff.rfl

@[simp] theorem reaches_change {update : Session → Session}
    {post : Except Fault Unit → World → σ → List (Entry caller) → Prop} :
    (change number update : Routine caller Unit).Reaches outside post world state ↔
      post (.ok ()) (world.changeSession number update) state [] := Iff.rfl

@[simp] theorem reaches_report {event : SessionEvent}
    {post : Except Fault Unit → World → σ → List (Entry caller) → Prop} :
    (report number event : Routine caller Unit).Reaches outside post world state ↔
      post (.ok ()) world state
        [.event (.session (world.sessions number).label event)] := Iff.rfl

def connectedTo (handle : Handle) (source : String) (session : Session) : Session :=
  { session with
    connection := some handle
    dsn := some source
    state := .connected
    label := some source }

def disconnected (session : Session) : Session :=
  { session with connection := none, prior := none, state := .disconnected }

theorem connect_reaches {dsn : Option String} {target : Target}
    {post : Except Fault Unit → World → σ → List (Entry caller) → Prop}
    (refuses : (world.sessions number).isInTransaction = true →
      ∀ fault, post (.error fault) world state [])
    (fails : (world.sessions number).isInTransaction = false →
      ∀ fault final state trace, final.sessions = world.sessions →
        Unasked trace → post (.error fault) final state trace)
    (connects : (world.sessions number).isInTransaction = false →
      ∀ handle source final state trace,
        final.sessions number = (world.sessions number).connectedTo handle source →
        Unasked trace → post (.ok ()) final state trace) :
    (connect number dsn target : Routine caller Unit).Reaches outside post world
      state := by
  rw [connect, Routine.bind_eq, Routine.reaches_bind, reaches_get, Routine.ends_ok]
  by_cases running : (world.sessions number).isInTransaction = true
  · rw [if_pos running]
    exact refuses running _
  · have free := Bool.eq_false_iff.mpr running
    rw [if_neg running, Routine.bind_eq, Routine.reaches_bind, Routine.reaches_attempt]
    refine ((Registry.acquire_spares _ _ _).reaches outside world state).mono ?_
    rintro outcome final state trace ⟨same, unasked⟩
    rw [Routine.ends_ok]
    cases outcome with
    | ok handle =>
        simp only [Routine.bind_eq, Routine.reaches_bind, reaches_change,
          reaches_report, Routine.ends_ok]
        apply connects free handle (chooseSource dsn target) _ state _
        · simp [World.changeSession, same, connectedTo]
        · simpa using unasked
    | error fault =>
        by_cases ordinary : fault.isOrdinary = true
        · simp only [ordinary, if_true, Routine.bind_eq, Routine.reaches_bind,
            Routine.reaches_report, Routine.ends_ok, Routine.reaches_fail]
          exact fails free _ final state _ same (by simpa using unasked)
        · simp only [ordinary, Bool.false_eq_true, if_false, Routine.reaches_fail]
          exact fails free _ final state _ same (by simpa using unasked)

theorem close_reaches
    {post : Except Fault Unit → World → σ → List (Entry caller) → Prop}
    (rests : (world.sessions number).connection = none →
      (world.sessions number).prior = none → post (.ok ()) world state [])
    (closes : ∀ reports, Quiet reports →
      post (.ok ()) (world.changeSession number disconnected) state reports) :
    (close number : Routine caller Unit).Reaches outside post world state := by
  rw [close, Routine.bind_eq, Routine.reaches_bind, reaches_get, Routine.ends_ok]
  by_cases nothing : ((world.sessions number).connection.isNone &&
      (world.sessions number).prior.isNone) = true
  · rw [if_pos nothing]
    simp only [Bool.and_eq_true, Option.isNone_iff_eq_none] at nothing
    exact rests nothing.1 nothing.2
  · rw [if_neg nothing]
    exact closes _ (.event _)

/-- The work of a transaction, with the value that the transaction returns for it. -/
def workValue (work : Option (Routine caller (Outcome α))) : Routine caller (Option α) :=
  match work with
  | none => .done none
  | some routine => routine.bind fun outcome => .done (some outcome.value)

theorem workValue_follows {relation : World → World → List (Entry caller) → Prop}
    [Routine.Path relation] {work : Option (Routine caller (Outcome α))}
    (follows : ∀ routine, work = some routine → routine.Follows relation) :
    (workValue work).Follows relation := by
  cases work with
  | none => exact .remarks (.done none)
  | some routine => exact .bind (follows routine rfl) fun _ => .remarks (.done _)

theorem reaches_workValue {routine : Routine caller (Outcome α)}
    {post : Except Fault (Option α) → World → σ → List (Entry caller) → Prop} :
    (workValue (some routine)).Reaches outside post world state ↔
      routine.Reaches outside (fun outcome =>
        post (outcome.map fun outcome => some outcome.value)) world state := by
  simp only [workValue, Routine.Reaches, Routine.run_bind]
  generalize routine.run outside world state = run
  obtain ⟨outcome, final, state, trace⟩ := run
  cases outcome with
  | ok value => simp [Run.afterAll, Routine.run, Except.map]
  | error fault => exact Iff.rfl

/-- The scope of a transaction: the session is changed before the work and after
it. -/
theorem scope_reaches {work : Option (Routine caller (Outcome α))} {inner : Handle}
    {post : Except Fault (Option α) → World → σ → List (Entry caller) → Prop}
    (works : ∀ reports, Quiet reports → (workValue work).Reaches outside
      (fun outcome left state trace =>
        post outcome (left.changeSession number leaveScope) state (reports ++ trace))
      (world.changeSession number (enterScope inner)) state) :
    (scope number work inner).Reaches outside post world state := by
  have started : Quiet [(.event (.session
      ((world.changeSession number (enterScope inner)).sessions number).label
      .transactionStarted) : Entry caller)] := .event _
  have worked := works _ started
  cases work with
  | none => exact worked
  | some routine =>
      simp only [scope, Routine.bind_eq, Routine.reaches_bind, reaches_change,
        reaches_report, Routine.reaches_attempt, Routine.ends_ok, Routine.pure_eq,
        Routine.reaches_done, Routine.reaches_ofExcept]
      refine (reaches_workValue.mp worked).mono ?_
      intro outcome left state trace holds
      simpa using holds

/-- A transaction on the current connection, with reports at its end. -/
theorem transaction_reaches {work : Option (Routine caller (Outcome α))}
    {post : Except Fault (Option α) → World → σ → List (Entry caller) → Prop}
    (refuses : ((world.sessions number).connection = none ∨
      (world.sessions number).isInTransaction = true) →
      ∀ fault, post (.error fault) world state [])
    (runs : ∀ handle, (world.sessions number).connection = some handle →
      (world.sessions number).isInTransaction = false →
      (handle.transaction (scope number work)).Reaches outside
        (fun outcome final state trace => ∀ reports, Quiet reports →
          post outcome final state (trace ++ reports)) world state) :
    (transaction number work).Reaches outside post world state := by
  simp only [transaction, requireConnection, Routine.bind_eq, Routine.reaches_bind,
    reaches_get, Routine.ends_ok]
  cases connected : (world.sessions number).connection with
  | none => exact refuses (.inl connected) _
  | some handle =>
      simp only [Routine.pure_eq, Routine.reaches_done, Routine.ends_ok]
      by_cases running : (world.sessions number).isInTransaction = true
      · rw [if_pos running]
        exact refuses (.inr running) _
      · rw [if_neg running, Routine.reaches_bind, Routine.reaches_attempt]
        refine (runs handle connected (Bool.eq_false_iff.mpr running)).mono ?_
        intro outcome final state trace holds
        rw [Routine.ends_ok]
        cases outcome with
        | ok value =>
            have reported := holds [.event (.session (final.sessions number).label
              .transactionFinished)] (.event _)
            simpa [Routine.reaches_bind] using reported
        | error fault =>
            by_cases ordinary : fault.isOrdinary = true
            · have reported := holds [.event (.session (final.sessions number).label
                (.transactionFailed fault.text))] (.event _)
              simpa [ordinary, Routine.reaches_bind] using reported
            · simpa [ordinary] using holds [] .nil

/-- The session in the scope of a transaction on a connection of a pool. -/
def inScope (number pool : Nat) (connection : Connection) (world : World) : World :=
  (Pool.withScope pool connection world).changeSession number
    (enterScope (.scope world.scopeCount))

/-- A scope that was left and has ended. -/
def outOfScope (number scope : Nat) (world : World) : World :=
  (world.changeSession number leaveScope).changeScope scope fun scope =>
    { scope with active := false }

/-- A transaction on a pool, with what becomes of the connection: it is refused, or the scope
runs between the calls that begin it and those that clean up. -/
theorem transaction_runs_pool {pool : Nat}
    {work : Option (Routine caller (Outcome α))}
    {post : Except Fault (Option α) → World → σ → List (Entry caller) → Prop}
    (connected : (world.sessions number).connection = some (.pool pool))
    (idle : (world.sessions number).isInTransaction = false)
    (refuses : ∀ fault state trace, Unasked trace → Pool.Refuses (exchanges trace) →
      Pool.Origin (faults (exchanges trace)) fault → post (.error fault) world state trace)
    (unbegun : ∀ connection opened fault state trace,
      Pool.CheckedOut pool world connection opened → Unasked trace →
      Pool.Refuses (exchanges trace) → Pool.Origin (faults (exchanges trace)) fault →
      post (.error fault) opened state trace)
    (runs : ∀ connection opened state before opening,
      Pool.CheckedOut pool world connection opened → Unasked before → Pool.Opens opening →
      exchanges before = opening ++ [⟨.autocommit connection false, .ok ()⟩] →
      (workValue work).Reaches outside (fun outcome left _ inner =>
          ∀ answer restored closing final state after,
            Pool.GivenBack pool connection (outOfScope number opened.scopeCount left)
              (Connection.concluded outcome answer restored).isOk closing final →
            Unasked after →
            exchanges after =
              Pool.cleanup connection outcome.isOk answer restored closing →
            post (Pool.cleaned outcome answer restored closing) final state
              (before ++ inner ++ after)) (inScope number pool connection opened) state) :
    (transaction number work).Reaches outside post world state := by
  apply transaction_reaches
  · intro refused
    simp [connected, idle] at refused
  intro handle current _
  obtain rfl := Option.some.inj (current.symm.trans connected)
  apply Pool.transaction_runs
  · intro fault state trace unasked refused origin reports quiet
    apply refuses fault state
    · simp [unasked, quiet.unasked]
    · simpa [quiet.silent] using refused
    · simpa [quiet.silent] using origin
  · intro connection opened fault state trace out unasked refused origin reports quiet
    apply unbegun connection opened fault state _ out
    · simp [unasked, quiet.unasked]
    · simpa [quiet.silent] using refused
    · simpa [quiet.silent] using origin
  intro connection opened state before opening out unasked opens began
  apply scope_reaches
  intro started quiet
  refine (runs connection opened state (before ++ started) opening out ?_ opens ?_).mono ?_
  · simp [unasked, quiet.unasked]
  · simp [began, quiet.silent]
  intro outcome left _ inner holds answer restored closing final state after back
    unasked' said reports quiet'
  have rest := holds answer restored closing final state (after ++ reports) back
    (by simp [unasked', quiet'.unasked]) (by simp [said, quiet'.silent])
  simpa using rest

/-- A transaction on a pool: it is refused, or the scope runs between the calls that
begin it and those that clean up. -/
theorem transaction_reaches_pool {pool : Nat}
    {work : Option (Routine caller (Outcome α))}
    {post : Except Fault (Option α) → World → σ → List (Entry caller) → Prop}
    (connected : (world.sessions number).connection = some (.pool pool))
    (idle : (world.sessions number).isInTransaction = false)
    (refuses : ∀ fault final state trace, final.sessions = world.sessions →
      Unasked trace → Pool.Refuses (exchanges trace) →
      Pool.Origin (faults (exchanges trace)) fault → post (.error fault) final state trace)
    (runs : ∀ connection scope (entered : World) state before opening,
      entered.sessions = assign world.sessions number
        (enterScope (.scope scope) (world.sessions number)) →
      (entered.scopes scope).active = true →
      (entered.scopes scope).connection = connection →
      Unasked before → Pool.Opens opening →
      exchanges before = opening ++ [⟨.autocommit connection false, .ok ()⟩] →
      (workValue work).Reaches outside (fun outcome left _ inner =>
          ∀ answer restored closing final state after,
            final.sessions = (left.changeSession number leaveScope).sessions →
            Unasked after →
            exchanges after =
              Pool.cleanup connection outcome.isOk answer restored closing →
            post (Pool.cleaned outcome answer restored closing) final state
              (before ++ inner ++ after)) entered state) :
    (transaction number work).Reaches outside post world state := by
  apply transaction_runs_pool connected idle
  · intro fault state trace unasked refused origin
    exact refuses fault world state trace rfl unasked refused origin
  · intro connection opened fault state trace out unasked refused origin
    exact refuses fault opened state trace out.sessions unasked refused origin
  · intro connection opened state before opening out unasked opens began
    have entered : (inScope number pool connection opened).sessions =
        assign world.sessions number
          (enterScope (.scope opened.scopeCount) (world.sessions number)) := by
      have same : (Pool.withScope pool connection opened).sessions = world.sessions :=
        out.sessions
      rw [inScope, World.changeSession, same]
    apply (runs connection opened.scopeCount _ state before opening entered
      (by simp [inScope, Pool.withScope, World.changeSession, World.addScope])
      (by simp [inScope, Pool.withScope, World.changeSession, World.addScope])
      unasked opens began).mono
    intro outcome left _ inner holds answer restored closing final state after back
    exact holds answer restored closing final state after back.sessions

end Session

end Midrange
