import Midrange.Proofs.Reach.Session

/-!
# Programs over one session

A script issues commands on one session, handles their faults or lets them pass,
and begins transactions whose work is again a script.  A session is at rest or
busy with a transaction.  While it is busy, a script that does not close it leaves
it as it was, and one that does leaves it at rest.
-/

namespace Midrange

/-- The caller that is told when a script is about to close its session. -/
abbrev diary : Caller := ⟨Unit, fun _ => Unit⟩

/-- A program over the commands of one session. -/
inductive Script : Type → Type 1 where
  | done {α : Type} (value : α) : Script α
  | fail {α : Type} (fault : Fault) : Script α
  | bind {α β : Type} (first : Script β) (second : β → Script α) : Script α
  | attempt {α : Type} (body : Script α) : Script (Except Fault α)
  | connect (dsn : Option String) (target : Target) : Script Unit
  | close : Script Unit
  | dispatch (command : Command) (sql : String) (bindings : Value) :
      Script QueryResult
  | execute (sql : String) (bindings : Value) : Script Unit
  | createTable (table : Table) : Script String
  | select (query : Select) (bindings : Value) : Script (List Row)
  | transaction {α : Type} (work : Script (Outcome α)) : Script (Option α)
  | emptyTransaction {α : Type} : Script (Option α)
  | commit : Script Unit
  | rollback : Script Unit

/-- What a script does on a session. -/
def Script.routine (number : Nat) : {α : Type} → Script α → Routine diary α
  | _, .done value => .done value
  | _, .fail fault => .fail fault
  | _, .bind first second =>
      (routine number first).bind fun value => routine number (second value)
  | _, .attempt body => (routine number body).attempt
  | _, .connect dsn target => Session.connect number dsn target
  | _, .close => do
      let _ ← Routine.ask ()
      Session.close number
  | _, .dispatch command sql bindings => Session.dispatch number command sql bindings
  | _, .execute sql bindings => Session.execute number sql bindings
  | _, .createTable table => Session.createTable number table
  | _, .select query bindings => Session.select number query bindings
  | _, .transaction work => Session.transaction number (some (routine number work))
  | _, .emptyTransaction => Session.transaction number none
  | _, .commit => Session.commit
  | _, .rollback => Session.rollback

namespace Session

/-- A session outside of transactions. -/
structure AtRest (session : Session) : Prop where
  prior : session.prior = none
  state : session.state =
    if session.connection.isSome then .connected else .disconnected

/-- A session in a transaction. -/
structure Busy (session : Session) : Prop where
  connected : session.connection.isSome = true
  state : session.state = .inTransaction

/-- A session as it can be found. -/
def Sound (session : Session) : Prop :=
  session.AtRest ∨ session.Busy

theorem new_atRest (registry : Nat) : ({ registry } : Session).AtRest := ⟨rfl, rfl⟩

theorem Busy.isInTransaction {session : Session} (busy : session.Busy) :
    session.isInTransaction = true := by
  simp [Session.isInTransaction, busy.state]

theorem Sound.atRest {session : Session} (sound : session.Sound)
    (idle : session.isInTransaction = false) : session.AtRest := by
  rcases sound with rests | busy
  · exact rests
  · simp [busy.isInTransaction] at idle

theorem enterScope_busy (inner : Handle) (session : Session) :
    (enterScope inner session).Busy := ⟨rfl, rfl⟩

theorem disconnected_atRest (session : Session) : session.disconnected.AtRest :=
  ⟨rfl, rfl⟩

/-- Leaving a scope brings back the session that entered it. -/
theorem AtRest.leaveScope_enterScope {session : Session} (rests : session.AtRest)
    {handle : Handle} (connected : session.connection = some handle) (inner : Handle) :
    leaveScope (enterScope inner session) = session := by
  have state := rests.state
  have prior := rests.prior
  obtain ⟨registry, connection, earlier, dsn, mode, label⟩ := session
  subst connected prior
  simp only [Option.isSome_some, if_true] at state
  subst state
  rfl

/-- Leaving a scope in which the session was closed leaves it without
connections. -/
theorem AtRest.leaveScope {session : Session} (rests : session.AtRest) :
    leaveScope session = session.disconnected := by
  simp [Session.leaveScope, disconnected, rests.prior]

/-- How a session goes from one state to another, with or without being closed. -/
structure Goes (unclosed : Prop) (before after : Session) : Prop where
  rests : before.AtRest → after.AtRest
  same : before.Busy → unclosed → after = before
  ends : before.Busy → ¬unclosed → after.AtRest

namespace Goes

theorem refl {unclosed : Prop} (stays : unclosed) (session : Session) :
    Goes unclosed session session where
  rests := id
  same := fun _ _ => rfl
  ends := fun _ closed => (closed stays).elim

theorem trans {first second both : Prop} (split : both ↔ first ∧ second)
    {before middle after : Session} (earlier : Goes first before middle)
    (later : Goes second middle after) : Goes both before after where
  rests := fun rests => later.rests (earlier.rests rests)
  same := by
    intro busy unclosed
    obtain ⟨unclosedFirst, unclosedSecond⟩ := split.mp unclosed
    have stayed := earlier.same busy unclosedFirst
    rw [← stayed] at busy
    exact (later.same busy unclosedSecond).trans stayed
  ends := by
    intro busy closed
    by_cases unclosedFirst : first
    · have stayed := earlier.same busy unclosedFirst
      rw [← stayed] at busy
      exact later.ends busy fun unclosedSecond =>
        closed (split.mpr ⟨unclosedFirst, unclosedSecond⟩)
    · exact later.rests (earlier.ends busy unclosedFirst)

theorem sound {unclosed : Prop} {before after : Session}
    (goes : Goes unclosed before after) (sound : before.Sound) : after.Sound := by
  rcases sound with rests | busy
  · exact .inl (goes.rests rests)
  · by_cases stays : unclosed
    · rw [goes.same busy stays]
      exact .inr busy
    · exact .inl (goes.ends busy stays)

/-- The session after a scope that it entered. -/
theorem leaveScope {unclosed : Prop} {before left : Session} {inner : Handle}
    (goes : Goes unclosed (enterScope inner before) left) (rests : before.AtRest)
    {handle : Handle} (connected : before.connection = some handle) :
    (unclosed → Session.leaveScope left = before) ∧
      (¬unclosed → Session.leaveScope left = left.disconnected) := by
  constructor
  · intro stays
    rw [goes.same (enterScope_busy inner before) stays]
    exact rests.leaveScope_enterScope connected inner
  · intro closed
    exact (goes.ends (enterScope_busy inner before) closed).leaveScope

end Goes

end Session

namespace Script

variable {α : Type} {number : Nat}

/-- A session goes its way between two states. -/
def Kept (number : Nat) (world final : World) (trace : List (Entry diary)) : Prop :=
  Session.Goes (Unasked trace) (world.sessions number) (final.sessions number)

instance : Routine.Path (Kept number) where
  quiet := fun _ _ quiet => .refl quiet.unasked _
  trans := fun _ _ _ _ _ earlier later => earlier.trans unasked_append later

theorem kept_of_spared {world final : World} {trace : List (Entry diary)}
    (spared : Spared world final trace) : Kept number world final trace := by
  obtain ⟨same, unasked⟩ := spared
  rw [Kept, same]
  exact .refl unasked _

theorem command_keeps {routine : Routine diary α}
    (commands : Session.Commands (Session.Current number) routine) :
    routine.Follows (Kept number) := by
  constructor
  intro σ outside world state
  apply commands.reaches
  · intro _ reports quiet
    exact .refl quiet.unasked _
  · intro handle verb sql bindings _
    apply ((handle.perform_spares verb sql bindings).reaches outside world state).mono
    intro _ final _ trace spared _ before after quiet quiet'
    apply kept_of_spared
    exact ⟨spared.1, by simp [spared.2, quiet.unasked, quiet'.unasked]⟩

theorem connect_keeps (dsn : Option String) (target : Target) :
    (Session.connect number dsn target).Follows (Kept number) := by
  constructor
  intro σ outside world state
  apply Session.connect_reaches
  · intro _ fault
    exact .refl unasked_nil _
  · intro _ fault final state trace same unasked
    exact kept_of_spared ⟨same, unasked⟩
  · intro free handle source final state trace now unasked
    rw [Kept, now]
    have notBusy (busy : (world.sessions number).Busy) : False := by
      simp [busy.isInTransaction] at free
    exact ⟨fun rests => ⟨rests.prior, rfl⟩, fun busy => (notBusy busy).elim,
      fun busy => (notBusy busy).elim⟩

theorem close_keeps : (routine number .close).Follows (Kept number) := by
  constructor
  intro σ outside world state
  rw [routine, Routine.bind_eq, Routine.reaches_bind]
  refine Routine.reaches_ask.mpr (Routine.ends_ok.mpr (Session.close_reaches ?_ ?_))
  · intro nothing nothingEarlier
    refine ⟨id, fun _ unasked => ?_, fun busy => ?_⟩
    · exact (not_unasked_aside _ _ unasked).elim
    · have connected := busy.connected
      simp [nothing] at connected
  · intro reports _
    have closed : ((world.changeSession number Session.disconnected).sessions
        number).AtRest := by
      rw [World.changeSession_self]
      exact Session.disconnected_atRest _
    refine ⟨fun _ => closed, fun _ unasked => ?_, fun _ _ => closed⟩
    exact (not_unasked_aside _ _ unasked).elim

theorem transaction_keeps {work : Option (Routine diary (Outcome α))}
    (keeps : ∀ routine, work = some routine → routine.Follows (Kept number)) :
    (Session.transaction number work).Follows (Kept number) := by
  have keepsValue := Session.workValue_follows keeps
  constructor
  intro σ outside world state
  apply Session.transaction_reaches
  · intro _ fault
    exact .refl unasked_nil _
  intro handle connected free
  -- A session that is not in a transaction is not busy.
  have rest {unclosed : Prop} {after : Session}
      (rests : (world.sessions number).AtRest → after.AtRest) :
      Session.Goes unclosed (world.sessions number) after := by
    refine ⟨rests, fun busy => ?_, fun busy => ?_⟩ <;>
      simp [busy.isInTransaction] at free
  apply Handle.transaction_reaches
  · intro fault final state trace same _ reports _
    rw [Kept, same]
    exact rest id
  intro inner entered state before same _
  apply Session.scope_reaches
  intro started _
  apply (keepsValue.reaches outside _ state).mono
  intro _ left _ trace goes _ final _ after same' _ reports _
  rw [Kept, World.changeSession_self, same] at goes
  rw [Kept, same', World.changeSession_self]
  apply rest
  intro rests
  obtain ⟨stays, ends⟩ := goes.leaveScope rests connected
  by_cases unclosed : Unasked trace
  · rw [stays unclosed]
    exact rests
  · rw [ends unclosed]
    exact Session.disconnected_atRest _

/-- Every script keeps its session. -/
theorem routine_keeps (number : Nat) (script : Script α) :
    (script.routine number).Follows (Kept number) := by
  induction script with
  | done value => exact .remarks (.done value)
  | fail fault => exact .remarks (.fail fault)
  | bind first second before after => exact .bind before after
  | attempt body keeps => exact .attempt keeps
  | connect dsn target => exact connect_keeps dsn target
  | close => exact close_keeps
  | dispatch command sql bindings =>
      exact command_keeps (Session.dispatch_commands number command sql bindings)
  | execute sql bindings =>
      exact command_keeps (Session.execute_commands number sql bindings)
  | createTable table => exact command_keeps (Session.createTable_commands number table)
  | select query bindings =>
      exact command_keeps (Session.select_commands number query bindings)
  | transaction work keeps =>
      apply transaction_keeps
      rintro _ ⟨⟩
      exact keeps
  | emptyTransaction => exact transaction_keeps (by simp)
  | commit | rollback => exact .remarks (.fail _)

/-- Every script leaves a sound session sound. -/
theorem run_sound {σ : Type} (script : Script α) (outside : Outside diary σ)
    (world : World) (state : σ) (sound : (world.sessions number).Sound) :
    (((script.routine number).run outside world state).world.sessions number).Sound := by
  have kept := (routine_keeps number script).reaches outside world state
  exact kept.sound sound

end Script

end Midrange
