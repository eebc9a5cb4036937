import Midrange.Proofs.Ledger
import Midrange.Proofs.Restoration

/-!
# All or nothing

The statements that a script issues in a transaction are pending on its connection
until the cleanup.  Then they are committed all together or not at all.  They are
committed not only by a commit, but also when the commit or the rollback fails and
the connection goes back to automatic commit all the same.
-/

namespace Midrange

/-! ## Statements in a scope -/

/-- Verbs on one connection, one after another. -/
inductive Verbs (connection : Connection) : List Exchange → Prop where
  | none : Verbs connection []
  | append {earlier last : List Exchange} {sql : String} {bindings : Value} {verb : Verb}
      {returned : Bool} :
      Verbs connection earlier →
      VerbCalls connection sql bindings verb returned last →
      Verbs connection (earlier ++ last)

theorem Verbs.trans {connection : Connection} {earlier later : List Exchange}
    (first : Verbs connection earlier) (second : Verbs connection later) :
    Verbs connection (earlier ++ later) := by
  induction second with
  | none =>
      rw [List.append_nil]
      exact first
  | append _ verbCalls induction =>
      rw [← List.append_assoc]
      exact induction.append verbCalls

theorem Verbs.adds {connection : Connection} {said : List Exchange}
    (verbs : Verbs connection said) {ledger : Ledger}
    (manual : ledger.manual connection = true) :
    ledger.Adds connection (ledger.after said) := by
  induction verbs with
  | none => exact .refl connection ledger
  | append _ verbCalls adds =>
      rw [Ledger.after_append]
      have still := (congrFun adds.manual connection).trans manual
      exact adds.trans (Ledger.adds_verb verbCalls still)

/-- The current connection of a session is that of a scope which is active. -/
structure InScope (number : Nat) (connection : Connection) (world : World) : Prop where
  running : (world.sessions number).isInTransaction = true
  current : ∃ scope, (world.sessions number).connection = some (.scope scope) ∧
    (world.scopes scope).active = true ∧ (world.scopes scope).connection = connection

namespace Script

variable {α : Type} {number : Nat} {connection : Connection}

/-- Nothing but verbs on the connection of a scope, unless the session is closed. -/
def InScopeOnly (number : Nat) (connection : Connection) (world final : World)
    (trace : List (Entry diary)) : Prop :=
  InScope number connection world → Unasked trace →
    final = world ∧ Verbs connection (exchanges trace)

instance : Routine.Path (InScopeOnly number connection) where
  quiet := by
    intro world reports quiet _ _
    rw [quiet.silent]
    exact ⟨rfl, .none⟩
  trans := by
    intro first middle last earlier later works works' inScope unasked
    obtain ⟨before, after⟩ := unasked_append.mp unasked
    obtain ⟨rfl, verbs⟩ := works inScope before
    obtain ⟨same, verbs'⟩ := works' inScope after
    rw [exchanges_append]
    exact ⟨same, verbs.trans verbs'⟩

theorem command_works {routine : Routine diary α}
    (commands : Session.Commands (Session.Current number) routine) :
    routine.Follows (InScopeOnly number connection) := by
  constructor
  intro σ outside world state
  apply commands.reaches
  · intro _ reports quiet _ _
    rw [quiet.silent]
    exact ⟨rfl, .none⟩
  intro handle verb sql bindings given
  by_cases inScope : InScope number connection world
  · obtain ⟨scope, current, active, owned⟩ := inScope.current
    obtain rfl := Option.some.inj (given.symm.trans current)
    rw [Handle.perform, Handle.performInScope, Routine.bind_eq, Routine.reaches_bind,
      Routine.reaches_look, Routine.ends_ok, if_pos active, owned]
    have speaks : (connection.perform (world.scopes scope).timeout sql bindings verb :
        Routine diary verb.Answer).Speaks connection (fun _ said outcome =>
          VerbCalls connection sql bindings verb outcome.isOk said) none [] :=
      Connection.perform_speaks fun _ _ _ verbCalls => verbCalls
    apply speaks.reaches
    intro _ outcome last trace _ verbCalls _ before after quiet quiet' _ _
    have said : exchanges (before ++ ([] ++ trace) ++ after) = [] ++ exchanges trace := by
      simp [quiet.silent, quiet'.silent]
    rw [said]
    exact ⟨rfl, Verbs.none.append verbCalls⟩
  · intro _ _ _ _ _ within
    exact (inScope within).elim

theorem connect_works (dsn : Option String) (target : Target) :
    (Session.connect number dsn target).Follows (InScopeOnly number connection) := by
  constructor
  intro σ outside world state
  apply Session.connect_reaches
  · intro _ _ _ _
    exact ⟨rfl, .none⟩
  all_goals
    intro free
    intros
    intro inScope
    simp [inScope.running] at free

theorem close_works :
    (routine number .close).Follows (InScopeOnly number connection) := by
  constructor
  intro σ outside world state
  rw [routine, Routine.bind_eq, Routine.reaches_bind]
  apply Routine.reaches_ask.mpr
  apply Routine.ends_ok.mpr
  intro _ unasked
  exact (not_unasked_aside _ _ unasked).elim

theorem transaction_works (work : Option (Routine diary (Outcome α))) :
    (Session.transaction number work).Follows (InScopeOnly number connection) := by
  constructor
  intro σ outside world state
  apply Session.transaction_reaches
  · intro _ _ _ _
    exact ⟨rfl, .none⟩
  · intro handle _ free
    have outer (final : World) (trace : List (Entry diary)) :
        InScopeOnly number connection world final trace := by
      intro inScope
      simp [inScope.running] at free
    intro reports _
    exact outer _ _

/-- Every script works in the scope of its session. -/
theorem routine_works (number : Nat) (connection : Connection) (script : Script α) :
    (script.routine number).Follows (InScopeOnly number connection) := by
  induction script with
  | done value => exact .remarks (.done value)
  | fail fault => exact .remarks (.fail fault)
  | bind first second before after => exact .bind before after
  | attempt body works => exact .attempt works
  | connect dsn target => exact connect_works dsn target
  | close => exact close_works
  | dispatch command sql bindings =>
      exact command_works (Session.dispatch_commands number command sql bindings)
  | execute sql bindings =>
      exact command_works (Session.execute_commands number sql bindings)
  | createTable table => exact command_works (Session.createTable_commands number table)
  | select query bindings =>
      exact command_works (Session.select_commands number query bindings)
  | transaction | emptyTransaction => exact transaction_works _
  | commit | rollback => exact .remarks (.fail _)

end Script

/-! ## The end of a transaction -/

/-- Holds for the calls that end a transaction. -/
def DriverCall.isEnding : DriverCall → Bool
  | .commit _ | .rollback _ => true
  | .autocommit _ automatic => automatic
  | _ => false

/-- The pending statements are committed: by a commit, or by the change back to
automatic commit after a commit or a rollback that failed. -/
def Settled (said : List Exchange) : Prop :=
  ∃ connection, ⟨.commit connection, .ok ()⟩ ∈ said ∨
    ((∃ fault, ⟨.commit connection, .error fault⟩ ∈ said ∨
        ⟨.rollback connection, .error fault⟩ ∈ said) ∧
      ⟨.autocommit connection true, .ok ()⟩ ∈ said)

theorem settled_append {earlier later : List Exchange}
    (silent : ∀ exchange ∈ earlier, exchange.call.isEnding = false) :
    Settled (earlier ++ later) ↔ Settled later := by
  have only (exchange : Exchange) (ends : exchange.call.isEnding = true) :
      exchange ∈ earlier ++ later ↔ exchange ∈ later := by
    rw [List.mem_append]
    apply or_iff_right
    intro member
    simp [silent exchange member] at ends
  simp only [Settled]
  apply exists_congr
  intro connection
  rw [only ⟨.commit connection, .ok ()⟩ rfl,
    only ⟨.autocommit connection true, .ok ()⟩ rfl]
  simp only [only ⟨.commit connection, .error _⟩ rfl,
    only ⟨.rollback connection, .error _⟩ rfl]

/-- Whether the cleanup commits the pending statements. -/
def settles (returned : Bool) (answer restored : Except Fault Unit) : Bool :=
  if answer.isOk then returned else restored.isOk

theorem settled_cleanup {connection : Connection} {returned : Bool}
    {answer restored : Except Fault Unit} {closing : Option (Except Fault Unit)} :
    Settled (Pool.cleanup connection returned answer restored closing) ↔
      settles returned answer restored = true := by
  cases returned <;> cases answer <;> cases restored <;> cases closing <;>
    simp [Settled, Pool.cleanup, Pool.returning, Connection.ending, settles,
      Except.isOk, Except.toBool]

/-- A transaction that returns was committed. -/
theorem settles_of_cleaned {α : Type} {outcome : Except Fault α}
    {answer restored : Except Fault Unit} {closing : Option (Except Fault Unit)}
    (returned : (Pool.cleaned outcome answer restored closing).isOk = true) :
    settles outcome.isOk answer restored = true := by
  cases ended : Pool.cleaned outcome answer restored closing with
  | error fault => simp [ended, Except.isOk, Except.toBool] at returned
  | ok value =>
      obtain rfl := Pool.cleaned_ok ended
      cases answer with
      | ok => rfl
      | error fault =>
          cases given : Connection.closed closing <;> cases restored <;>
            simp [Pool.cleaned, Connection.concluded, Connection.finished, given,
              Except.bind, Except.map] at ended

namespace Ledger

variable (ledger : Ledger) {connection : Connection}

theorem after_returning (closing : Option (Except Fault Unit)) :
    (ledger.after (Pool.returning connection closing)).ran = ledger.ran ∧
      (ledger.after (Pool.returning connection closing)).committed =
        ledger.committed := by
  cases closing with
  | none => exact ⟨rfl, rfl⟩
  | some answer => cases answer <;> exact ⟨rfl, rfl⟩

/-- The pending statements of a connection are committed by the cleanup, or never. -/
theorem after_cleanup {returned : Bool} {answer restored : Except Fault Unit}
    {closing : Option (Except Fault Unit)} {final : Ledger}
    (cleanup : final =
      ledger.after (Pool.cleanup connection returned answer restored closing)) :
    final.ran = ledger.ran ∧ final.committed =
      if settles returned answer restored then
        ledger.pending connection ++ ledger.committed
      else ledger.committed := by
  subst cleanup
  rw [Pool.cleanup, after_append, (after_returning _ closing).1,
    (after_returning _ closing).2]
  cases returned <;> cases answer <;> cases restored <;>
    simp [Connection.ending, settles, record, switch, settle, discard, Except.isOk,
      Except.toBool]

theorem after_opens {said : List Exchange} (opens : Pool.Opens said) :
    ledger.after said = ledger := by
  induction said with
  | nil => rfl
  | cons first rest induction =>
      have still : ledger.record first.call first.answer = ledger := by
        obtain ⟨call, answer⟩ := first
        rcases opens _ List.mem_cons_self with rfl | ⟨target, rfl⟩
        all_goals cases answer <;> rfl
      rw [after_cons, still]
      exact induction fun exchange member => opens exchange (List.mem_cons_of_mem _ member)

theorem ran_refuses {said : List Exchange} (refuses : Pool.Refuses said) :
    (ledger.after said).ran = ledger.ran := by
  induction said generalizing ledger with
  | nil => rfl
  | cons first rest induction =>
      have still : (ledger.record first.call first.answer).ran = ledger.ran := by
        obtain ⟨call, answer⟩ := first
        obtain rfl | ⟨target, rfl⟩ | ⟨connection, fault, same⟩ | ⟨connection, rfl⟩ :=
          refuses _ List.mem_cons_self
        · cases answer <;> rfl
        · cases answer <;> rfl
        · cases same
          rfl
        · cases answer <;> rfl
      rw [after_cons, induction _ fun exchange member =>
        refuses exchange (List.mem_cons_of_mem _ member)]
      exact still

end Ledger

/-! ## The calls of a transaction end nothing before the cleanup -/

theorem Fetches.isEnding {statement : Statement} {returned : Bool} {said : List Exchange}
    (fetches : Fetches statement returned said) :
    ∀ exchange ∈ said, exchange.call.isEnding = false := by
  induction fetches with
  | enough | last | failed => simp [DriverCall.isEnding]
  | next row _ induction => simpa [DriverCall.isEnding] using induction

theorem Executes.isEnding {connection : Connection} {sql : String} {bindings : Value}
    {statement : Option Statement} {said : List Exchange}
    (executes : Executes connection sql bindings statement said) :
    ∀ exchange ∈ said, exchange.call.isEnding = false := by
  cases executes <;> simp [DriverCall.isEnding]

theorem VerbCalls.isEnding {connection : Connection} {sql : String} {bindings : Value}
    {verb : Verb} {returned : Bool} {said : List Exchange}
    (verbCalls : VerbCalls connection sql bindings verb returned said) :
    ∀ exchange ∈ said, exchange.call.isEnding = false := by
  cases verbCalls with
  | stopped executes | execute executes => exact executes.isEnding
  | query executes fetches =>
      exact List.forall_mem_append.mpr ⟨executes.isEnding, fetches.isEnding⟩
  | update _ executes | unidentified _ executes | insert _ _ executes =>
      refine List.forall_mem_append.mpr ⟨executes.isEnding, ?_⟩
      simp [DriverCall.isEnding]

theorem Verbs.isEnding {connection : Connection} {said : List Exchange}
    (verbs : Verbs connection said) :
    ∀ exchange ∈ said, exchange.call.isEnding = false := by
  induction verbs with
  | none => simp
  | append _ verbCalls induction =>
      exact List.forall_mem_append.mpr ⟨induction, verbCalls.isEnding⟩

theorem Pool.Opens.isEnding {said : List Exchange} (opens : Pool.Opens said) :
    ∀ exchange ∈ said, exchange.call.isEnding = false := by
  intro exchange member
  rcases opens exchange member with locate | ⟨target, connect⟩
  · rw [locate]
    rfl
  · rw [connect]
    rfl

/-! ## All or nothing -/

/-- What becomes of the statements that run after a ledger. -/
structure AllOrNothing (start : Ledger) (returned : Bool) (said : List Exchange) :
    Prop where
  /-- If they are settled, all of them are committed. -/
  all : Settled said → ∀ number, start.ran ≤ number →
    number < (start.after said).ran → number ∈ (start.after said).committed
  /-- Otherwise none of them is. -/
  nothing : ¬Settled said → ∀ number, start.ran ≤ number →
    number < (start.after said).ran → number ∉ (start.after said).committed
  /-- They are settled when the transaction returns. -/
  settled : returned = true → Settled said

namespace AllOrNothing

variable {start : Ledger} {said : List Exchange}

/-- No statement runs in a transaction that is refused. -/
theorem refused (refuses : Pool.Refuses said) : AllOrNothing start false said := by
  have ran := start.ran_refuses refuses
  refine ⟨fun _ number least most => ?_, fun _ number least most => ?_, nofun⟩ <;> omega

theorem ran {connection : Connection} {opening work : List Exchange}
    {returned inner : Bool} {answer restored : Except Fault Unit}
    {closing : Option (Except Fault Unit)} (numbered : start.Numbered)
    (opens : Pool.Opens opening) (verbs : Verbs connection work)
    (settled : returned = true → settles inner answer restored = true)
    (parts : said = opening ++ [⟨.autocommit connection false, .ok ()⟩] ++ work ++
      Pool.cleanup connection inner answer restored closing) :
    AllOrNothing start returned said := by
  have settled_iff : Settled said ↔ settles inner answer restored = true := by
    rw [parts, settled_append, settled_cleanup]
    refine List.forall_mem_append.mpr ⟨List.forall_mem_append.mpr ⟨opens.isEnding, ?_⟩,
      verbs.isEnding⟩
    simp [DriverCall.isEnding]
  -- The ledger when the work begins differs from the first one in one mode only.
  have begun : start.after (opening ++ [⟨.autocommit connection false, .ok ()⟩]) =
      start.switch connection false := by
    rw [Ledger.after_append, Ledger.after_opens start opens]
    rfl
  have manual : (start.switch connection false).manual connection = true := by
    simp [Ledger.switch]
  have adds := verbs.adds manual
  have final : start.after said = ((start.switch connection false).after work).after
      (Pool.cleanup connection inner answer restored closing) := by
    rw [parts, Ledger.after_append, Ledger.after_append, begun]
  obtain ⟨count, committed⟩ := Ledger.after_cleanup _ final
  refine ⟨fun settles number least most => ?_, fun unsettled number least _ => ?_,
    fun returns => settled_iff.mpr (settled returns)⟩
  · rw [committed, if_pos (settled_iff.mp settles)]
    rw [count] at most
    exact List.mem_append.mpr (.inl (adds.pending number least most))
  · rw [committed, if_neg (mt settled_iff.mpr unsettled), adds.committed]
    intro member
    exact absurd (numbered.committed number member) (Nat.not_lt.mpr least)

end AllOrNothing

theorem Session.transaction_allOrNothing {σ α : Type} {number pool : Nat} {world : World}
    (idle : (world.sessions number).isInTransaction = false)
    (connected : (world.sessions number).connection = some (.pool pool))
    (history : List Exchange) (work : Option (Script (Outcome α)))
    (outside : Outside diary σ) (state : σ)
    (unclosed : Unasked ((transaction number (work.map (Script.routine number))).run
      outside world state).trace) :
    let run := (transaction number (work.map (Script.routine number))).run outside world
      state
    AllOrNothing (.ofHistory history) run.outcome.isOk (exchanges run.trace) := by
  have reaches : (transaction number (work.map (Script.routine number))).Reaches outside
      (fun outcome _ _ trace => Unasked trace →
        AllOrNothing (.ofHistory history) outcome.isOk (exchanges trace)) world state := by
    apply transaction_reaches_pool connected idle
    · intro fault final state trace _ _ refuses _ _
      exact .refused refuses
    intro connection scope entered state before opening same active owned _ opens began
    have works : (workValue (work.map (Script.routine number))).Follows
        (Script.InScopeOnly number connection) := by
      apply workValue_follows
      intro routine given
      obtain ⟨script, _, rfl⟩ := Option.map_eq_some_iff.mp given
      exact Script.routine_works number connection script
    have inScope : InScope number connection entered := by
      refine ⟨?_, scope, ?_, active, owned⟩
      · rw [same, assign_self]
        exact (enterScope_busy _ _).isInTransaction
      · rw [same, assign_self]
        rfl
    apply (works.reaches outside entered state).mono
    intro outcome left _ inner only answer restored closing final last after _ _ said whole
    have unasked := (unasked_append.mp (unasked_append.mp whole).1).2
    obtain ⟨_, verbs⟩ := only inScope unasked
    have parts : exchanges (before ++ inner ++ after) =
        opening ++ [⟨.autocommit connection false, .ok ()⟩] ++ exchanges inner ++
          Pool.cleanup connection outcome.isOk answer restored closing := by
      rw [exchanges_append, exchanges_append, began, said]
    exact .ran (Ledger.numbered_ofHistory history) opens verbs settles_of_cleaned parts
  exact reaches unclosed

/-- Work that issues one statement. -/
def oneStatement : Script (Outcome Unit) :=
  .bind (.execute "insert into t values (1)" .null) fun _ => .done (.plain ())

/-- A commit that fails: the transaction fails, and its statement is committed. -/
theorem Session.transaction_allOrNothing_of_failed_commit :
    let run := (transaction 0 (some (oneStatement.routine 0))).run rehearsed connectedWorld
      (Rehearsal.arm "commit" (.outside .runtime "commit failed") 0 1 {})
    AllOrNothing (.ofHistory []) run.outcome.isOk (exchanges run.trace) ∧
      run.outcome.isOk = false ∧
      ((Ledger.ofHistory []).after (exchanges run.trace)).committed = [0] := by
  have unclosed : Unasked ((transaction 0 (some (oneStatement.routine 0))).run rehearsed
      connectedWorld
      (Rehearsal.arm "commit" (.outside .runtime "commit failed") 0 1 {})).trace := by
    decide
  exact ⟨transaction_allOrNothing rfl rfl [] (some oneStatement) rehearsed _
    unclosed, rfl, rfl⟩

end Midrange
