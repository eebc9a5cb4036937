import Mathlib.Logic.Function.Basic
import Midrange.Proofs.Exchange

/-!
# What becomes of statements

The store commits a statement at once while its connection is in automatic commit.
Out of it the statement is pending until a commit, or the change back to automatic
commit, commits it, or until a rollback or a close discards it.  A call that fails
changes nothing.  A ledger keeps account of this over the calls of the driver.
-/

namespace Midrange

/-- What became of the statements so far.  Each has as its number how many ran
before it. -/
structure Ledger where
  owner : Statement → Option Connection := fun _ => none
  manual : Connection → Bool := fun _ => false
  pending : Connection → List Nat := fun _ => []
  committed : List Nat := []
  ran : Nat := 0

namespace Ledger

def own (ledger : Ledger) (statement : Statement) (connection : Connection) : Ledger :=
  { ledger with owner := Function.update ledger.owner statement (some connection) }

def run (ledger : Ledger) (connection : Connection) : Ledger :=
  if ledger.manual connection then
    { ledger with
      pending := Function.update ledger.pending connection
        (ledger.ran :: ledger.pending connection)
      ran := ledger.ran + 1 }
  else
    { ledger with
      committed := ledger.ran :: ledger.committed
      ran := ledger.ran + 1 }

/-- The pending statements of a connection are discarded. -/
def discard (ledger : Ledger) (connection : Connection) : Ledger :=
  { ledger with pending := Function.update ledger.pending connection [] }

/-- The pending statements of a connection are committed. -/
def settle (ledger : Ledger) (connection : Connection) : Ledger :=
  { ledger.discard connection with
    committed := ledger.pending connection ++ ledger.committed }

/-- A connection is taken out of automatic commit or put back. -/
def switch (ledger : Ledger) (connection : Connection) (automatic : Bool) : Ledger :=
  if automatic then
    { ledger.settle connection with
      manual := Function.update ledger.manual connection false }
  else
    { ledger with manual := Function.update ledger.manual connection true }

/-- What a call that was answered changes. -/
def record (ledger : Ledger) : (call : DriverCall) → Except Fault call.Answer → Ledger
  | .prepare connection .., .ok statement => ledger.own statement connection
  | .execute statement _, .ok () => (ledger.owner statement).elim ledger ledger.run
  | .executeImmediate connection _, .ok statement =>
      (ledger.run connection).own statement connection
  | .autocommit connection automatic, .ok () => ledger.switch connection automatic
  | .commit connection, .ok () => ledger.settle connection
  | .rollback connection, .ok () | .close connection, .ok () =>
      ledger.discard connection
  | _, _ => ledger

def after (ledger : Ledger) (said : List Exchange) : Ledger :=
  said.foldl (fun ledger exchange => ledger.record exchange.call exchange.answer) ledger

@[simp] theorem after_nil (ledger : Ledger) : ledger.after [] = ledger := rfl

@[simp] theorem after_cons (ledger : Ledger) (exchange : Exchange)
    (rest : List Exchange) :
    ledger.after (exchange :: rest) =
      (ledger.record exchange.call exchange.answer).after rest := rfl

@[simp] theorem after_append (ledger : Ledger) (earlier later : List Exchange) :
    ledger.after (earlier ++ later) = (ledger.after earlier).after later :=
  List.foldl_append

@[simp] theorem record_error (ledger : Ledger) (call : DriverCall) (fault : Fault) :
    ledger.record call (.error fault) = ledger := by
  cases call <;> rfl

variable {ledger : Ledger} {connection other : Connection} {number : Nat}

@[simp] theorem ran_run : (ledger.run connection).ran = ledger.ran + 1 := by
  rw [run]
  split <;> rfl

@[simp] theorem manual_run : (ledger.run connection).manual = ledger.manual := by
  rw [run]
  split <;> rfl

@[simp] theorem mem_pending_run : number ∈ (ledger.run connection).pending other ↔
    number ∈ ledger.pending other ∨
      ledger.manual connection = true ∧ other = connection ∧ number = ledger.ran := by
  by_cases manual : ledger.manual connection = true
  · by_cases same : other = connection
    · subst same
      simp [run, manual, or_comm]
    · simp [run, manual, same]
  · simp [run, manual]

@[simp] theorem mem_committed_run : number ∈ (ledger.run connection).committed ↔
    number ∈ ledger.committed ∨
      ledger.manual connection = false ∧ number = ledger.ran := by
  by_cases manual : ledger.manual connection = true
  · simp [run, manual]
  · simp [run, manual, or_comm]

@[simp] theorem mem_pending_discard : number ∈ (ledger.discard connection).pending other ↔
    other ≠ connection ∧ number ∈ ledger.pending other := by
  by_cases same : other = connection
  · subst same
    simp [discard]
  · simp [discard, same]

@[simp] theorem mem_committed_settle : number ∈ (ledger.settle connection).committed ↔
    number ∈ ledger.pending connection ∨ number ∈ ledger.committed :=
  List.mem_append

/-! ## Numbers -/

/-- The statements that ran are numbered in order. -/
structure Numbered (ledger : Ledger) : Prop where
  pending : ∀ connection, ∀ number ∈ ledger.pending connection, number < ledger.ran
  committed : ∀ number ∈ ledger.committed, number < ledger.ran

namespace Numbered

theorem run (numbered : ledger.Numbered) (connection : Connection) :
    (ledger.run connection).Numbered := by
  refine ⟨fun other number member => ?_, fun number member => ?_⟩
  · rw [ran_run]
    rcases mem_pending_run.mp member with before | ⟨_, _, last⟩
    · exact Nat.lt_succ_of_lt (numbered.pending other number before)
    · omega
  · rw [ran_run]
    rcases mem_committed_run.mp member with before | ⟨_, last⟩
    · exact Nat.lt_succ_of_lt (numbered.committed number before)
    · omega

theorem discard (numbered : ledger.Numbered) (connection : Connection) :
    (ledger.discard connection).Numbered := by
  refine ⟨fun other number member => ?_, numbered.committed⟩
  exact numbered.pending other number (mem_pending_discard.mp member).2

theorem settle (numbered : ledger.Numbered) (connection : Connection) :
    (ledger.settle connection).Numbered := by
  refine ⟨(numbered.discard connection).pending, fun number member => ?_⟩
  rcases mem_committed_settle.mp member with pending | committed
  · exact numbered.pending connection number pending
  · exact numbered.committed number committed

theorem own (numbered : ledger.Numbered) (statement : Statement)
    (connection : Connection) : (ledger.own statement connection).Numbered :=
  ⟨numbered.pending, numbered.committed⟩

theorem switch (numbered : ledger.Numbered) (connection : Connection)
    (automatic : Bool) : (ledger.switch connection automatic).Numbered := by
  cases automatic with
  | true =>
      have settled := numbered.settle connection
      exact ⟨settled.pending, settled.committed⟩
  | false => exact ⟨numbered.pending, numbered.committed⟩

theorem record (numbered : ledger.Numbered) (call : DriverCall)
    (answer : Except Fault call.Answer) : (ledger.record call answer).Numbered := by
  cases answer with
  | error fault =>
      rw [record_error]
      exact numbered
  | ok value =>
      cases call with
      | prepare connection => exact numbered.own value connection
      | execute statement =>
          cases owner : ledger.owner statement with
          | none => simpa [Ledger.record, owner] using numbered
          | some connection => simpa [Ledger.record, owner] using numbered.run connection
      | executeImmediate connection => exact (numbered.run connection).own value connection
      | autocommit connection automatic => exact numbered.switch connection automatic
      | commit connection => exact numbered.settle connection
      | rollback connection | close connection => exact numbered.discard connection
      | locate | connect | fetchRow | countRows | fetchIdentity => exact numbered

end Numbered

/-- After any history the statements are numbered in order. -/
theorem numbered_after (numbered : ledger.Numbered) (history : List Exchange) :
    (ledger.after history).Numbered := by
  induction history generalizing ledger with
  | nil => exact numbered
  | cons first rest induction =>
      rw [after_cons]
      exact induction (numbered.record first.call first.answer)

def ofHistory (history : List Exchange) : Ledger :=
  ({} : Ledger).after history

theorem numbered_ofHistory (history : List Exchange) : (ofHistory history).Numbered :=
  numbered_after ⟨by simp, by simp⟩ history

/-! ## Verbs out of automatic commit -/

/-- Some statements ran on one connection, and all of them are pending. -/
structure Adds (connection : Connection) (before after : Ledger) : Prop where
  manual : after.manual = before.manual
  committed : after.committed = before.committed
  ran : before.ran ≤ after.ran
  kept : ∀ number ∈ before.pending connection, number ∈ after.pending connection
  pending : ∀ number, before.ran ≤ number → number < after.ran →
    number ∈ after.pending connection

namespace Adds

theorem refl (connection : Connection) (ledger : Ledger) :
    Adds connection ledger ledger :=
  ⟨rfl, rfl, Nat.le_refl _, fun _ => id, fun _ least most => by omega⟩

theorem trans {before middle after : Ledger} (first : Adds connection before middle)
    (second : Adds connection middle after) : Adds connection before after where
  manual := second.manual.trans first.manual
  committed := second.committed.trans first.committed
  ran := Nat.le_trans first.ran second.ran
  kept := fun number member => second.kept number (first.kept number member)
  pending := by
    intro number least most
    by_cases early : number < middle.ran
    · exact second.kept number (first.pending number least early)
    · exact second.pending number (Nat.not_lt.mp early) most

theorem own (statement : Statement) (connection other : Connection) :
    Adds connection ledger (ledger.own statement other) :=
  ⟨rfl, rfl, Nat.le_refl _, fun _ => id, fun _ least most => absurd most (by
    simpa [Ledger.own] using least)⟩

theorem run (manual : ledger.manual connection = true) :
    Adds connection ledger (ledger.run connection) where
  manual := manual_run
  committed := by rw [Ledger.run, if_pos manual]
  ran := by simp
  kept := fun number member => mem_pending_run.mpr (.inl member)
  pending := by
    intro number least most
    rw [ran_run] at most
    exact mem_pending_run.mpr (.inr ⟨manual, rfl, by omega⟩)

end Adds

theorem after_fetches {statement : Statement} {returned : Bool} {said : List Exchange}
    (fetches : Fetches statement returned said) (ledger : Ledger) :
    ledger.after said = ledger := by
  induction fetches with
  | enough => rfl
  | last | failed => rfl
  | next row _ induction => exact induction

theorem adds_executes {sql : String} {bindings : Value} {made : Option Statement}
    {said : List Exchange} (executes : Executes connection sql bindings made said)
    (manual : ledger.manual connection = true) :
    Adds connection ledger (ledger.after said) := by
  cases executes with
  | unprepared => exact .refl connection ledger
  | unbound timeout statement | refused timeout statement fault =>
      exact .own statement connection connection
  | executed timeout statement =>
      have owned : Adds connection ledger (ledger.own statement connection) :=
        .own statement connection connection
      have ran : ledger.after [⟨.prepare connection sql timeout, .ok statement⟩,
          ⟨.execute statement bindings.parameters?, .ok ()⟩] =
          (ledger.own statement connection).run connection := by
        simp [record, Ledger.own]
      rw [ran]
      exact owned.trans (.run manual)

/-- The statements of a verb are pending. -/
theorem adds_verb {sql : String} {bindings : Value} {verb : Verb} {returned : Bool}
    {said : List Exchange}
    (verbCalls : VerbCalls connection sql bindings verb returned said)
    (manual : ledger.manual connection = true) :
    Adds connection ledger (ledger.after said) := by
  cases verbCalls with
  | stopped executes | execute executes => exact adds_executes executes manual
  | query executes fetches =>
      rw [after_append, after_fetches fetches]
      exact adds_executes executes manual
  | update answer executes =>
      rw [after_append]
      cases answer <;> exact adds_executes executes manual
  | unidentified fault executes =>
      rw [after_append]
      exact adds_executes executes manual
  | insert identity answer executes =>
      have executed := adds_executes executes manual
      have still := (congrFun executed.manual connection).trans manual
      rw [after_append]
      apply executed.trans
      cases answer <;>
        exact (Adds.run still).trans (.own identity connection connection)

end Ledger

end Midrange
