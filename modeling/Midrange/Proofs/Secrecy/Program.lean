import Midrange.Proofs.Program
import Midrange.Proofs.Restoration
import Midrange.Proofs.Secrecy.Session

/-!
# Secrets stay out of the log

Two programs are alike if one is the other with paired targets in the place of its own.
Run from alike states, against outsides that answer alike, they report the same events
and end with the same outcome: what is reported, and every fault with its message, its
context and its cause, tells nothing of the secrets.
-/

namespace Midrange

/-- Programs that are the same but for paired targets. -/
inductive Program.Alike (pairing : Pairing) : {α : Type} → Program α → Program α → Prop where
  | done {α : Type} (value : α) : Alike pairing (.done value) (.done value)
  | fail {α : Type} (fault : Fault) : Alike pairing (.fail fault : Program α) (.fail fault)
  | bind {α β : Type} {first first' : Program β} {second second' : β → Program α} :
      Alike pairing first first' → (∀ value, Alike pairing (second value) (second' value)) →
      Alike pairing (.bind first second) (.bind first' second')
  | attempt {α : Type} {body body' : Program α} : Alike pairing body body' →
      Alike pairing (.attempt body) (.attempt body')
  | acquire (registry : Nat) (dsn : String) {left right : Target} :
      pairing.Pairs left right →
      Alike pairing (.acquire registry dsn left.options) (.acquire registry dsn right.options)
  | tearDown (registry : Nat) : Alike pairing (.tearDown registry) (.tearDown registry)
  | globalClose (registry : Option Nat) :
      Alike pairing (.globalClose registry) (.globalClose registry)
  | connect (session : Nat) (dsn : Option String) {left right : Target} :
      pairing.Pairs left right →
      Alike pairing (.connect session dsn left) (.connect session dsn right)
  | close (session : Nat) : Alike pairing (.close session) (.close session)
  | release (session : Nat) : Alike pairing (.release session) (.release session)
  | dispatch (session : Nat) (command : Command) (sql : String) (bindings : Value) :
      Alike pairing (.dispatch session command sql bindings)
        (.dispatch session command sql bindings)
  | execute (session : Nat) (sql : String) (bindings : Value) :
      Alike pairing (.execute session sql bindings) (.execute session sql bindings)
  | createTable (session : Nat) (table : Table) :
      Alike pairing (.createTable session table) (.createTable session table)
  | select (session : Nat) (query : Select) (bindings : Value) :
      Alike pairing (.select session query bindings) (.select session query bindings)
  | transaction {α : Type} (session : Nat) {work work' : Program (Outcome α)} :
      Alike pairing work work' →
      Alike pairing (.transaction session work) (.transaction session work')
  | emptyTransaction {α : Type} (session : Nat) :
      Alike pairing (.emptyTransaction session : Program (Option α)) (.emptyTransaction session)
  | commit : Alike pairing .commit .commit
  | rollback : Alike pairing .rollback .rollback

variable {caller : Caller} {α : Type} {pairing : Pairing}

/-- Alike routines stay alike when their errands are run on the way; they have none. -/
theorem Routine.Alike.plain {first second : Routine errands α}
    (alike : first.Alike pairing second) :
    (first.plain : Routine caller α).Alike pairing second.plain := by
  induction alike with
  | done value => exact .done value
  | fail fault => exact .fail fault
  | step updates _ induction => exact .step updates induction
  | emit event _ induction => exact .emit event induction
  | call request bare _ induction => exact .call request bare induction
  | connect connects _ induction => exact .connect connects induction
  | makeGuest paired _ induction => exact .makeGuest paired induction

/-- What alike programs do is alike. -/
theorem Program.Alike.routine {first second : Program α} (alike : first.Alike pairing second) :
    (first.routine.plain : Routine caller α).Alike pairing second.routine.plain := by
  induction alike with
  | done value => exact .done value
  | fail fault => exact .fail fault
  | bind _ _ first second =>
      rw [Program.routine, Routine.plain_bind, Program.routine, Routine.plain_bind]
      exact .bind first second
  | attempt _ body =>
      rw [Program.routine, Routine.plain_attempt, Program.routine, Routine.plain_attempt]
      exact .attempt body
  | acquire registry dsn paired =>
      rw [Program.routine, Routine.plain_order, Program.routine, Routine.plain_order]
      exact Registry.acquire_alike registry dsn paired
  | tearDown registry =>
      rw [Program.routine, Routine.plain_tearDown]
      exact Registry.tearDown_alike registry
  | globalClose registry =>
      rw [Program.routine, Routine.plain_tearDown]
      exact Registry.tearDown_alike _
  | connect session dsn paired =>
      rw [Program.routine, Routine.plain_order, Program.routine, Routine.plain_order]
      exact Session.connect_alike session dsn paired
  | close session | release session =>
      rw [Program.routine, Routine.plain_order]
      exact Session.close_alike session
  | dispatch session command sql bindings =>
      exact (Session.dispatch_alike session command sql bindings).plain
  | execute session sql bindings => exact (Session.execute_alike session sql bindings).plain
  | createTable session table => exact (Session.createTable_alike session table).plain
  | select session query bindings => exact (Session.select_alike session query bindings).plain
  | transaction session _ work =>
      rw [Program.routine, Routine.plain_during, Routine.plain_transaction, Program.routine,
        Routine.plain_during, Routine.plain_transaction]
      exact Session.transaction_alike session (.some work)
  | emptyTransaction session =>
      rw [Program.routine, Routine.plain_during, Routine.plain_transaction]
      exact Session.transaction_alike session .none
  | commit | rollback => exact .fail _

/-- No secret reaches the log or a fault: programs that differ only in the secrets of their
targets report the same events and have the same outcome, and leave states that differ
only in secrets. -/
theorem Program.secrets_hidden {σ τ : Type} {related : σ → τ → Prop}
    {left : Outside caller σ} {right : Outside caller τ}
    (outsides : left.Alike pairing related right) {first second : Program α}
    (programs : first.Alike pairing second) {world world' : World}
    (worlds : world.Alike pairing world') {state : σ} {state' : τ}
    (states : related state state') :
    (first.routine.plain.run left world state).Alike pairing related
      (second.routine.plain.run right world' state') :=
  programs.routine.run outsides worlds states

/-- The calls of a rehearsal fail and return as it was set up, whatever secrets they are
given. -/
theorem rehearsed_alike : rehearsed.Alike pairing Eq rehearsed where
  answers := by
    rintro request _ rehearsal _ rfl
    exact ⟨rfl, rfl⟩
  connects := by
    rintro target target' _ rehearsal _ rfl
    exact ⟨rfl, rfl⟩
  guests := by
    rintro target target' _ rehearsal _ rfl
    exact ⟨rfl, rfl⟩

namespace Program

/-- A target with two secrets. -/
def guardedTarget (password further : String) : Target where
  host := .text "as400"
  user := .text "db2"
  password := .text password
  extra := .ofPairs [("Pwd", .text further)]

theorem guardedTarget_veil {password password' further further' : String}
    (passwords : password ≠ "" ∧ password' ≠ "") (furthers : further ≠ "" ∧ further' ≠ "") :
    (guardedTarget password further).veil = (guardedTarget password' further').veil := by
  have veiled {text text' : String} (filled : text ≠ "" ∧ text' ≠ "") :
      (Value.text text).veil = (Value.text text').veil := by
    apply Value.veil_eq_veil.mpr
    exact .inr ⟨bne_iff_ne.mpr filled.1, bne_iff_ne.mpr filled.2⟩
  have secret : Options.isSecret "Pwd" = true := by decide +kernel
  have extra : Options.veil (guardedTarget password further).extra =
      Options.veil (guardedTarget password' further').extra := by
    have told : Options.told "Pwd" (.text further) = Options.told "Pwd" (.text further') := by
      rw [Options.told, Options.told, if_pos secret, if_pos secret]
      exact veiled furthers
    exact Fields.ext (congrArg (fun value => [("Pwd", value)]) told)
  have password : (guardedTarget password further).password.veil =
      (guardedTarget password' further').password.veil := veiled passwords
  rw [Target.veil, Target.veil, extra, password]
  rfl

/-- Connects, runs one statement and tears everything down. -/
def oneVisit (target : Target) : Program (Except Fault Unit) :=
  .bind (.connect 0 none target) fun _ =>
    .bind (.attempt (.execute 0 "insert into t values (1)" .null)) fun outcome =>
      .bind (.globalClose none) fun _ => .done outcome

theorem secrets_hidden_rehearsed :
    let left := guardedTarget "tiger" "lion"
    let right := guardedTarget "zebra" "okapi"
    let rehearsal := Rehearsal.arm "connect" (.outside .runtime "refused") 0 1 {}
    Options.connectionString left.options ≠ Options.connectionString right.options ∧
      ∃ veiled : left.veil = right.veil,
        Run.Alike (.one left right veiled) Eq
          ((oneVisit left).routine.plain.run rehearsed {} rehearsal)
          ((oneVisit right).routine.plain.run rehearsed {} rehearsal) := by
  intro left right rehearsal
  have veiled : left.veil = right.veil := guardedTarget_veil (by simp) (by simp)
  have visits : (oneVisit left).Alike (.one left right veiled) (oneVisit right) := by
    refine .bind (.connect 0 none ⟨rfl, rfl⟩) fun _ => .bind (.attempt ?_) fun outcome => ?_
    · exact .execute 0 _ _
    · exact .bind (.globalClose none) fun _ => .done outcome
  refine ⟨by decide +kernel, veiled, ?_⟩
  exact secrets_hidden rehearsed_alike visits (.fresh fun _ => rfl) rfl

end Program

end Midrange
