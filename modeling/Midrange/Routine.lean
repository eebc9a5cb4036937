import Midrange.Event
import Midrange.Fault
import Midrange.Store.World

/-!
# Routines

A routine is a program over the shared state that stops at each call to the
store and goes on with the answer.  Between two calls it runs undisturbed, so
the same routine can be run alone or interleaved with others at its calls.
Callers may make requests of their own on the way.

`Routine.run` runs a routine alone against an outside that answers every call,
and keeps a trace of the calls and events.
-/

namespace Midrange

/-- The requests that callers make on their own behalf, with their replies. -/
structure Caller where
  Request : Type
  Reply : Request → Type

/-- A resumable program that ends with a value or a fault. -/
inductive Routine (caller : Caller) (α : Type) : Type where
  | done (value : α)
  | fail (fault : Fault)
  | step (update : World → World) (next : World → Routine caller α)
  | emit (event : Event) (next : Routine caller α)
  | call (request : Call) (next : Except Fault request.Answer → Routine caller α)
  | aside (request : caller.Request)
      (next : caller.Reply request → Routine caller α)

namespace Routine

variable {caller : Caller} {α β : Type}

/-- Runs a second routine on the value of a first one. -/
def bind (first : Routine caller α) (second : α → Routine caller β) :
    Routine caller β :=
  match first with
  | .done value => second value
  | .fail fault => .fail fault
  | .step update next => .step update fun world => bind (next world) second
  | .emit event next => .emit event (bind next second)
  | .call request next => .call request fun answer => bind (next answer) second
  | .aside request next => .aside request fun reply => bind (next reply) second

instance : Monad (Routine caller) where
  pure := .done
  bind := bind

@[simp] theorem pure_eq (value : α) :
    (pure value : Routine caller α) = .done value := rfl

@[simp] theorem bind_eq (first : Routine caller α) (second : α → Routine caller β) :
    first >>= second = first.bind second := rfl

@[simp] theorem done_bind (value : α) (second : α → Routine caller β) :
    (done value).bind second = second value := rfl

@[simp] theorem fail_bind (fault : Fault) (second : α → Routine caller β) :
    (fail fault).bind second = fail fault := rfl

theorem bind_done (first : Routine caller α) : first.bind done = first := by
  induction first with
  | done | fail => rfl
  | step update next induction => exact congrArg (step update) (funext induction)
  | emit event next induction => exact congrArg (emit event) induction
  | call request next induction => exact congrArg (call request) (funext induction)
  | aside request next induction =>
      exact congrArg (aside request) (funext induction)

theorem bind_assoc {γ : Type} (first : Routine caller α)
    (second : α → Routine caller β) (third : β → Routine caller γ) :
    (first.bind second).bind third =
      first.bind fun value => (second value).bind third := by
  induction first with
  | done | fail => rfl
  | step update next induction => exact congrArg (step update) (funext induction)
  | emit event next induction => exact congrArg (emit event) induction
  | call request next induction => exact congrArg (call request) (funext induction)
  | aside request next induction =>
      exact congrArg (aside request) (funext induction)

instance : LawfulMonad (Routine caller) :=
  LawfulMonad.mk' _ bind_done (fun _ _ => rfl) bind_assoc

/-- Ends with the outcome of a routine, whether it is a value or a fault. -/
def attempt : Routine caller α → Routine caller (Except Fault α)
  | .done value => .done (.ok value)
  | .fail fault => .done (.error fault)
  | .step update next => .step update fun world => attempt (next world)
  | .emit event next => .emit event (attempt next)
  | .call request next => .call request fun answer => attempt (next answer)
  | .aside request next => .aside request fun reply => attempt (next reply)

def ofExcept : Except Fault α → Routine caller α
  | .ok value => .done value
  | .error fault => .fail fault

/-- Reads and changes the shared state in one undivided step. -/
def atomic (act : World → α × World) : Routine caller α :=
  .step (fun world => (act world).2) fun world => .done (act world).1

def look (read : World → α) : Routine caller α :=
  .step id fun world => .done (read world)

def modify (change : World → World) : Routine caller Unit :=
  .step change fun _ => .done ()

def report (event : Event) : Routine caller Unit :=
  .emit event (.done ())

/-- Makes a call and fails if the call does. -/
def perform (request : Call) : Routine caller request.Answer :=
  .call request ofExcept

def drive (request : DriverCall) : Routine caller request.Answer :=
  perform (.driver request)

def ask (request : caller.Request) : Routine caller (caller.Reply request) :=
  .aside request .done

def refuse (misuse : Misuse) : Routine caller α :=
  .fail misuse.fault

end Routine

/-- What answers the calls and requests of a routine, with a state of its
own. -/
structure Outside (caller : Caller) (σ : Type) where
  answer : (request : Call) → σ → Except Fault request.Answer × σ
  reply : (request : caller.Request) → σ → caller.Reply request × σ

/-- One entry of a trace. -/
inductive Entry (caller : Caller) : Type where
  | event (event : Event)
  | call (request : Call) (answer : Except Fault request.Answer)
  | aside (request : caller.Request) (reply : caller.Reply request)

/-- The end of a run: its outcome, the state of both sides, and the trace. -/
structure Run (caller : Caller) (σ α : Type) where
  outcome : Except Fault α
  world : World
  outside : σ
  trace : List (Entry caller)

namespace Run

variable {caller : Caller} {σ α : Type}

/-- The run with one more entry in front of its trace. -/
def after (entry : Entry caller) (run : Run caller σ α) : Run caller σ α :=
  { run with trace := entry :: run.trace }

/-- The run with more entries in front of its trace. -/
def afterAll (entries : List (Entry caller)) (run : Run caller σ α) :
    Run caller σ α :=
  { run with trace := entries ++ run.trace }

end Run

def Routine.run {caller : Caller} {σ α : Type} (outside : Outside caller σ) :
    Routine caller α → World → σ → Run caller σ α
  | .done value, world, state => ⟨.ok value, world, state, []⟩
  | .fail fault, world, state => ⟨.error fault, world, state, []⟩
  | .step update next, world, state =>
      (next world).run outside (update world) state
  | .emit event next, world, state =>
      (next.run outside world state).after (.event event)
  | .call request next, world, state =>
      let (answer, state) := outside.answer request state
      ((next answer).run outside world state).after (.call request answer)
  | .aside request next, world, state =>
      let (reply, state) := outside.reply request state
      ((next reply).run outside world state).after (.aside request reply)

/-- A second routine runs where the first one ended, unless that failed; the
traces follow one another. -/
theorem Routine.run_bind {caller : Caller} {σ α β : Type}
    (outside : Outside caller σ) (first : Routine caller α)
    (second : α → Routine caller β) (world : World) (state : σ) :
    (first.bind second).run outside world state =
      let run := first.run outside world state
      match run.outcome with
      | .ok value =>
          ((second value).run outside run.world run.outside).afterAll run.trace
      | .error fault => ⟨.error fault, run.world, run.outside, run.trace⟩ := by
  induction first generalizing world state with
  | done | fail => rfl
  | step update next induction => exact induction world (update world) state
  | emit event next induction =>
      simp only [Routine.bind, Routine.run, Run.after, induction]
      split <;> rfl
  | call request next induction =>
      simp only [Routine.bind, Routine.run, Run.after, induction]
      split <;> rfl
  | aside request next induction =>
      simp only [Routine.bind, Routine.run, Run.after, induction]
      split <;> rfl

end Midrange
