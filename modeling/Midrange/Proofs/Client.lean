import Midrange.Handle
import Midrange.Proofs.Exchange

/-!
# Clients of a pool

A client is any program over the handles of a pool: verbs, transactions whose
bodies are clients again, and closing, with its own control flow around them.
It keeps a journal of what it begins, and of the scopes that it enters and
leaves; the journal has no part in what the pool does.
-/

namespace Midrange

/-- Holds for a pool and for the scopes of transactions. -/
def Handle.isWithin (pool : Nat) : Handle → Bool
  | .pool number => number = pool
  | .scope _ => true
  | .guest .. => false

/-- One verb that a client asks of a handle. -/
structure Demand where
  handle : Handle
  verb : Verb
  sql : String
  bindings : Value

/-- The entries of a journal. -/
inductive Note where
  | verb (demand : Demand)
  | transaction (handle : Handle)
  | close (handle : Handle)
  | entered (inner : Handle)
  | left (inner : Handle) (returned : Bool)

/-- A caller whose only requests are the entries of its journal. -/
@[reducible] def journal : Caller :=
  ⟨Note, fun _ => Unit⟩

/-- A program over handles.  It can do anything with the answers, raise, and
handle the faults that it meets. -/
inductive Client : Type → Type 1 where
  | done {α : Type} (value : α) : Client α
  | fail {α : Type} (fault : Fault) : Client α
  | bind {α β : Type} (first : Client α) (second : α → Client β) : Client β
  | attempt {α : Type} (client : Client α) : Client (Except Fault α)
  | perform (demand : Demand) : Client demand.verb.Answer
  | transaction {α : Type} (handle : Handle) (body : Handle → Client α) : Client α
  | close (handle : Handle) : Client Unit

namespace Client

def note (entry : Note) : Routine journal Unit :=
  Routine.ask entry

/-- The body of a transaction, with its journal. -/
def inScope {α : Type} (inner : Handle) (body : Routine journal α) :
    Routine journal α := do
  note (.entered inner)
  let outcome ← body.attempt
  note (.left inner outcome.isOk)
  Routine.ofExcept outcome

def routine : {α : Type} → Client α → Routine journal α
  | _, .done value => .done value
  | _, .fail fault => .fail fault
  | _, .bind first second => first.routine >>= fun value => (second value).routine
  | _, .attempt client => client.routine.attempt
  | _, .perform demand => do
      note (.verb demand)
      demand.handle.perform demand.verb demand.sql demand.bindings
  | _, .transaction handle body => do
      note (.transaction handle)
      handle.transaction fun inner => inScope inner (body inner).routine
  | _, .close handle => do
      note (.close handle)
      handle.close

/-- Uses only the handles of one pool and of its scopes. -/
def Within (pool : Nat) : {α : Type} → Client α → Prop
  | _, .done _ | _, .fail _ => True
  | _, .bind first second =>
      first.Within pool ∧ ∀ value, (second value).Within pool
  | _, .attempt client => client.Within pool
  | _, .perform demand => demand.handle.isWithin pool = true
  | _, .transaction handle body =>
      handle.isWithin pool = true ∧ ∀ scope, (body (.scope scope)).Within pool
  | _, .close handle => handle.isWithin pool = true

end Client

end Midrange
