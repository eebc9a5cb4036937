import Midrange.Pool.Checkout

/-!
# Handles

The verbs of a handle, whatever made it.  The dedicated connection of a scope
works only while the scope runs, refuses scopes of its own, and is closed by the
scope alone.
-/

namespace Midrange.Handle

variable {caller : Caller} {α : Type}

/-- Runs a verb on the dedicated connection of a scope. -/
def performInScope (number : Nat) (verb : Verb) (sql : String)
    (bindings : Value) : Routine caller verb.Answer := do
  let scope ← Routine.look fun world => world.scopes number
  if scope.active then
    scope.connection.perform scope.timeout sql bindings verb
  else
    Routine.refuse .scopeEnded

def perform (handle : Handle) (verb : Verb) (sql : String) (bindings : Value) :
    Routine caller verb.Answer :=
  match handle with
  | .pool number => Pool.perform number verb sql bindings
  | .scope number => performInScope number verb sql bindings
  | .guest number dedicated =>
      Routine.perform (.guest number dedicated (.perform verb sql bindings))

/-- Runs a body in a transaction of a guest. -/
def guestTransaction (number : Nat) (dedicated : Bool)
    (body : Handle → Routine caller α) : Routine caller α := do
  Routine.perform (.guest number dedicated .begin)
  let inner ← Routine.atomic World.addGuest
  match ← (body (.guest inner true)).attempt with
  | .ok value =>
      Routine.perform (.guest number dedicated .commit)
      return value
  | .error fault =>
      Routine.perform (.guest number dedicated .rollback)
      Routine.fail fault

/-- Runs a body in a transaction of a handle. -/
def transaction (handle : Handle) (body : Handle → Routine caller α) :
    Routine caller α :=
  match handle with
  | .pool number => Pool.transaction number body
  | .scope _ => Routine.refuse .nestedTransaction
  | .guest number dedicated => guestTransaction number dedicated body

def close (handle : Handle) : Routine caller Unit :=
  match handle with
  | .pool number => Pool.close number
  | .scope _ => return ()
  | .guest number dedicated => Routine.perform (.guest number dedicated .close)

/-- Says whether a handle is closed; the dedicated connection of a scope cannot
tell. -/
def isClosed (handle : Handle) : Routine caller Bool :=
  match handle with
  | .pool number => Routine.look fun world => (world.pools number).closed
  | .scope _ => Routine.fail (.missingMember "TransactionConnection" "closed")
  | .guest number dedicated =>
      Routine.perform (.guest number dedicated .isClosed)

end Midrange.Handle
