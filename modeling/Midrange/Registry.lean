import Midrange.Handle
import Midrange.Options.Redaction

/-!
# Registries

A registry keeps one handle for each data source, made on first use and shared
from then on.  The first caller's options win; handles leave the registry only
when all of them are torn down.
-/

namespace Midrange.Registry

variable {caller : Caller}

/-- The number of the registry that everything shares. -/
def shared : Nat := 0

def make (number : Nat) (options : Fields Value) : Routine caller Handle := do
  match ← Routine.look fun world => (world.registries number).factory with
  | .driver =>
      let pool ← Routine.ofExcept (Pool.ofOptions options)
      let pool ← Routine.atomic (World.addPool · pool)
      return .pool pool
  | .guest =>
      Routine.perform (.makeGuest options)
      let guest ← Routine.atomic World.addGuest
      return .guest guest false

/-- The handle of a data source, made from the options if there is none yet. -/
def acquire (number : Nat) (dsn : String) (options : Fields Value) :
    Routine caller Handle := do
  match ← Routine.look fun world => (world.registries number).handles.get? dsn with
  | some handle =>
      Routine.report (.poolReused dsn)
      return handle
  | none =>
      let handle ← make number options
      Routine.modify (World.changeRegistry · number fun registry =>
        { registry with handles := registry.handles.insert dsn handle })
      Routine.report (.poolCreated dsn (Options.redact options))
      return handle

/-- Takes all handles out of the registry, in one undivided step. -/
def takeAll (number : Nat) (world : World) : List (String × Handle) × World :=
  ((world.registries number).handles.entries,
    world.changeRegistry number fun registry => { registry with handles := ∅ })

/-- Closes one handle; an ordinary fault is only reported. -/
def closeEntry (entry : String × Handle) : Routine caller Unit :=
  Connection.tolerate (.poolCloseFailed entry.1) entry.2.close

/-- Takes all handles out of the registry and closes them. -/
def tearDown (number : Nat) : Routine caller Unit := do
  let entries ← Routine.atomic (takeAll number)
  entries.forM closeEntry
  Routine.report (.poolsTornDown entries.length)

/-- The data sources that have a handle, in the order of their texts. -/
def identities (registry : Registry) : List String :=
  registry.handles.names.mergeSort fun left right => left ≤ right

end Midrange.Registry
