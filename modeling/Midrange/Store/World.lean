import Midrange.Options.ConnectionString
import Midrange.Options.Timeout
import Midrange.Store.Call

/-!
# The shared state

Pools, transaction scopes, registries and sessions, each found by its number.
A number that was never given out stands for an untouched default.
-/

namespace Midrange

/-- A pool of driver connections.  The connection that came back last is the
first of the idle ones. -/
structure Pool where
  target : String := ""
  timeout : Option Int := none
  maxIdle : Int := 5
  idle : List Connection := []
  closed : Bool := false
  deriving DecidableEq, Repr, Inhabited

def Pool.ofOptions (options : Fields Value) (maxIdle : Int := 5) :
    Except Fault Pool := do
  let timeout ← Options.queryTimeout options
  return { target := Options.connectionString options, timeout, maxIdle }

/-- The dedicated connection of a transaction scope, usable while active. -/
structure Scope where
  connection : Connection := ⟨0⟩
  timeout : Option Int := none
  active : Bool := false
  deriving DecidableEq, Repr, Inhabited

/-- What makes the handles of a registry. -/
inductive Factory where
  | driver
  | guest
  deriving DecidableEq, Repr

/-- One handle for each data source. -/
structure Registry where
  factory : Factory := .driver
  handles : Fields Handle := ∅
  deriving Inhabited

/-- The state of a session. -/
inductive SessionState where
  | disconnected
  | connected
  | inTransaction
  deriving DecidableEq, Repr

def SessionState.name : SessionState → String
  | .disconnected => "disconnected"
  | .connected => "connected"
  | .inTransaction => "in_transaction"

/-- A session: the registry that it borrows from, its current connection, the
one that was current before the running transaction, the data source of its last
successful connect, and the data source that its events are labelled with. -/
structure Session where
  registry : Nat := 0
  connection : Option Handle := none
  prior : Option Handle := none
  dsn : Option String := none
  state : SessionState := .disconnected
  label : Option String := none
  deriving DecidableEq, Repr, Inhabited

/-- The shared state of all pools, scopes, registries and sessions. -/
structure World where
  pools : Nat → Pool := fun _ => {}
  poolCount : Nat := 0
  scopes : Nat → Scope := fun _ => {}
  scopeCount : Nat := 0
  guestCount : Nat := 0
  openedCount : Nat := 0
  registries : Nat → Registry := fun _ => {}
  sessions : Nat → Session := fun _ => {}
  sessionCount : Nat := 0
  deriving Inhabited

/-- The assignment with one number assigned anew. -/
def assign {α : Type} (values : Nat → α) (number : Nat) (value : α) : Nat → α :=
  fun other => if other = number then value else values other

@[simp] theorem assign_self {α : Type} (values : Nat → α) (number : Nat)
    (value : α) : assign values number value number = value := by
  simp [assign]

theorem assign_of_ne {α : Type} (values : Nat → α) {number other : Nat}
    (value : α) (different : other ≠ number) :
    assign values number value other = values other := by
  simp [assign, different]

theorem assign_eta {α : Type} (values : Nat → α) (number : Nat) :
    assign values number (values number) = values := by
  funext other
  by_cases same : other = number
  · rw [same, assign_self]
  · rw [assign_of_ne _ _ same]

@[simp] theorem assign_assign {α : Type} (values : Nat → α) (number : Nat)
    (first second : α) :
    assign (assign values number first) number second = assign values number second := by
  funext other
  by_cases same : other = number
  · rw [same, assign_self, assign_self]
  · rw [assign_of_ne _ _ same, assign_of_ne _ _ same, assign_of_ne _ _ same]

/-- What a new value has in common with the old one stays as it is everywhere. -/
theorem field_assign {α β : Type} (field : α → β) {values : Nat → α} {number : Nat}
    {value : α} (same : field value = field (values number)) (other : Nat) :
    field (assign values number value other) = field (values other) := by
  by_cases here : other = number
  · rw [here, assign_self, same]
  · rw [assign_of_ne _ _ here]

/-- Where an entry of a list and the value of its place are replaced together, what holds
of all entries with their values still does. -/
theorem holds_set_assign {α β : Type} (holds : α → β → Prop) {items : List α}
    {values : Nat → β} {place : Nat} {item : α} {value : β} (inside : place < items.length)
    (all : ∀ other found, items[other]? = some found → holds found (values other))
    (placed : holds item value) (other : Nat) (found : α)
    (there : (items.set place item)[other]? = some found) :
    holds found (assign values place value other) := by
  by_cases here : other = place
  · subst here
    rw [List.getElem?_set_self inside] at there
    rw [assign_self, ← Option.some.inj there]
    exact placed
  · rw [List.getElem?_set_ne (Ne.symm here)] at there
    rw [assign_of_ne _ _ here]
    exact all other found there

namespace World

def changePool (world : World) (number : Nat) (change : Pool → Pool) : World :=
  { world with pools := assign world.pools number (change (world.pools number)) }

def changeScope (world : World) (number : Nat) (change : Scope → Scope) : World :=
  { world with
    scopes := assign world.scopes number (change (world.scopes number)) }

def changeRegistry (world : World) (number : Nat)
    (change : Registry → Registry) : World :=
  { world with
    registries := assign world.registries number (change (world.registries number)) }

@[simp] theorem changeRegistry_self (world : World) (number : Nat)
    (change : Registry → Registry) :
    (world.changeRegistry number change).registries number =
      change (world.registries number) :=
  assign_self world.registries number _

theorem changeRegistry_of_ne (world : World) {number other : Nat}
    (change : Registry → Registry) (different : other ≠ number) :
    (world.changeRegistry number change).registries other = world.registries other :=
  assign_of_ne world.registries _ different

def changeSession (world : World) (number : Nat)
    (change : Session → Session) : World :=
  { world with
    sessions := assign world.sessions number (change (world.sessions number)) }

@[simp] theorem changeSession_self (world : World) (number : Nat)
    (change : Session → Session) :
    (world.changeSession number change).sessions number =
      change (world.sessions number) :=
  assign_self world.sessions number _

def addPool (world : World) (pool : Pool) : Nat × World :=
  (world.poolCount,
    { world with
      pools := assign world.pools world.poolCount pool
      poolCount := world.poolCount + 1 })

def addScope (world : World) (scope : Scope) : Nat × World :=
  (world.scopeCount,
    { world with
      scopes := assign world.scopes world.scopeCount scope
      scopeCount := world.scopeCount + 1 })

def addGuest (world : World) : Nat × World :=
  (world.guestCount, { world with guestCount := world.guestCount + 1 })

/-- Gives a newly opened connection a number; the first one is one. -/
def addConnection (world : World) : Connection × World :=
  (⟨world.openedCount + 1⟩, { world with openedCount := world.openedCount + 1 })

def addSession (world : World) (session : Session) : Nat × World :=
  (world.sessionCount,
    { world with
      sessions := assign world.sessions world.sessionCount session
      sessionCount := world.sessionCount + 1 })

end World

end Midrange
