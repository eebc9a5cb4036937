import Midrange.Pool.Connection

/-!
# Checking connections out of a pool

A pool hands out an idle connection or opens a new one.  A connection that
served well goes back to the idle ones while there is room; one whose use
failed is closed, because its state is unknown.
-/

namespace Midrange.Pool

variable {caller : Caller} {α : Type}

/-- What a pool has for a new use. -/
inductive Offer where
  | closed
  | idle (connection : Connection)
  | none
  deriving DecidableEq, Repr

/-- Takes the connection that came back last, in one undivided step. -/
def takeIdle (number : Nat) (world : World) : Offer × World :=
  let pool := world.pools number
  if pool.closed then
    (.closed, world)
  else
    match pool.idle with
    | [] => (.none, world)
    | connection :: idle =>
        (.idle connection, world.changePool number fun pool => { pool with idle })

/-- Puts a connection back if the pool is open and has room; says whether it
did. -/
def putIdle (number : Nat) (connection : Connection) (world : World) :
    Bool × World :=
  let pool := world.pools number
  if !pool.closed && (pool.idle.length : Int) < pool.maxIdle then
    (true, world.changePool number fun pool =>
      { pool with idle := connection :: pool.idle })
  else
    (false, world)

def openConnection (number : Nat) : Routine caller Connection := do
  if ← Routine.drive .locate then
    let target ← Routine.look fun world => (world.pools number).target
    Routine.drive (.connect target)
    Routine.atomic World.addConnection
  else
    Routine.refuse .missingDriver

def checkout (number : Nat) : Routine caller Connection := do
  match ← Routine.atomic (takeIdle number) with
  | .closed => Routine.refuse .poolClosed
  | .idle connection => return connection
  | .none => openConnection number

def checkin (number : Nat) (connection : Connection) : Routine caller Unit := do
  if ← Routine.atomic (putIdle number connection) then
    return ()
  else
    connection.closeQuietly

def withConnection (number : Nat) (use : Connection → Routine caller α) :
    Routine caller α := do
  let connection ← checkout number
  match ← (use connection).attempt with
  | .ok value =>
      checkin number connection
      return value
  | .error fault =>
      connection.closeQuietly
      Routine.fail fault

/-- Runs a verb on a connection of the pool. -/
def perform (number : Nat) (verb : Verb) (sql : String) (bindings : Value) :
    Routine caller verb.Answer :=
  withConnection number fun connection => do
    let timeout ← Routine.look fun world => (world.pools number).timeout
    connection.perform timeout sql bindings verb

/-- Runs a body on a dedicated connection.  The work is committed if the body
returns and rolled back if it fails; the dedicated connection ends before
either. -/
def transaction (number : Nat) (body : Handle → Routine caller α) :
    Routine caller α :=
  withConnection number fun connection => do
    connection.begin
    let scope ← Routine.atomic fun world =>
      world.addScope
        { connection, timeout := (world.pools number).timeout, active := true }
    let outcome ← (body (.scope scope)).attempt
    Routine.modify (World.changeScope · scope fun scope =>
      { scope with active := false })
    match outcome with
    | .ok value =>
        connection.commit
        return value
    | .error fault =>
        connection.rollbackQuietly
        Routine.fail fault

/-- Marks the pool closed and takes all idle connections, in one undivided
step; the one that came back first is the first to go. -/
def shut (number : Nat) (world : World) : List Connection × World :=
  ((world.pools number).idle.reverse,
    world.changePool number fun pool => { pool with idle := [], closed := true })

/-- Closes the pool and its idle connections.  Connections in use are closed
when they come back. -/
def close (number : Nat) : Routine caller Unit := do
  let idle ← Routine.atomic (shut number)
  idle.forM Connection.closeQuietly

end Midrange.Pool
