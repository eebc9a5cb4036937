import Midrange.Routine

/-!
# Rehearsals

A rehearsal answers the calls of a routine without a store.  Rows, row counts,
identities and faults are queued beforehand; every call first takes the next
entry of the queue of faults under its name, and only then acts.

Guests fail once they are closed, and such a call is not part of the record.
-/

namespace Midrange

/-- The queued answers, and what the rehearsal has given out so far. -/
structure Rehearsal where
  installed : Bool := true
  refusal : Option Fault := none
  armed : Fields (List (Option Fault)) := ∅
  rows : List (Option (List Row)) := []
  counts : List Value := []
  identities : List (Option (List Value)) := []
  statementCount : Nat := 0
  pending : Nat → Option (List Row) := fun _ => none
  closedGuests : List Nat := []

namespace Rehearsal

/-- The name of a driver call.  Looking for the driver is no call of it. -/
def driverCallName? : DriverCall → Option String
  | .locate => none
  | .connect _ => some "connect"
  | .prepare .. => some "prepare"
  | .execute .. => some "execute"
  | .executeImmediate .. => some "exec_immediate"
  | .fetchRow _ => some "fetch_assoc"
  | .countRows _ => some "num_rows"
  | .fetchIdentity _ => some "fetch_tuple"
  | .autocommit .. => some "autocommit"
  | .commit _ => some "commit"
  | .rollback _ => some "rollback"
  | .close _ => some "close"

/-- The name of a guest call.  Asking whether a guest is closed is no call of
it. -/
def guestCallName? : GuestCall → Option String
  | .perform verb _ _ => some verb.name
  | .begin => some "transaction"
  | .commit => some "commit"
  | .rollback => some "rollback"
  | .close => some "close"
  | .isClosed => none

/-- Queues passes and then failures for the calls of one name. -/
def arm (name : String) (fault : Fault) (passes failures : Nat)
    (rehearsal : Rehearsal) : Rehearsal :=
  let queue := (rehearsal.armed.get? name).getD []
  { rehearsal with
    armed := rehearsal.armed.insert name
      (queue ++ List.replicate passes none ++ List.replicate failures (some fault)) }

def queueRows (sets : List (Option (List Row))) (rehearsal : Rehearsal) :
    Rehearsal :=
  { rehearsal with rows := rehearsal.rows ++ sets }

def queueCounts (counts : List Value) (rehearsal : Rehearsal) : Rehearsal :=
  { rehearsal with counts := rehearsal.counts ++ counts }

def queueIdentities (identities : List (Option (List Value)))
    (rehearsal : Rehearsal) : Rehearsal :=
  { rehearsal with identities := rehearsal.identities ++ identities }

/-- Takes the next entry of the queue of faults under a name. -/
def takeFault (name : String) (rehearsal : Rehearsal) : Option Fault × Rehearsal :=
  match rehearsal.armed.get? name with
  | some (entry :: rest) =>
      (entry, { rehearsal with armed := rehearsal.armed.insert name rest })
  | _ => (none, rehearsal)

/-- Acts unless a fault is queued under the name.  What has no name always
acts. -/
def guarded {α : Type} (name : Option String)
    (act : Rehearsal → Except Fault α × Rehearsal) (rehearsal : Rehearsal) :
    Except Fault α × Rehearsal :=
  match name.elim (none, rehearsal) rehearsal.takeFault with
  | (some fault, rehearsal) => (.error fault, rehearsal)
  | (none, rehearsal) => act rehearsal

/-- The next result set, if there is one. -/
def takeRows (rehearsal : Rehearsal) : Option (Option (List Row)) × Rehearsal :=
  match rehearsal.rows with
  | [] => (none, rehearsal)
  | rows :: rest => (some rows, { rehearsal with rows := rest })

/-- The next row count, zero if none is left. -/
def takeCount (rehearsal : Rehearsal) : Value × Rehearsal :=
  match rehearsal.counts with
  | [] => (.int 0, rehearsal)
  | count :: rest => (count, { rehearsal with counts := rest })

def takeIdentity (rehearsal : Rehearsal) : Option (List Value) × Rehearsal :=
  match rehearsal.identities with
  | [] => (none, rehearsal)
  | identity :: rest => (identity, { rehearsal with identities := rest })

def takeStatement (rehearsal : Rehearsal) : Statement × Rehearsal :=
  (⟨rehearsal.statementCount + 1⟩,
    { rehearsal with statementCount := rehearsal.statementCount + 1 })

/-- The next row of a statement; its first fetch takes the next result set. -/
def takeRow (statement : Statement) (rehearsal : Rehearsal) :
    Option Row × Rehearsal :=
  let (rows, rehearsal) :=
    match rehearsal.pending statement.number with
    | some rows => (rows, rehearsal)
    | none =>
        let (set, rehearsal) := rehearsal.takeRows
        ((set.bind id).getD [], rehearsal)
  let keep (rows : List Row) : Rehearsal :=
    { rehearsal with
      pending := assign rehearsal.pending statement.number (some rows) }
  match rows with
  | [] => (none, keep [])
  | row :: rest => (some row, keep rest)

def actDriver : (call : DriverCall) → Rehearsal →
    Except Fault call.Answer × Rehearsal
  | .locate, rehearsal => (.ok rehearsal.installed, rehearsal)
  | .prepare .., rehearsal =>
      let (statement, rehearsal) := rehearsal.takeStatement
      (.ok statement, rehearsal)
  | .executeImmediate .., rehearsal =>
      let (statement, rehearsal) := rehearsal.takeStatement
      (.ok statement, rehearsal)
  | .fetchRow statement, rehearsal =>
      let (row, rehearsal) := rehearsal.takeRow statement
      (.ok row, rehearsal)
  | .countRows _, rehearsal =>
      let (count, rehearsal) := rehearsal.takeCount
      (.ok count, rehearsal)
  | .fetchIdentity _, rehearsal =>
      let (identity, rehearsal) := rehearsal.takeIdentity
      (.ok identity, rehearsal)
  | .connect _, rehearsal => (.ok (), rehearsal)
  | .execute .., rehearsal => (.ok (), rehearsal)
  | .autocommit .., rehearsal => (.ok (), rehearsal)
  | .commit _, rehearsal => (.ok (), rehearsal)
  | .rollback _, rehearsal => (.ok (), rehearsal)
  | .close _, rehearsal => (.ok (), rehearsal)

def answerDriver (call : DriverCall) (rehearsal : Rehearsal) :
    Except Fault call.Answer × Rehearsal :=
  guarded (driverCallName? call) (actDriver call) rehearsal

/-- The first identity of a row, null if there is none. -/
private def firstIdentity : Option (List Value) → Value
  | some (value :: _) => value
  | _ => .null

def actVerb : (verb : Verb) → Rehearsal → Except Fault verb.Answer × Rehearsal
  | .query, rehearsal =>
      let (rows, rehearsal) := rehearsal.takeRows
      (.ok (rows.getD (some [])), rehearsal)
  | .update, rehearsal =>
      let (count, rehearsal) := rehearsal.takeCount
      (.ok count, rehearsal)
  | .insert, rehearsal =>
      let (identity, rehearsal) := rehearsal.takeIdentity
      (.ok (firstIdentity identity), rehearsal)
  | .execute, rehearsal => (.ok (), rehearsal)

/-- Acts for a call of an open guest. -/
def actGuest (number : Nat) : (call : GuestCall) → Rehearsal →
    Except Fault call.Answer × Rehearsal
  | .perform verb _ _, rehearsal => actVerb verb rehearsal
  | .close, rehearsal =>
      (.ok (), { rehearsal with
        closedGuests := number :: rehearsal.closedGuests })
  | .isClosed, rehearsal =>
      (.ok (rehearsal.closedGuests.contains number), rehearsal)
  | .begin, rehearsal => (.ok (), rehearsal)
  | .commit, rehearsal => (.ok (), rehearsal)
  | .rollback, rehearsal => (.ok (), rehearsal)

/-- The fault of a call to a closed guest. -/
def closedFault : Fault := .outside .runtime "connection closed"

/-- The fault that a guest call meets before it can act: its bindings have no
items, or the guest is closed. -/
def guestFault? (closedGuests : List Nat) (number : Nat) :
    GuestCall → Option Fault
  | .isClosed => none
  | .perform _ _ bindings =>
      if bindings.items?.isNone then
        some (.mismatch (.notIterable bindings.kindName))
      else if closedGuests.contains number then
        some closedFault
      else
        none
  | _ => if closedGuests.contains number then some closedFault else none

def answerGuest (number : Nat) (call : GuestCall) (rehearsal : Rehearsal) :
    Except Fault call.Answer × Rehearsal :=
  match guestFault? rehearsal.closedGuests number call with
  | some fault => (.error fault, rehearsal)
  | none => guarded (guestCallName? call) (actGuest number call) rehearsal

def answer : (call : Call) → Rehearsal → Except Fault call.Answer × Rehearsal
  | .driver call, rehearsal => answerDriver call rehearsal
  | .makeGuest _, rehearsal =>
      match rehearsal.refusal with
      | some fault => (.error fault, rehearsal)
      | none => (.ok (), rehearsal)
  | .guest number _ call, rehearsal => answerGuest number call rehearsal

/-- Holds for the calls that a record of the rehearsal shows, given the guests
that are closed by then. -/
def isRecorded (closedGuests : List Nat) : Call → Bool
  | .driver .locate => false
  | .driver _ => true
  | .makeGuest _ => false
  | .guest _ _ .isClosed => false
  | .guest number _ call => (guestFault? closedGuests number call).isNone

/-- The guests that are closed after a call. -/
def closedAfter (closedGuests : List Nat) (call : Call) (succeeded : Bool) :
    List Nat :=
  match call with
  | .guest number _ .close => if succeeded then number :: closedGuests else closedGuests
  | _ => closedGuests

end Rehearsal

end Midrange
