import Midrange.Proofs.Custody.Scopes
import Midrange.Proofs.Office
import Midrange.Proofs.Traffic.Idle

/-!
# Tenures

What one client of an office has: the connections that it holds, what it knows of the
identities on them, and the scopes that it runs.  `Routine.Serves` holds of a routine
that executes statements only on connections that it holds, and reports an insert only with
an identity of its own, whatever the calls are answered and whatever the other clients do
in between.
-/

namespace Midrange

/-- What a client has.  It knows of scopes that they have ended, and of the identity on a
connection the row that was generated last, if its own statement generated it. -/
structure Tenure where
  hand : Hand := {}
  ended : Nat → Prop := fun _ => False
  known : Connection → Generated := fun _ => none
  marks : Marks := {}

/-- Holds for the calls that execute nothing and make no statement. -/
def DriverCall.isQuiet : DriverCall → Bool
  | .locate | .connect _ | .autocommit .. | .commit _ | .rollback _ | .close _ => true
  | _ => false

namespace Tenure

def Holds (tenure : Tenure) (connection : Connection) : Prop :=
  tenure.hand.held connection ≠ none

/-- Takes a connection, of which nothing is known. -/
def hold (connection : Connection) (tenure : Tenure) : Tenure :=
  { tenure with
    hand := tenure.hand.hold connection (.said [])
    known := Function.update tenure.known connection none }

def release (connection : Connection) (tenure : Tenure) : Tenure :=
  { tenure with hand := tenure.hand.release connection }

/-- Takes up or gives up a scope. -/
def mind (scope : Nat) (connection : Option Connection) (tenure : Tenure) : Tenure :=
  { tenure with hand := tenure.hand.mind scope connection }

/-- Begins a verb: its statements have not generated anything. -/
def renew (tenure : Tenure) : Tenure :=
  { tenure with marks := { tenure.marks with born := [] } }

/-- Knows that a scope has ended. -/
def outlive (scope : Nat) (tenure : Tenure) : Tenure :=
  { tenure with ended := fun other => other = scope ∨ tenure.ended other }

def hear (generated : Generated) (request : DriverCall) (answer : Except Fault request.Answer)
    (tenure : Tenure) : Tenure :=
  { tenure with
    known := request.identitiesAfter tenure.marks.made generated tenure.known
    marks := tenure.marks.after generated request answer }

/-- What a client may take the shared state to be like. -/
structure Fits (world : World) (tenure : Tenure) : Prop where
  idle : ∀ number, ∀ connection ∈ Fleet.idle number world, ¬tenure.Holds connection
  fresh : ¬tenure.Holds world.addConnection.1
  unborn : tenure.hand.scopes world.scopeCount = none
  running : ∀ scope connection, tenure.hand.scopes scope = some connection →
    (world.scopes scope).active = true ∧ (world.scopes scope).connection = connection ∧
      tenure.Holds connection
  ended : ∀ scope, tenure.ended scope → (world.scopes scope).active = false

/-- No scope runs on a connection that is not held. -/
theorem Fits.unscoped {world : World} {tenure : Tenure} {connection : Connection}
    (fits : tenure.Fits world) (free : ¬tenure.Holds connection) :
    tenure.hand.Unscoped connection :=
  fun scope running => free (fits.running scope connection running).2.2

/-- The changes of the shared state that a client may make. -/
inductive Changes : World → Tenure → World → Tenure → Prop where
  | other {world after : World} {tenure : Tenure} :
      after.pools = world.pools → after.openedCount = world.openedCount →
      after.scopes = world.scopes → after.scopeCount = world.scopeCount →
      Changes world tenure after tenure
  | take {world : World} {tenure : Tenure} {number : Nat} {connection : Connection}
      {rest : List Connection} :
      (world.pools number).idle = connection :: rest →
      Changes world tenure
        (world.changePool number fun pool => { pool with idle := rest })
        (tenure.hold connection)
  | put {world : World} {tenure : Tenure} {connection : Connection} (number : Nat) :
      tenure.Holds connection → tenure.hand.Unscoped connection →
      Changes world tenure
        (world.changePool number fun pool =>
          { pool with idle := connection :: pool.idle })
        (tenure.release connection)
  | opened {world : World} {tenure : Tenure} :
      Changes world tenure world.addConnection.2 (tenure.hold world.addConnection.1)
  | enter {world : World} {tenure : Tenure} {connection : Connection}
      (timeout : Option Int) :
      tenure.Holds connection → tenure.hand.Unscoped connection →
      Changes world tenure
        (world.addScope { connection, timeout, active := true }).2
        (tenure.mind world.scopeCount (some connection))
  | leave {world : World} {tenure : Tenure} {scope : Nat} {connection : Connection} :
      tenure.hand.scopes scope = some connection →
      Changes world tenure
        (world.changeScope scope fun scope => { scope with active := false })
        (tenure.mind scope none)
  | shut {world : World} {tenure : Tenure} (number : Nat) :
      Changes world tenure (Pool.shut number world).2 tenure

/-- A statement is executed only on a connection that is held. -/
def Permits (tenure : Tenure) : DriverCall → Prop
  | .execute statement _ =>
      ∀ connection, tenure.marks.made.connection? statement = some connection →
        tenure.Holds connection
  | _ => True

section Quiet

variable {tenure : Tenure} {request : DriverCall}

theorem permits_of_quiet (quiet : request.isQuiet = true) : tenure.Permits request := by
  cases request with
  | execute => cases quiet
  | _ => trivial

theorem hear_of_quiet (quiet : request.isQuiet = true) (generated : Generated)
    (answer : Except Fault request.Answer) :
    tenure.hear generated request answer = tenure := by
  cases request <;> first | rfl | cases quiet

end Quiet

/-- What is known of a connection that is held is what its identity statement is
answered. -/
def Trusts (tenure : Tenure) : (request : DriverCall) → Except Fault request.Answer → Prop
  | .fetchIdentity statement, .ok row =>
      ∀ connection known, tenure.marks.inquiry.connection? statement = some connection →
        tenure.Holds connection → tenure.known connection = some known →
        row = some known
  | _, _ => True

/-- The memos that a client may write, and what holds of it afterwards. -/
def Writes (tenure : Tenure) (after : Tenure → Prop) : Memo → Prop
  | .asked demand =>
      match demand.handle with
      | .pool _ => after tenure.renew
      | .scope number =>
          ((∃ connection, tenure.hand.scopes number = some connection) →
            after tenure.renew) ∧
          after (tenure.renew.outlive number)
      | .guest .. => True
  | .answered .insert (.ok value) => Confirms value tenure.marks.born ∧ after tenure
  | .answered .. => after tenure
  | .entered (.scope number) =>
      (∃ connection, tenure.hand.scopes number = some connection) ∧ after tenure
  | .entered _ => after tenure

theorem Writes.mono {tenure : Tenure} {memo : Memo} {after weaker : Tenure → Prop}
    (writes : tenure.Writes after memo)
    (implies : ∀ tenure, after tenure → weaker tenure) : tenure.Writes weaker memo := by
  match memo with
  | .asked ⟨.pool _, _, _, _⟩ => exact implies _ writes
  | .asked ⟨.scope _, _, _, _⟩ =>
      exact ⟨fun runs => implies _ (writes.1 runs), implies _ writes.2⟩
  | .asked ⟨.guest .., _, _, _⟩ => trivial
  | .answered .insert (.ok _) => exact ⟨writes.1, implies _ writes.2⟩
  | .answered .insert (.error _) => exact implies _ writes
  | .answered .query _ | .answered .update _ | .answered .execute _ =>
      exact implies _ writes
  | .entered (.scope _) => exact ⟨writes.1, implies _ writes.2⟩
  | .entered (.pool _) | .entered (.guest ..) => exact implies _ writes

/-- Nothing that was held was given away, and the scopes are the same. -/
structure Within (before after : Tenure) : Prop where
  holds : ∀ connection, before.Holds connection → after.Holds connection
  scopes : after.hand.scopes = before.hand.scopes

namespace Within

variable {first middle last : Tenure}

theorem refl (tenure : Tenure) : tenure.Within tenure :=
  ⟨fun _ => id, rfl⟩

theorem of_hand (same : last.hand = first.hand) : first.Within last where
  holds := by
    intro connection holds
    rw [Holds, same]
    exact holds
  scopes := by rw [same]

theorem trans (before : first.Within middle) (after : middle.Within last) :
    first.Within last where
  holds := fun connection holds => after.holds connection (before.holds connection holds)
  scopes := after.scopes.trans before.scopes

end Within

end Tenure

namespace Routine

variable {α β : Type}

/-- Does only what a client may do with what it has, whatever the other clients do in
between.  The condition relates the outcome and what the client has at the end. -/
def Serves (post : Except Fault α → Tenure → Prop) : Tenure → Routine memos α → Prop
  | tenure, .done value => post (.ok value) tenure
  | tenure, .fail fault => post (.error fault) tenure
  | tenure, .step update next =>
      ∀ world, tenure.Fits world →
        ∃ after, tenure.Changes world (update world) after ∧
          Serves post after (next world)
  | tenure, .emit _ next => Serves post tenure next
  | tenure, .call (.driver request) next =>
      tenure.Permits request ∧ ∀ answer generated, tenure.Trusts request answer →
        Serves post (tenure.hear generated request answer) (next answer)
  | tenure, .call _ next => ∀ answer, Serves post tenure (next answer)
  | tenure, .aside memo next => tenure.Writes (fun after => Serves post after (next ())) memo

variable {post : Except Fault α → Tenure → Prop} {tenure : Tenure}

@[simp] theorem serves_done {value : α} :
    (done value : Routine memos α).Serves post tenure ↔ post (.ok value) tenure := by
  simp [Serves]

@[simp] theorem serves_fail {fault : Fault} :
    (fail fault : Routine memos α).Serves post tenure ↔ post (.error fault) tenure := by
  simp [Serves]

/-- A second routine goes on with what the first one left. -/
theorem serves_bind {first : Routine memos β} {second : β → Routine memos α} :
    (first.bind second).Serves post tenure ↔
      first.Serves (fun outcome after =>
        Ends (fun value => (second value).Serves post after)
          (fun fault => post (.error fault) after) outcome) tenure := by
  induction first generalizing tenure with
  | done | fail => simp [Routine.bind]
  | step update next induction => simp only [Routine.bind, Serves, induction]
  | emit event next induction => simp only [Routine.bind, Serves, induction]
  | call request next induction =>
      cases request <;> simp only [Routine.bind, Serves, induction]
  | aside memo next induction => simp only [Routine.bind, Serves, induction]

theorem serves_attempt {routine : Routine memos β}
    {post : Except Fault (Except Fault β) → Tenure → Prop} :
    routine.attempt.Serves post tenure ↔
      routine.Serves (fun outcome after => post (.ok outcome) after) tenure := by
  induction routine generalizing tenure with
  | done | fail => simp [attempt]
  | step update next induction => simp only [attempt, Serves, induction]
  | emit event next induction => simp only [attempt, Serves, induction]
  | call request next induction =>
      cases request <;> simp only [attempt, Serves, induction]
  | aside memo next induction => simp only [attempt, Serves, induction]

@[simp] theorem serves_ofExcept {outcome : Except Fault α} :
    (ofExcept outcome : Routine memos α).Serves post tenure ↔ post outcome tenure := by
  cases outcome <;> simp [ofExcept]

theorem serves_drive {request : DriverCall}
    {post : Except Fault request.Answer → Tenure → Prop} :
    (drive request : Routine memos request.Answer).Serves post tenure ↔
      tenure.Permits request ∧ ∀ answer generated, tenure.Trusts request answer →
        post answer (tenure.hear generated request answer) := by
  simp only [drive, perform, Serves, serves_ofExcept]

theorem serves_write {memo : Memo} {post : Except Fault Unit → Tenure → Prop} :
    memo.write.Serves post tenure ↔ tenure.Writes (post (.ok ())) memo := by
  simp only [Memo.write, ask, Serves]

theorem Serves.mono {routine : Routine memos α}
    {weaker : Except Fault α → Tenure → Prop} (serves : routine.Serves post tenure)
    (implies : ∀ outcome after, post outcome after → weaker outcome after) :
    routine.Serves weaker tenure := by
  induction routine generalizing tenure with
  | done value => exact implies _ _ serves
  | fail fault => exact implies _ _ serves
  | step update next induction =>
      intro world fits
      obtain ⟨after, changes, rest⟩ := serves world fits
      exact ⟨after, changes, induction world rest⟩
  | emit event next induction => exact induction serves
  | call request next induction =>
      cases request with
      | driver =>
          obtain ⟨permits, rest⟩ := serves
          exact ⟨permits, fun answer generated trusts =>
            induction answer (rest answer generated trusts)⟩
      | makeGuest | guest => exact fun answer => induction answer (serves answer)
  | aside memo next induction =>
      exact Tenure.Writes.mono serves fun after rest => induction () rest

theorem serves_look {read : World → α}
    (holds : ∀ world, tenure.Fits world → post (.ok (read world)) tenure) :
    (look read : Routine memos α).Serves post tenure :=
  fun world fits => ⟨tenure, .other rfl rfl rfl rfl, holds world fits⟩

/-- A call that executes nothing and makes no statement changes nothing of what a client
has. -/
theorem serves_quiet (request : DriverCall) (quiet : request.isQuiet = true)
    {post : Except Fault request.Answer → Tenure → Prop}
    (holds : ∀ answer, post answer tenure) :
    (drive request : Routine memos request.Answer).Serves post tenure := by
  rw [serves_drive]
  refine ⟨Tenure.permits_of_quiet quiet, fun answer generated _ => ?_⟩
  rw [Tenure.hear_of_quiet quiet]
  exact holds answer

/-- Serves and changes nothing of what a client has. -/
def Leaves (tenure : Tenure) (routine : Routine memos α) : Prop :=
  routine.Serves (fun _ after => after = tenure) tenure

/-- Serves, keeps what it holds, and returns only what is confirmed by what its statements
generated. -/
def Supplies (confirms : α → List Generated → Prop) (tenure : Tenure)
    (routine : Routine memos α) : Prop :=
  routine.Serves (fun outcome after => tenure.Within after ∧
    ∀ value, outcome = .ok value → confirms value after.marks.born) tenure

/-- Serves and keeps what it holds. -/
abbrev Remains (tenure : Tenure) (routine : Routine memos α) : Prop :=
  routine.Supplies (fun _ _ => True) tenure

theorem remains_iff {routine : Routine memos α} :
    routine.Remains tenure ↔
      routine.Serves (fun _ after => tenure.Within after) tenure := by
  constructor
  · intro remains
    exact remains.mono fun _ _ kept => kept.1
  · intro serves
    exact serves.mono fun _ _ within => ⟨within, fun _ _ => trivial⟩

/-- What a routine leaves is the beginning of what the next one keeps. -/
theorem Remains.bind {first : Routine memos β} {second : β → Routine memos α}
    (before : first.Remains tenure)
    (after : ∀ value (tenure : Tenure), (second value).Remains tenure) :
    (first.bind second).Remains tenure := by
  refine remains_iff.mpr (serves_bind.mpr ((remains_iff.mp before).mono ?_))
  intro outcome middle within
  cases outcome with
  | error fault => exact within
  | ok value =>
      apply (remains_iff.mp (after value middle)).mono
      intro outcome last within'
      exact within.trans within'

end Routine

end Midrange
