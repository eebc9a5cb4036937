import Midrange.Proofs.Custody

/-!
# Custody in a pool

Between two of its own operations a task holds the connections of the scopes that it
runs and nothing else.  The operations of a pool keep custody, and afterwards the task
holds what it held before: that is `Hand.Advances`.
-/

namespace Midrange

/-- What a task has in hand between two of its operations: the connections of the scopes
that it runs. -/
structure Hand.Steady (hand : Hand) : Prop where
  leaving : hand.leaving = []
  running : ∀ scope connection, hand.scopes scope = some connection →
    hand.held connection = some (.running scope)
  quiet : hand.Quiet

/-- An operation leaves in hand what was there before. -/
structure Hand.Advances (before after : Hand) : Prop where
  arriving : after.pen.arriving = before.pen.arriving
  leaving : after.leaving = before.leaving
  scopes : after.scopes = before.scopes
  held : after.held = before.held
  quiet : after.Quiet

namespace Hand

variable {hand before middle after : Hand} {connection : Connection}

theorem Steady.unscoped (steady : hand.Steady)
    (free : hand.held connection = none) : hand.Unscoped connection := by
  intro scope own
  cases (steady.running scope connection own).symm.trans free

theorem Advances.refl (quiet : hand.Quiet) : hand.Advances hand :=
  ⟨rfl, rfl, rfl, rfl, quiet⟩

theorem Advances.trans (first : before.Advances middle)
    (second : middle.Advances after) : before.Advances after where
  arriving := second.arriving.trans first.arriving
  leaving := second.leaving.trans first.leaving
  scopes := second.scopes.trans first.scopes
  held := second.held.trans first.held
  quiet := second.quiet

theorem Advances.steady (advances : before.Advances after) (steady : before.Steady) :
    after.Steady where
  leaving := advances.leaving.trans steady.leaving
  running := by
    rw [advances.scopes, advances.held]
    exact steady.running
  quiet := advances.quiet

end Hand

/-! ## Connections -/

namespace Connection

variable {pool : Nat} {hand : Hand} {connection : Connection}
  {post : Except Fault Unit → Hand → Prop}

theorem tolerate_keeps {event : String → Event} {routine : Routine journal Unit}
    (keeps : routine.Keeps pool
      (fun outcome after => after.speech = none ∧ post (tolerated outcome) after) hand) :
    (tolerate event routine).Keeps pool post hand := by
  rw [tolerate, Routine.bind_eq, Routine.keeps_bind, Routine.keeps_attempt]
  apply keeps.mono
  rintro outcome after ⟨silent, holds⟩
  cases outcome with
  | ok => exact holds
  | error fault =>
      rw [Routine.ends_ok]
      by_cases ordinary : fault.isOrdinary = true
      · simpa [tolerated, ordinary, Routine.report, Routine.Keeps, silent] using holds
      · simpa [tolerated, ordinary] using holds

/-- A connection that a task has done with is given to the driver. -/
theorem closeQuietly_keeps {block : List Signal} {returned : Bool} (calm : hand.Calm)
    (held : hand.held connection = some (.said block))
    (used : Block pool connection returned block)
    (unscoped : hand.Unscoped connection)
    (holds : post (.ok ()) (hand.release connection)) :
    (connection.closeQuietly : Routine journal Unit).Keeps pool post hand := by
  apply tolerate_keeps
  intro answer ordinary
  refine ⟨_, .discard answer calm held used unscoped, ?_⟩
  cases answer with
  | ok => exact ⟨calm.silent, holds⟩
  | error fault =>
      refine ⟨calm.silent, ?_⟩
      simpa [tolerated, ordinary rfl fault rfl] using holds

/-- The connections of a closed pool are given to the driver one by one. -/
theorem forM_closeQuietly_keeps {connections : List Connection} (calm : hand.Calm)
    (leaving : hand.leaving = connections)
    (holds : post (.ok ()) { hand with leaving := [] }) :
    (connections.forM closeQuietly : Routine journal PUnit).Keeps pool post hand := by
  induction connections generalizing hand with
  | nil =>
      rw [← leaving] at holds
      exact holds
  | cons connection connections induction =>
      change (connection.closeQuietly.bind fun _ =>
        connections.forM closeQuietly).Keeps pool post hand
      rw [Routine.keeps_bind]
      apply tolerate_keeps
      intro answer ordinary
      refine ⟨_, .dismiss answer calm leaving, ?_⟩
      have rest : (connections.forM closeQuietly : Routine journal PUnit).Keeps pool
          post { hand with leaving := connections } :=
        induction ⟨calm.silent, calm.unscoped⟩ rfl holds
      cases answer with
      | ok => exact ⟨calm.silent, rest⟩
      | error fault =>
          refine ⟨calm.silent, ?_⟩
          simpa [tolerated, ordinary rfl fault rfl] using rest

end Connection

/-! ## Checking out and in -/

namespace Pool

variable {α : Type} {pool : Nat} {hand : Hand}

theorem checkout_keeps {post : Except Fault Connection → Hand → Prop} (calm : hand.Calm)
    (fails : ∀ fault, post (.error fault) hand)
    (takes : ∀ connection, hand.held connection = none →
      post (.ok connection) (hand.hold connection (.said []))) :
    (checkout pool : Routine journal Connection).Keeps pool post hand := by
  have opens : (openConnection pool : Routine journal Connection).Keeps pool
      post hand := by
    intro located _
    refine ⟨hand, .locate located, ?_⟩
    match located with
    | .error fault => exact fails fault
    | .ok false => exact fails _
    | .ok true =>
        refine ⟨calm.silent, fun world _ => ?_⟩
        refine ⟨hand, .look, fun answer _ => ⟨_, .connect _ answer, ?_⟩⟩
        cases answer with
        | error fault => exact fails fault
        | ok =>
            refine ⟨calm.silent, fun world fits => ?_⟩
            exact ⟨_, .opened rfl fits.fresh, takes _ fits.fresh⟩
  rw [checkout, Routine.bind_eq, Routine.keeps_bind]
  apply Routine.keeps_atomic calm.silent
  intro world fits
  by_cases closed : (world.pools pool).closed = true
  · refine ⟨hand, ?_, ?_⟩
    · simpa [takeIdle, closed] using Hand.Changes.look
    · simpa [takeIdle, closed, Routine.refuse] using fails _
  · have running : (world.pools pool).closed = false := by simpa using closed
    cases idle : (world.pools pool).idle with
    | nil =>
        refine ⟨hand, ?_, ?_⟩
        · simpa [takeIdle, running, idle] using Hand.Changes.look
        · simpa [takeIdle, running, idle] using opens
    | cons connection rest =>
        have free : hand.held connection = none :=
          fits.idle connection (by simp [Fleet.idle, idle])
        refine ⟨hand.hold connection (.said []), ?_, ?_⟩
        · simpa [takeIdle, running, idle] using Hand.Changes.take running idle free
        · simpa [takeIdle, running, idle] using takes connection free

theorem checkin_keeps {post : Except Fault Unit → Hand → Prop}
    {connection : Connection} {block : List Signal} (calm : hand.Calm)
    (held : hand.held connection = some (.said block))
    (used : Block pool connection true block) (unscoped : hand.Unscoped connection)
    (holds : post (.ok ()) (hand.release connection)) :
    (checkin pool connection : Routine journal Unit).Keeps pool post hand := by
  rw [checkin, Routine.bind_eq, Routine.keeps_bind]
  apply Routine.keeps_atomic calm.silent
  intro world _
  by_cases room : (world.pools pool).closed = false ∧
      ((world.pools pool).idle.length : Int) < (world.pools pool).maxIdle
  · refine ⟨hand.release connection, ?_, ?_⟩
    · simpa [putIdle, room] using
        Hand.Changes.put room.1 room.2 held used unscoped
    · simpa [putIdle, room] using holds
  · have full : (putIdle pool connection world) = (false, world) := by
      simp only [putIdle]
      rw [if_neg (by simpa using room)]
    rw [full]
    exact ⟨hand, .look, Connection.closeQuietly_keeps calm held used unscoped holds⟩

/-- A use of a connection ends with a block on it, which says whether the
connection goes back. -/
theorem withConnection_keeps {post : Except Fault α → Hand → Prop}
    {use : Connection → Routine journal α} (calm : hand.Calm)
    (fails : ∀ fault, post (.error fault) hand)
    (uses : ∀ connection, hand.held connection = none →
      (use connection).Keeps pool (fun outcome after =>
        ∃ block, after.Calm ∧ after.held connection = some (.said block) ∧
          Block pool connection outcome.isOk block ∧ after.Unscoped connection ∧
          post outcome (after.release connection)) (hand.hold connection (.said []))) :
    (withConnection pool use).Keeps pool post hand := by
  rw [withConnection, Routine.bind_eq, Routine.keeps_bind]
  apply checkout_keeps calm fails
  intro connection free
  rw [Routine.ends_ok, Routine.bind_eq, Routine.keeps_bind, Routine.keeps_attempt]
  refine (uses connection free).mono ?_
  rintro outcome after ⟨block, calm, held, used, unscoped, holds⟩
  cases outcome with
  | ok value =>
      refine Routine.keeps_bind.mpr (checkin_keeps calm held used unscoped ?_)
      simpa using holds
  | error fault =>
      refine Routine.keeps_bind.mpr
        (Connection.closeQuietly_keeps calm held used unscoped ?_)
      simpa using holds

end Pool

end Midrange
