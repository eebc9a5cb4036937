import Mathlib.Data.List.Nodup
import Midrange.Proofs.Custody.Fleet
import Midrange.Proofs.Reach

/-!
# The account of connections

In every run of a fleet each opened connection is in exactly one place: idle,
with one task, or given to the driver for closing.  The driver closes it once at
most, and exactly once when the pool is closed and every task is over.
-/

namespace Midrange

/-- A closed pool hands nothing out, and nothing is said to the driver. -/
theorem Pool.run_withConnection_of_closed {caller : Caller} {σ α : Type}
    (outside : Outside caller σ) {pool : Nat} {world : World}
    (closed : (world.pools pool).closed = true)
    (use : Connection → Routine caller α) (state : σ) :
    (withConnection pool use).run outside world state =
      ⟨.error Misuse.poolClosed.fault, world, state, []⟩ := by
  simp [withConnection, checkout, takeIdle, Routine.atomic, Routine.refuse,
    Routine.run, Routine.bind, closed]

namespace Fleet

/-- How many times the driver was told to close a connection. -/
def closes (fleet : Fleet) (connection : Connection) : Nat :=
  (fleet.trail connection).countP Signal.isClose

/-- The account of the connections of a fleet. -/
structure Accounted (pool : Nat) (capacity : Int) (fleet : Fleet) : Prop where
  /-- The opened connections are those that have a place. -/
  opened : ∀ connection, fleet.place connection ≠ .unopened ↔
    0 < connection.number ∧ connection.number ≤ fleet.world.openedCount
  /-- An idle connection is idle once, and no other connection is. -/
  idle : ∀ connection, (Fleet.idle pool fleet.world).count connection =
    if fleet.place connection = .idle then 1 else 0
  /-- A connection is with a task that is not over. -/
  inUse : ∀ connection task,
    fleet.place connection = .held task ∨ fleet.place connection = .leaving task →
    ∃ routine, fleet.tasks[task]? = some routine ∧ isOver routine = false
  /-- A connection that has no number yet is with a task that is not over. -/
  arriving : ∀ task, 0 < (fleet.pens task).arriving →
    ∃ routine, fleet.tasks[task]? = some routine ∧ isOver routine = false
  /-- The connections that were closed are those given to the driver, and each was
  closed once. -/
  closed : ∀ connection, fleet.closes connection =
    if fleet.place connection = .closed then 1 else 0
  /-- The next call of a task is on a connection that it holds, or closes one that
  it took when it closed the pool, or goes on with a verb of a scope on the connection of
  the scope; if the scope runs, the task that runs it holds that connection. -/
  calls : ∀ (task : Nat) (request : DriverCall)
    (next : Except Fault request.Answer → Routine journal Unit),
    fleet.tasks[task]? = some (.call (.driver request) next) →
      request = .locate ∨ (∃ target, request = .connect target) ∨
        ∃ connection,
          request.connection? (fleet.pens task).made = some connection ∧
          (fleet.place connection = .held task ∨
            request = .close connection ∧ fleet.place connection = .leaving task ∨
            request.isClose = false ∧ ∃ scope, fleet.inFlight? task = some scope ∧
              (fleet.world.scopes scope).connection = connection ∧
              ∀ owner, fleet.runner scope = some owner →
                fleet.place connection = .held owner)
  /-- No task is about to close the connection of a scope that runs. -/
  spared : ∀ (task : Nat) (connection : Connection)
    (next : Except Fault Unit → Routine journal Unit),
    fleet.tasks[task]? = some (.call (.driver (.close connection)) next) →
      ∀ scope owner, fleet.runner scope = some owner →
        (fleet.world.scopes scope).connection ≠ connection
  /-- The idle connections never exceed the capacity. -/
  room : ((Fleet.idle pool fleet.world).length : Int) ≤ max 0 capacity
  /-- A closed pool has no idle connections. -/
  shut : (fleet.world.pools pool).closed = true → Fleet.idle pool fleet.world = []
  /-- A closed pool stays closed and refuses every use without a call. -/
  refused : (fleet.world.pools pool).closed = true →
    ∀ (moves : List (Move pool)) {caller : Caller} {σ α : Type} (outside : Outside caller σ)
      (use : Connection → Routine caller α) (state : σ),
      (Pool.withConnection pool use).run outside (play pool fleet moves).world state =
        ⟨.error Misuse.poolClosed.fault, (play pool fleet moves).world, state, []⟩
  /-- When every task is over, every connection that the driver opened has its
  number, and if the pool is closed, each of them was closed once. -/
  settled : fleet.isOverAll = true → (∀ task, (fleet.pens task).arriving = 0) ∧
    ((fleet.world.pools pool).closed = true → ∀ connection,
      0 < connection.number → connection.number ≤ fleet.world.openedCount →
      fleet.closes connection = 1)

theorem Accords.accounted {pool : Nat} {capacity : Int} {tended : Prop} {fleet : Fleet}
    {hands : Nat → Hand} (accords : fleet.Accords pool capacity tended hands) :
    fleet.Accounted pool capacity where
  opened := accords.places.opened
  idle := by
    intro connection
    by_cases here : fleet.place connection = .idle
    · rw [if_pos here]
      exact List.nodup_iff_count_eq_one.mp accords.places.apart connection
        ((accords.places.idle connection).mpr here)
    · rw [if_neg here]
      exact List.count_eq_zero.mpr
        fun member => here ((accords.places.idle connection).mp member)
  inUse := fun connection task => accords.busy
  arriving := by
    intro task pending
    apply accords.atWork
    intro empty
    rw [← accords.pens task, empty.arriving] at pending
    exact Nat.lt_irrefl 0 pending
  closed := accords.closings
  calls := by
    intro task request next here
    rcases accords.nextCall here with locate | connect | ⟨connection, owned, calls⟩
    · exact .inl locate
    · exact .inr (.inl connect)
    · refine .inr (.inr ⟨connection, owned, ?_⟩)
      refine calls.imp_right (Or.imp_right ?_)
      rintro ⟨notClose, scope, flies, rfl⟩
      exact ⟨notClose, scope, flies, rfl, fun owner => accords.held_of_runner⟩
  spared := fun _ _ _ here _ _ => accords.spared here
  room := by
    have room := accords.places.room
    omega
  shut := accords.places.shut
  refused := by
    intro closed moves caller σ α outside use state
    obtain ⟨_, _, outlives⟩ := accords.bare.play moves False.elim
    exact Pool.run_withConnection_of_closed outside (outlives.closed pool closed) use
      state
  settled := by
    intro finished
    have empty (task : Nat) : (hands task).Empty := by
      by_contra busy
      obtain ⟨routine, here, goesOn⟩ := accords.atWork busy
      have done := List.all_eq_true.mp finished routine (List.mem_of_getElem? here)
      simp [goesOn] at done
    refine ⟨fun task => ?_, ?_⟩
    · rw [← accords.pens task]
      exact (empty task).arriving
    · intro closed connection positive bound
      refine (accords.closings connection).trans (if_pos ?_)
      have opened := (accords.places.opened connection).mpr ⟨positive, bound⟩
      cases here : fleet.place connection with
      | unopened => exact (opened here).elim
      | idle =>
          have member := (accords.places.idle connection).mpr here
          rw [accords.places.shut closed] at member
          exact (List.not_mem_nil member).elim
      | held task =>
          exact ((accords.places.held task connection).mpr here
            ((empty task).held connection)).elim
      | leaving task =>
          have member := (accords.places.leaving task connection).mpr here
          rw [(empty task).leaving] at member
          exact (List.not_mem_nil member).elim
      | closed => rfl

/-- In every run of a fleet the connections are accounted for. -/
theorem play_accounted (pool : Nat) (settings : Pool) (moves : List (Move pool)) :
    (play pool (start pool settings) moves).Accounted pool settings.maxIdle := by
  obtain ⟨hands, accords⟩ := play_accords pool False settings moves False.elim
  exact accords.accounted

/-- A close that is cancelled leaves the other idle connection open for good, and a
connection can be closed while a verb of its ended scope is in flight on it. -/
theorem close_cancelled_undercut :
    let cancelled : Fault := .outside .cancelled "stop"
    let outside : Outside journal Rehearsal :=
      { answer := Rehearsal.answer, reply := fun _ rehearsal => ((), rehearsal) }
    let world : World := { pools := fun _ => { idle := [⟨2⟩, ⟨1⟩] }, openedCount := 2 }
    let run := (Pool.close 0).run outside world (Rehearsal.arm "close" cancelled 0 1 {})
    let fleet := play 0 (start 0 {}) (latecomer ++ .join (.close (.pool 0)) rfl :: steps 0 2 3)
    (run.outcome = .error cancelled ∧ exchanges run.trace = [⟨.close ⟨1⟩, .error cancelled⟩] ∧
      (run.world.pools 0).closed = true ∧ (run.world.pools 0).idle = []) ∧
      fleet.place ⟨1⟩ = .closed ∧ fleet.closes ⟨1⟩ = 1 ∧ fleet.inFlight? 1 = some 0 ∧
      (fleet.world.scopes 0).connection = ⟨1⟩ :=
  ⟨⟨rfl, rfl, rfl, rfl⟩, rfl, rfl, rfl, rfl⟩

end Fleet

end Midrange
