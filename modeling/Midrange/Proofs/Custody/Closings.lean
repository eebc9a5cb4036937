import Midrange.Proofs.Custody.Places

/-!
# Closing connections

`Closings` counts the closes in the trail of every connection, whatever else is said on
it: one if the connection was given to the driver for closing, and else none.
-/

namespace Midrange

/-- A connection that was closed was closed once, and no other was. -/
def Closings (place : Connection → Whereabouts) (trail : Connection → List Signal) : Prop :=
  ∀ connection, (trail connection).countP Signal.isClose =
    if place connection = .closed then 1 else 0

namespace Closings

variable {pool task : Nat} {capacity : Int} {world next : World}
  {place : Connection → Whereabouts} {trail : Connection → List Signal}
  {hands : Nat → Hand} {after : Hand}

theorem say {connection : Connection} {signal : Signal} (closings : Closings place trail)
    (notClose : signal.isClose = false) :
    Closings place
      (Function.update trail connection (trail connection ++ [signal])) := by
  intro other
  by_cases same : other = connection
  · subst same
    simpa [notClose] using closings other
  · rw [Function.update_of_ne same]
    exact closings other

theorem close {connection : Connection} {signal : Signal} (closings : Closings place trail)
    (goesOn : place connection ≠ .closed) (close : signal.isClose = true) :
    Closings (Function.update place connection .closed)
      (Function.update trail connection (trail connection ++ [signal])) := by
  intro other
  by_cases same : other = connection
  · subst same
    have before := closings other
    rw [if_neg goesOn] at before
    simp [before, close]
  · rw [Function.update_of_ne same, Function.update_of_ne same]
    exact closings other

/-- What a task says to the driver leaves the closings in order. -/
theorem hears {request : DriverCall} {answer : Except Fault request.Answer}
    (closings : Closings place trail) (places : Places pool capacity world place hands)
    (hears : (hands task).Hears pool request answer after) :
    Closings (Fleet.locateAfter place request)
      (Fleet.trailAfter task (hands task).pen request answer trail) := by
  have goesOn (notClose : request.isClose = false) :
      Closings (Fleet.locateAfter place request)
        (Fleet.trailAfter task (hands task).pen request answer trail) := by
    rw [Places.locateAfter_of_not_isClose notClose, Fleet.trailAfter]
    split
    · exact closings
    · exact closings.say (by rw [Pen.isClose_signal, notClose])
  cases hears with
  | locate | connect => exact goesOn rfl
  | state _ _ _ notClose | speak _ _ _ notClose => exact goesOn notClose
  | @discard connection _ _ _ _ held =>
      have here := (places.held task connection).mp (by simp [held])
      exact closings.close (by simp [here]) (by rw [Pen.isClose_signal]; rfl)
  | @dismiss connection _ _ _ leaving =>
      have here := (places.leaving task connection).mp (by simp [leaving])
      exact closings.close (by simp [here]) (by rw [Pen.isClose_signal]; rfl)

/-- What a task writes down leaves the closings in order. -/
theorem notes (entry : Note) (closings : Closings place trail) :
    Closings place (Fleet.trailNoted world entry trail) := by
  rw [Fleet.trailNoted]
  split
  · exact closings
  · next scope signal mark =>
      refine closings.say ?_
      unfold Fleet.markOf at mark
      split at mark <;> cases mark <;> rfl

end Closings

/-- A change of the shared state closes no connection. -/
theorem Places.locate_eq_closed {pool task : Nat} {capacity : Int} {world next : World}
    {place : Connection → Whereabouts} {hands : Nat → Hand} {after : Hand}
    (places : Places pool capacity world place hands)
    (changes : (hands task).Changes pool world next after) (connection : Connection) :
    Fleet.locate pool task world next place connection = .closed ↔
      place connection = .closed := by
  have replaced {given : Connection} {there : Whereabouts} (goesOn : place given ≠ .closed)
      (unclosed : there ≠ .closed) :
      Function.update place given there connection = .closed ↔ place connection = .closed := by
    by_cases same : connection = given
    · simp [same, goesOn, unclosed]
    · simp [same]
  cases changes with
  | look | heed => rw [places.locate_same world rfl rfl]
  | @take given _ running offered =>
      have here := (places.idle given).mp (by simp [Fleet.idle, offered])
      rw [places.locate_take running offered]
      exact replaced (by simp [here]) (by simp)
  | @put given _ running room held =>
      have here := (places.held task given).mp (by simp [held])
      rw [places.locate_put running]
      exact replaced (by simp [here]) (by simp)
  | opened =>
      have here : place world.addConnection.1 = .unopened := by
        by_contra opened
        have bound := ((places.opened _).mp opened).2
        exact Nat.not_succ_le_self _ bound
      rw [places.locate_openNew]
      exact replaced (by simp [here]) (by simp)
  | enter => rw [places.locate_same (world.addScope _).2 rfl rfl]
  | leave => rw [places.locate_same (world.changeScope _ _) rfl rfl]
  | shut none =>
      rw [Places.locate_closePool]
      by_cases idle : connection ∈ Fleet.idle pool world
      · simp [idle, (places.idle connection).mp idle]
      · simp [idle]

theorem Closings.changes {pool task : Nat} {capacity : Int} {world next : World}
    {place : Connection → Whereabouts} {trail : Connection → List Signal}
    {hands : Nat → Hand} {after : Hand} (closings : Closings place trail)
    (places : Places pool capacity world place hands)
    (changes : (hands task).Changes pool world next after) :
    Closings (Fleet.locate pool task world next place) trail := by
  intro connection
  simp only [places.locate_eq_closed changes]
  exact closings connection

end Midrange
