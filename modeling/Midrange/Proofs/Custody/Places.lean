import Midrange.Proofs.Custody

/-!
# The places of connections

Every connection is where some task, the pool or nobody has it.  `Places` says
that the places observed of a fleet are those, that the idle connections never
exceed the capacity, and that a closed pool has none.
-/

namespace Midrange

/-- The places of the connections agree with the idle ones and with what the
tasks have in hand. -/
structure Places (pool : Nat) (capacity : Int) (world : World)
    (place : Connection → Whereabouts) (hands : Nat → Hand) : Prop where
  idle : ∀ connection, connection ∈ Fleet.idle pool world ↔
    place connection = .idle
  held : ∀ task connection, (hands task).held connection ≠ none ↔
    place connection = .held task
  leaving : ∀ task connection, connection ∈ (hands task).leaving ↔
    place connection = .leaving task
  opened : ∀ connection, place connection ≠ .unopened ↔
    0 < connection.number ∧ connection.number ≤ world.openedCount
  apart : (Fleet.idle pool world).Nodup
  once : ∀ task, (hands task).leaving.Nodup
  limit : (world.pools pool).maxIdle = capacity
  room : (Fleet.idle pool world).length ≤ capacity.toNat
  shut : (world.pools pool).closed = true → Fleet.idle pool world = []

namespace Places

variable {pool task : Nat} {capacity : Int} {world next : World}
  {place : Connection → Whereabouts} {hands : Nat → Hand}
  {connection : Connection} {stage : Stage} {after : Hand}

/-- A connection is held by one task at most. -/
theorem sole {other : Nat} {last : Stage}
    (places : Places pool capacity world place hands)
    (first : (hands task).held connection = some stage)
    (second : (hands other).held connection = some last) : task = other := by
  have here := (places.held task connection).mp (by simp [first])
  have there := (places.held other connection).mp (by simp [second])
  simpa [here] using there

/-- A task changes the places of connections, none of them in the hands of other
tasks before or afterwards. -/
theorem relocate {places' : Connection → Whereabouts}
    (places : Places pool capacity world place hands)
    (others : ∀ other connection, other ≠ task →
      (places' connection = .held other ↔ place connection = .held other) ∧
      (places' connection = .leaving other ↔ place connection = .leaving other))
    (idle : ∀ connection, connection ∈ Fleet.idle pool next ↔
      places' connection = .idle)
    (held : ∀ connection, after.held connection ≠ none ↔
      places' connection = .held task)
    (leaving : ∀ connection, connection ∈ after.leaving ↔
      places' connection = .leaving task)
    (opened : ∀ connection, places' connection ≠ .unopened ↔
      0 < connection.number ∧ connection.number ≤ next.openedCount)
    (apart : (Fleet.idle pool next).Nodup)
    (once : after.leaving.Nodup)
    (limit : (next.pools pool).maxIdle = capacity)
    (room : (Fleet.idle pool next).length ≤ capacity.toNat)
    (shut : (next.pools pool).closed = true → Fleet.idle pool next = []) :
    Places pool capacity next places' (assign hands task after) where
  idle := idle
  held := by
    intro other connection
    by_cases same : other = task
    · subst same
      rw [assign_self, held]
    · rw [assign_of_ne _ _ same, places.held, (others other connection same).1]
  leaving := by
    intro other connection
    by_cases same : other = task
    · subst same
      rw [assign_self, leaving]
    · rw [assign_of_ne _ _ same, places.leaving, (others other connection same).2]
  opened := opened
  apart := apart
  once := by
    intro other
    by_cases same : other = task
    · subst same
      rw [assign_self]
      exact once
    · rw [assign_of_ne _ _ same]
      exact places.once other
  limit := limit
  room := room
  shut := shut

/-- Only what a task holds and closes has to do with places. -/
theorem of_eq (places : Places pool capacity world place hands)
    (pools : next.pools = world.pools) (count : next.openedCount = world.openedCount)
    (held : ∀ connection, after.held connection = none ↔
      (hands task).held connection = none)
    (leaving : after.leaving = (hands task).leaving) :
    Places pool capacity next place (assign hands task after) := by
  have idle : Fleet.idle pool next = Fleet.idle pool world := by
    rw [Fleet.idle, Fleet.idle, pools]
  apply places.relocate (fun _ _ _ => ⟨Iff.rfl, Iff.rfl⟩)
  · rw [idle]
    exact places.idle
  · intro connection
    rw [← places.held, ne_eq, held]
  · rw [leaving]
    exact places.leaving task
  · rw [count]
    exact places.opened
  · rw [idle]
    exact places.apart
  · rw [leaving]
    exact places.once task
  · rw [pools]
    exact places.limit
  · rw [idle]
    exact places.room
  · rw [idle, pools]
    exact places.shut

/-- A task changes the place of one connection, which no other task has. -/
theorem replace {there : Whereabouts}
    (places : Places pool capacity world place hands)
    (mine : ∀ other, other ≠ task →
      place connection ≠ .held other ∧ place connection ≠ .leaving other ∧
        there ≠ .held other ∧ there ≠ .leaving other)
    (idle : connection ∈ Fleet.idle pool next ↔ there = .idle)
    (held : after.held connection ≠ none ↔ there = .held task)
    (leaving : connection ∈ after.leaving ↔ there = .leaving task)
    (opened : there ≠ .unopened ↔
      0 < connection.number ∧ connection.number ≤ next.openedCount)
    (elsewhere : ∀ other, other ≠ connection →
      (other ∈ Fleet.idle pool next ↔ other ∈ Fleet.idle pool world) ∧
        (after.held other ≠ none ↔ (hands task).held other ≠ none) ∧
        (other ∈ after.leaving ↔ other ∈ (hands task).leaving) ∧
        (other.number ≤ next.openedCount ↔ other.number ≤ world.openedCount))
    (apart : (Fleet.idle pool next).Nodup)
    (once : after.leaving.Nodup)
    (limit : (next.pools pool).maxIdle = capacity)
    (room : (Fleet.idle pool next).length ≤ capacity.toNat)
    (shut : (next.pools pool).closed = true → Fleet.idle pool next = []) :
    Places pool capacity next (Function.update place connection there)
      (assign hands task after) := by
  refine places.relocate ?_ ?_ ?_ ?_ ?_ apart once limit room shut
  · intro other last different
    by_cases same : last = connection
    · subst same
      obtain ⟨unheld, kept, unheld', kept'⟩ := mine other different
      simp [unheld, kept, unheld', kept']
    · simp [same]
  · intro other
    by_cases same : other = connection
    · rw [same, Function.update_self]
      exact idle
    · rw [Function.update_of_ne same, (elsewhere other same).1]
      exact places.idle other
  · intro other
    by_cases same : other = connection
    · rw [same, Function.update_self]
      exact held
    · rw [Function.update_of_ne same, (elsewhere other same).2.1]
      exact places.held task other
  · intro other
    by_cases same : other = connection
    · rw [same, Function.update_self]
      exact leaving
    · rw [Function.update_of_ne same, (elsewhere other same).2.2.1]
      exact places.leaving task other
  · intro other
    by_cases same : other = connection
    · rw [same, Function.update_self]
      exact opened
    · rw [Function.update_of_ne same, (elsewhere other same).2.2.2]
      exact places.opened other

/-- The number of a connection that has a place. -/
theorem number (places : Places pool capacity world place hands)
    (placed : place connection ≠ .unopened) :
    0 < connection.number ∧ connection.number ≤ world.openedCount :=
  (places.opened connection).mp placed

theorem take {rest : List Connection}
    (places : Places pool capacity world place hands)
    (running : (world.pools pool).closed = false)
    (offered : (world.pools pool).idle = connection :: rest) :
    Places pool capacity
      (world.changePool pool fun pool => { pool with idle := rest })
      (Function.update place connection (.held task))
      (assign hands task ((hands task).hold connection (.said []))) := by
  have now : Fleet.idle pool (world.changePool pool fun pool =>
      { pool with idle := rest }) = rest := by
    simp [Fleet.idle, World.changePool]
  have before : Fleet.idle pool world = connection :: rest := offered
  have here : place connection = .idle := by
    rw [← places.idle, before]
    exact List.mem_cons_self
  have apart := places.apart
  have room := places.room
  rw [before, List.nodup_cons] at apart
  rw [before, List.length_cons] at room
  apply places.replace
  · intro other different
    simp [here, Ne.symm different]
  · simp [now, apart.1]
  · simp
  · have unmoved := places.leaving task connection
    simpa [here] using unmoved
  · have placed : place connection ≠ .unopened := by simp [here]
    exact ⟨fun _ => places.number placed, fun _ => by simp⟩
  · intro other different
    exact ⟨by simp [now, before, different], by simp [different], Iff.rfl, Iff.rfl⟩
  · rw [now]
    exact apart.2
  · exact places.once task
  · simpa [World.changePool] using places.limit
  · rw [now]
    omega
  · simp [World.changePool, running]

theorem put (places : Places pool capacity world place hands)
    (running : (world.pools pool).closed = false)
    (room : ((world.pools pool).idle.length : Int) < (world.pools pool).maxIdle)
    (held : (hands task).held connection ≠ none) :
    Places pool capacity
      (world.changePool pool fun pool =>
        { pool with idle := connection :: pool.idle })
      (Function.update place connection .idle)
      (assign hands task ((hands task).release connection)) := by
  have now : Fleet.idle pool (world.changePool pool fun pool =>
      { pool with idle := connection :: pool.idle }) =
        connection :: Fleet.idle pool world := by
    simp [Fleet.idle, World.changePool]
  have here := (places.held task connection).mp held
  have busy : connection ∉ Fleet.idle pool world := by
    rw [places.idle, here]
    simp
  have limit := places.limit
  apply places.replace
  · intro other different
    simp [here, Ne.symm different]
  · simp [now]
  · simp
  · have unmoved := places.leaving task connection
    simpa [here] using unmoved
  · have placed : place connection ≠ .unopened := by simp [here]
    exact ⟨fun _ => places.number placed, fun _ => by simp⟩
  · intro other different
    exact ⟨by simp [now, different], by simp [different], Iff.rfl, Iff.rfl⟩
  · rw [now]
    exact List.nodup_cons.mpr ⟨busy, places.apart⟩
  · exact places.once task
  · simpa [World.changePool] using limit
  · rw [now, List.length_cons, Fleet.idle]
    omega
  · simp [World.changePool, running]

theorem openNew {arriving : Nat} (places : Places pool capacity world place hands) :
    Places pool capacity world.addConnection.2
      (Function.update place world.addConnection.1 (.held task))
      (assign hands task
        (((hands task).hold world.addConnection.1 (.said [])).expect arriving)) := by
  have fresh : place world.addConnection.1 = .unopened := by
    by_contra placed
    have bound := (places.number placed).2
    exact Nat.not_succ_le_self _ bound
  apply places.replace
  · intro other different
    simp [fresh, Ne.symm different]
  · have unmoved := places.idle world.addConnection.1
    simp only [fresh, reduceCtorEq, iff_false] at unmoved
    exact iff_of_false unmoved (by simp)
  · simp
  · have unmoved := places.leaving task world.addConnection.1
    simpa [fresh] using unmoved
  · simp [World.addConnection]
  · intro other different
    have unlike : other.number ≠ world.openedCount + 1 := by
      rintro same
      apply different
      cases other
      simpa [World.addConnection] using same
    refine ⟨Iff.rfl, by simp [different], Iff.rfl, ?_⟩
    simp only [World.addConnection]
    omega
  · exact places.apart
  · exact places.once task
  · exact places.limit
  · exact places.room
  · exact places.shut

theorem closePool (places : Places pool capacity world place hands)
    (none : (hands task).leaving = []) :
    Places pool capacity (Pool.shut pool world).2
      (fun connection => if connection ∈ Fleet.idle pool world then .leaving task
        else place connection)
      (assign hands task { hands task with leaving := (Pool.shut pool world).1 }) := by
  have free (connection : Connection) : place connection ≠ .leaving task := by
    rw [ne_eq, ← places.leaving, none]
    exact List.not_mem_nil
  have now : Fleet.idle pool (Pool.shut pool world).2 = [] := by
    simp [Fleet.idle, Pool.shut, World.changePool]
  apply places.relocate
  · intro other connection different
    by_cases idle : connection ∈ Fleet.idle pool world
    · simp [idle, (places.idle connection).mp idle, Ne.symm different]
    · simp [idle]
  · intro connection
    by_cases idle : connection ∈ Fleet.idle pool world
    · simp [now, idle]
    · have unmoved := places.idle connection
      simpa [now, idle] using unmoved
  · intro connection
    rw [places.held]
    by_cases idle : connection ∈ Fleet.idle pool world
    · simp [idle, (places.idle connection).mp idle]
    · simp [idle]
  · intro connection
    have taken : connection ∈ (Pool.shut pool world).1 ↔
        connection ∈ Fleet.idle pool world := List.mem_reverse
    by_cases idle : connection ∈ Fleet.idle pool world
    · simp [taken, idle]
    · simp [taken, idle, free]
  · intro connection
    have count : (Pool.shut pool world).2.openedCount = world.openedCount := rfl
    rw [count]
    by_cases idle : connection ∈ Fleet.idle pool world
    · have placed : place connection ≠ .unopened := by
        simp [(places.idle connection).mp idle]
      simpa [idle] using places.number placed
    · simpa [idle] using places.opened connection
  · simp [now]
  · exact (List.reverse_perm _).nodup_iff.mpr places.apart
  · simpa [Pool.shut, World.changePool] using places.limit
  · simp [now]
  · simp [now]

theorem close (places : Places pool capacity world place hands)
    (mine : place connection = .held task ∨ place connection = .leaving task)
    (held : ∀ other, after.held other ≠ none ↔
      other ≠ connection ∧ (hands task).held other ≠ none)
    (leaving : ∀ other, other ∈ after.leaving ↔
      other ≠ connection ∧ other ∈ (hands task).leaving)
    (once : after.leaving.Nodup) :
    Places pool capacity world (Function.update place connection .closed)
      (assign hands task after) := by
  refine places.replace ?_ ?_ ?_ ?_ ?_ ?_ places.apart once places.limit places.room
    places.shut
  · intro other different
    rcases mine with here | here <;> simp [here, Ne.symm different]
  · rw [places.idle]
    rcases mine with here | here <;> simp [here]
  · simp [held]
  · simp [leaving]
  · have placed : place connection ≠ .unopened := by
      rcases mine with here | here <;> simp [here]
    exact ⟨fun _ => places.number placed, fun _ => by simp⟩
  · intro other different
    simp [held, leaving, different]

/-! ## Locating connections -/

theorem locate_same (places : Places pool capacity world place hands) (next : World)
    (pools : next.pools = world.pools) (count : next.openedCount = world.openedCount) :
    Fleet.locate pool task world next place = place := by
  funext connection
  have := places.idle connection
  have idle : Fleet.idle pool next = Fleet.idle pool world := by
    rw [Fleet.idle, Fleet.idle, pools]
  rw [Fleet.locate, idle, count]
  grind

theorem locate_take {rest : List Connection}
    (places : Places pool capacity world place hands)
    (running : (world.pools pool).closed = false)
    (offered : (world.pools pool).idle = connection :: rest) :
    Fleet.locate pool task world
      (world.changePool pool fun pool => { pool with idle := rest }) place =
        Function.update place connection (.held task) := by
  have apart := places.apart
  simp only [Fleet.idle, offered] at apart
  funext other
  have := places.idle other
  simp only [Fleet.idle, Fleet.locate, World.changePool, assign_self, offered,
    running] at this ⊢
  grind [Function.update_apply]

theorem locate_put (places : Places pool capacity world place hands)
    (running : (world.pools pool).closed = false) :
    Fleet.locate pool task world
      (world.changePool pool fun pool =>
        { pool with idle := connection :: pool.idle }) place =
        Function.update place connection .idle := by
  funext other
  have := places.idle other
  simp only [Fleet.idle, Fleet.locate, World.changePool, assign_self,
    running] at this ⊢
  grind [Function.update_apply]

theorem locate_openNew (places : Places pool capacity world place hands) :
    Fleet.locate pool task world world.addConnection.2 place =
      Function.update place world.addConnection.1 (.held task) := by
  funext other
  have := places.idle other
  have := places.opened other
  cases other
  simp only [Fleet.locate, World.addConnection] at this ⊢
  grind [Fleet.idle, Function.update_apply]

theorem locate_closePool :
    Fleet.locate pool task world (Pool.shut pool world).2 place =
      fun connection => if connection ∈ Fleet.idle pool world then .leaving task
        else place connection := by
  funext other
  simp only [Fleet.idle, Fleet.locate, Pool.shut, World.changePool, assign_self]
  grind

/-- What a task changes in the shared state leaves the places in order. -/
theorem changes (places : Places pool capacity world place hands)
    (changes : (hands task).Changes pool world next after) :
    Places pool capacity next (Fleet.locate pool task world next place)
      (assign hands task after) := by
  cases changes with
  | look | heed =>
      rw [places.locate_same world rfl rfl]
      exact places.of_eq rfl rfl (fun _ => Iff.rfl) rfl
  | take running offered =>
      rw [places.locate_take running offered]
      exact places.take running offered
  | put running room held =>
      rw [places.locate_put running]
      exact places.put running room (by simp [held])
  | opened =>
      rw [places.locate_openNew]
      exact places.openNew
  | @enter connection timeout held unscoped =>
      rw [places.locate_same (world.addScope _).2 rfl rfl]
      refine places.of_eq rfl rfl (fun other => ?_) rfl
      by_cases this : other = connection
      · simp [this, held]
      · simp [this]
  | leave running left =>
      rw [places.locate_same (world.changeScope _ _) rfl rfl]
      exact places.of_eq rfl rfl (fun _ => Iff.rfl) rfl
  | shut none =>
      rw [locate_closePool]
      exact places.closePool none

theorem locateAfter_of_not_isClose {request : DriverCall}
    (notClose : request.isClose = false) : Fleet.locateAfter place request = place := by
  cases request <;> first | rfl | cases notClose

/-- What a task says to the driver leaves the places in order. -/
theorem hears {request : DriverCall} {answer : Except Fault request.Answer}
    (places : Places pool capacity world place hands)
    (hears : (hands task).Hears pool request answer after) :
    Places pool capacity world (Fleet.locateAfter place request)
      (assign hands task after) := by
  cases hears with
  | locate | connect => exact places.of_eq rfl rfl (fun _ => Iff.rfl) rfl
  | state _ _ _ notClose =>
      rw [locateAfter_of_not_isClose notClose]
      exact places.of_eq rfl rfl (fun _ => Iff.rfl) rfl
  | @speak _ connection _ _ _ _ notClose held =>
      rw [locateAfter_of_not_isClose notClose]
      refine places.of_eq rfl rfl (fun other => ?_) rfl
      by_cases this : other = connection
      · simp [this, held]
      · simp [this]
  | @discard connection _ _ _ _ held =>
      refine places.close ?_ ?_ ?_ (places.once task)
      · left
        rw [← places.held, held]
        exact Option.some_ne_none _
      · intro other
        by_cases same : other = connection
        · simp [same]
        · simp [same]
      · intro other
        have := places.leaving task other
        have := places.held task other
        grind [Hand.release]
  | dismiss _ _ leaving =>
      have once := places.once task
      rw [leaving, List.nodup_cons] at once
      refine places.close ?_ ?_ ?_ once.2
      · right
        rw [← places.leaving, leaving]
        exact List.mem_cons_self
      · intro other
        have := places.leaving task other
        have := places.held task other
        grind
      · intro other
        rw [leaving]
        grind

/-- What a task writes down leaves the places in order. -/
theorem notes {entry : Note} (places : Places pool capacity world place hands)
    (notes : (hands task).Notes entry after) :
    Places pool capacity world place (assign hands task after) := by
  cases notes with
  | verb | transaction | close =>
      exact places.of_eq rfl rfl (fun _ => Iff.rfl) rfl
  | @entered _ connection _ held | @left _ connection _ _ _ held =>
      refine places.of_eq rfl rfl (fun other => ?_) rfl
      by_cases this : other = connection
      · simp [this, held]
      · simp [this]

end Places

end Midrange
