import Midrange.Proofs.Custody.Courses
import Midrange.Proofs.Custody.Scopes

/-!
# The trails of connections

The trail of a connection that nobody holds is made of whole blocks, and the one of a
connection that a task holds has the course that the task has come to.  Nothing is said on
a connection after its scope was left and before that scope has ended.

All this is so as long as no verb of a scope is in flight unless the scope is running.
-/

namespace Midrange

/-- The trails of the connections agree with what the tasks have in hand. -/
structure Trails (pool : Nat) (world : World) (place : Connection → Whereabouts)
    (trail : Connection → List Signal) (hands : Nat → Hand) : Prop where
  unopened : ∀ connection, place connection = .unopened → trail connection = []
  idle : ∀ connection, place connection = .idle →
    Whole pool connection (trail connection)
  leaving : ∀ task connection, place connection = .leaving task →
    Whole pool connection (trail connection)
  held : ∀ task connection stage, (hands task).held connection = some stage →
    Course pool hands connection stage (trail connection)
  closed : ∀ connection, place connection = .closed →
    Sealed pool connection (trail connection)
  begun : ∀ task speech owner connection, (hands task).speech = some speech →
    (hands owner).held connection ≠ some (.entering speech.scope)
  marks : ∀ connection scope returned,
    .left scope returned ∈ trail connection →
      scope < world.scopeCount ∧ (world.scopes scope).connection = connection
  last : ∀ connection scope returned earlier later,
    trail connection = earlier ++ .left scope returned :: later →
    (world.scopes scope).active = true → later = []

/-- What is said in a scope is said on the connection that the scope runs on. -/
theorem Scopes.speech_connection {world : World} {runner : Nat → Option Nat}
    {hands : Nat → Hand} (scopes : Scopes world runner hands) {task other scope : Nat}
    {connection : Connection} {speech : Speech}
    (running : (hands task).held connection = some (.running scope))
    (said : (hands other).speech = some speech) (same : speech.scope = scope) :
    speech.connection = connection := by
  have owns := scopes.entered task scope connection _ running rfl
  rw [← (scopes.spoken other speech said).connection, same]
  exact (scopes.running task scope connection owns).2.2.1

namespace Trails

variable {pool task : Nat} {capacity : Int} {world next : World}
  {place : Connection → Whereabouts} {runner : Nat → Option Nat}
  {trail : Connection → List Signal} {hands : Nat → Hand}
  {connection : Connection} {stage now : Stage} {after : Hand}

/-- The task that has an active scope in hand that was left holds the connection. -/
theorem owner (trails : Trails pool world place trail hands)
    (scopes : Scopes world runner hands) {scope : Nat} {returned : Bool}
    (left : .left scope returned ∈ trail connection)
    (active : (world.scopes scope).active = true) :
    ∃ owner stage, (hands owner).scopes scope = some connection ∧
      (hands owner).held connection = some stage := by
  obtain ⟨owner, last, owns⟩ := scopes.owned scope active
  obtain ⟨_, _, target, holds⟩ := scopes.running owner scope last owns
  obtain rfl : connection = last :=
    (trails.marks connection scope returned left).2.symm.trans target
  obtain ⟨stage, held⟩ := Option.ne_none_iff_exists'.mp holds
  exact ⟨owner, stage, owns, held⟩

/-- The scopes that were left on a connection have ended before something is said on
it. -/
theorem quiet (trails : Trails pool world place trail hands)
    (places : Places pool capacity world place hands)
    (scopes : Scopes world runner hands)
    (held : (hands task).held connection = some stage)
    (before : ∀ earlier scope returned,
      trail connection = earlier ++ [.left scope returned] →
      (hands task).scopes scope ≠ some connection)
    {scope : Nat} {returned : Bool}
    (left : .left scope returned ∈ trail connection) :
    (world.scopes scope).active = false := by
  by_contra running
  have active : (world.scopes scope).active = true := by simpa using running
  obtain ⟨earlier, later, same⟩ := List.append_of_mem left
  obtain rfl := trails.last connection scope returned earlier later same active
  obtain ⟨owner, _, owns, holds⟩ := trails.owner scopes left active
  rw [places.sole holds held] at owns
  exact before earlier scope returned same owns

/-- Something is said on a connection; only the scope that was left is marked. -/
theorem marks_append {signal : Signal} (trails : Trails pool world place trail hands)
    (mark : ∀ scope returned, signal = .left scope returned →
      scope < world.scopeCount ∧ (world.scopes scope).connection = connection)
    {other : Connection} {scope : Nat} {returned : Bool}
    (left : .left scope returned ∈
      Function.update trail connection (trail connection ++ [signal]) other) :
    scope < world.scopeCount ∧ (world.scopes scope).connection = other := by
  by_cases same : other = connection
  · subst same
    rw [Function.update_self, List.mem_append, List.mem_singleton] at left
    rcases left with earlier | new
    · exact trails.marks other scope returned earlier
    · exact mark scope returned new.symm
  · rw [Function.update_of_ne same] at left
    exact trails.marks other scope returned left

/-- Something is said on a connection after the scopes that were left have ended. -/
theorem last_append {signal : Signal} (trails : Trails pool world place trail hands)
    (quiet : ∀ scope returned, .left scope returned ∈ trail connection →
      (world.scopes scope).active = false)
    {other : Connection} {scope : Nat} {returned : Bool} {earlier later : List Signal}
    (parts : Function.update trail connection (trail connection ++ [signal]) other =
      earlier ++ .left scope returned :: later)
    (active : (world.scopes scope).active = true) : later = [] := by
  by_cases same : other = connection
  · subst same
    rw [Function.update_self] at parts
    rcases List.eq_nil_or_concat later with none | ⟨start, final, rfl⟩
    · exact none
    · rw [List.concat_eq_append, ← List.cons_append, ← List.append_assoc] at parts
      have before := (List.append_inj' parts rfl).1
      have ended := quiet scope returned (by simp [before])
      simp [active] at ended
  · rw [Function.update_of_ne same] at parts
    exact trails.last other scope returned earlier later parts active

/-- A task that is done with its verb leaves the courses of the connections as they
are. -/
theorem course_hush {owner : Nat} {signals : List Signal} (scopes : Scopes world runner hands)
    (quiet : (hands task).Quiet) (silent : after.speech = none)
    (holds : (hands owner).held connection = some stage)
    (course : Course pool hands connection stage signals) :
    Course pool (assign hands task after) connection stage signals := by
  refine course.mono ?_
  rintro scope statements rfl progress
  exact progress.hush quiet silent fun speech said => scopes.speech_connection holds said

/-- A task is done with its verb of a scope. -/
theorem hush (trails : Trails pool world place trail hands)
    (scopes : Scopes world runner hands) (quiet : (hands task).Quiet)
    (held : after.held = (hands task).held) (silent : after.speech = none) :
    Trails pool world place trail (assign hands task after) where
  unopened := trails.unopened
  idle := trails.idle
  leaving := trails.leaving
  held := by
    intro owner connection stage holds
    rw [field_assign Hand.held held] at holds
    exact course_hush scopes quiet silent holds (trails.held owner connection stage holds)
  closed := trails.closed
  begun := by
    intro other speech owner connection said
    rw [field_assign Hand.held held]
    by_cases here : other = task
    · subst here
      rw [assign_self, silent] at said
      cases said
    · rw [assign_of_ne _ _ here] at said
      exact trails.begun other speech owner connection said
  marks := trails.marks
  last := trails.last

/-- A task finds a scope active. -/
theorem heed {speech : Speech} (trails : Trails pool world place trail hands)
    (held : after.held = (hands task).held) (silent : (hands task).speech = none)
    (now : after.speech = some speech) (fresh : speech.past = [])
    (entered : ∀ owner connection,
      (hands owner).held connection ≠ some (.entering speech.scope)) :
    Trails pool world place trail (assign hands task after) where
  unopened := trails.unopened
  idle := trails.idle
  leaving := trails.leaving
  held := by
    intro owner connection stage holds
    rw [field_assign Hand.held held] at holds
    refine (trails.held owner connection stage holds).mono ?_
    rintro scope statements rfl progress
    refine progress.of_current ?_
    simp [Hand.current, now, fresh, silent]
  closed := trails.closed
  begun := by
    intro other speech' owner connection said
    rw [field_assign Hand.held held]
    by_cases here : other = task
    · subst here
      rw [assign_self, now] at said
      cases said
      exact entered owner connection
    · rw [assign_of_ne _ _ here] at said
      exact trails.begun other speech' owner connection said
  marks := trails.marks
  last := trails.last

/-- Something is said on a connection that a task holds.  It stands in no trail of a
connection in another place. -/
theorem append {owner : Nat} {signal : Signal} {later : Nat → Hand}
    (trails : Trails pool world place trail hands) (here : place connection = .held owner)
    (quiet : ∀ scope returned, .left scope returned ∈ trail connection →
      (world.scopes scope).active = false)
    (mark : ∀ scope returned, signal = .left scope returned →
      scope < world.scopeCount ∧ (world.scopes scope).connection = connection)
    (held : ∀ task other stage, (later task).held other = some stage →
      Course pool later other stage
        (Function.update trail connection (trail connection ++ [signal]) other))
    (begun : ∀ task speech owner other, (later task).speech = some speech →
      (later owner).held other ≠ some (.entering speech.scope)) :
    Trails pool world place
      (Function.update trail connection (trail connection ++ [signal])) later := by
  have elsewhere {other : Connection} (free : place other ≠ .held owner) :
      Function.update trail connection (trail connection ++ [signal]) other =
        trail other := by
    refine Function.update_of_ne ?_ _ _
    rintro rfl
    exact free here
  constructor
  · intro other free
    rw [elsewhere (by simp [free])]
    exact trails.unopened other free
  · intro other free
    rw [elsewhere (by simp [free])]
    exact trails.idle other free
  · intro task other free
    rw [elsewhere (by simp [free])]
    exact trails.leaving task other free
  · exact held
  · intro other free
    rw [elsewhere (by simp [free])]
    exact trails.closed other free
  · exact begun
  · intro other scope returned left
    exact trails.marks_append mark left
  · intro other scope returned earlier later parts active
    exact trails.last_append quiet parts active

/-- A task goes on with a connection that it holds, and says something there. -/
theorem say {signal : Signal} (trails : Trails pool world place trail hands)
    (places : Places pool capacity world place hands)
    (scopes : Scopes world runner hands)
    (held : (hands task).held connection = some stage)
    (before : ∀ earlier scope returned,
      trail connection = earlier ++ [.left scope returned] →
      (hands task).scopes scope ≠ some connection)
    (mark : ∀ scope returned, signal = .left scope returned →
      scope < world.scopeCount ∧ (world.scopes scope).connection = connection)
    (course : Course pool (assign hands task after) connection now
      (trail connection ++ [signal]))
    (goesOn : ∀ owner other last, (hands owner).held other = some last →
      Course pool hands other last (trail other) →
      Course pool (assign hands task after) other last (trail other))
    (begun : ∀ scope, now ≠ .entering scope)
    (holds : after.held = Function.update (hands task).held connection (some now))
    (speech : ∀ speech, after.speech = some speech → (hands task).speech = some speech) :
    Trails pool world place
      (Function.update trail connection (trail connection ++ [signal]))
      (assign hands task after) := by
  have here : place connection = .held task :=
    (places.held task connection).mp (by simp [held])
  have stays {owner : Nat} {other : Connection} {last : Stage}
      (holds : (hands owner).held other = some last) :
      Course pool (assign hands task after) other last (trail other) :=
    goesOn owner other last holds (trails.held owner other last holds)
  refine trails.append here (fun _ _ => trails.quiet places scopes held before) mark ?_ ?_
  · intro owner other last owns
    by_cases mine : owner = task
    · subst mine
      rw [assign_self, holds] at owns
      by_cases same : other = connection
      · subst same
        obtain rfl : now = last := by simpa using owns
        rw [Function.update_self]
        exact course
      · rw [Function.update_of_ne same] at owns ⊢
        exact stays owns
    · rw [assign_of_ne _ _ mine] at owns
      have different : other ≠ connection := by
        rintro rfl
        exact mine (places.sole owns held)
      rw [Function.update_of_ne different]
      exact stays owns
  · intro other said owner last spoken entering
    have spoke : (hands other).speech = some said := by
      by_cases mine : other = task
      · subst mine
        rw [assign_self] at spoken
        exact speech said spoken
      · rwa [assign_of_ne _ _ mine] at spoken
    refine trails.begun other said owner last spoke ?_
    by_cases mine : owner = task
    · subst mine
      rw [assign_self, holds] at entering
      by_cases same : last = connection
      · subst same
        rw [Function.update_self] at entering
        exact (begun _ (Option.some.inj entering)).elim
      · rwa [Function.update_of_ne same] at entering
    · rwa [assign_of_ne _ _ mine] at entering

/-- A task says something in a verb of a scope that is running. -/
theorem state {owner : Nat} {speech : Speech} {said : Exchange}
    (trails : Trails pool world place trail hands)
    (places : Places pool capacity world place hands)
    (scopes : Scopes world runner hands)
    (running : (hands owner).held speech.connection = some (.running speech.scope))
    (spoken : (hands task).speech = some speech)
    (held : after.held = (hands task).held)
    (now : after.speech = some (speech.say said)) :
    Trails pool world place
      (Function.update trail speech.connection
        (trail speech.connection ++ [.statement task speech.demand said]))
      (assign hands task after) := by
  have own := (scopes.spoken task speech spoken).begins.own
  have owns := scopes.entered owner speech.scope speech.connection _ running rfl
  have here : place speech.connection = .held owner :=
    (places.held owner speech.connection).mp (by simp [running])
  have course := trails.held owner speech.connection _ running
  refine trails.append here (fun _ _ => trails.quiet places scopes running
    fun _ _ _ same => (course.not_left (by simp) same).elim) (by simp) ?_ ?_
  · intro holder other last holds
    rw [field_assign Hand.held held] at holds
    by_cases same : other = speech.connection
    · subst same
      obtain rfl := places.sole holds running
      obtain rfl := Option.some.inj (running.symm.trans holds)
      rw [Function.update_self]
      generalize trail speech.connection = signals at course
      cases course with
      | running whole progress =>
          rw [List.append_assoc]
          exact .running whole (progress.say own spoken now)
    · rw [Function.update_of_ne same]
      refine (trails.held holder other last holds).mono ?_
      rintro scope statements rfl progress
      have different : speech.scope ≠ scope := by
        rintro rfl
        exact same (scopes.sole owns holds rfl).2
      refine progress.of_current ?_
      rw [Hand.current_of_ne now different, Hand.current_of_ne spoken different]
  · intro other last holder given speaks
    rw [field_assign Hand.held held]
    by_cases mine : other = task
    · subst mine
      rw [assign_self, now] at speaks
      cases speaks
      exact trails.begun other speech holder given spoken
    · rw [assign_of_ne _ _ mine] at speaks
      exact trails.begun other last holder given speaks

theorem close {signal : Signal} (trails : Trails pool world place trail hands)
    (places : Places pool capacity world place hands)
    (scopes : Scopes world runner hands)
    (mine : place connection = .held task ∨ place connection = .leaving task)
    (free : ∀ owner scope, (hands owner).scopes scope ≠ some connection)
    (last : signal.isClose = true)
    (ended : Sealed pool connection (trail connection ++ [signal]))
    (holds : ∀ other said, after.held other = some said →
      other ≠ connection ∧ (hands task).held other = some said)
    (speech : after.speech = (hands task).speech) :
    Trails pool world (Function.update place connection .closed)
      (Function.update trail connection (trail connection ++ [signal]))
      (assign hands task after) := by
  have goesOn {owner : Nat} {other : Connection} {said : Stage}
      (owns : (assign hands task after owner).held other = some said) :
      other ≠ connection ∧ (hands owner).held other = some said := by
    by_cases this : owner = task
    · subst this
      rw [assign_self] at owns
      exact holds other said owns
    · rw [assign_of_ne _ _ this] at owns
      refine ⟨?_, owns⟩
      rintro rfl
      have here := (places.held owner other).mp (by simp [owns])
      rcases mine with there | there
      · exact this (by simpa [there] using here.symm)
      · simp [there] at here
  have elsewhere {other : Connection} {there : Whereabouts}
      (this : Function.update place connection .closed other = there)
      (unclosed : there ≠ .closed) :
      place other = there ∧
        Function.update trail connection (trail connection ++ [signal]) other = trail other := by
    by_cases same : other = connection
    · rw [same, Function.update_self] at this
      exact (unclosed this.symm).elim
    · rw [Function.update_of_ne same] at this ⊢
      exact ⟨this, rfl⟩
  constructor
  · intro other this
    obtain ⟨there, same⟩ := elsewhere this (by simp)
    rw [same]
    exact trails.unopened other there
  · intro other this
    obtain ⟨there, same⟩ := elsewhere this (by simp)
    rw [same]
    exact trails.idle other there
  · intro owner other this
    obtain ⟨there, same⟩ := elsewhere this (by simp)
    rw [same]
    exact trails.leaving owner other there
  · intro owner other said owns
    obtain ⟨different, owned⟩ := goesOn owns
    rw [Function.update_of_ne different]
    exact (trails.held owner other said owned).mono fun _ _ _ progress =>
      progress.of_current (by simp [Hand.current, speech])
  · intro other this
    by_cases same : other = connection
    · subst same
      simpa using ended
    · rw [Function.update_of_ne same] at this ⊢
      exact trails.closed other this
  · intro other said owner given spoken entering
    rw [field_assign Hand.speech speech] at spoken
    exact trails.begun other said owner given spoken (goesOn entering).2
  · intro other scope returned left
    refine trails.marks_append ?_ left
    rintro _ _ rfl
    simp [Signal.isClose] at last
  · intro other scope returned earlier later parts active
    refine trails.last_append ?_ parts active
    intro scope returned left
    by_contra running
    obtain ⟨owner, _, owns, _⟩ := trails.owner scopes left (by simpa using running)
    exact free owner scope owns

/-- A task changes the shared state, and nothing is said. -/
theorem relocate {places' : Connection → Whereabouts}
    (trails : Trails pool world place trail hands)
    (scopes : Scopes world runner hands) (outlives : world.Outlives next)
    (unopened : ∀ connection, places' connection = .unopened →
      place connection = .unopened)
    (idle : ∀ connection, places' connection = .idle →
      Whole pool connection (trail connection))
    (leaving : ∀ task connection, places' connection = .leaving task →
      Whole pool connection (trail connection))
    (held : ∀ connection stage, after.held connection = some stage →
      Course pool hands connection stage (trail connection))
    (closed : ∀ connection, places' connection = .closed → place connection = .closed)
    (entering : ∀ connection scope, after.held connection = some (.entering scope) →
      (hands task).held connection = some (.entering scope) ∨ scope = world.scopeCount)
    (speech : after.speech = (hands task).speech) :
    Trails pool next places' trail (assign hands task after) where
  unopened := fun connection this => trails.unopened connection (unopened connection this)
  idle := idle
  leaving := leaving
  held := by
    intro owner connection stage owns
    have course : Course pool hands connection stage (trail connection) := by
      by_cases mine : owner = task
      · subst mine
        rw [assign_self] at owns
        exact held connection stage owns
      · rw [assign_of_ne _ _ mine] at owns
        exact trails.held owner connection stage owns
    exact course.mono fun _ _ _ progress =>
      progress.of_current (by simp [Hand.current, speech])
  closed := fun connection this => trails.closed connection (closed connection this)
  begun := by
    intro other said owner connection spoken enters
    rw [field_assign Hand.speech speech] at spoken
    have old : (hands owner).held connection = some (.entering said.scope) := by
      by_cases mine : owner = task
      · subst mine
        rw [assign_self] at enters
        refine (entering connection _ enters).resolve_right fun same => ?_
        have bound := (scopes.spoken other said spoken).given
        exact Nat.ne_of_lt bound same
      · rwa [assign_of_ne _ _ mine] at enters
    exact trails.begun other said owner connection spoken old
  marks := by
    intro connection scope returned left
    obtain ⟨bound, target⟩ := trails.marks connection scope returned left
    refine ⟨Nat.lt_of_lt_of_le bound outlives.count, ?_⟩
    rw [outlives.connection scope bound, target]
  last := by
    intro connection scope returned earlier later parts active
    apply trails.last connection scope returned earlier later parts
    have bound := (trails.marks connection scope returned (by simp [parts])).1
    by_contra inactive
    have ended := outlives.ended scope bound (by simpa using inactive)
    simp [active] at ended

/-- A connection whose trail is made of whole blocks changes its place. -/
theorem replace {there : Whereabouts} (trails : Trails pool world place trail hands)
    (scopes : Scopes world runner hands) (outlives : world.Outlives next)
    (whole : Whole pool connection (trail connection))
    (opened : there ≠ .unopened) (unclosed : there ≠ .closed)
    (held : ∀ other stage, after.held other = some stage →
      other = connection ∧ stage = .said [] ∨ (hands task).held other = some stage)
    (speech : after.speech = (hands task).speech) :
    Trails pool next (Function.update place connection there) trail
      (assign hands task after) := by
  refine trails.relocate scopes outlives ?_ ?_ ?_ ?_ ?_ ?_ speech
  · intro other this
    by_cases same : other = connection
    · simp [same, opened] at this
    · simpa [same] using this
  · intro other this
    by_cases same : other = connection
    · rw [same]
      exact whole
    · exact trails.idle other (by simpa [same] using this)
  · intro owner other this
    by_cases same : other = connection
    · rw [same]
      exact whole
    · exact trails.leaving owner other (by simpa [same] using this)
  · intro other stage now
    rcases held other stage now with ⟨rfl, rfl⟩ | before
    · have course : Course pool hands other (.said []) (trail other ++ []) :=
        .said whole (.nil pool other)
      rwa [List.append_nil] at course
    · exact trails.held task other stage before
  · intro other this
    by_cases same : other = connection
    · simp [same, unclosed] at this
    · simpa [same] using this
  · intro other scope entering
    rcases held other _ entering with ⟨_, empty⟩ | before
    · cases empty
    · exact .inl before

theorem take (trails : Trails pool world place trail hands)
    (scopes : Scopes world runner hands) (outlives : world.Outlives next)
    (whole : Whole pool connection (trail connection))
    (holds : after.held = Function.update (hands task).held connection (some (.said [])))
    (speech : after.speech = (hands task).speech) :
    Trails pool next (Function.update place connection (.held task)) trail
      (assign hands task after) := by
  refine trails.replace scopes outlives whole (by simp) (by simp) ?_ speech
  intro other stage held
  rw [holds] at held
  by_cases same : other = connection
  · subst same
    exact .inl ⟨rfl, by simpa using held.symm⟩
  · exact .inr (by simpa [same] using held)

theorem put (trails : Trails pool world place trail hands)
    (scopes : Scopes world runner hands) (outlives : world.Outlives next)
    (whole : Whole pool connection (trail connection)) :
    Trails pool next (Function.update place connection .idle) trail
      (assign hands task ((hands task).release connection)) := by
  refine trails.replace scopes outlives whole (by simp) (by simp) ?_ rfl
  intro other stage held
  by_cases same : other = connection
  · simp [same] at held
  · exact .inr (by simpa [same] using held)

/-- A task takes the idle connections with it. -/
theorem shut (trails : Trails pool world place trail hands)
    (places : Places pool capacity world place hands) (scopes : Scopes world runner hands)
    (outlives : world.Outlives next) (held : after.held = (hands task).held)
    (speech : after.speech = (hands task).speech) :
    Trails pool next
      (fun connection => if connection ∈ Fleet.idle pool world then .leaving task
        else place connection) trail (assign hands task after) := by
  refine trails.relocate scopes outlives ?_ ?_ ?_ ?_ ?_ ?_ speech
  · intro connection this
    by_cases idle : connection ∈ Fleet.idle pool world
    · simp [idle] at this
    · simpa [idle] using this
  · intro connection this
    by_cases idle : connection ∈ Fleet.idle pool world
    · simp [idle] at this
    · exact trails.idle connection (by simpa [idle] using this)
  · intro owner connection this
    by_cases idle : connection ∈ Fleet.idle pool world
    · exact trails.idle connection ((places.idle connection).mp idle)
    · exact trails.leaving owner connection (by simpa [idle] using this)
  · rw [held]
    exact trails.held task
  · intro connection this
    by_cases idle : connection ∈ Fleet.idle pool world
    · simp [idle] at this
    · simpa [idle] using this
  · rw [held]
    exact fun _ _ => .inl

/-- A task says on a connection that no scope runs on what goes on with its block. -/
theorem speak {signal : Signal} {block : List Signal}
    (trails : Trails pool world place trail hands)
    (places : Places pool capacity world place hands) (scopes : Scopes world runner hands)
    (held : (hands task).held connection = some (.said block))
    (unscoped : (hands task).Unscoped connection)
    (mark : ∀ scope returned, signal ≠ .left scope returned)
    (started : Started pool connection (block ++ [signal]))
    (holds : after.held =
      Function.update (hands task).held connection (some (.said (block ++ [signal]))))
    (speech : after.speech = (hands task).speech) :
    Trails pool world place
      (Function.update trail connection (trail connection ++ [signal]))
      (assign hands task after) := by
  have course := trails.held task connection _ held
  refine trails.say places scopes held (fun _ scope _ _ => unscoped scope) ?_ ?_ ?_ (by simp)
    holds (by simp [speech])
  · intro scope returned same
    exact (mark scope returned same).elim
  · generalize trail connection = signals at course
    cases course with
    | said whole =>
        rw [List.append_assoc]
        exact .said whole started
  · intro _ _ _ _ course
    exact course.mono fun _ _ _ progress =>
      progress.of_current (by simp [Hand.current, speech])

/-- What a task says to the driver leaves the trails in order, if a verb of a scope is
said while the scope is running. -/
theorem hears {request : DriverCall} {answer : Except Fault request.Answer}
    (trails : Trails pool world place trail hands)
    (places : Places pool capacity world place hands)
    (scopes : Scopes world runner hands)
    (attended : ∀ speech, (hands task).speech = some speech →
      (runner speech.scope).isSome = true)
    (hears : (hands task).Hears pool request answer after) :
    Trails pool world (Fleet.locateAfter place request)
      (Fleet.trailAfter task (hands task).pen request answer trail)
      (assign hands task after) := by
  cases hears with
  | locate | connect =>
      exact trails.relocate scopes (.refl world) (fun _ => id) trails.idle trails.leaving
        (trails.held task) (fun _ => id) (fun _ _ => .inl) rfl
  | @state _ speech _ said owned notClose =>
      obtain ⟨owner, runs⟩ := Option.isSome_iff_exists.mp (attended speech said)
      obtain ⟨connection, running⟩ := (scopes.runner owner speech.scope).mp runs
      obtain rfl := scopes.speech_connection running said rfl
      have heeds := scopes.spoken task speech said
      rw [Places.locateAfter_of_not_isClose notClose, Fleet.trailAfter, owned,
        Pen.signal_of_demand heeds.asked heeds.begins.own]
      exact trails.state places scopes running said rfl rfl
  | speak _ calm owned notClose held unscoped started =>
      rw [Places.locateAfter_of_not_isClose notClose, Fleet.trailAfter, owned,
        Pen.signal_of_unscoped calm.unscoped]
      exact trails.speak places scopes held unscoped (by simp) started rfl rfl
  | @discard connection block returned answer calm held used unscoped =>
      have course := trails.held task connection _ held
      have here : place connection = .held task :=
        (places.held task connection).mp (by simp [held])
      rw [Fleet.trailAfter, DriverCall.connection?, Pen.signal_of_unscoped calm.unscoped]
      refine trails.close places scopes (.inl here) ?_ rfl ?_ ?_ rfl
      · intro owner scope owns
        obtain ⟨_, holds⟩ := Option.ne_none_iff_exists'.mp
          (scopes.held owner scope connection owns)
        obtain rfl := places.sole holds held
        exact unscoped scope owns
      · generalize trail connection = signals at course
        cases course with
        | said whole =>
            cases returned with
            | true => exact .closed _ answer (whole.append used)
            | false => exact .discarded _ answer whole used
      · intro other said holds
        by_cases same : other = connection
        · simp [same] at holds
        · exact ⟨same, by simpa [same] using holds⟩
  | @dismiss connection rest answer calm leaving =>
      have here : place connection = .leaving task :=
        (places.leaving task connection).mp (by simp [leaving])
      have unheld (owner : Nat) : (hands owner).held connection = none := by
        by_contra holds
        have there := (places.held owner connection).mp holds
        simp [here] at there
      rw [Fleet.trailAfter, DriverCall.connection?, Pen.signal_of_unscoped calm.unscoped]
      refine trails.close places scopes (.inr here) ?_ rfl ?_ ?_ rfl
      · exact fun owner scope owns => scopes.held owner scope connection owns (unheld owner)
      · exact .closed _ answer (trails.leaving task connection here)
      · intro other said holds
        refine ⟨?_, holds⟩
        rintro rfl
        simp [unheld] at holds

/-- What a task changes in the shared state leaves the trails in order, if a scope that a
verb finds active is running. -/
theorem changes (trails : Trails pool world place trail hands)
    (places : Places pool capacity world place hands) (scopes : Scopes world runner hands)
    (silent : (hands task).speech = none)
    (attended : ∀ speech, after.speech = some speech → ¬speech.IsWhole →
      (runner speech.scope).isSome = true)
    (changes : (hands task).Changes pool world next after) :
    Trails pool next (Fleet.locate pool task world next place) trail
      (assign hands task after) := by
  have outlives := changes.outlives
  cases changes with
  | look =>
      rw [places.locate_same world rfl rfl]
      exact trails.relocate scopes outlives (fun _ => id) trails.idle trails.leaving
        (trails.held task) (fun _ => id) (fun _ _ => .inl) rfl
  | @heed _ scope =>
      rw [places.locate_same world rfl rfl]
      refine trails.heed rfl silent rfl rfl fun owner connection entering => ?_
      have begun := attended _ rfl fun whole => whole.2.choose_spec.ne_nil rfl
      obtain ⟨other, runs⟩ := Option.isSome_iff_exists.mp begun
      obtain ⟨last, running⟩ := (scopes.runner other scope).mp runs
      have owns := scopes.entered other scope last _ running rfl
      obtain ⟨rfl, rfl⟩ := scopes.sole owns entering rfl
      cases running.symm.trans entering
  | @take connection _ running offered =>
      have here : place connection = .idle :=
        (places.idle connection).mp (by simp [Fleet.idle, offered])
      rw [places.locate_take running offered]
      exact trails.take scopes outlives (trails.idle connection here) rfl rfl
  | @put connection block running room held used _ =>
      have course := trails.held task connection _ held
      rw [places.locate_put running]
      refine trails.put scopes outlives ?_
      generalize trail connection = signals at course
      cases course with
      | said whole => exact whole.append used
  | opened =>
      have here : place world.addConnection.1 = .unopened := by
        by_contra opened
        have bound := ((places.opened _).mp opened).2
        exact Nat.not_succ_le_self _ bound
      rw [places.locate_openNew]
      refine trails.take scopes outlives ?_ rfl rfl
      rw [trails.unopened _ here]
      exact .none
  | @enter connection timeout held unscoped =>
      rw [places.locate_same (world.addScope _).2 rfl rfl]
      refine trails.relocate scopes outlives (fun _ => id) trails.idle trails.leaving ?_
        (fun _ => id) ?_ rfl
      · intro other stage holds
        by_cases same : other = connection
        · subst same
          obtain rfl : stage = .entering world.scopeCount := by simpa [eq_comm] using holds
          have course := trails.held task other _ held
          generalize trail other = signals at course
          cases course with
          | said whole => exact .entering _ whole
        · exact trails.held task other stage (by simpa [same] using holds)
      · intro other scope entering
        by_cases same : other = connection
        · subst same
          exact .inr (by simpa [eq_comm] using entering)
        · exact .inl (by simpa [same] using entering)
  | leave running left =>
      rw [places.locate_same (world.changeScope _ _) rfl rfl]
      exact trails.relocate scopes outlives (fun _ => id) trails.idle trails.leaving
        (trails.held task) (fun _ => id) (fun _ _ => .inl) rfl
  | shut none =>
      rw [Places.locate_closePool]
      exact trails.shut places scopes outlives rfl rfl

/-- A task enters a scope, of which nothing has been said yet. -/
theorem enter {scope : Nat} (trails : Trails pool world place trail hands)
    (places : Places pool capacity world place hands) (scopes : Scopes world runner hands)
    (quiet : (hands task).Quiet)
    (held : (hands task).held connection = some (.entering scope)) :
    Trails pool world place
      (Function.update trail connection (trail connection ++ [.entered scope]))
      (assign hands task (((hands task).hold connection (.running scope)).note none)) := by
  have course := trails.held task connection _ held
  refine trails.say places scopes held ?_ (by simp) ?_
    (fun owner other last holds => course_hush scopes quiet rfl holds) (by simp) rfl nofun
  · intro earlier other returned same
    exact (course.not_left (by simp) same).elim
  · have unsaid (other : Nat) :
        (assign hands task (((hands task).hold connection (.running scope)).note none)
          other).current other scope = [] := by
      by_cases here : other = task
      · subst here
        rw [assign_self]
        exact Hand.current_of_silent rfl other scope
      · rw [assign_of_ne _ _ here, Hand.current]
        cases said : (hands other).speech with
        | none => rfl
        | some speech =>
            refine if_neg fun same => ?_
            exact trails.begun other speech task connection said (same ▸ held)
    generalize trail connection = signals at course
    cases course with
    | entering _ whole =>
        rw [List.append_assoc, ← List.append_nil (_ ++ (_ ++ _))]
        exact .running whole (.nil unsaid)

/-- A task leaves a scope, whose statements are whole verbs. -/
theorem leave {scope : Nat} {blocks statements : List Signal} (returned : Bool)
    (trails : Trails pool world place trail hands)
    (places : Places pool capacity world place hands) (scopes : Scopes world runner hands)
    (quiet : (hands task).Quiet)
    (own : (hands task).scopes scope = some connection)
    (held : (hands task).held connection = some (.running scope))
    (whole : Whole pool connection blocks)
    (parts : trail connection = blocks ++ connection.entry scope ++ statements)
    (said : Statements scope connection statements) :
    Trails pool world place
      (Function.update trail connection (trail connection ++ [.left scope returned]))
      (assign hands task (((hands task).hold connection (.said
        (connection.entry scope ++ statements ++ [.left scope returned]))).note none)) := by
  have course := trails.held task connection _ held
  refine trails.say places scopes held ?_ ?_ ?_
    (fun owner other last holds => course_hush scopes quiet rfl holds) (by simp) rfl nofun
  · intro earlier other returned same
    exact (course.not_left (by simp) same).elim
  · rintro other last ⟨⟩
    obtain ⟨bound, _, there, _⟩ := scopes.running task scope connection own
    exact ⟨bound, there⟩
  · rw [parts, List.append_assoc blocks, List.append_assoc blocks]
    exact .said whole (started_left said returned)

/-- When nobody is in the middle of a verb of a scope that is running, its statements are
whole verbs. -/
theorem statements {scope : Nat} (trails : Trails pool world place trail hands)
    (scopes : Scopes world runner hands)
    (held : (hands task).held connection = some (.running scope))
    (quiet : ∀ other speech, (hands other).speech = some speech → speech.scope = scope →
      speech.IsWhole) :
    ∃ blocks statements, Whole pool connection blocks ∧
      trail connection = blocks ++ connection.entry scope ++ statements ∧
      Statements scope connection statements := by
  have course := trails.held task connection _ held
  generalize trail connection = signals at course
  cases course with
  | @running blocks statements _ whole progress =>
      refine ⟨blocks, statements, whole, rfl, progress.whole fun other speech said same => ?_⟩
      exact ⟨quiet other speech said same, scopes.speech_connection held said same⟩

end Trails

end Midrange
