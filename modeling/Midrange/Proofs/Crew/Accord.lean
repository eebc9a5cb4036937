import Midrange.Proofs.Crew.Sessions
import Midrange.Proofs.Crew.Teardowns
import Midrange.Proofs.Duty.Program

/-!
# Crews in accord

A crew is in accord with the duties of its tasks if each task behaves with its own, and
the sessions and registries are as the duties say.  Every move keeps a crew in accord,
whatever the moved task does: a step, a call, a command or a note.
-/

namespace Midrange

/-- The shared state and what has been observed agree with the duties of the tasks. -/
structure Crew.Agrees (crew : Crew) (duties : Nat → Duty) : Prop where
  attended : Attended crew.world crew.begun crew.sources duties
  stocked : Stocked crew.world crew.clock crew.records
  down : TornDown crew.clock crew.records crew.tearing duties
  locked : Locked crew.world crew.dismissed crew.records crew.tearing duties

/-- Besides, every task behaves with its duties and ends without any. -/
structure Crew.Accords (crew : Crew) (duties : Nat → Duty) : Prop extends
    crew.Agrees duties where
  tasks : ∀ task (routine : Routine errands Unit), crew.tasks[task]? = some routine →
    routine.Behaves (fun _ after => after.Idle) (duties task)
  absent : ∀ task, crew.tasks[task]? = none → (duties task).Idle

/-! ## What is observed -/

namespace Crew

@[simp] theorem enroll_nothing (registry : Nat) (dsn : String) (crew : Crew) :
    crew.enroll registry dsn crew.world none = crew := by
  have same : (crew.records (crew.now registry)).enroll dsn none none =
      crew.records (crew.now registry) := by
    simp [Record.enroll]
  rw [enroll, amend, World.newHandle?_self, same, Function.update_eq_self]

theorem amendTorn_eq {crew : Crew} {task : Nat} {period : Period}
    (torn : crew.tearing task = some period) (change : Teardown → Teardown) :
    crew.amendTorn task change = crew.amend period fun record =>
      { record with teardown := change record.teardown } := by
  rw [amendTorn, torn]

/-- What is observed of a note leaves the tasks and the shared state alone. -/
theorem observe_stays (crew : Crew) (task : Nat) (remark : Remark) :
    (crew.observe task remark).world = crew.world ∧
      (crew.observe task remark).tasks = crew.tasks ∧
      (crew.observe task remark).dismissed = crew.dismissed := by
  cases remark with
  | began | ended => exact ⟨rfl, rfl, rfl⟩
  | closing | closed | finished =>
      simp only [observe, amendTorn]
      split <;> exact ⟨rfl, rfl, rfl⟩

theorem follow_stays (crew : Crew) (task : Nat) (after : World) (errand : Errand)
    (outcome : Except Fault errand.Answer) :
    (crew.follow task after errand outcome).tasks = crew.tasks ∧
      (crew.follow task after errand outcome).dismissed = crew.dismissed := by
  cases errand with
  | acquire | close | clear => exact ⟨rfl, rfl⟩
  | connect => cases outcome <;> exact ⟨rfl, rfl⟩
  | note remark => exact (crew.observe_stays task remark).2

end Crew

/-! ## Steps and calls -/

/-- The registries, the handles that have been made and what is shut stay as they
are; there may be more handles. -/
structure World.Leaves (before after : World) : Prop where
  registries : after.registries = before.registries
  knows : ∀ handle, before.Knows handle → after.Knows handle
  closed : ∀ pool, (after.pools pool).closed = (before.pools pool).closed

namespace World

variable (world : World)

theorem Leaves.refl : world.Leaves world :=
  ⟨rfl, fun _ known => known, fun _ => rfl⟩

theorem leaves_changeSession (number : Nat) (change : Session → Session) :
    world.Leaves (world.changeSession number change) := by
  refine ⟨rfl, fun handle known => ?_, fun _ => rfl⟩
  cases handle with
  | pool | guest | scope => exact known

theorem Tends.leaves {world after : World} (tends : world.Tends after) :
    world.Leaves after := by
  refine ⟨tends.registries, fun handle known => ?_, tends.closed⟩
  cases handle with
  | pool number =>
      rw [Knows, tends.poolCount]
      exact known
  | guest number dedicated => exact ⟨Nat.lt_of_lt_of_le known.1 tends.guestCount, known.2⟩
  | scope number => exact known

end World

namespace Crew.Agrees

variable {crew : Crew} {duties : Nat → Duty} {task : Nat} {duty : Duty} {after : World}

/-- What was closed was made in the period. -/
theorem made (agrees : crew.Agrees duties) {period : Period} {handle : Handle}
    (closed : handle ∈ (crew.records period).teardown.closings) :
    handle ∈ (crew.records period).made.map (·.2) :=
  (agrees.down.closings_prefix (agrees.down.past closed)).subset closed

theorem known (agrees : crew.Agrees duties) {period : Period} {handle : Handle}
    (closed : handle ∈ (crew.records period).teardown.closings) :
    crew.world.Knows handle := by
  obtain ⟨entry, member, rfl⟩ := List.mem_map.mp (agrees.made closed)
  exact agrees.stocked.known period entry member

/-- A handle was made in one period only. -/
theorem apart (agrees : crew.Agrees duties) {first second : Period} {handle : Handle}
    (made : handle ∈ (crew.records first).made.map (·.2))
    (made' : handle ∈ (crew.records second).made.map (·.2)) : first = second := by
  obtain ⟨left, member, rfl⟩ := List.mem_map.mp made
  obtain ⟨right, member', same⟩ := List.mem_map.mp made'
  exact (agrees.stocked.apart first second left member right member' same.symm).1

/-- No two tasks close the same handle. -/
theorem alone (agrees : crew.Agrees duties) {handle : Handle}
    (busy : (duties task).closing = some handle) {other : Nat}
    (busy' : (duties other).closing = some handle) : other = task := by
  obtain ⟨period, torn, closed⟩ := agrees.locked.closing task handle busy
  obtain ⟨period', torn', closed'⟩ := agrees.locked.closing other handle busy'
  obtain rfl := agrees.apart (agrees.made closed) (agrees.made closed')
  exact agrees.down.sole other task period torn' torn

/-- What a teardown has still to close is not shut. -/
theorem intact (agrees : crew.Agrees duties) {period : Period}
    (torn : crew.tearing task = some period) {entry : String × Handle}
    {remaining : List (String × Handle)} {tearing : Tearing}
    (runs : (crew.records period).teardown.Runs tearing)
    (rest : tearing.remaining = entry :: remaining) :
    ¬Shut crew.world crew.dismissed entry.2 := by
  have past := (agrees.down.torn task period torn).1
  have held := runs.remaining
  rw [agrees.down.held period past, rest] at held
  intro shut
  obtain ⟨period', closed⟩ := agrees.locked.shut entry.2 shut
  have here : entry.2 ∈ (crew.records period).made.map (·.2) := by simp [held]
  obtain rfl := agrees.apart (agrees.made closed) here
  have different := agrees.stocked.handles period'
  rw [held, List.nodup_append'] at different
  exact different.2.2 closed (by simp)

/-- What leaves the handles alone is a matter of the sessions only. -/
theorem attends (agrees : crew.Agrees duties) {begun : Nat → List Nat}
    {sources : Nat → Option String} (leaves : crew.world.Leaves after)
    (attended : Attended after begun sources (assign duties task duty))
    (tearing : duty.tearing = (duties task).tearing)
    (closing : duty.closing = (duties task).closing) :
    { crew with world := after, begun, sources }.Agrees (assign duties task duty) where
  attended := attended
  stocked := agrees.stocked.of_eq leaves.registries leaves.knows (fun _ => rfl)
    (fun _ => rfl) fun _ _ => rfl
  down := agrees.down.of_eq (fun _ => rfl) (fun _ _ => rfl) (field_assign Duty.tearing tearing)
  locked := by
    have same := shut_congr leaves.closed crew.dismissed
    exact agrees.locked.of_eq (fun handle => (same handle).mp)
      (fun _ handle _ => (same handle).mpr) (fun _ => rfl)
      (field_assign Duty.closing closing) fun _ _ => rfl

/-- A task shuts the handle that it was about to shut. -/
theorem shuts (agrees : crew.Agrees duties) {handle : Handle}
    (busy : (duties task).closing = some handle) {dismissed : List (Nat × Bool)}
    (sessions : after.sessions = crew.world.sessions)
    (registries : after.registries = crew.world.registries)
    (knows : ∀ handle, crew.world.Knows handle → after.Knows handle)
    (shut : ∀ other, Shut after dismissed other ↔
      Shut crew.world crew.dismissed other ∨ other = handle) (once : dismissed.Nodup) :
    { crew with world := after, dismissed }.Agrees
      (assign duties task { duties task with closing := none }) where
  attended := by
    apply agrees.attended.of_eq sessions
    rfl
  stocked := agrees.stocked.of_eq registries knows (fun _ => rfl) (fun _ => rfl)
    fun _ _ => rfl
  down := agrees.down.of_eq (fun _ => rfl) (fun _ _ => rfl) (field_assign Duty.tearing rfl)
  locked := agrees.locked.shuts busy rfl (fun _ => agrees.alone busy) shut once

theorem changes (agrees : crew.Agrees duties)
    (changes : (duties task).Changes crew.world after duty) :
    { crew with world := after }.Agrees (assign duties task duty) := by
  have attended := agrees.attended.changes changes
  cases changes with
  | tend tends => exact agrees.attends tends.leaves attended rfl rfl
  | session => exact agrees.attends (crew.world.leaves_changeSession _ _) attended rfl rfl
  | @shut _ pool busy =>
      refine agrees.shuts busy rfl rfl ?_ (fun other => ?_) agrees.locked.once
      · intro handle known
        cases handle with
        | pool | guest | scope => exact known
      · cases other with
        | guest | scope => simp [Shut]
        | pool number =>
            by_cases here : number = pool
            · simp [Shut, Pool.shut, World.changePool, here]
            · simp [Shut, Pool.shut, World.changePool, assign_of_ne _ _ here, here]

theorem hears (agrees : crew.Agrees duties) {request : Call}
    (hears : (duties task).Hears request duty) :
    { crew with dismissed := crew.dismissed ++ (dismissed? request).toList }.Agrees
      (assign duties task duty) := by
  cases hears with
  | other silent =>
      rw [silent, assign_eta]
      simpa using agrees
  | @dismiss number dedicated busy =>
      have unasked : (number, dedicated) ∉ crew.dismissed :=
        agrees.locked.intact task (.guest number dedicated) busy
      refine agrees.shuts busy rfl rfl (fun _ known => known) (fun other => ?_) ?_
      · cases other <;> simp [Shut, dismissed?]
      · simpa [dismissed?, List.nodup_append', agrees.locked.once] using unasked

/-! ## Commands -/

/-- An acquisition comes on record; the sessions may change besides. -/
theorem enrolls (agrees : crew.Agrees duties) {registry : Nat} {dsn : String}
    {verdict : Except Fault Unit} {outcome : Except Fault Handle} {middle : World}
    (acquired : Registry.Acquired crew.world registry dsn verdict outcome middle)
    {sources : Nat → Option String} {sessions : Nat → Session} {duties' : Nat → Duty}
    (attended : Attended { middle with sessions } crew.begun sources duties')
    (tearing : ∀ task, (duties' task).tearing = (duties task).tearing)
    (closing : ∀ task, (duties' task).closing = (duties task).closing) :
    { crew with
      world := { middle with sessions }
      sources
      records := Function.update crew.records (crew.now registry)
        ((crew.records (crew.now registry)).enroll dsn (crew.world.newHandle? middle)
          outcome.toOption) }.Agrees duties' where
  attended := attended
  stocked := by
    refine (agrees.stocked.enrolls acquired).of_eq rfl ?_ (fun _ => rfl) (fun _ => rfl)
      fun _ _ => rfl
    intro handle known
    cases handle with
    | pool | guest | scope => exact known
  down := by
    refine agrees.down.of_eq (Record.field_update Record.teardown rfl) ?_ tearing
    intro period past
    have elsewhere : period ≠ crew.now registry := by
      rintro rfl
      exact Nat.lt_irrefl _ past
    exact congrArg Record.made (Function.update_of_ne elsewhere _ _)
  locked := by
    refine agrees.locked.of_eq ?_ ?_
      (Record.field_update (fun record => record.teardown.closings) rfl) closing fun _ _ => rfl
    · intro handle shut
      exact acquired.shut shut
    · intro period handle closed shut
      exact acquired.still (agrees.known closed) shut

theorem acquires (agrees : crew.Agrees duties) {registry : Nat} {dsn : String}
    {options : Fields Value} {verdict : Except Fault Unit} {outcome : Except Fault Handle}
    (acquired : Registry.Acquired crew.world registry dsn verdict outcome after) :
    { crew.follow task after (.acquire registry dsn options) outcome with
      world := after }.Agrees duties := by
  have attended : Attended after crew.begun crew.sources duties := by
    have same := agrees.attended.of_eq acquired.sessions (rfl : (duties task).grips = _)
    rw [assign_eta] at same
    exact same
  exact agrees.enrolls acquired attended (fun _ => rfl) fun _ => rfl

theorem connects (agrees : crew.Agrees duties) {number : Nat}
    (mine : ∀ other ∈ crew.begun number, other = task) {dsn : Option String}
    {target : Target} {outcome : Except Fault Unit}
    (connected : Session.Connected crew.world number (Session.chooseSource dsn target)
      outcome after) :
    (after.sessions number).Coherent ∧
      { crew.follow task after (.connect number dsn target) outcome with
        world := after }.Agrees
          (assign duties task ((duties task).see number (after.sessions number))) := by
  obtain ⟨coherent, attended⟩ := agrees.attended.connects mine connected
  refine ⟨coherent, ?_⟩
  cases connected with
  | failed fault =>
      have same : crew.follow task crew.world (.connect number dsn target) (.error fault) =
          crew := enroll_nothing _ _ crew
      rw [same]
      exact agrees.attends (.refl crew.world) attended rfl rfl
  | @connected verdict handle middle free acquired =>
      have given : ((middle.changeSession number
          (Session.connectedTo handle (Session.chooseSource dsn target))).sessions
            number).connection = some handle := by
        rw [World.changeSession_self]
        rfl
      rw [follow, given]
      exact agrees.enrolls acquired attended (field_assign Duty.tearing rfl)
        (field_assign Duty.closing rfl)

theorem closes (agrees : crew.Agrees duties) {number : Nat}
    (mine : ∀ other ∈ crew.begun number, other = task)
    (closed : after = crew.world ∨
      after = crew.world.changeSession number Session.disconnected) :
    (after.sessions number).Coherent ∧
      { crew with world := after }.Agrees
        (assign duties task ((duties task).see number (after.sessions number))) := by
  obtain ⟨coherent, attended⟩ := agrees.attended.closes mine closed
  refine ⟨coherent, agrees.attends ?_ attended rfl rfl⟩
  rcases closed with rfl | rfl
  · exact .refl crew.world
  · exact crew.world.leaves_changeSession _ _

theorem clears (agrees : crew.Agrees duties) (calm : (duties task).tearing = none)
    (free : (duties task).closing = none) (registry : Nat) :
    let taken := Registry.takeAll registry crew.world
    (∀ entry ∈ taken.1, entry.2.isMade = true) ∧
      { crew.follow task taken.2 (.clear registry) (.ok taken.1) with world := taken.2 }.Agrees
        (assign duties task { duties task with tearing := some { remaining := taken.1 } }) := by
  have entries : (Registry.takeAll registry crew.world).1 =
      (crew.records (crew.now registry)).made := agrees.stocked.entries registry
  dsimp only
  rw [entries]
  constructor
  · intro entry member
    exact (agrees.stocked.known _ entry member).isMade
  refine ⟨?_, agrees.stocked.clears registry _, agrees.down.clears calm registry rfl, ?_⟩
  · apply agrees.attended.of_eq
    · rfl
    · rfl
  have unbegun := agrees.down.unbegun (crew.now registry) (Nat.le_refl _)
  refine agrees.locked.of_eq ?_ ?_ ?_ (field_assign Duty.closing rfl) ?_
  · exact fun handle => (shut_congr (fun _ => rfl) crew.dismissed handle).mp
  · exact fun _ handle _ => (shut_congr (fun _ => rfl) crew.dismissed handle).mpr
  · refine Record.field_update (fun record => record.teardown.closings) ?_
    dsimp only
    rw [unbegun]
  · intro other busy
    apply assign_of_ne
    rintro rfl
    exact busy free

/-! ## Notes -/

/-- What is observed of a teardown has no part in what was made before. -/
theorem stocked_torn (agrees : crew.Agrees duties) {period : Period}
    (torn : crew.tearing task = some period) (teardown : Teardown) :
    Stocked crew.world crew.clock (Function.update crew.records period
      { crew.records period with teardown }) := by
  refine agrees.stocked.of_eq rfl (fun _ known => known)
    (Record.field_update Record.made rfl) (Record.field_update Record.given rfl) ?_
  intro other future
  apply Function.update_of_ne
  rintro rfl
  exact Nat.lt_asymm future (agrees.down.torn task other torn).1

/-- A task is about to close the next handle of its teardown. -/
theorem opens (agrees : crew.Agrees duties) {dsn : String} {handle : Handle}
    {remaining : List (String × Handle)}
    (busy : (duties task).tearing = some { remaining := (dsn, handle) :: remaining })
    (free : (duties task).closing = none) :
    (crew.observe task (.closing handle)).Agrees (assign duties task
      { duties task with
        tearing := some { remaining, owed := true }
        closing := some handle }) := by
  obtain ⟨period, torn, runs⟩ := agrees.down.at_work busy
  have unfinished := (agrees.down.torn task period torn).2.1
  rw [observe, amendTorn_eq torn]
  refine ⟨agrees.attended.of_eq rfl rfl, agrees.stocked_torn torn _, ?_, ?_⟩
  · refine agrees.down.proceeds torn rfl unfinished rfl ⟨?_, ?_, runs.verdict⟩
    · simpa using runs.remaining
    · simpa using runs.answers
  · exact agrees.locked.opens torn free (agrees.intact torn runs rfl) rfl rfl

/-- A closing of a teardown is answered. -/
theorem answered (agrees : crew.Agrees duties) {remaining : List (String × Handle)}
    (busy : (duties task).tearing = some { remaining, owed := true })
    (answer : Except Fault Unit) :
    (crew.observe task (.closed answer)).Agrees (assign duties task
      { duties task with
        tearing := some { remaining, stopped := cancellation? answer } }) := by
  obtain ⟨period, torn, runs⟩ := agrees.down.at_work busy
  have unfinished := (agrees.down.torn task period torn).2.1
  rw [observe, amendTorn_eq torn]
  refine ⟨agrees.attended.of_eq rfl rfl, agrees.stocked_torn torn _, ?_, ?_⟩
  · refine agrees.down.proceeds torn rfl unfinished rfl
      ⟨runs.remaining, ?_, runs.verdict.append answer⟩
    simpa using runs.answers
  · exact agrees.locked.of_eq (fun _ shut => shut) (fun _ _ _ shut => shut)
      (Record.field_update (fun record => record.teardown.closings) rfl)
      (field_assign Duty.closing rfl) fun _ _ => rfl

theorem finishes (agrees : crew.Agrees duties) {state : Tearing}
    (busy : (duties task).tearing = some state) (paid : state.owed = false)
    (free : (duties task).closing = none)
    (whole : state.stopped = none → state.remaining = []) :
    (crew.observe task (.finished state.outcome)).Agrees
      (assign duties task { duties task with tearing := none }) := by
  obtain ⟨period, torn, runs⟩ := agrees.down.at_work busy
  rw [observe, amendTorn_eq torn]
  refine ⟨agrees.attended.of_eq rfl rfl, agrees.stocked_torn torn _, ?_, ?_⟩
  · exact agrees.down.finishes torn busy paid whole rfl
  · refine agrees.locked.of_eq (fun _ shut => shut) (fun _ _ _ shut => shut)
      (Record.field_update (fun record => record.teardown.closings) rfl)
      (field_assign Duty.closing rfl) fun other working => ?_
    apply assign_of_ne
    rintro rfl
    exact working free

theorem notes (agrees : crew.Agrees duties) {remark : Remark} {post : Duty → Prop}
    (notes : (duties task).Notes post remark)
    (admitted : crew.admits task (.note remark) = true) :
    ∃ duty, post duty ∧ (crew.observe task remark).Agrees (assign duties task duty) := by
  cases remark with
  | began number =>
      have mine : ∀ other ∈ crew.begun number, other = task := by
        simpa [admits] using admitted
      have attended := agrees.attended.begins mine
      refine ⟨_, notes (crew.world.sessions number) (agrees.attended.coherent number) ?_ ?_,
        agrees.attends (.refl crew.world) attended rfl rfl⟩
      · -- Where this task is in no transaction, no task is.
        intro outside
        apply agrees.attended.idle
        rw [agrees.attended.depth, List.count_eq_zero] at outside
        refine List.eq_nil_iff_forall_not_mem.mpr fun other member => ?_
        rw [mine other member] at member
        exact outside member
      · exact agrees.attended.fits task number
  | ended number =>
      obtain ⟨held, rests, holds⟩ := notes
      have attended := agrees.attended.ends held rests
      exact ⟨_, holds, agrees.attends (.refl crew.world) attended rfl rfl⟩
  | closing handle =>
      obtain ⟨dsn, remaining, busy, free, holds⟩ := notes
      exact ⟨_, holds, agrees.opens busy free⟩
  | closed answer =>
      obtain ⟨remaining, busy, _, holds⟩ := notes
      exact ⟨_, holds, agrees.answered busy answer⟩
  | finished outcome =>
      obtain ⟨state, busy, paid, free, rfl, whole, holds⟩ := notes
      exact ⟨_, holds, agrees.finishes busy paid free whole⟩

/-- Whatever a task has run agrees with the duties that it has afterwards. -/
theorem errand (agrees : crew.Agrees duties) {errand : Errand}
    {post : Except Fault errand.Answer → Duty → Prop}
    (asks : (duties task).Asks errand post) (admitted : crew.admits task errand = true)
    (answers : Answers) :
    let run := errand.routine.run answers.outside crew.world ()
    ∃ duty, post run.outcome duty ∧
      { crew.follow task run.world errand run.outcome with world := run.world }.Agrees
        (assign duties task duty) := by
  intro run
  cases errand with
  | acquire registry dsn options =>
      have acquired : Registry.Acquired crew.world registry dsn _ run.outcome run.world :=
        Registry.acquire_reaches
      refine ⟨_, asks run.outcome, ?_⟩
      rw [assign_eta]
      exact agrees.acquires acquired
  | connect number dsn target =>
      have mine : ∀ other ∈ crew.begun number, other = task := by
        simpa [admits] using admitted
      have connected : Session.Connected crew.world number _ run.outcome run.world :=
        Session.connect_connects dsn target
      obtain ⟨coherent, agrees⟩ := agrees.connects mine connected
      exact ⟨_, asks run.outcome _ coherent, agrees⟩
  | close number =>
      have mine : ∀ other ∈ crew.begun number, other = task := by
        simpa [admits] using admitted
      have closed : run.outcome = .ok () ∧ (run.world = crew.world ∨
          run.world = crew.world.changeSession number Session.disconnected) :=
        Session.close_closes
      obtain ⟨coherent, agrees⟩ := agrees.closes mine closed.2
      exact ⟨_, asks run.outcome _ coherent, agrees⟩
  | clear registry =>
      obtain ⟨calm, free, holds⟩ := asks
      obtain ⟨made, agrees⟩ := agrees.clears calm free registry
      exact ⟨_, holds _ made, agrees⟩
  | note remark =>
      obtain ⟨duty, holds, agrees⟩ := agrees.notes asks admitted
      refine ⟨duty, holds, ?_⟩
      have same := (crew.observe_stays task remark).1
      change ({ crew.observe task remark with world := crew.world } : Crew).Agrees _
      rw [← same]
      exact agrees

end Crew.Agrees

/-! ## Moves -/

namespace Crew

variable {crew : Crew} {duties : Nat → Duty} {task : Nat}

namespace Accords

/-- A task goes on with the rest of its routine; the others stay as they are. -/
theorem resumes (accords : crew.Accords duties) {routine rest : Routine errands Unit}
    (present : crew.tasks[task]? = some routine) {later : Crew} {duty : Duty}
    (agrees : later.Agrees (assign duties task duty)) (tasks : later.tasks = crew.tasks)
    (behaves : rest.Behaves (fun _ after => after.Idle) duty) :
    (later.resume task rest).Accords (assign duties task duty) := by
  have bound : task < crew.tasks.length := (List.getElem?_eq_some_iff.mp present).1
  refine ⟨⟨agrees.attended, agrees.stocked, agrees.down, agrees.locked⟩, ?_, ?_⟩
  · rw [resume, tasks]
    exact holds_set_assign (fun routine duty => routine.Behaves (fun _ after => after.Idle) duty)
      bound accords.tasks behaves
  · intro other absent
    rw [resume, tasks] at absent
    by_cases here : other = task
    · simp [here, List.getElem?_set_self bound] at absent
    · rw [List.getElem?_set_ne (Ne.symm here)] at absent
      rw [assign_of_ne _ _ here]
      exact accords.absent other absent

/-- A task that has come to its end has no duties left. -/
theorem idle (accords : crew.Accords duties)
    (ends : ∀ routine : Routine errands Unit, crew.tasks[task]? = some routine →
      isOver routine = true) : (duties task).Idle := by
  cases present : crew.tasks[task]? with
  | none => exact accords.absent task present
  | some routine =>
      have behaves := accords.tasks task routine present
      have ended := ends routine present
      cases routine with
      | done | fail => exact behaves
      | step | emit | call | aside => cases ended

/-- A task that takes a step has duties with which it behaves afterwards. -/
theorem advance (accords : crew.Accords duties) {routine : Routine errands Unit}
    (present : crew.tasks[task]? = some routine) (answers : Answers) :
    ∃ duties', (crew.advance task answers routine).Accords duties' := by
  have behaves := accords.tasks task routine present
  cases routine with
  | done | fail => exact ⟨duties, accords⟩
  | step update next =>
      obtain ⟨duty, changes, rest⟩ := behaves crew.world (accords.attended.fits task)
      exact ⟨_, accords.resumes present (accords.toAgrees.changes changes) rfl rest⟩
  | emit event next =>
      refine ⟨assign duties task (duties task), accords.resumes present ?_ rfl behaves⟩
      rw [assign_eta]
      exact accords.toAgrees
  | call request next =>
      obtain ⟨duty, hears, rest⟩ := behaves
      exact ⟨_, accords.resumes present (accords.toAgrees.hears hears) rfl (rest _)⟩
  | aside errand next =>
      by_cases admitted : crew.admits task errand = true
      · obtain ⟨duty, rest, agrees⟩ := accords.toAgrees.errand behaves admitted answers
        refine ⟨assign duties task duty, ?_⟩
        rw [Crew.advance, if_pos admitted]
        exact accords.resumes present agrees (crew.follow_stays ..).1 rest
      · refine ⟨duties, ?_⟩
        rw [Crew.advance, if_neg admitted]
        exact accords

theorem join (accords : crew.Accords duties) (program : Program Unit) :
    (crew.move (.join program)).Accords duties := by
  refine ⟨⟨accords.attended, accords.stocked, accords.down, accords.locked⟩, ?_, ?_⟩
  · intro task routine present
    by_cases earlier : task < crew.tasks.length
    · apply accords.tasks
      rw [← present]
      exact (List.getElem?_append_left earlier).symm
    · have absent : crew.tasks[task]? = none :=
        List.getElem?_eq_none (Nat.le_of_not_lt earlier)
      have idle := accords.absent task absent
      have here : [program.routine][task - crew.tasks.length]? = some routine := by
        rw [← present]
        exact (List.getElem?_append_right (Nat.le_of_not_lt earlier)).symm
      obtain rfl := List.mem_singleton.mp (List.mem_of_getElem? here)
      refine (program.routine_behaves idle.tearing idle.closing).mono ?_
      intro _ after returns
      exact ⟨fun number => (returns.depth number).trans (idle.depth number),
        returns.tearing.trans idle.tearing, returns.closing.trans idle.closing⟩
  · intro task absent
    apply accords.absent
    rw [move, List.getElem?_eq_none_iff, List.length_append] at absent
    exact List.getElem?_eq_none (by omega)

theorem move (accords : crew.Accords duties) (move : Move) :
    ∃ duties', (crew.move move).Accords duties' := by
  cases move with
  | join program => exact ⟨duties, accords.join program⟩
  | advance task answers =>
      cases present : crew.tasks[task]? with
      | none =>
          refine ⟨duties, ?_⟩
          rw [Crew.move, present]
          exact accords
      | some routine =>
          rw [Crew.move, present]
          exact accords.advance present answers

theorem play (accords : crew.Accords duties) (moves : List Move) :
    ∃ duties', (crew.play moves).Accords duties' := by
  induction moves generalizing crew duties with
  | nil => exact ⟨duties, accords⟩
  | cons move moves induction =>
      obtain ⟨_, moved⟩ := accords.move move
      exact induction moved

end Accords

theorem start_accords (home : Nat → Nat) (factories : Nat → Factory) :
    (start home factories).Accords fun _ => {} where
  attended := ⟨fun _ => ⟨rfl, rfl⟩, fun _ => rfl, fun _ _ => rfl, nofun, fun _ _ => rfl,
    fun _ _ held => (Nat.lt_irrefl 0 held).elim⟩
  stocked := ⟨fun _ => rfl, fun _ => ⟨.nil, fun _ => Iff.rfl⟩, nofun, nofun, fun _ _ => rfl⟩
  down := ⟨⟨fun _ _ => rfl, fun _ _ => rfl, nofun⟩,
    ⟨nofun, fun _ _ => rfl, nofun, fun _ past => (Nat.not_lt_zero _ past).elim⟩⟩
  locked := ⟨nofun, fun handle shut => by cases handle <;> simp [Shut, start] at shut,
    nofun, nofun, .nil⟩
  tasks := by simp [start]
  absent := fun _ _ => ⟨fun _ => rfl, rfl, rfl⟩

/-- Whatever programs join and however they advance, the crew is in accord. -/
theorem play_accords (home : Nat → Nat) (factories : Nat → Factory) (moves : List Move) :
    ∃ duties, ((start home factories).play moves).Accords duties :=
  (start_accords home factories).play moves

end Crew

end Midrange
