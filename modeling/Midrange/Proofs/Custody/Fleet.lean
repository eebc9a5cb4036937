import Midrange.Proofs.Custody.Client
import Midrange.Proofs.Custody.Closings
import Midrange.Proofs.Custody.Trails

/-!
# Custody in a fleet

In every run of a fleet its tasks keep custody: there is always an account of
what each of them has in hand that agrees with the shared state, the places of the
connections, and the scopes.  In a run in which no verb of a scope is in flight unless the
scope is running, the account agrees with the trails of the connections as well.
-/

namespace Midrange

theorem Hand.Empty.steady {hand : Hand} (empty : hand.Empty) : hand.Steady where
  leaving := empty.leaving
  running := by simp [empty.scopes]
  quiet := empty.quiet

theorem Hand.Empty.advance {before after : Hand} (empty : before.Empty)
    (advances : before.Advances after) : after.Empty where
  arriving := advances.arriving.trans empty.arriving
  held := by simpa [advances.held] using empty.held
  leaving := advances.leaving.trans empty.leaving
  scopes := by simpa [advances.scopes] using empty.scopes
  quiet := advances.quiet

theorem Hand.Changes.pen {pool : Nat} {world next : World} {hand after : Hand}
    (changes : hand.Changes pool world next after) :
    after.pen = { hand.pen with
      arriving := hand.pen.arriving - (next.openedCount - world.openedCount) } := by
  cases changes with
  | opened arriving => simp [World.addConnection, arriving]
  | look | heed | take | put | enter | leave | shut =>
      simp [World.changePool, World.addScope, World.changeScope, Pool.shut]

theorem Hand.Hears.pen {pool : Nat} {request : DriverCall}
    {answer : Except Fault request.Answer} {hand after : Hand}
    (hears : hand.Hears pool request answer after) :
    after.pen =
      { hand.pen with
        made := request.madeAfter hand.pen.made answer
        arriving := Fleet.arrivingAfter hand.pen.arriving request answer } := by
  cases hears with
  | state _ _ owned | speak _ _ owned =>
      cases request <;> first | rfl | simp [DriverCall.connection?] at owned
  | locate | connect | discard | dismiss => rfl

theorem Hand.Notes.pen {entry : Note} {hand after : Hand} (notes : hand.Notes entry after) :
    after.pen = { hand.pen with demand := Fleet.demandOf entry } := by
  cases notes <;> rfl

namespace Fleet

/-- What the tasks of a fleet have in hand agrees with the fleet, and with the trails of
the connections if the scopes have been tended. -/
structure Accords (pool : Nat) (capacity : Int) (tended : Prop) (fleet : Fleet)
    (hands : Nat → Hand) : Prop where
  tasks : ∀ task (routine : Routine journal Unit),
    fleet.tasks[task]? = some routine →
      routine.Keeps pool (fun _ after => after.Empty) (hands task)
  absent : ∀ task, fleet.tasks.length ≤ task → (hands task).Empty
  pens : ∀ task, (hands task).pen = fleet.pens task
  places : Places pool capacity fleet.world fleet.place hands
  scopes : Scopes fleet.world fleet.runner hands
  closings : Closings fleet.place fleet.trail
  trails : tended → Trails pool fleet.world fleet.place fleet.trail hands

/-- A verb of a scope is in flight in an attended fleet only while the scope runs. -/
theorem running_of_isAttended {fleet : Fleet} {task scope : Nat}
    (attended : fleet.isAttended = true) (speaks : fleet.inFlight? task = some scope) :
    (fleet.runner scope).isSome = true := by
  have member : task ∈ List.range fleet.tasks.length := by
    rw [List.mem_range]
    by_contra absent
    have none : fleet.tasks[task]? = none :=
      List.getElem?_eq_none_iff.mpr (Nat.le_of_not_lt absent)
    rw [inFlight?, none] at speaks
    cases speaks
  have holds := List.all_eq_true.mp attended task member
  rw [speaks] at holds
  exact holds

theorem isAttended_of_throughout {pool : Nat} {fleet : Fleet} {moves : List (Move pool)}
    (attended : fleet.isAttendedThroughout pool moves = true) : fleet.isAttended = true := by
  cases moves with
  | nil => exact attended
  | cons move moves => exact (Bool.and_eq_true_iff.mp attended).1

namespace Accords

variable {pool task : Nat} {capacity : Int} {tended : Prop} {fleet next : Fleet}
  {hands : Nat → Hand} {after : Hand} {routine rest : Routine journal Unit}

theorem fits (accords : fleet.Accords pool capacity tended hands) (task : Nat) :
    (hands task).Fits pool fleet.world where
  idle := by
    intro connection idle
    have here := (accords.places.idle connection).mp idle
    by_contra held
    have there := (accords.places.held task connection).mp held
    simp [here] at there
  fresh := by
    by_contra held
    have here := (accords.places.held task _).mp held
    have opened : fleet.place ⟨fleet.world.openedCount + 1⟩ ≠ .unopened := by
      simp [here]
    have bound := ((accords.places.opened _).mp opened).2
    exact Nat.not_succ_le_self _ bound
  unborn := accords.scopes.unborn task
  given := accords.scopes.given

/-- A task that has begun a verb of a scope and has a call to make is in the middle of the
verb. -/
theorem inFlight (accords : fleet.Accords pool capacity tended hands) {speech : Speech}
    (said : (hands task).speech = some speech) {request : DriverCall}
    {next : Except Fault request.Answer → Routine journal Unit}
    (here : fleet.tasks[task]? = some (.call (.driver request) next)) :
    fleet.inFlight? task = some speech.scope := by
  have heeds := accords.scopes.spoken task speech said
  rw [inFlight?, here, ← accords.pens]
  exact Pen.scope?_of_demand heeds.asked heeds.begins.own

/-- A task that has begun a verb of a scope has said it to the end or is in the middle of
it. -/
theorem whole_or_inFlight (accords : fleet.Accords pool capacity tended hands)
    {speech : Speech} (said : (hands task).speech = some speech) :
    speech.IsWhole ∨ fleet.inFlight? task = some speech.scope := by
  cases here : fleet.tasks[task]? with
  | none =>
      have empty := accords.absent task (List.getElem?_eq_none_iff.mp here)
      exact .inl (empty.quiet speech said)
  | some routine =>
      have keeps := accords.tasks task routine here
      cases routine with
      | done value =>
          exact .inl (Hand.Empty.quiet keeps speech said)
      | fail fault => exact .inl (Hand.Empty.quiet keeps speech said)
      | step | emit => cases keeps.1.symm.trans said
      | aside => exact .inl (keeps.1 speech said)
      | call request next =>
          cases request with
          | makeGuest | guest => exact keeps.elim
          | driver request => exact .inr (accords.inFlight said here)

/-- One task goes on with the rest of its routine. -/
theorem resume (accords : fleet.Accords pool capacity tended hands)
    (here : fleet.tasks[task]? = some routine)
    (keeps : rest.Keeps pool (fun _ after => after.Empty) after)
    (tasks : next.tasks = fleet.tasks.set task rest)
    (pens : next.pens = assign fleet.pens task after.pen)
    (places : Places pool capacity next.world next.place (assign hands task after))
    (scopes : Scopes next.world next.runner (assign hands task after))
    (closings : Closings next.place next.trail) :
    next.Accords pool capacity False (assign hands task after) where
  tasks := by
    rw [tasks]
    exact holds_set_assign
      (fun routine hand => routine.Keeps pool (fun _ after => after.Empty) hand)
      (List.getElem?_eq_some_iff.mp here).1 accords.tasks keeps
  absent := by
    intro other bound
    obtain ⟨inside, _⟩ := List.getElem?_eq_some_iff.mp here
    rw [tasks, List.length_set] at bound
    have different : other ≠ task := by
      rintro rfl
      exact Nat.not_le_of_lt inside bound
    rw [assign_of_ne _ _ different]
    exact accords.absent other bound
  pens := by
    intro other
    rw [pens]
    by_cases same : other = task
    · rw [same, assign_self, assign_self]
    · rw [assign_of_ne _ _ same, assign_of_ne _ _ same]
      exact accords.pens other
  places := places
  scopes := scopes
  closings := closings
  trails := False.elim

/-- The account agrees with the trails. -/
theorem tend (accords : next.Accords pool capacity False hands)
    (trails : tended → Trails pool next.world next.place next.trail hands) :
    next.Accords pool capacity tended hands :=
  { accords with trails }

theorem bare (accords : fleet.Accords pool capacity tended hands) :
    fleet.Accords pool capacity False hands :=
  { accords with trails := False.elim }

/-- A task writes an entry of its journal. -/
theorem write {entry : Note} (accords : fleet.Accords pool capacity tended hands)
    (here : fleet.tasks[task]? = some routine) (notes : (hands task).Notes entry after)
    (keeps : rest.Keeps pool (fun _ after => after.Empty) after) :
    ((fleet.write task entry).resume task rest).Accords pool capacity False
      (assign hands task after) := by
  refine accords.resume here keeps rfl ?_ ?_ ?_ ?_
  · rw [notes.pen, accords.pens]
    rfl
  · exact accords.places.notes notes
  · exact accords.scopes.notes notes
  · exact accords.closings.notes entry

/-- A task that writes an entry of its journal keeps custody. -/
theorem notes {entry : Note} (accords : fleet.Accords pool capacity tended hands)
    (here : fleet.tasks[task]? = some routine) (quiet : (hands task).Quiet)
    (writes : (hands task).Writes
      (fun after => rest.Keeps pool (fun _ after => after.Empty) after) entry)
    (attended : tended →
      ((fleet.write task entry).resume task rest).isAttended = true) :
    ∃ hands, ((fleet.write task entry).resume task rest).Accords pool capacity tended
      hands := by
  match entry with
  | .verb demand =>
      exact ⟨_, (accords.write here (.verb demand) writes).tend fun tended =>
        (accords.trails tended).hush accords.scopes quiet rfl rfl⟩
  | .transaction handle =>
      exact ⟨_, (accords.write here (.transaction handle) writes).tend fun tended =>
        (accords.trails tended).hush accords.scopes quiet rfl rfl⟩
  | .close handle =>
      exact ⟨_, (accords.write here (.close handle) writes).tend fun tended =>
        (accords.trails tended).hush accords.scopes quiet rfl rfl⟩
  | .entered (.scope scope) =>
      obtain ⟨connection, own, held, keeps⟩ := writes
      refine ⟨_, (accords.write here (.entered own held) keeps).tend fun tended => ?_⟩
      have there := (accords.scopes.running task scope connection own).2.2.1
      have trails := (accords.trails tended).enter accords.places accords.scopes quiet held
      simpa [Fleet.write, Fleet.resume, trailNoted, markOf, there] using trails
  | .left (.scope scope) returned =>
      obtain ⟨connection, own, held, keeps⟩ := writes
      have there := (accords.scopes.running task scope connection own).2.2.1
      have bare {statements : List Signal} (said : Statements scope connection statements) :=
        accords.write here (.left returned own held said) (keeps statements said)
      by_cases tends : tended
      · have stopped (other : Nat) (speech : Speech)
            (said : (hands other).speech = some speech) (same : speech.scope = scope) :
            speech.IsWhole := by
          by_cases mine : other = task
          · subst mine
            exact quiet speech said
          · rw [← assign_of_ne hands _ mine] at said
            refine ((bare (.nil scope connection)).whole_or_inFlight said).resolve_right
              fun flies => ?_
            have runs := running_of_isAttended (attended tends) flies
            simp [Fleet.write, Fleet.resume, runnerNoted, same] at runs
        obtain ⟨blocks, statements, whole, parts, said⟩ :=
          (accords.trails tends).statements accords.scopes held stopped
        refine ⟨_, (bare said).tend fun tended => ?_⟩
        have trails := (accords.trails tended).leave returned accords.places accords.scopes
          quiet own held whole parts said
        simpa [Fleet.write, Fleet.resume, trailNoted, markOf, there] using trails
      · exact ⟨_, (bare (.nil scope connection)).tend fun tended => (tends tended).elim⟩
  | .entered (.pool _) | .entered (.guest ..) => exact writes.elim
  | .left (.pool _) _ | .left (.guest ..) _ => exact writes.elim

theorem advance (replies : Replies) (accords : fleet.Accords pool capacity tended hands)
    (here : fleet.tasks[task]? = some routine)
    (before : tended → fleet.isAttended = true)
    (after : tended → (fleet.advance pool task replies routine).isAttended = true) :
    ∃ hands, (fleet.advance pool task replies routine).Accords pool capacity tended hands ∧
      fleet.world.Outlives (fleet.advance pool task replies routine).world := by
  have keeps := accords.tasks task routine here
  have pens := accords.pens task
  cases routine with
  | done | fail => exact ⟨hands, accords, .refl _⟩
  | step update next =>
      obtain ⟨silent, steps⟩ := keeps
      obtain ⟨now, changes, rest⟩ := steps fleet.world (accords.fits task)
      have bare : (fleet.advance pool task replies (.step update next)).Accords pool
          capacity False (assign hands task now) := by
        refine accords.resume here rest rfl ?_ ?_ ?_ ?_
        · rw [changes.pen, pens]
          rfl
        · exact accords.places.changes changes
        · exact accords.scopes.changes changes
        · exact accords.closings.changes accords.places changes
      refine ⟨_, bare.tend fun tends => ?_, changes.outlives⟩
      refine (accords.trails tends).changes accords.places accords.scopes silent ?_ changes
      intro speech said unended
      rw [← assign_self hands task now] at said
      have flies := (bare.whole_or_inFlight said).resolve_left unended
      -- The step itself enters and leaves no scope: what runs after it ran before it.
      have runs := running_of_isAttended (after tends) flies
      exact runs
  | emit event next =>
      have bare : (fleet.advance pool task replies (.emit event next)).Accords pool
          capacity False (assign hands task (hands task)) := by
        refine accords.resume here keeps.2 rfl ?_ ?_ ?_ accords.closings
        · rw [pens, assign_eta]
          rfl
        · rw [assign_eta]
          exact accords.places
        · rw [assign_eta]
          exact accords.scopes
      rw [assign_eta] at bare
      exact ⟨hands, bare.tend accords.trails, .refl _⟩
  | call request next =>
      cases request with
      | makeGuest | guest => exact keeps.elim
      | driver request =>
          have ordinary (closes : request.isClose = true) (fault : Fault)
              (failed : replies.answer (.driver request) = .error fault) :
              fault.isOrdinary = true := by
            cases request <;> first | exact replies.closes _ fault failed | cases closes
          obtain ⟨now, hears, rest⟩ := keeps (replies.answer (.driver request)) ordinary
          refine ⟨assign hands task now, ?_, .refl _⟩
          refine (accords.resume here rest rfl ?_ ?_ ?_ ?_).tend fun tends => ?_
          · rw [hears.pen, pens]
            rfl
          · exact accords.places.hears hears
          · exact accords.scopes.hears hears
          · have closings := accords.closings.hears accords.places hears
            rw [pens] at closings
            exact closings
          · have trails := (accords.trails tends).hears accords.places accords.scopes
              (fun speech said => ?_) hears
            · rw [pens] at trails
              exact trails
            · exact running_of_isAttended (before tends) (accords.inFlight said here)
  | aside entry next =>
      obtain ⟨quiet, writes⟩ := keeps
      obtain ⟨hands, accords⟩ := accords.notes here quiet writes after
      exact ⟨hands, accords, .refl _⟩

theorem join (client : Client Unit) (within : client.Within pool)
    (accords : fleet.Accords pool capacity tended hands) :
    ({ fleet with tasks := fleet.tasks ++ [client.routine] } : Fleet).Accords pool
      capacity tended hands where
  tasks := by
    intro task routine here
    by_cases old : task < fleet.tasks.length
    · rw [List.getElem?_append_left old] at here
      exact accords.tasks task routine here
    · have bound : fleet.tasks.length ≤ task := Nat.le_of_not_lt old
      have empty := accords.absent task bound
      obtain rfl : client.routine = routine := by
        rw [List.getElem?_append_right bound] at here
        simpa using (List.mem_singleton.mp (List.mem_of_getElem? here)).symm
      exact (client.keeps within empty.steady).mono fun _ after => empty.advance
  absent := by
    intro task bound
    rw [List.length_append] at bound
    exact accords.absent task (Nat.le_of_add_right_le bound)
  pens := accords.pens
  places := accords.places
  scopes := accords.scopes
  closings := accords.closings
  trails := accords.trails

theorem move (accords : fleet.Accords pool capacity tended hands) (move : Move pool)
    (before : tended → fleet.isAttended = true)
    (after : tended → (fleet.move pool move).isAttended = true) :
    ∃ hands, (fleet.move pool move).Accords pool capacity tended hands ∧
      fleet.world.Outlives (fleet.move pool move).world := by
  cases move with
  | join client within => exact ⟨hands, accords.join client within, .refl _⟩
  | advance task replies =>
      rw [Fleet.move] at after ⊢
      cases here : fleet.tasks[task]? with
      | none => exact ⟨hands, accords, .refl _⟩
      | some routine =>
          rw [here] at after
          exact accords.advance replies here before after

/-- A task that has something in hand is at work. -/
theorem atWork (accords : fleet.Accords pool capacity tended hands)
    (busy : ¬ (hands task).Empty) :
    ∃ routine, fleet.tasks[task]? = some routine ∧ isOver routine = false := by
  cases here : fleet.tasks[task]? with
  | none => exact (busy (accords.absent task (List.getElem?_eq_none_iff.mp here))).elim
  | some routine =>
      refine ⟨routine, rfl, ?_⟩
      have keeps := accords.tasks task routine here
      cases routine with
      | done | fail => exact (busy keeps).elim
      | step | emit | call | aside => rfl

/-- A task at a connection, in hand or to be closed, is at work. -/
theorem busy (accords : fleet.Accords pool capacity tended hands) {connection : Connection}
    (here : fleet.place connection = .held task ∨
      fleet.place connection = .leaving task) :
    ∃ routine, fleet.tasks[task]? = some routine ∧ isOver routine = false := by
  apply accords.atWork
  intro empty
  rcases here with held | leaving
  · exact (accords.places.held task connection).mpr held (empty.held connection)
  · have member := (accords.places.leaving task connection).mpr leaving
    rw [empty.leaving] at member
    exact List.not_mem_nil member

/-- The connection of a scope that runs is held by the task that runs it. -/
theorem held_of_runner (accords : fleet.Accords pool capacity tended hands) {scope owner : Nat}
    (runs : fleet.runner scope = some owner) :
    fleet.place (fleet.world.scopes scope).connection = .held owner := by
  obtain ⟨connection, running⟩ := (accords.scopes.runner owner scope).mp runs
  have owns := accords.scopes.entered owner scope connection _ running rfl
  rw [(accords.scopes.running owner scope connection owns).2.2.1]
  exact (accords.places.held owner connection).mp (by simp [running])

/-- The next call of a task that is on a connection is on one that it holds, closes one
that it has to close, or goes on with a verb of a scope. -/
theorem nextCall (accords : fleet.Accords pool capacity tended hands)
    {request : DriverCall} {next : Except Fault request.Answer → Routine journal Unit}
    (here : fleet.tasks[task]? = some (.call (.driver request) next)) :
    request = .locate ∨ (∃ target, request = .connect target) ∨
      ∃ connection, request.connection? (fleet.pens task).made = some connection ∧
        (fleet.place connection = .held task ∨
          request = .close connection ∧ fleet.place connection = .leaving task ∨
          request.isClose = false ∧ ∃ scope, fleet.inFlight? task = some scope ∧
            (fleet.world.scopes scope).connection = connection) := by
  have keeps := accords.tasks task _ here
  obtain ⟨after, hears, _⟩ := keeps (.error (.outside .runtime ""))
    (fun _ fault failed => by cases failed; rfl)
  rw [← accords.pens task]
  cases hears with
  | locate => exact .inl rfl
  | connect target => exact .inr (.inl ⟨target, rfl⟩)
  | @state _ speech _ said owned notClose =>
      have there := (accords.scopes.spoken task speech said).connection
      have flies := accords.inFlight said here
      exact .inr (.inr ⟨_, owned, .inr (.inr ⟨notClose, _, flies, there⟩)⟩)
  | @speak _ connection _ _ _ owned _ held =>
      have place := (accords.places.held task connection).mp (by simp [held])
      exact .inr (.inr ⟨connection, owned, .inl place⟩)
  | @discard connection _ _ _ _ held =>
      have place := (accords.places.held task connection).mp (by simp [held])
      exact .inr (.inr ⟨connection, rfl, .inl place⟩)
  | @dismiss connection _ _ _ leaving =>
      have place := (accords.places.leaving task connection).mp (by simp [leaving])
      exact .inr (.inr ⟨connection, rfl, .inr (.inl ⟨rfl, place⟩)⟩)

/-- No task is about to close the connection of a scope that runs. -/
theorem spared (accords : fleet.Accords pool capacity tended hands)
    {connection : Connection} {next : Except Fault Unit → Routine journal Unit}
    (here : fleet.tasks[task]? = some (.call (.driver (.close connection)) next))
    {scope owner : Nat} (runs : fleet.runner scope = some owner) :
    (fleet.world.scopes scope).connection ≠ connection := by
  have keeps := accords.tasks task _ here
  obtain ⟨after, hears, _⟩ := keeps (.error (.outside .runtime ""))
    (fun _ fault failed => by cases failed; rfl)
  obtain ⟨used, running⟩ := (accords.scopes.runner owner scope).mp runs
  have owns := accords.scopes.entered owner scope used _ running rfl
  rw [(accords.scopes.running owner scope used owns).2.2.1]
  rintro rfl
  cases hears with
  | state _ _ _ notClose | speak _ _ _ notClose => cases notClose
  | discard _ _ held =>
      obtain rfl := accords.places.sole held running
      rw [held] at running
      cases running
  | dismiss _ _ leaving =>
      have away := (accords.places.leaving task used).mp (by simp [leaving])
      have held := (accords.places.held owner used).mp (by simp [running])
      rw [away] at held
      cases held

theorem play (accords : fleet.Accords pool capacity tended hands) (moves : List (Move pool))
    (attended : tended → fleet.isAttendedThroughout pool moves = true) :
    ∃ hands, (fleet.play pool moves).Accords pool capacity tended hands ∧
      fleet.world.Outlives (fleet.play pool moves).world := by
  induction moves generalizing fleet hands with
  | nil => exact ⟨hands, accords, .refl _⟩
  | cons move moves induction =>
      have both (tends : tended) : fleet.isAttended = true ∧
          (fleet.move pool move).isAttendedThroughout pool moves = true := by
        simpa [isAttendedThroughout] using attended tends
      obtain ⟨hands, accords, outlives⟩ := accords.move move
        (fun tends => (both tends).1) fun tends => isAttended_of_throughout (both tends).2
      obtain ⟨hands, accords, outlives'⟩ := induction accords fun tends => (both tends).2
      exact ⟨hands, accords, outlives.trans outlives'⟩

end Accords

theorem start_accords (pool : Nat) (tended : Prop) (settings : Pool) :
    (start pool settings).Accords pool settings.maxIdle tended fun _ => {} where
  tasks := by simp [start]
  absent := fun _ _ => ⟨rfl, fun _ => rfl, rfl, fun _ => rfl, nofun⟩
  pens := fun _ => rfl
  places := by
    constructor <;> simp [start, Fleet.idle]
    intro connection positive
    exact Nat.ne_of_gt positive
  scopes := by
    refine ⟨⟨?_, ?_, ?_, ?_⟩, ?_, ?_, ?_⟩ <;> simp [start]
  closings := by simp [Closings, start]
  trails := by
    intro _
    constructor <;> simp [start]

/-- In every run of a fleet its tasks keep custody. -/
theorem play_accords (pool : Nat) (tended : Prop) (settings : Pool) (moves : List (Move pool))
    (attended : tended →
      (start pool settings).isAttendedThroughout pool moves = true) :
    ∃ hands, (play pool (start pool settings) moves).Accords pool settings.maxIdle tended
      hands := by
  obtain ⟨hands, accords, _⟩ := (start_accords pool tended settings).play moves attended
  exact ⟨hands, accords⟩

end Fleet

end Midrange
