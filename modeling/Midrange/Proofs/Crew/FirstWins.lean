import Midrange.Proofs.Crew.Gentle

/-!
# Registries in which the first acquisition wins

A registry is a map from data sources to handles that only grows, until a teardown
clears it and a new period begins.  In a period the factory succeeds once for each data
source, and every acquisition gives what it made then.  A teardown closes what it found,
each handle once; later acquisitions do not reach it, even while it is under way.
-/

namespace Midrange

/-- How a teardown ended, after an answer to each closing.  If none of them was a
cancellation, everything was closed; otherwise a cancellation came last, and out. -/
structure Teardown.Concluded (teardown : Teardown) (outcome : Except Fault Unit) : Prop where
  answered : teardown.answers.length = teardown.closings.length
  whole : (∀ answer ∈ teardown.answers, cancellation? answer = none) →
    outcome = .ok () ∧ teardown.closings = teardown.held.map (·.2)
  cancelled : ∀ fault, .error fault ∈ teardown.answers → fault.isOrdinary = false →
    outcome = .error fault ∧ teardown.answers.getLast? = some (.error fault)

theorem Teardown.Ended.concluded {teardown : Teardown} {outcome : Except Fault Unit}
    {tearing : Tearing} (ended : teardown.Ended outcome tearing) :
    teardown.Concluded outcome := by
  refine ⟨?_, fun tolerable => ?_, fun fault raised uncommon => ?_⟩
  · rw [ended.answers, ended.paid]
    rfl
  · have calm := ended.verdict.whole tolerable
    have remaining := ended.remaining
    rw [ended.whole calm, List.map_nil, List.append_nil] at remaining
    refine ⟨?_, remaining.symm⟩
    rw [ended.outcome, Tearing.outcome, calm]
  · obtain ⟨stopped, last⟩ := ended.verdict.cancelled raised uncommon
    refine ⟨?_, last⟩
    rw [ended.outcome, Tearing.outcome, stopped]

/-- How many handles have been made, and dedicated connections of guests besides. -/
def World.handleCount (world : World) : Nat :=
  world.poolCount + world.guestCount

namespace Crew

/-- What an acquisition comes to: the handle that was given in this period, whatever the
options are; else the fault of the factory; else a new handle.  Only the last of these
changes anything. -/
structure Acquires (crew : Crew) (registry : Nat) (dsn : String) (options : Fields Value)
    (answers : Answers) (acquisition : Run noCaller Unit Handle) : Prop where
  given : ∀ handle, (dsn, handle) ∈ (crew.records (crew.now registry)).given →
    acquisition.outcome = .ok handle ∧ acquisition.world = crew.world
  refused : (∀ handle, (dsn, handle) ∉ (crew.records (crew.now registry)).given) →
    ∀ fault, Registry.verdict options (answers (.makeGuest options))
        (crew.world.registries registry).factory = .error fault →
      acquisition.outcome = .error fault ∧ acquisition.world = crew.world
  made : (∀ handle, (dsn, handle) ∉ (crew.records (crew.now registry)).given) →
    Registry.verdict options (answers (.makeGuest options))
        (crew.world.registries registry).factory = .ok () →
      ∃ handle, acquisition.outcome = .ok handle ∧ ¬crew.world.Knows handle ∧
        crew.world.newHandle? acquisition.world = some handle ∧
        acquisition.world.handleCount = crew.world.handleCount + 1 ∧
        (acquisition.world.registries registry).handles.entries =
          (crew.world.registries registry).handles.entries ++ [(dsn, handle)]

/-- The first acquisition of a data source wins, up to the next teardown.  The programs
are those that joined, in order. -/
structure FirstWins (crew : Crew) (programs : List (Program Unit)) : Prop where
  entries : ∀ registry, (crew.world.registries registry).handles.entries =
    (crew.records (crew.now registry)).made
  unbegun : ∀ period, crew.clock period.registry < period.number →
    crew.records period = {}
  once : ∀ period, ((crew.records period).made.map (·.1)).Nodup
  given : ∀ period entry, entry ∈ (crew.records period).given ↔
    entry ∈ (crew.records period).made
  apart : ∀ first second, ∀ left ∈ (crew.records first).made,
    ∀ right ∈ (crew.records second).made, left.2 = right.2 → first = second ∧ left = right
  grows : ∀ moves period,
    (crew.records period).made <+: ((crew.play moves).records period).made
  acquires : ∀ registry dsn options (answers : Answers),
    crew.Acquires registry dsn options answers
      ((Registry.acquire registry dsn options).run answers.outside crew.world ())
  held : ∀ period, period.number < crew.clock period.registry →
    (crew.records period).teardown.held = (crew.records period).made
  closings : ∀ period, (crew.records period).teardown.closings <+:
    (crew.records period).teardown.held.map (·.2)
  different : ∀ period, ((crew.records period).teardown.held.map (·.2)).Nodup
  asked : crew.dismissed.Nodup
  concluded : ∀ period outcome, (crew.records period).teardown.finished = some outcome →
    (crew.records period).teardown.Concluded outcome ∧
      ∀ handle ∈ (crew.records period).teardown.closings,
        Shut crew.world crew.dismissed handle
  ends : (∀ routine ∈ crew.tasks, isOver routine = true) →
    ∀ period, period.number < crew.clock period.registry →
      (crew.records period).teardown.finished.isSome = true
  shut : ∀ handle, Shut crew.world crew.dismissed handle →
    ∃ period, period.number < crew.clock period.registry ∧
      handle ∈ (crew.records period).teardown.closings
  retains : ∀ task program, programs[task]? = some program → program.Gentle →
    ∀ answers, crew.Retains (crew.move (.advance task answers))

/-! ## What is made grows -/

variable {crew : Crew} {task : Nat}

theorem amend_grows {change : Record → Record}
    (grows : ∀ record, record.made <+: (change record).made) (present period : Period) :
    (crew.records period).made <+: ((crew.amend present change).records period).made := by
  by_cases here : period = present
  · simpa only [here, amend, Function.update_self] using grows _
  · simp only [amend, Function.update_of_ne here, List.prefix_rfl]

theorem enroll_grows (registry : Nat) (dsn : String) (after : World) (given : Option Handle)
    (period : Period) : (crew.records period).made <+:
      ((crew.enroll registry dsn after given).records period).made :=
  amend_grows (fun _ => List.prefix_append _ _) _ period

theorem amendTorn_grows (change : Teardown → Teardown) (period : Period) :
    (crew.records period).made <+: ((crew.amendTorn task change).records period).made := by
  rw [amendTorn]
  split
  · exact List.prefix_rfl
  · apply amend_grows
    exact fun _ => List.prefix_rfl

theorem follow_grows (after : World) (errand : Errand)
    (outcome : Except Fault errand.Answer) (period : Period) :
    (crew.records period).made <+:
      ((crew.follow task after errand outcome).records period).made := by
  cases errand with
  | acquire => exact enroll_grows _ _ _ _ period
  | connect => cases outcome <;> exact enroll_grows _ _ _ _ period
  | close => exact List.prefix_rfl
  | clear =>
      simp only [follow]
      apply amend_grows
      exact fun _ => List.prefix_rfl
  | note remark =>
      cases remark with
      | began | ended => exact List.prefix_rfl
      | closing | closed | finished => exact amendTorn_grows _ period

theorem move_grows (move : Move) (period : Period) :
    (crew.records period).made <+: ((crew.move move).records period).made := by
  cases move with
  | join => exact List.prefix_rfl
  | advance task answers =>
      rw [Crew.move]
      split
      · exact List.prefix_rfl
      · rename_i routine _
        cases routine with
        | done | fail | step | emit | call => exact List.prefix_rfl
        | aside errand next =>
            rw [Crew.advance]
            split
            · exact follow_grows _ errand _ period
            · exact List.prefix_rfl

theorem play_grows (crew : Crew) (moves : List Move) (period : Period) :
    (crew.records period).made <+: ((crew.play moves).records period).made := by
  induction moves generalizing crew with
  | nil => exact List.prefix_rfl
  | cons move moves induction => exact (move_grows move period).trans (induction _)

/-! ## The first wins -/

namespace Accords

variable {duties : Nat → Duty}

theorem acquires (accords : crew.Accords duties) {registry : Nat} {dsn : String}
    {options : Fields Value} {answers : Answers} {acquisition : Run noCaller Unit Handle}
    (acquired : Registry.Acquired crew.world registry dsn
      (Registry.verdict options (answers (.makeGuest options))
        (crew.world.registries registry).factory) acquisition.outcome acquisition.world) :
    crew.Acquires registry dsn options answers acquisition := by
  have given_iff {handle : Handle} : (dsn, handle) ∈
      (crew.records (crew.now registry)).given ↔
        (crew.world.registries registry).handles.get? dsn = some handle :=
    accords.stocked.given_iff
  obtain ⟨outcome, after, state, trace⟩ := acquisition
  dsimp only at acquired
  cases acquired with
  | reused found =>
      have there := given_iff.mpr found
      refine ⟨fun handle given => ?_, fun nothing => ?_, fun nothing => ?_⟩
      · obtain rfl := Option.some.inj (found.symm.trans (given_iff.mp given))
        exact ⟨rfl, rfl⟩
      · exact (nothing _ there).elim
      · exact (nothing _ there).elim
  | failed absent refused =>
      refine ⟨fun handle given => ?_, fun _ fault refused' => ?_, fun _ accepted => ?_⟩
      · cases absent.symm.trans (given_iff.mp given)
      · obtain rfl := Except.error.inj (refused.symm.trans refused')
        exact ⟨rfl, rfl⟩
      · cases refused.symm.trans accepted
  | pool absent accepted opened =>
      refine ⟨fun handle given => ?_, fun _ fault refused => ?_, fun _ _ => ?_⟩
      · cases absent.symm.trans (given_iff.mp given)
      · cases accepted.symm.trans refused
      · exact ⟨_, rfl, Nat.lt_irrefl _, World.newHandle?_pool .., Nat.succ_add _ _,
          World.entries_keep absent⟩
  | guest absent accepted =>
      refine ⟨fun handle given => ?_, fun _ fault refused => ?_, fun _ _ => ?_⟩
      · cases absent.symm.trans (given_iff.mp given)
      · cases accepted.symm.trans refused
      · exact ⟨_, rfl, fun known => Nat.lt_irrefl _ known.1, World.newHandle?_guest .., rfl,
          World.entries_keep absent⟩

/-- What a teardown holds was made in its period; there is none before. -/
theorem closings_held (accords : crew.Accords duties) (period : Period) :
    (crew.records period).teardown.closings <+:
        (crew.records period).teardown.held.map (·.2) ∧
      ((crew.records period).teardown.held.map (·.2)).Nodup := by
  by_cases past : period.number < crew.clock period.registry
  · rw [accords.down.held period past]
    exact ⟨accords.down.closings_prefix past, accords.stocked.handles period⟩
  · rw [accords.down.unbegun period (Nat.le_of_not_lt past)]
    exact ⟨List.prefix_rfl, .nil⟩

/-- Everything that a concluded teardown closed is shut. -/
theorem shut_of_finished (accords : crew.Accords duties) {period : Period}
    {outcome : Except Fault Unit}
    (finished : (crew.records period).teardown.finished = some outcome) {handle : Handle}
    (closed : handle ∈ (crew.records period).teardown.closings) :
    Shut crew.world crew.dismissed handle := by
  rcases accords.locked.closed period handle closed with shut | ⟨task, busy⟩
  · exact shut
  · obtain ⟨period', torn, closed'⟩ := accords.locked.closing task handle busy
    obtain rfl := accords.toAgrees.apart (accords.toAgrees.made closed)
      (accords.toAgrees.made closed')
    rw [(accords.down.torn task period torn).2.1] at finished
    cases finished

/-- When all tasks have come to their end, so have all teardowns. -/
theorem finished_of_over (accords : crew.Accords duties)
    (ends : ∀ routine ∈ crew.tasks, isOver routine = true) {period : Period}
    (past : period.number < crew.clock period.registry) :
    (crew.records period).teardown.finished.isSome = true := by
  cases finished : (crew.records period).teardown.finished with
  | some outcome => rfl
  | none =>
      obtain ⟨task, torn⟩ := accords.down.underway period past finished
      obtain ⟨_, _, state, busy, _⟩ := accords.down.torn task period torn
      have idle : (duties task).Idle :=
        accords.idle fun routine present => ends routine (List.mem_of_getElem? present)
      rw [idle.tearing] at busy
      cases busy

end Accords

/-- Registries are first-wins maps over every run, with teardowns in any number and at
any time, unless a closing is cancelled; a cancellation stops its teardown. -/
theorem play_firstWins (home : Nat → Nat) (factories : Nat → Factory) (moves : List Move) :
    ((start home factories).play moves).FirstWins (moves.filterMap Move.program?) := by
  obtain ⟨duties, accords⟩ := play_accords home factories moves
  have peaceful := (start_peaceful home factories).play (start_accords home factories) moves
  rw [List.nil_append] at peaceful
  generalize (start home factories).play moves = crew at accords peaceful
  have stocked := accords.stocked
  refine ⟨stocked.entries, stocked.later, fun period => (stocked.sound period).names,
    fun period => (stocked.sound period).given, stocked.apart, crew.play_grows, ?_,
    accords.down.held, ?_, ?_, accords.locked.once, ?_, ?_, ?_, ?_⟩
  · intro registry dsn options answers
    have acquired : (Registry.acquire registry dsn options).Reaches answers.outside _
        crew.world () := Registry.acquire_reaches
    exact accords.acquires acquired
  · exact fun period => (accords.closings_held period).1
  · exact fun period => (accords.closings_held period).2
  · intro period outcome finished
    obtain ⟨state, ended⟩ := accords.down.ended period outcome finished
    exact ⟨ended.concluded, fun _ closed => accords.shut_of_finished finished closed⟩
  · exact fun ends _ past => accords.finished_of_over ends past
  · intro handle shut
    obtain ⟨period, closed⟩ := accords.locked.shut handle shut
    exact ⟨period, accords.down.past closed, closed⟩
  · intro task program joined gentle answers
    obtain ⟨calm, routine_gentle⟩ := peaceful.gentle task program joined gentle
    cases present : crew.tasks[task]? with
    | none =>
        rw [Crew.move, present]
        exact .refl crew
    | some routine =>
        rw [Crew.move, present]
        exact accords.retains present (routine_gentle routine present) calm answers

/-- A guest factory that never fails, and guests whose closings are cancelled. -/
def cancelling : Answers
  | .makeGuest _ => .ok ()
  | _ => .error (.outside .cancelled "stop")

/-- A task acquires two handles and tears them down. -/
def tearingTwo : List Move :=
  .join (.bind (.acquire 0 "a" ∅) fun _ => .bind (.acquire 0 "b" ∅) fun _ => .tearDown 0) ::
    List.replicate 7 (.advance 0 cancelling)

/-- A teardown that is cancelled while it closes its first handle never closes the
second one. -/
theorem play_tearingTwo :
    let crew := (start (fun _ => 0) fun _ => .guest).play tearingTwo
    (∀ routine ∈ crew.tasks, isOver routine = true) ∧
      (crew.records ⟨0, 0⟩).teardown.held =
        [("a", .guest 0 false), ("b", .guest 1 false)] ∧
      (crew.records ⟨0, 0⟩).teardown.closings = [.guest 0 false] ∧
      crew.dismissed = [(0, false)] := by
  decide

end Crew

end Midrange
