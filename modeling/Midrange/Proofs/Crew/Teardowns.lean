import Midrange.Proofs.Crew.Registries

/-!
# The teardowns of a crew

All that was made in a period is held by the teardown that clears the registry at its
end.  A teardown closes what it holds from the first handle to the last, unless a
cancellation stops it.  What is shut was closed by a teardown.
-/

namespace Midrange

/-- The answers to the closings of a teardown: none of them stops it, or the last one
does. -/
inductive Verdict : List (Except Fault Unit) → Option Fault → Prop where
  | calm {answers : List (Except Fault Unit)} :
      (∀ answer ∈ answers, cancellation? answer = none) → Verdict answers none
  | stopped {earlier : List (Except Fault Unit)} {fault : Fault} :
      (∀ answer ∈ earlier, cancellation? answer = none) → fault.isOrdinary = false →
      Verdict (earlier ++ [.error fault]) (some fault)

theorem Verdict.append {answers : List (Except Fault Unit)} (verdict : Verdict answers none)
    (answer : Except Fault Unit) :
    Verdict (answers ++ [answer]) (cancellation? answer) := by
  obtain ⟨calm⟩ := verdict
  cases stops : cancellation? answer with
  | none =>
      refine .calm fun other member => ?_
      rcases List.mem_append.mp member with earlier | last
      · exact calm other earlier
      · rw [List.mem_singleton.mp last]
        exact stops
  | some fault =>
      cases answer with
      | ok => cases stops
      | error raised =>
          by_cases ordinary : raised.isOrdinary = true
          · simp [cancellation?, ordinary] at stops
          · obtain rfl : raised = fault := by simpa [cancellation?, ordinary] using stops
            exact .stopped calm (Bool.eq_false_iff.mpr ordinary)

theorem Verdict.whole {answers : List (Except Fault Unit)} {stopped : Option Fault}
    (verdict : Verdict answers stopped)
    (tolerable : ∀ answer ∈ answers, cancellation? answer = none) : stopped = none := by
  cases verdict with
  | calm => rfl
  | stopped earlier uncommon =>
      have tolerated := tolerable _ (List.mem_append_right _ List.mem_cons_self)
      simp [cancellation?, uncommon] at tolerated

theorem Verdict.cancelled {answers : List (Except Fault Unit)} {stopped : Option Fault}
    (verdict : Verdict answers stopped) {fault : Fault} (raised : .error fault ∈ answers)
    (uncommon : fault.isOrdinary = false) :
    stopped = some fault ∧ answers.getLast? = some (.error fault) := by
  have stops : cancellation? (.error fault) = some fault := by
    simp [cancellation?, uncommon]
  cases verdict with
  | calm calm =>
      rw [calm _ raised] at stops
      cases stops
  | stopped calm =>
      rcases List.mem_append.mp raised with earlier | last
      · rw [calm _ earlier] at stops
        cases stops
      · obtain rfl := Except.error.inj (List.mem_singleton.mp last)
        exact ⟨rfl, List.getLast?_concat⟩

/-- What is observed of a teardown agrees with what its task has still to do. -/
structure Teardown.Runs (teardown : Teardown) (tearing : Tearing) : Prop where
  remaining : teardown.held.map (·.2) = teardown.closings ++ tearing.remaining.map (·.2)
  answers : teardown.closings.length = teardown.answers.length + tearing.owed.toNat
  verdict : Verdict teardown.answers tearing.stopped

/-- A teardown that is finished has closed everything, or was stopped by the last
answer. -/
structure Teardown.Ended (teardown : Teardown) (outcome : Except Fault Unit)
    (tearing : Tearing) : Prop extends teardown.Runs tearing where
  paid : tearing.owed = false
  outcome : outcome = tearing.outcome
  whole : tearing.stopped = none → tearing.remaining = []

/-- The teardowns of the past hold what was made in their periods, and there are no
others. -/
structure Archived (clock : Nat → Nat) (records : Period → Record) : Prop where
  unbegun : ∀ period, clock period.registry ≤ period.number →
    (records period).teardown = {}
  held : ∀ period, period.number < clock period.registry →
    (records period).teardown.held = (records period).made
  ended : ∀ period outcome, (records period).teardown.finished = some outcome →
    ∃ state, (records period).teardown.Ended outcome state

/-- Each teardown that is not finished is at work, in the hands of one task. -/
structure AtWork (clock : Nat → Nat) (records : Period → Record)
    (tearing : Nat → Option Period) (duties : Nat → Duty) : Prop where
  torn : ∀ task period, tearing task = some period →
    period.number < clock period.registry ∧ (records period).teardown.finished = none ∧
      ∃ state, (duties task).tearing = some state ∧ (records period).teardown.Runs state
  calm : ∀ task, tearing task = none → (duties task).tearing = none
  sole : ∀ first second period, tearing first = some period →
    tearing second = some period → first = second
  underway : ∀ period, period.number < clock period.registry →
    (records period).teardown.finished = none → ∃ task, tearing task = some period

structure TornDown (clock : Nat → Nat) (records : Period → Record)
    (tearing : Nat → Option Period) (duties : Nat → Duty) : Prop extends
    Archived clock records, AtWork clock records tearing duties

section

variable {clock : Nat → Nat} {records records' : Period → Record}
  {tearing : Nat → Option Period} {duties duties' : Nat → Duty} {task : Nat}
  {period : Period} {state : Tearing}

/-- One more period is past after a clearing. -/
theorem past_tick (clock : Nat → Nat) (registry : Nat) (period : Period) :
    period.number < assign clock registry (clock registry + 1) period.registry ↔
      period = ⟨registry, clock registry⟩ ∨ period.number < clock period.registry := by
  obtain ⟨other, number⟩ := period
  by_cases here : other = registry
  · subst here
    rw [assign_self, Period.mk.injEq]
    simp only [true_and]
    omega
  · rw [assign_of_ne _ _ here, Period.mk.injEq]
    simp [here]

/-! ### What is archived -/

namespace Archived

theorem clears (archived : Archived clock records) (registry : Nat) :
    Archived (assign clock registry (clock registry + 1))
      (Function.update records ⟨registry, clock registry⟩
        { records ⟨registry, clock registry⟩ with
          teardown := { held := (records ⟨registry, clock registry⟩).made } }) := by
  refine ⟨?_, ?_, ?_⟩
  · intro period future
    rw [← Nat.not_lt, past_tick, not_or, Nat.not_lt] at future
    rw [Function.update_of_ne future.1]
    exact archived.unbegun period future.2
  · intro period past
    by_cases here : period = ⟨registry, clock registry⟩
    · rw [here, Function.update_self]
    · rw [Function.update_of_ne here]
      exact archived.held period (((past_tick clock registry period).mp past).resolve_left here)
  · intro period outcome finished
    by_cases here : period = ⟨registry, clock registry⟩
    · rw [here, Function.update_self] at finished
      cases finished
    · rw [Function.update_of_ne here] at finished ⊢
      exact archived.ended period outcome finished

/-- More is observed of a teardown of the past. -/
theorem amends (archived : Archived clock records)
    (past : period.number < clock period.registry) {teardown : Teardown}
    (held : teardown.held = (records period).teardown.held)
    (ended : ∀ outcome, teardown.finished = some outcome →
      ∃ state, teardown.Ended outcome state) :
    Archived clock (Function.update records period { records period with teardown }) := by
  refine ⟨?_, ?_, ?_⟩
  · intro other future
    rw [Function.update_of_ne]
    · exact archived.unbegun other future
    · rintro rfl
      exact Nat.not_lt_of_le future past
  · intro other past'
    by_cases here : other = period
    · rw [here, Function.update_self, held]
      exact archived.held period past
    · rw [Function.update_of_ne here]
      exact archived.held other past'
  · intro other outcome finished
    by_cases here : other = period
    · rw [here, Function.update_self] at finished ⊢
      exact ended outcome finished
    · rw [Function.update_of_ne here] at finished ⊢
      exact archived.ended other outcome finished

end Archived

/-! ### What is at work -/

namespace AtWork

/-- A task that tears nothing down begins to tear down a period that ends. -/
theorem clears (work : AtWork clock records tearing duties)
    (calm : (duties task).tearing = none) (registry : Nat) {teardown : Teardown}
    (unfinished : teardown.finished = none) {duty : Duty}
    (begins : duty.tearing = some state) (runs : teardown.Runs state) :
    AtWork (assign clock registry (clock registry + 1))
      (Function.update records ⟨registry, clock registry⟩
        { records ⟨registry, clock registry⟩ with teardown })
      (assign tearing task (some ⟨registry, clock registry⟩)) (assign duties task duty) := by
  have unborn : ∀ other, tearing other ≠ some ⟨registry, clock registry⟩ := by
    intro other torn
    exact Nat.lt_irrefl _ (work.torn other _ torn).1
  have free : tearing task = none := by
    cases torn : tearing task with
    | none => rfl
    | some period =>
        obtain ⟨_, _, state, busy, _⟩ := work.torn task period torn
        rw [calm] at busy
        cases busy
  refine ⟨?_, ?_, ?_, ?_⟩
  · intro other period torn
    by_cases here : other = task
    · subst here
      obtain rfl : ⟨registry, clock registry⟩ = period := by simpa using torn
      rw [Function.update_self, assign_self, assign_self]
      exact ⟨Nat.lt_succ_self _, unfinished, state, begins, runs⟩
    · rw [assign_of_ne _ _ here] at torn ⊢
      have different : period ≠ ⟨registry, clock registry⟩ := by
        rintro rfl
        exact unborn other torn
      rw [Function.update_of_ne different]
      obtain ⟨past, rest⟩ := work.torn other period torn
      exact ⟨(past_tick clock registry period).mpr (.inr past), rest⟩
  · intro other nothing
    by_cases here : other = task
    · rw [here, assign_self] at nothing
      cases nothing
    · rw [assign_of_ne _ _ here] at nothing ⊢
      exact work.calm other nothing
  · intro first second period torn torn'
    by_cases here : first = task <;> by_cases there : second = task
    · rw [here, there]
    · rw [here, assign_self] at torn
      rw [assign_of_ne _ _ there, ← torn] at torn'
      exact (unborn second torn').elim
    · rw [there, assign_self] at torn'
      rw [assign_of_ne _ _ here, ← torn'] at torn
      exact (unborn first torn).elim
    · rw [assign_of_ne _ _ here] at torn
      rw [assign_of_ne _ _ there] at torn'
      exact work.sole first second period torn torn'
  · intro period past unfinished
    by_cases here : period = ⟨registry, clock registry⟩
    · exact ⟨task, by rw [assign_self, here]⟩
    · rw [Function.update_of_ne here] at unfinished
      obtain ⟨other, torn⟩ := work.underway period
        (((past_tick clock registry period).mp past).resolve_left here) unfinished
      refine ⟨other, ?_⟩
      rw [assign_of_ne, torn]
      rintro rfl
      rw [free] at torn
      cases torn

/-- The task of another period goes on as it was. -/
theorem torn_of_ne (work : AtWork clock records tearing duties)
    (torn : tearing task = some period) (record : Record) (duty : Duty) {other : Nat}
    (here : other ≠ task) {period' : Period} (torn' : tearing other = some period') :
    period'.number < clock period'.registry ∧
      (Function.update records period record period').teardown.finished = none ∧
        ∃ state, (assign duties task duty other).tearing = some state ∧
          (Function.update records period record period').teardown.Runs state := by
  rw [assign_of_ne _ _ here, Function.update_of_ne]
  · exact work.torn other period' torn'
  · rintro rfl
    exact here (work.sole other task period' torn' torn)

/-- A teardown goes on in the hands of its task. -/
theorem proceeds (work : AtWork clock records tearing duties)
    (torn : tearing task = some period) {teardown : Teardown}
    (unfinished : teardown.finished = none) {duty : Duty} (goes : duty.tearing = some state)
    (runs : teardown.Runs state) :
    AtWork clock (Function.update records period { records period with teardown }) tearing
      (assign duties task duty) := by
  refine ⟨?_, ?_, work.sole, ?_⟩
  · intro other period' torn'
    by_cases here : other = task
    · subst here
      obtain rfl : period = period' := Option.some.inj (torn.symm.trans torn')
      rw [Function.update_self, assign_self]
      exact ⟨(work.torn other period torn).1, unfinished, state, goes, runs⟩
    · exact work.torn_of_ne torn _ duty here torn'
  · intro other nothing
    rw [assign_of_ne]
    · exact work.calm other nothing
    · rintro rfl
      rw [torn] at nothing
      cases nothing
  · intro other past unfinished'
    by_cases here : other = period
    · exact ⟨task, by rw [here, torn]⟩
    · rw [Function.update_of_ne here] at unfinished'
      exact work.underway other past unfinished'

/-- A teardown comes to its end, and its task is free. -/
theorem finishes (work : AtWork clock records tearing duties)
    (torn : tearing task = some period) {teardown : Teardown}
    (finished : teardown.finished ≠ none) {duty : Duty} (calm : duty.tearing = none) :
    AtWork clock (Function.update records period { records period with teardown })
      (assign tearing task none) (assign duties task duty) := by
  refine ⟨?_, ?_, ?_, ?_⟩
  · intro other period' torn'
    by_cases here : other = task
    · rw [here, assign_self] at torn'
      cases torn'
    · rw [assign_of_ne _ _ here] at torn'
      exact work.torn_of_ne torn _ duty here torn'
  · intro other nothing
    by_cases here : other = task
    · rw [here, assign_self, calm]
    · rw [assign_of_ne _ _ here] at nothing ⊢
      exact work.calm other nothing
  · intro first second period' torn' torn''
    by_cases here : first = task
    · rw [here, assign_self] at torn'
      cases torn'
    · by_cases there : second = task
      · rw [there, assign_self] at torn''
        cases torn''
      · rw [assign_of_ne _ _ here] at torn'
        rw [assign_of_ne _ _ there] at torn''
        exact work.sole first second period' torn' torn''
  · intro other past unfinished
    by_cases here : other = period
    · rw [here, Function.update_self] at unfinished
      exact (finished unfinished).elim
    · rw [Function.update_of_ne here] at unfinished
      obtain ⟨worker, torn'⟩ := work.underway other past unfinished
      refine ⟨worker, ?_⟩
      rw [assign_of_ne, torn']
      rintro rfl
      exact here (Option.some.inj (torn'.symm.trans torn))

end AtWork

end

namespace TornDown

variable {clock : Nat → Nat} {records records' : Period → Record}
  {tearing : Nat → Option Period} {duties duties' : Nat → Duty} {task : Nat}
  {period : Period} {state : Tearing}

theorem of_eq (down : TornDown clock records tearing duties)
    (teardown : ∀ period, (records' period).teardown = (records period).teardown)
    (made : ∀ period, period.number < clock period.registry →
      (records' period).made = (records period).made)
    (same : ∀ task, (duties' task).tearing = (duties task).tearing) :
    TornDown clock records' tearing duties' where
  unbegun := by simpa only [teardown] using down.unbegun
  held := by
    intro period past
    rw [teardown, made period past]
    exact down.held period past
  ended := by simpa only [teardown] using down.ended
  torn := by simpa only [teardown, same] using down.torn
  calm := by simpa only [same] using down.calm
  sole := down.sole
  underway := by simpa only [teardown] using down.underway

theorem clears (down : TornDown clock records tearing duties)
    (calm : (duties task).tearing = none) (registry : Nat) {duty : Duty}
    (begins : duty.tearing =
      some { remaining := (records ⟨registry, clock registry⟩).made }) :
    TornDown (assign clock registry (clock registry + 1))
      (Function.update records ⟨registry, clock registry⟩
        { records ⟨registry, clock registry⟩ with
          teardown := { held := (records ⟨registry, clock registry⟩).made } })
      (assign tearing task (some ⟨registry, clock registry⟩)) (assign duties task duty) where
  toArchived := down.toArchived.clears registry
  toAtWork := down.toAtWork.clears calm registry rfl begins ⟨rfl, rfl, .calm nofun⟩

theorem proceeds (down : TornDown clock records tearing duties)
    (torn : tearing task = some period) {teardown : Teardown} {duty : Duty}
    (held : teardown.held = (records period).teardown.held)
    (unfinished : teardown.finished = none) (goes : duty.tearing = some state)
    (runs : teardown.Runs state) :
    TornDown clock (Function.update records period { records period with teardown }) tearing
      (assign duties task duty) where
  toArchived := by
    refine down.toArchived.amends (down.torn task period torn).1 held fun outcome finished => ?_
    rw [unfinished] at finished
    cases finished
  toAtWork := down.toAtWork.proceeds torn unfinished goes runs

theorem finishes (down : TornDown clock records tearing duties)
    (torn : tearing task = some period) (busy : (duties task).tearing = some state)
    (paid : state.owed = false) (whole : state.stopped = none → state.remaining = [])
    {duty : Duty} (calm : duty.tearing = none) :
    TornDown clock (Function.update records period
        { records period with
          teardown := { (records period).teardown with finished := some state.outcome } })
      (assign tearing task none) (assign duties task duty) where
  toArchived := by
    obtain ⟨past, _, state', busy', runs⟩ := down.torn task period torn
    obtain rfl : state' = state := Option.some.inj (busy'.symm.trans busy)
    refine down.toArchived.amends past rfl fun outcome finished => ?_
    obtain rfl := Option.some.inj finished
    exact ⟨state', ⟨runs.remaining, runs.answers, runs.verdict⟩, paid, rfl, whole⟩
  toAtWork := down.toAtWork.finishes torn (Option.some_ne_none _) calm

/-- A task that has a teardown works at a period. -/
theorem at_work (down : TornDown clock records tearing duties)
    (busy : (duties task).tearing = some state) :
    ∃ period, tearing task = some period ∧ (records period).teardown.Runs state := by
  cases torn : tearing task with
  | none =>
      rw [down.calm task torn] at busy
      cases busy
  | some period =>
      obtain ⟨_, _, state', busy', runs⟩ := down.torn task period torn
      obtain rfl : state' = state := Option.some.inj (busy'.symm.trans busy)
      exact ⟨period, rfl, runs⟩

theorem past (down : TornDown clock records tearing duties) {handle : Handle}
    (closed : handle ∈ (records period).teardown.closings) :
    period.number < clock period.registry := by
  apply Nat.lt_of_not_le
  intro future
  rw [down.unbegun period future] at closed
  cases closed

theorem runs (down : TornDown clock records tearing duties)
    (past : period.number < clock period.registry) :
    ∃ state, (records period).teardown.Runs state := by
  cases finished : (records period).teardown.finished with
  | none =>
      obtain ⟨task, torn⟩ := down.underway period past finished
      obtain ⟨_, _, state, _, runs⟩ := down.torn task period torn
      exact ⟨state, runs⟩
  | some outcome =>
      obtain ⟨state, ended⟩ := down.ended period outcome finished
      exact ⟨state, ended.toRuns⟩

/-- A teardown closes handles of its period, from the first on. -/
theorem closings_prefix (down : TornDown clock records tearing duties)
    (past : period.number < clock period.registry) :
    (records period).teardown.closings <+: (records period).made.map (·.2) := by
  obtain ⟨state, runs⟩ := down.runs past
  rw [← down.held period past, runs.remaining]
  exact List.prefix_append _ _

end TornDown

/-! ## What is shut -/

/-- A pool that is closed, or a guest that was asked to close. -/
def Shut (world : World) (dismissed : List (Nat × Bool)) : Handle → Prop
  | .pool number => (world.pools number).closed = true
  | .guest number dedicated => (number, dedicated) ∈ dismissed
  | .scope _ => False

theorem shut_congr {world after : World}
    (same : ∀ pool, (after.pools pool).closed = (world.pools pool).closed)
    (dismissed : List (Nat × Bool)) (handle : Handle) :
    Shut after dismissed handle ↔ Shut world dismissed handle := by
  cases handle with
  | pool number => rw [Shut, Shut, same]
  | guest | scope => exact Iff.rfl

namespace Registry.Acquired

variable {world after : World} {registry : Nat} {dsn : String}
  {verdict : Except Fault Unit} {outcome : Except Fault Handle}
  {dismissed : List (Nat × Bool)} {handle : Handle}

/-- A new handle is not shut. -/
theorem shut (acquired : Acquired world registry dsn verdict outcome after)
    (shut : Shut after dismissed handle) : Shut world dismissed handle := by
  cases acquired with
  | reused | failed | guest => exact shut
  | pool absent accepted opened =>
      cases handle with
      | guest | scope => exact shut
      | pool number =>
          by_cases here : number = world.poolCount
          · simp [Shut, World.keep, World.changeRegistry, World.addPool, here, opened] at shut
          · simpa [Shut, World.keep, World.changeRegistry, World.addPool,
              assign_of_ne _ _ here] using shut

theorem still (acquired : Acquired world registry dsn verdict outcome after)
    (known : world.Knows handle) (shut : Shut world dismissed handle) :
    Shut after dismissed handle := by
  cases acquired with
  | reused | failed | guest => exact shut
  | pool absent accepted opened =>
      cases handle with
      | guest | scope => exact shut
      | pool number =>
          have here : number ≠ world.poolCount := Nat.ne_of_lt known
          simpa [Shut, World.keep, World.changeRegistry, World.addPool,
            assign_of_ne _ _ here] using shut

end Registry.Acquired

/-- What is shut was closed by a teardown; what a teardown closed is shut, or a task is
about to shut it, which is not shut before.  No guest was asked to close twice. -/
structure Locked (world : World) (dismissed : List (Nat × Bool))
    (records : Period → Record) (tearing : Nat → Option Period) (duties : Nat → Duty) :
    Prop where
  closing : ∀ task handle, (duties task).closing = some handle →
    ∃ period, tearing task = some period ∧ handle ∈ (records period).teardown.closings
  shut : ∀ handle, Shut world dismissed handle →
    ∃ period, handle ∈ (records period).teardown.closings
  closed : ∀ period, ∀ handle ∈ (records period).teardown.closings,
    Shut world dismissed handle ∨ ∃ task, (duties task).closing = some handle
  intact : ∀ task handle, (duties task).closing = some handle →
    ¬Shut world dismissed handle
  once : dismissed.Nodup

namespace Locked

variable {world after : World} {dismissed dismissed' : List (Nat × Bool)}
  {records records' : Period → Record} {tearing tearing' : Nat → Option Period}
  {duties duties' : Nat → Duty} {task : Nat} {period : Period} {handle : Handle}

theorem of_eq (locked : Locked world dismissed records tearing duties)
    (shut : ∀ handle, Shut after dismissed handle → Shut world dismissed handle)
    (stays : ∀ period, ∀ handle ∈ (records period).teardown.closings,
      Shut world dismissed handle → Shut after dismissed handle)
    (closings : ∀ period, (records' period).teardown.closings =
      (records period).teardown.closings)
    (closing : ∀ task, (duties' task).closing = (duties task).closing)
    (torn : ∀ task, (duties task).closing ≠ none → tearing' task = tearing task) :
    Locked after dismissed records' tearing' duties' where
  closing := by
    intro task handle busy
    rw [closing] at busy
    obtain ⟨period, at_work, member⟩ := locked.closing task handle busy
    refine ⟨period, ?_, ?_⟩
    · rw [torn task (by simp [busy]), at_work]
    · rw [closings]
      exact member
  shut := by
    intro handle closed
    obtain ⟨period, member⟩ := locked.shut handle (shut handle closed)
    exact ⟨period, by rw [closings]; exact member⟩
  closed := by
    intro period handle member
    rw [closings] at member
    rcases locked.closed period handle member with before | ⟨task, busy⟩
    · exact .inl (stays period handle member before)
    · exact .inr ⟨task, by rw [closing, busy]⟩
  intact := by
    intro task handle busy closed
    rw [closing] at busy
    exact locked.intact task handle busy (shut handle closed)
  once := locked.once

/-- A task is about to shut a handle of its teardown. -/
theorem opens (locked : Locked world dismissed records tearing duties)
    (torn : tearing task = some period) (free : (duties task).closing = none)
    (intact : ¬Shut world dismissed handle) {teardown : Teardown} {duty : Duty}
    (closes : teardown.closings = (records period).teardown.closings ++ [handle])
    (busy : duty.closing = some handle) :
    Locked world dismissed
      (Function.update records period { records period with teardown }) tearing
      (assign duties task duty) := by
  have mem (other : Period) (handle' : Handle) :
      handle' ∈ (Function.update records period { records period with teardown }
        other).teardown.closings ↔
        handle' ∈ (records other).teardown.closings ∨ other = period ∧ handle' = handle := by
    by_cases here : other = period
    · subst here
      rw [Function.update_self, closes, List.mem_append, List.mem_singleton]
      simp
    · rw [Function.update_of_ne here]
      simp [here]
  refine ⟨?_, ?_, ?_, ?_, locked.once⟩
  · intro other handle' busy'
    by_cases here : other = task
    · subst here
      rw [assign_self, busy] at busy'
      exact ⟨period, torn, (mem _ _).mpr (.inr ⟨rfl, (Option.some.inj busy').symm⟩)⟩
    · rw [assign_of_ne _ _ here] at busy'
      obtain ⟨period', at_work, member⟩ := locked.closing other handle' busy'
      exact ⟨period', at_work, (mem _ _).mpr (.inl member)⟩
  · intro handle' shut
    obtain ⟨period', member⟩ := locked.shut handle' shut
    exact ⟨period', (mem _ _).mpr (.inl member)⟩
  · intro other handle' member
    rcases (mem _ _).mp member with earlier | ⟨_, rfl⟩
    · rcases locked.closed other handle' earlier with shut | ⟨worker, busy'⟩
      · exact .inl shut
      · refine .inr ⟨worker, ?_⟩
        rw [assign_of_ne, busy']
        rintro rfl
        rw [free] at busy'
        cases busy'
    · exact .inr ⟨task, by rw [assign_self, busy]⟩
  · intro other handle' busy'
    by_cases here : other = task
    · rw [here, assign_self, busy] at busy'
      exact Option.some.inj busy' ▸ intact
    · rw [assign_of_ne _ _ here] at busy'
      exact locked.intact other handle' busy'

/-- A task shuts the handle that it was about to shut. -/
theorem shuts (locked : Locked world dismissed records tearing duties)
    (busy : (duties task).closing = some handle) {duty : Duty} (free : duty.closing = none)
    (alone : ∀ other, (duties other).closing = some handle → other = task)
    (shut : ∀ other, Shut after dismissed' other ↔
      Shut world dismissed other ∨ other = handle) (once : dismissed'.Nodup) :
    Locked after dismissed' records tearing (assign duties task duty) := by
  refine ⟨?_, ?_, ?_, ?_, once⟩
  · intro other handle' busy'
    by_cases here : other = task
    · rw [here, assign_self, free] at busy'
      cases busy'
    · rw [assign_of_ne _ _ here] at busy'
      exact locked.closing other handle' busy'
  · intro other shut'
    rcases (shut other).mp shut' with before | rfl
    · exact locked.shut other before
    · obtain ⟨period, _, member⟩ := locked.closing task other busy
      exact ⟨period, member⟩
  · intro period other member
    rcases locked.closed period other member with before | ⟨worker, busy'⟩
    · exact .inl ((shut other).mpr (.inl before))
    · by_cases here : worker = task
      · subst here
        exact .inl ((shut other).mpr (.inr (Option.some.inj (busy'.symm.trans busy))))
      · exact .inr ⟨worker, by rw [assign_of_ne _ _ here, busy']⟩
  · intro other handle' busy' closed
    by_cases here : other = task
    · rw [here, assign_self, free] at busy'
      cases busy'
    · rw [assign_of_ne _ _ here] at busy'
      rcases (shut handle').mp closed with before | rfl
      · exact locked.intact other handle' busy' before
      · exact here (alone other busy')

end Locked

end Midrange
