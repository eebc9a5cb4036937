import Midrange.Proofs.Custody

/-!
# The scopes of transactions

A scope is active exactly while one task has it in hand, and that task holds its
connection.  A scope that has ended never runs again.  A verb of a scope is said on the
connection of the scope, whoever asked for it.
-/

namespace Midrange

/-- What a task has said agrees with the scope that it was said in. -/
structure Speech.Heeds (world : World) (demand : Option Demand) (speech : Speech) :
    Prop where
  asked : demand = some speech.demand
  begins : speech.Begins
  given : speech.scope < world.scopeCount
  connection : (world.scopes speech.scope).connection = speech.connection

/-- Every active scope is in the hands of one task, which holds its connection, and no
task has two scopes of one connection. -/
structure Allotted (world : World) (hands : Nat → Hand) : Prop where
  running : ∀ task scope connection,
    (hands task).scopes scope = some connection →
      scope < world.scopeCount ∧ (world.scopes scope).active = true ∧
        (world.scopes scope).connection = connection ∧
        (hands task).held connection ≠ none
  owned : ∀ scope, (world.scopes scope).active = true →
    ∃ task connection, (hands task).scopes scope = some connection
  alone : ∀ task other scope connection last,
    (hands task).scopes scope = some connection →
    (hands other).scopes scope = some last → task = other
  apart : ∀ task scope other connection,
    (hands task).scopes scope = some connection →
    (hands task).scopes other = some connection → scope = other

/-- The scopes of the shared state agree with those that the tasks have in hand, and with
the stages and the verbs that they are at. -/
structure Scopes (world : World) (runner : Nat → Option Nat) (hands : Nat → Hand) : Prop
    extends Allotted world hands where
  entered : ∀ task scope connection stage,
    (hands task).held connection = some stage → stage.scope? = some scope →
      (hands task).scopes scope = some connection
  runner : ∀ task scope, runner scope = some task ↔
    ∃ connection, (hands task).held connection = some (.running scope)
  spoken : ∀ task speech, (hands task).speech = some speech →
    speech.Heeds world (hands task).pen.demand

/-- What stays when the shared state changes: a closed pool and an ended scope do
not come back. -/
structure World.Outlives (world next : World) : Prop where
  closed : ∀ pool, (world.pools pool).closed = true →
    (next.pools pool).closed = true
  count : world.scopeCount ≤ next.scopeCount
  connection : ∀ scope < world.scopeCount,
    (next.scopes scope).connection = (world.scopes scope).connection
  ended : ∀ scope < world.scopeCount, (world.scopes scope).active = false →
    (next.scopes scope).active = false

namespace World.Outlives

variable {world middle next : World}

theorem refl (world : World) : world.Outlives world :=
  ⟨fun _ => id, Nat.le_refl _, fun _ _ => rfl, fun _ _ => id⟩

theorem trans (first : world.Outlives middle) (second : middle.Outlives next) :
    world.Outlives next where
  closed := fun pool closed => second.closed pool (first.closed pool closed)
  count := Nat.le_trans first.count second.count
  connection := by
    intro scope bound
    rw [second.connection scope (Nat.lt_of_lt_of_le bound first.count),
      first.connection scope bound]
  ended := by
    intro scope bound ended
    exact second.ended scope (Nat.lt_of_lt_of_le bound first.count)
      (first.ended scope bound ended)

end World.Outlives

theorem World.changePool_outlives {world : World} {number : Nat}
    {change : Pool → Pool}
    (keeps : (world.pools number).closed = true →
      (change (world.pools number)).closed = true) :
    world.Outlives (world.changePool number change) where
  closed := by
    intro pool closed
    by_cases same : pool = number
    · subst same
      simpa [World.changePool] using keeps closed
    · simpa [World.changePool, assign_of_ne _ _ same] using closed
  count := Nat.le_refl _
  connection := fun _ _ => rfl
  ended := fun _ _ => id

theorem Hand.Changes.outlives {pool : Nat} {world next : World} {hand after : Hand}
    (changes : hand.Changes pool world next after) : world.Outlives next := by
  cases changes with
  | look | heed => exact .refl world
  | take | put => exact World.changePool_outlives id
  | shut =>
      have outlives : world.Outlives (world.changePool pool fun pool =>
          { pool with idle := [], closed := true }) :=
        World.changePool_outlives fun _ => rfl
      exact outlives
  | opened => exact ⟨fun _ => id, Nat.le_refl _, fun _ _ => rfl, fun _ _ => id⟩
  | enter timeout =>
      refine ⟨fun _ => id, Nat.le_succ _, ?_, ?_⟩
      · intro scope bound
        have different : scope ≠ world.scopeCount := Nat.ne_of_lt bound
        simp [World.addScope, assign_of_ne _ _ different]
      · intro scope bound
        have different : scope ≠ world.scopeCount := Nat.ne_of_lt bound
        simp [World.addScope, assign_of_ne _ _ different]
  | @leave ended _ running =>
      refine ⟨fun _ => id, Nat.le_refl _, ?_, ?_⟩
      · intro scope _
        by_cases same : scope = ended
        · simp [World.changeScope, same]
        · simp [World.changeScope, assign_of_ne _ _ same]
      · intro scope _ inactive
        by_cases same : scope = ended
        · simp [World.changeScope, same]
        · simpa [World.changeScope, assign_of_ne _ _ same] using inactive

theorem Speech.Heeds.outlives {world next : World} {demand : Option Demand}
    {speech : Speech} (heeds : speech.Heeds world demand) (outlives : world.Outlives next) :
    speech.Heeds next demand where
  asked := heeds.asked
  begins := heeds.begins
  given := Nat.lt_of_lt_of_le heeds.given outlives.count
  connection := (outlives.connection _ heeds.given).trans heeds.connection

namespace Allotted

variable {task : Nat} {world next : World} {hands : Nat → Hand} {after : Hand}

theorem held (scopes : Allotted world hands) (task scope : Nat) (connection : Connection)
    (running : (hands task).scopes scope = some connection) :
    (hands task).held connection ≠ none :=
  (scopes.running task scope connection running).2.2.2

/-- An active scope was given out. -/
theorem given (scopes : Allotted world hands) (scope : Nat)
    (active : (world.scopes scope).active = true) : scope < world.scopeCount := by
  obtain ⟨task, connection, running⟩ := scopes.owned scope active
  exact (scopes.running task scope connection running).1

/-- A connection that is not in hand has no scope. -/
theorem unscoped (scopes : Allotted world hands) {connection : Connection}
    (free : (hands task).held connection = none) : (hands task).Unscoped connection :=
  fun scope running => scopes.held task scope connection running free

theorem unborn (scopes : Allotted world hands) (task : Nat) :
    (hands task).scopes world.scopeCount = none := by
  cases born : (hands task).scopes world.scopeCount with
  | none => rfl
  | some connection =>
      have bound := (scopes.running task _ connection born).1
      exact (Nat.lt_irrefl _ bound).elim

/-- What one task has in hand changes, but not its scopes. -/
theorem of_eq (scopes : Allotted world hands)
    (same : next.scopes = world.scopes) (count : next.scopeCount = world.scopeCount)
    (mine : after.scopes = (hands task).scopes)
    (held : ∀ scope connection, (hands task).scopes scope = some connection →
      after.held connection ≠ none) :
    Allotted next (assign hands task after) := by
  have owns (other : Nat) :
      (assign hands task after other).scopes = (hands other).scopes :=
    field_assign Hand.scopes mine other
  constructor
  · intro other scope connection running
    rw [owns] at running
    obtain ⟨bound, active, sameConnection, holds⟩ :=
      scopes.running other scope connection running
    rw [same, count]
    refine ⟨bound, active, sameConnection, ?_⟩
    by_cases this : other = task
    · subst this
      rw [assign_self]
      exact held scope connection running
    · rw [assign_of_ne _ _ this]
      exact holds
  · simpa only [same, owns] using scopes.owned
  · simpa only [owns] using scopes.alone
  · simpa only [owns] using scopes.apart

theorem scopes_assign_mind {scope : Nat} {connection : Option Connection}
    (other inner : Nat) :
    (assign hands task ((hands task).mind scope connection) other).scopes inner =
      if other = task ∧ inner = scope then connection
      else (hands other).scopes inner := by
  by_cases same : other = task
  · subst same
    simp [Function.update_apply]
  · simp [assign_of_ne _ _ same, same]

theorem held_assign_mind {scope : Nat} {connection : Option Connection}
    (other : Nat) :
    (assign hands task ((hands task).mind scope connection) other).held =
      (hands other).held :=
  field_assign Hand.held
    (rfl : ((hands task).mind scope connection).held = (hands task).held) other

theorem enter {connection : Connection} (timeout : Option Int) (scopes : Allotted world hands)
    (held : (hands task).held connection ≠ none)
    (unscoped : (hands task).Unscoped connection) :
    Allotted (world.addScope { connection, timeout, active := true }).2
      (assign hands task ((hands task).mind world.scopeCount (some connection))) := by
  have unborn := scopes.unborn
  have added (scope : Nat) :
      (world.addScope { connection, timeout, active := true }).2.scopes scope =
        if scope = world.scopeCount then { connection, timeout, active := true }
        else world.scopes scope := rfl
  have count : (world.addScope { connection, timeout, active := true }).2.scopeCount =
      world.scopeCount + 1 := rfl
  constructor <;> simp only [scopes_assign_mind, held_assign_mind]
  · intro other scope last running
    have := scopes.running other scope last
    rw [added, count]
    by_cases same : scope = world.scopeCount <;> grind
  · intro scope active
    rw [added] at active
    by_cases same : scope = world.scopeCount
    · exact ⟨task, connection, by simp [same]⟩
    · obtain ⟨owner, last, owns⟩ := scopes.owned scope (by simpa [same] using active)
      exact ⟨owner, last, by simp [same, owns]⟩
  · intro other last scope first second
    have := scopes.alone other last scope
    grind
  · intro other scope last connection first second
    have := scopes.apart other scope last connection
    have := unscoped scope
    have := unscoped last
    grind

theorem leave {scope : Nat} {connection : Connection} (scopes : Allotted world hands)
    (running : (hands task).scopes scope = some connection) :
    Allotted (world.changeScope scope fun scope => { scope with active := false })
      (assign hands task ((hands task).mind scope none)) := by
  have bound := (scopes.running task scope connection running).1
  have changed (inner : Nat) :
      (world.changeScope scope fun scope => { scope with active := false }).scopes
        inner =
        if inner = scope then { world.scopes scope with active := false }
        else world.scopes inner := rfl
  have count : (world.changeScope scope fun scope =>
      { scope with active := false }).scopeCount = world.scopeCount := rfl
  constructor <;> simp only [scopes_assign_mind, held_assign_mind]
  · intro other inner last own
    have := scopes.running other inner last
    have := scopes.alone task other inner connection last
    rw [changed, count]
    by_cases same : inner = scope <;> grind
  · intro inner active
    rw [changed] at active
    have := scopes.owned inner
    by_cases same : inner = scope <;> grind
  · intro other last inner first second
    have := scopes.alone other last inner
    grind
  · intro other inner last connection first second
    have := scopes.apart other inner last connection
    grind

end Allotted

namespace Scopes

open Allotted (scopes_assign_mind held_assign_mind)

variable {pool task : Nat} {world next : World} {runner later : Nat → Option Nat}
  {hands : Nat → Hand} {after : Hand}

/-- What one task has in hand changes, but not its scopes. -/
theorem of_hand (scopes : Scopes world runner hands)
    (same : next.scopes = world.scopes) (count : next.scopeCount = world.scopeCount)
    (mine : after.scopes = (hands task).scopes)
    (held : ∀ scope connection, (hands task).scopes scope = some connection →
      after.held connection ≠ none)
    (entered : ∀ scope connection stage, after.held connection = some stage →
      stage.scope? = some scope → (hands task).scopes scope = some connection)
    (runs : ∀ other scope, later scope = some other ↔
      ∃ connection, (assign hands task after other).held connection = some (.running scope))
    (spoken : ∀ speech, after.speech = some speech → speech.Heeds world after.pen.demand) :
    Scopes next later (assign hands task after) where
  toAllotted := scopes.toAllotted.of_eq same count mine held
  entered := by
    intro other scope connection stage holds own
    rw [field_assign Hand.scopes mine other]
    by_cases this : other = task
    · subst this
      rw [assign_self] at holds
      exact entered scope connection stage holds own
    · rw [assign_of_ne _ _ this] at holds
      exact scopes.entered other scope connection stage holds own
  runner := runs
  spoken := by
    intro other speech said
    have heeds : speech.Heeds world (assign hands task after other).pen.demand := by
      by_cases this : other = task
      · subst this
        rw [assign_self] at said ⊢
        exact spoken speech said
      · rw [assign_of_ne _ _ this] at said ⊢
        exact scopes.spoken other speech said
    exact ⟨heeds.asked, heeds.begins, count ▸ heeds.given, same ▸ heeds.connection⟩

/-- Who runs which scope depends on the running stages alone. -/
theorem runs_assign (scopes : Scopes world runner hands)
    (stays : ∀ scope connection, after.held connection = some (.running scope) ↔
      (hands task).held connection = some (.running scope)) (other scope : Nat) :
    runner scope = some other ↔ ∃ connection,
      (assign hands task after other).held connection = some (.running scope) := by
  rw [scopes.runner]
  by_cases this : other = task
  · subst this
    simp only [assign_self, stays]
  · rw [assign_of_ne _ _ this]

/-- What one task has said or closes changes, but not what it holds. -/
theorem of_held (scopes : Scopes world runner hands)
    (same : next.scopes = world.scopes) (count : next.scopeCount = world.scopeCount)
    (mine : after.scopes = (hands task).scopes) (held : after.held = (hands task).held)
    (spoken : ∀ speech, after.speech = some speech → speech.Heeds world after.pen.demand) :
    Scopes next runner (assign hands task after) := by
  refine scopes.of_hand same count mine ?_ ?_ (scopes.runs_assign (by simp [held])) spoken
  · rw [held]
    exact scopes.held task
  · rw [held]
    exact scopes.entered task

/-- One task goes on with a connection that no scope runs on. -/
theorem of_hold {given : Connection} {stage : Option Stage}
    (scopes : Scopes world runner hands) (same : next.scopes = world.scopes)
    (count : next.scopeCount = world.scopeCount)
    (stopped : ∀ scope, (hands task).held given ≠ some (.running scope))
    (unscoped : (hands task).Unscoped given)
    (free : ∀ last, stage = some last → last.scope? = none)
    (mine : after.scopes = (hands task).scopes)
    (held : after.held = Function.update (hands task).held given stage)
    (spoken : ∀ speech, after.speech = some speech → speech.Heeds world after.pen.demand) :
    Scopes next runner (assign hands task after) := by
  refine scopes.of_hand same count mine ?_ ?_ (scopes.runs_assign ?_) spoken
  · intro scope connection running
    have different : connection ≠ given := by
      rintro rfl
      exact unscoped scope running
    rw [held, Function.update_of_ne different]
    exact scopes.held task scope connection running
  · intro scope connection last holds own
    rw [held] at holds
    by_cases here : connection = given
    · subst here
      rw [Function.update_self] at holds
      cases (free last holds).symm.trans own
    · rw [Function.update_of_ne here] at holds
      exact scopes.entered task scope connection last holds own
  · intro scope connection
    rw [held]
    by_cases here : connection = given
    · subst here
      rw [Function.update_self]
      refine iff_of_false (fun running => ?_) (stopped scope)
      cases free _ running
    · rw [Function.update_of_ne here]

theorem speech_assign_mind {scope : Nat} {connection : Option Connection} (other : Nat) :
    (assign hands task ((hands task).mind scope connection) other).speech =
      (hands other).speech :=
  field_assign Hand.speech
    (rfl : ((hands task).mind scope connection).speech = (hands task).speech) other

theorem pen_assign_mind {scope : Nat} {connection : Option Connection} (other : Nat) :
    (assign hands task ((hands task).mind scope connection) other).pen =
      (hands other).pen :=
  field_assign Hand.pen
    (rfl : ((hands task).mind scope connection).pen = (hands task).pen) other

theorem enter {connection : Connection} (timeout : Option Int)
    (scopes : Scopes world runner hands)
    (held : (hands task).held connection ≠ none)
    (unscoped : (hands task).Unscoped connection)
    (outlives : world.Outlives (world.addScope { connection, timeout, active := true }).2) :
    Scopes (world.addScope { connection, timeout, active := true }).2 runner
      (assign hands task ((hands task).mind world.scopeCount (some connection))) where
  toAllotted := scopes.toAllotted.enter timeout held unscoped
  entered := by
    simp only [scopes_assign_mind, held_assign_mind]
    intro other scope last stage holds own
    have owns := scopes.entered other scope last stage holds own
    have bound := (scopes.running other scope last owns).1
    rw [if_neg (fun both => Nat.ne_of_lt bound both.2)]
    exact owns
  runner := by simpa only [held_assign_mind] using scopes.runner
  spoken := by
    simp only [speech_assign_mind, pen_assign_mind]
    exact fun other speech said => (scopes.spoken other speech said).outlives outlives

/-- A scope that is not running ends. -/
theorem leave {scope : Nat} {connection : Connection} {block : List Signal}
    (scopes : Scopes world runner hands)
    (running : (hands task).scopes scope = some connection)
    (left : (hands task).held connection = some (.said block))
    (outlives : world.Outlives
      (world.changeScope scope fun scope => { scope with active := false })) :
    Scopes (world.changeScope scope fun scope => { scope with active := false }) runner
      (assign hands task ((hands task).mind scope none)) where
  toAllotted := scopes.toAllotted.leave running
  entered := by
    simp only [scopes_assign_mind, held_assign_mind]
    intro other inner last stage holds own
    have owns := scopes.entered other inner last stage holds own
    rw [if_neg]
    · exact owns
    · rintro ⟨rfl, rfl⟩
      obtain rfl := Option.some.inj (owns.symm.trans running)
      obtain rfl := Option.some.inj (holds.symm.trans left)
      cases own
  runner := by simpa only [held_assign_mind] using scopes.runner
  spoken := by
    simp only [speech_assign_mind, pen_assign_mind]
    exact fun other speech said => (scopes.spoken other speech said).outlives outlives

/-- A scope that a task has in hand is at no connection but its own. -/
theorem sole (scopes : Scopes world runner hands) {scope other : Nat}
    {connection last : Connection} {stage : Stage}
    (own : (hands task).scopes scope = some connection)
    (holds : (hands other).held last = some stage) (there : stage.scope? = some scope) :
    other = task ∧ last = connection := by
  have owns := scopes.entered other scope last stage holds there
  obtain rfl := scopes.alone other task scope last connection owns own
  exact ⟨rfl, Option.some.inj (owns.symm.trans own)⟩

/-- A task comes to another stage with a scope that it has in hand, and nothing else runs
or stops running. -/
theorem of_stage {scope : Nat} {connection : Connection} {stage : Stage} {now : Option Nat}
    (scopes : Scopes world runner hands)
    (own : (hands task).scopes scope = some connection)
    (before : ∀ inner, (hands task).held connection = some (.running inner) → inner = scope)
    (stays : ∀ inner, stage.scope? = some inner → inner = scope)
    (runs : ∀ other, now = some other ↔ other = task ∧ stage = .running scope)
    (mine : after.scopes = (hands task).scopes)
    (held : after.held = Function.update (hands task).held connection (some stage))
    (spoken : ∀ speech, after.speech = some speech → speech.Heeds world after.pen.demand) :
    Scopes world (assign runner scope now) (assign hands task after) := by
  refine scopes.of_hand rfl rfl mine ?_ ?_ ?_ spoken
  · intro inner other running
    rw [held, Function.update_apply]
    split
    · simp
    · exact scopes.held task inner other running
  · intro inner other last holds there
    rw [held] at holds
    by_cases here : other = connection
    · subst here
      rw [Function.update_self] at holds
      obtain rfl := Option.some.inj holds
      rw [stays inner there]
      exact own
    · rw [Function.update_of_ne here] at holds
      exact scopes.entered task inner other last holds there
  · intro other inner
    have elsewhere (last : Connection) (different : ¬(other = task ∧ last = connection)) :
        (assign hands task after other).held last = (hands other).held last := by
      by_cases same : other = task
      · subst same
        rw [assign_self, held, Function.update_of_ne fun here => different ⟨rfl, here⟩]
      · rw [assign_of_ne _ _ same]
    by_cases same : inner = scope
    · subst same
      rw [assign_self, runs]
      constructor
      · rintro ⟨rfl, rfl⟩
        exact ⟨connection, by simp [held]⟩
      · rintro ⟨last, running⟩
        by_cases here : other = task ∧ last = connection
        · obtain ⟨rfl, rfl⟩ := here
          exact ⟨rfl, by simpa [held] using running⟩
        · rw [elsewhere last here] at running
          exact (here (scopes.sole own running rfl)).elim
    · rw [assign_of_ne _ _ same, scopes.runner]
      refine exists_congr fun last => ?_
      by_cases here : other = task ∧ last = connection
      · obtain ⟨rfl, rfl⟩ := here
        refine iff_of_false (fun running => same (before inner running)) ?_
        rw [assign_self, held, Function.update_self]
        intro running
        obtain rfl := Option.some.inj running
        exact same (stays inner rfl)
      · rw [elsewhere last here]

/-- Nobody runs a scope that was not given out. -/
theorem idle (scopes : Scopes world runner hands) : runner world.scopeCount = none := by
  cases runs : runner world.scopeCount with
  | none => rfl
  | some task =>
      obtain ⟨connection, running⟩ := (scopes.runner task _).mp runs
      cases (scopes.unborn task).symm.trans (scopes.entered task _ connection _ running rfl)

/-- What a task changes in the shared state leaves the scopes in order. -/
theorem changes (scopes : Scopes world runner hands)
    (changes : (hands task).Changes pool world next after) :
    Scopes next runner (assign hands task after) := by
  have outlives := changes.outlives
  cases changes with
  | look => exact scopes.of_held rfl rfl rfl rfl (scopes.spoken task)
  | heed marked own bound =>
      refine scopes.of_held rfl rfl rfl rfl ?_
      rintro _ ⟨⟩
      exact ⟨marked, Speech.begins_of_own own, bound, rfl⟩
  | shut => exact scopes.of_held rfl rfl rfl rfl (scopes.spoken task)
  | take _ _ free | opened _ free =>
      exact scopes.of_hold rfl rfl (by simp [free]) (scopes.unscoped free)
        (by simp [Stage.scope?]) rfl rfl (scopes.spoken task)
  | put _ _ held _ unscoped =>
      exact scopes.of_hold rfl rfl (by simp [held]) unscoped (by simp) rfl rfl
        (scopes.spoken task)
  | @enter connection timeout holds unscoped =>
      have minds := scopes.enter timeout (by simp [holds]) unscoped outlives
      have owns : (assign hands task ((hands task).mind world.scopeCount (some connection))
          task).scopes world.scopeCount = some connection := by simp
      have stays (inner : Nat)
          (there : (Stage.entering world.scopeCount).scope? = some inner) :
          inner = world.scopeCount := (Option.some.inj there).symm
      have entered : Scopes _ (assign runner world.scopeCount none)
          (assign (assign hands task ((hands task).mind world.scopeCount (some connection)))
            task (((hands task).hold connection (.entering world.scopeCount)).mind
              world.scopeCount (some connection))) :=
        minds.of_stage owns (by simp [holds]) stays (by simp) (by simp) (by simp)
          fun speech said => (scopes.spoken task speech said).outlives outlives
      rw [← scopes.idle, assign_eta, assign_assign] at entered
      exact entered
  | leave running left => exact scopes.leave running left outlives

/-- What a task says to the driver leaves the scopes in order. -/
theorem hears {request : DriverCall} {answer : Except Fault request.Answer}
    (scopes : Scopes world runner hands)
    (hears : (hands task).Hears pool request answer after) :
    Scopes world runner (assign hands task after) := by
  cases hears with
  | locate | connect => exact scopes.of_held rfl rfl rfl rfl (scopes.spoken task)
  | dismiss => exact scopes.of_held rfl rfl rfl rfl (scopes.spoken task)
  | state _ said _ _ begins =>
      have heeds := scopes.spoken task _ said
      refine scopes.of_held rfl rfl rfl rfl ?_
      rintro _ ⟨⟩
      exact ⟨heeds.asked, begins, heeds.given, heeds.connection⟩
  | speak _ _ _ _ held unscoped =>
      exact scopes.of_hold rfl rfl (by simp [held]) unscoped (by simp [Stage.scope?]) rfl rfl
        (scopes.spoken task)
  | discard _ _ held _ unscoped =>
      exact scopes.of_hold rfl rfl (by simp [held]) unscoped (by simp) rfl rfl
        (scopes.spoken task)

/-- What a task writes down leaves the scopes in order. -/
theorem notes {entry : Note} (scopes : Scopes world runner hands)
    (notes : (hands task).Notes entry after) :
    Scopes world (Fleet.runnerNoted task runner entry) (assign hands task after) := by
  cases notes with
  | verb | transaction | close => exact scopes.of_held rfl rfl rfl rfl nofun
  | entered own held =>
      exact scopes.of_stage own (by simp [held]) (by simp [Stage.scope?, eq_comm])
        (by simp [eq_comm]) rfl rfl nofun
  | left returned own held =>
      exact scopes.of_stage own (by simp [held]) (by simp [Stage.scope?]) (by simp) rfl rfl
        nofun

end Scopes

end Midrange
