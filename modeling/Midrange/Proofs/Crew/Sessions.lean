import Midrange.Proofs.Crew.Errands
import Midrange.Proofs.Duty

/-!
# The sessions of a crew

Every session is coherent, its data source is that of its last successful connect, and
it is in a transaction only while a task is.  All the tasks in a transaction of a session
are the same one, so what this task knows of the session stays true.
-/

namespace Midrange

open Session

theorem Session.Coherent.prior {session : Session} (coherent : session.Coherent)
    (free : session.isInTransaction = false) : session.prior = none := by
  cases mode : session.state <;> simp_all [Coherent, isInTransaction]

/-- The sessions of a crew, who is in a transaction of them, where they were last
connected to, and what the tasks know of them. -/
structure Attended (world : World) (begun : Nat → List Nat)
    (sources : Nat → Option String) (duties : Nat → Duty) : Prop where
  coherent : ∀ number, (world.sessions number).Coherent
  source : ∀ number, (world.sessions number).dsn = sources number
  depth : ∀ task number, ((duties task).grips number).depth = (begun number).count task
  alone : ∀ number, ∀ first ∈ begun number, ∀ second ∈ begun number, first = second
  idle : ∀ number, begun number = [] → (world.sessions number).isInTransaction = false
  fits : ∀ task, (duties task).Fits world

namespace Attended

variable {world after : World} {begun : Nat → List Nat} {sources : Nat → Option String}
  {duties : Nat → Duty} {task number : Nat} {session : Session}

theorem mem (attended : Attended world begun sources duties) :
    0 < ((duties task).grips number).depth ↔ task ∈ begun number := by
  rw [attended.depth, List.count_pos_iff]

/-- Everyone in a transaction of a session is the task that is. -/
theorem mine (attended : Attended world begun sources duties)
    (held : 0 < ((duties task).grips number).depth) : ∀ other ∈ begun number, other = task :=
  fun other member => attended.alone number other member task (attended.mem.mp held)

theorem of_eq (attended : Attended world begun sources duties)
    (sessions : after.sessions = world.sessions) {duty : Duty}
    (grips : duty.grips = (duties task).grips) :
    Attended after begun sources (assign duties task duty) where
  coherent := by
    rw [sessions]
    exact attended.coherent
  source := by
    rw [sessions]
    exact attended.source
  depth := by
    intro other number
    by_cases here : other = task
    · rw [here, assign_self, grips]
      exact attended.depth task number
    · rw [assign_of_ne _ _ here]
      exact attended.depth other number
  alone := attended.alone
  idle := by
    rw [sessions]
    exact attended.idle
  fits := by
    intro other
    by_cases here : other = task
    · rw [here, assign_self, Duty.Fits, sessions, grips]
      exact attended.fits task
    · rw [assign_of_ne _ _ here, Duty.Fits, sessions]
      exact attended.fits other

/-- A session changes in the hands of a task; nobody else is in a transaction of it. -/
theorem grasp {tasks : List Nat} {depth : Nat}
    (attended : Attended world begun sources duties)
    (sessions : after.sessions = assign world.sessions number session)
    (coherent : session.Coherent)
    (mine : ∀ other ∈ begun number, other = task)
    (still : ∀ other ∈ tasks, other = task) (counted : depth = tasks.count task)
    (idle : tasks = [] → session.isInTransaction = false) :
    Attended after (assign begun number tasks) (assign sources number session.dsn)
      (assign duties task ((duties task).grasp number depth session)) where
  coherent := by
    intro other
    rw [sessions]
    by_cases here : other = number
    · rw [here, assign_self]
      exact coherent
    · rw [assign_of_ne _ _ here]
      exact attended.coherent other
  source := by
    intro other
    rw [sessions]
    by_cases here : other = number
    · rw [here, assign_self, assign_self]
    · rw [assign_of_ne _ _ here, assign_of_ne _ _ here]
      exact attended.source other
  depth := by
    intro other session'
    by_cases here : session' = number
    · subst here
      rw [assign_self]
      by_cases same : other = task
      · rw [same, assign_self, Duty.grasp_self, counted]
      · have gone : other ∉ tasks := fun member => same (still other member)
        have absent : other ∉ begun session' := fun member => same (mine other member)
        rw [assign_of_ne _ _ same, attended.depth, List.count_eq_zero_of_not_mem gone,
          List.count_eq_zero_of_not_mem absent]
    · rw [assign_of_ne _ _ here, ← attended.depth]
      by_cases same : other = task
      · rw [same, assign_self, Duty.grasp_of_ne _ here]
      · rw [assign_of_ne _ _ same]
  alone := by
    intro other first member second member'
    by_cases here : other = number
    · rw [here, assign_self] at member member'
      rw [still first member, still second member']
    · rw [assign_of_ne _ _ here] at member member'
      exact attended.alone other first member second member'
  idle := by
    intro other
    rw [sessions]
    by_cases here : other = number
    · rw [here, assign_self, assign_self]
      exact idle
    · rw [assign_of_ne _ _ here, assign_of_ne _ _ here]
      exact attended.idle other
  fits := by
    intro other session' held
    rw [sessions]
    by_cases here : session' = number
    · subst here
      by_cases same : other = task
      · rw [same, assign_self, assign_self, Duty.grasp_self]
      · rw [assign_of_ne _ _ same] at held
        exact (same (mine other (attended.mem.mp held))).elim
    · rw [assign_of_ne _ _ here]
      by_cases same : other = task
      · rw [same, assign_self, Duty.grasp_of_ne _ here] at held ⊢
        exact attended.fits task session' held
      · rw [assign_of_ne _ _ same] at held ⊢
        exact attended.fits other session' held

/-- A session changes, and everyone is in as many transactions of it as before. -/
theorem see (attended : Attended world begun sources duties)
    (sessions : after.sessions = assign world.sessions number session)
    (coherent : session.Coherent) (mine : ∀ other ∈ begun number, other = task)
    (idle : begun number = [] → session.isInTransaction = false) :
    Attended after begun (assign sources number session.dsn)
      (assign duties task ((duties task).see number session)) := by
  have seen := attended.grasp sessions coherent mine mine (attended.depth task number) idle
  rw [assign_eta] at seen
  exact seen

theorem see_same (attended : Attended world begun sources duties)
    (sessions : after.sessions = assign world.sessions number session)
    (coherent : session.Coherent) (mine : ∀ other ∈ begun number, other = task)
    (idle : begun number = [] → session.isInTransaction = false)
    (same : session.dsn = (world.sessions number).dsn) :
    Attended after begun sources (assign duties task ((duties task).see number session)) := by
  have seen := attended.see sessions coherent mine idle
  rw [same, attended.source, assign_eta] at seen
  exact seen

/-! ## Steps, commands and notes -/

theorem changes {duty : Duty} (attended : Attended world begun sources duties)
    (changes : (duties task).Changes world after duty) :
    Attended after begun sources (assign duties task duty) := by
  cases changes with
  | tend tends => exact attended.of_eq tends.sessions rfl
  | shut closing =>
      apply attended.of_eq
      · rfl
      · rfl
  | session held coherent same =>
      have mine := attended.mine held
      refine attended.see_same rfl coherent mine ?_ same
      intro nobody
      have member := attended.mem.mp held
      rw [nobody] at member
      exact (List.not_mem_nil member).elim

theorem stays (attended : Attended world begun sources duties)
    (mine : ∀ other ∈ begun number, other = task) :
    Attended world begun sources
      (assign duties task ((duties task).see number (world.sessions number))) :=
  attended.see_same (assign_eta _ _).symm (attended.coherent number) mine
    (attended.idle number) rfl

theorem connects {source : String} {outcome : Except Fault Unit}
    (attended : Attended world begun sources duties)
    (mine : ∀ other ∈ begun number, other = task)
    (connected : Connected world number source outcome after) :
    (after.sessions number).Coherent ∧
      Attended after begun
        (if outcome.isOk then assign sources number (some source) else sources)
        (assign duties task ((duties task).see number (after.sessions number))) := by
  cases connected with
  | failed fault => exact ⟨attended.coherent number, attended.stays mine⟩
  | @connected verdict handle middle free acquired =>
      have same : middle.sessions = world.sessions := by cases acquired <;> rfl
      have prior := (attended.coherent number).prior free
      have coherent : ((world.sessions number).connectedTo handle source).Coherent :=
        ⟨rfl, prior⟩
      have now : (middle.changeSession number (connectedTo handle source)).sessions =
          assign world.sessions number ((world.sessions number).connectedTo handle source) := by
        rw [World.changeSession, same]
      rw [now, assign_self]
      exact ⟨coherent, attended.see now coherent mine fun _ => rfl⟩

theorem closes (attended : Attended world begun sources duties)
    (mine : ∀ other ∈ begun number, other = task)
    (closed : after = world ∨ after = world.changeSession number disconnected) :
    (after.sessions number).Coherent ∧
      Attended after begun sources
        (assign duties task ((duties task).see number (after.sessions number))) := by
  rcases closed with rfl | rfl
  · exact ⟨attended.coherent number, attended.stays mine⟩
  · rw [World.changeSession_self]
    exact ⟨⟨rfl, rfl⟩, attended.see_same rfl ⟨rfl, rfl⟩ mine (fun _ => rfl) rfl⟩

theorem begins (attended : Attended world begun sources duties)
    (mine : ∀ other ∈ begun number, other = task) :
    Attended world (assign begun number (task :: begun number)) sources
      (assign duties task ((duties task).grasp number
        (((duties task).grips number).depth + 1) (world.sessions number))) := by
  have counted : ((duties task).grips number).depth + 1 =
      (task :: begun number).count task := by
    rw [List.count_cons_self, attended.depth]
  have still : ∀ other ∈ task :: begun number, other = task := by
    intro other member
    rcases List.mem_cons.mp member with same | member
    · exact same
    · exact mine other member
  have grasped := attended.grasp (assign_eta _ number).symm (attended.coherent number) mine
    still counted (by simp)
  rw [attended.source, assign_eta] at grasped
  exact grasped

theorem ends (attended : Attended world begun sources duties)
    (held : 0 < ((duties task).grips number).depth)
    (rests : ((duties task).grips number).depth = 1 →
      ((duties task).grips number).session.isInTransaction = false) :
    Attended world (assign begun number ((begun number).erase task)) sources
      (assign duties task ((duties task).grasp number
        (((duties task).grips number).depth - 1) ((duties task).grips number).session)) := by
  have mine := attended.mine held
  have counted : ((duties task).grips number).depth - 1 =
      ((begun number).erase task).count task := by
    rw [List.count_erase_self, attended.depth]
  have known := attended.fits task number held
  rw [← known] at rests ⊢
  have grasped := attended.grasp (assign_eta _ number).symm (attended.coherent number) mine
    (fun other member => mine other (List.mem_of_mem_erase member)) counted ?_
  · rw [attended.source, assign_eta] at grasped
    exact grasped
  · intro nobody
    apply rests
    rw [nobody, List.count_nil] at counted
    omega

end Attended

end Midrange
