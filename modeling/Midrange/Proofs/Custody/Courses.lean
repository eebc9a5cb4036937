import Midrange.Proofs.Custody.Places

/-!
# The courses of held connections

The trail of a connection that a task holds ends with the beginning of a block, which the
task is in the middle of, or with the statements of the scope that is running.  In these
every task may be in the middle of a verb: what a task has said is whole verbs, and what it
has said so far in the verb that it is at.
-/

namespace Midrange

/-- What a task has said so far in the verb of a scope. -/
def Hand.current (hand : Hand) (task scope : Nat) : List Signal :=
  match hand.speech with
  | some speech =>
      if speech.scope = scope then speech.past.map (.statement task speech.demand) else []
  | none => []

@[simp] theorem Hand.current_of_silent {hand : Hand} (silent : hand.speech = none)
    (task scope : Nat) : hand.current task scope = [] := by
  simp [current, silent]

theorem Hand.current_of_ne {hand : Hand} {speech : Speech} {scope : Nat}
    (said : hand.speech = some speech) (different : speech.scope ≠ scope) (task : Nat) :
    hand.current task scope = [] := by
  simp [current, said, different]

theorem Hand.current_of_speech {hand : Hand} {speech : Speech}
    (said : hand.speech = some speech) (task : Nat) :
    hand.current task speech.scope = speech.past.map (.statement task speech.demand) := by
  simp [current, said]

/-- What has been said in a scope that is running: of each task whole verbs and what it
has said so far in the verb that it is at. -/
structure Progress (hands : Nat → Hand) (scope : Nat) (connection : Connection)
    (statements : List Signal) : Prop where
  own : ∀ signal ∈ statements, signal.states scope = true
  verbs : ∀ task, ∃ words, Words scope connection task words ∧
    statements.filter (·.isOf task) = words ++ (hands task).current task scope

namespace Progress

variable {task scope : Nat} {hands : Nat → Hand} {connection : Connection}
  {statements : List Signal} {after : Hand}

theorem nil (none : ∀ task, (hands task).current task scope = []) :
    Progress hands scope connection [] where
  own := by simp
  verbs := fun task => ⟨[], .none, by simp [none]⟩

/-- One task goes on to another verb, or to none. -/
theorem assign (progress : Progress hands scope connection statements)
    (goesOn : ∀ words, Words scope connection task words →
      ∃ words', Words scope connection task words' ∧
        words ++ (hands task).current task scope = words' ++ after.current task scope) :
    Progress (assign hands task after) scope connection statements where
  own := progress.own
  verbs := by
    intro other
    obtain ⟨words, whole, same⟩ := progress.verbs other
    by_cases here : other = task
    · subst here
      obtain ⟨words', whole', same'⟩ := goesOn words whole
      exact ⟨words', whole', by rw [assign_self, same, same']⟩
    · exact ⟨words, whole, by rw [assign_of_ne _ _ here, same]⟩

theorem of_current (progress : Progress hands scope connection statements)
    (same : after.current task scope = (hands task).current task scope) :
    Progress (Midrange.assign hands task after) scope connection statements :=
  progress.assign fun words whole => ⟨words, whole, by rw [same]⟩

/-- A task has said its verb to the end and goes on. -/
theorem hush (progress : Progress hands scope connection statements)
    (quiet : (hands task).Quiet) (silent : after.speech = none)
    (there : ∀ speech, (hands task).speech = some speech → speech.scope = scope →
      speech.connection = connection) :
    Progress (Midrange.assign hands task after) scope connection statements := by
  refine progress.assign fun words whole => ?_
  rw [Hand.current_of_silent silent, Hand.current]
  cases said : (hands task).speech with
  | none => exact ⟨words, whole, rfl⟩
  | some speech =>
      by_cases here : speech.scope = scope
      · obtain ⟨own, returned, calls⟩ := quiet speech said
        rw [there speech said here] at calls
        refine ⟨_, whole.append (here ▸ own) calls, ?_⟩
        simp [here]
      · exact ⟨words, whole, by simp [here]⟩

/-- A task says something in its verb. -/
theorem say {speech : Speech} {said : Exchange}
    (progress : Progress hands speech.scope connection statements)
    (own : speech.demand.handle = .scope speech.scope)
    (spoken : (hands task).speech = some speech)
    (now : after.speech = some (speech.say said)) :
    Progress (Midrange.assign hands task after) speech.scope connection
      (statements ++ [.statement task speech.demand said]) where
  own := by
    intro signal member
    rcases List.mem_append.mp member with earlier | last
    · exact progress.own signal earlier
    · rw [List.mem_singleton.mp last]
      simp [Signal.states, own]
  verbs := by
    intro other
    obtain ⟨words, whole, same⟩ := progress.verbs other
    refine ⟨words, whole, ?_⟩
    rw [List.filter_append, same]
    by_cases here : other = task
    · subst here
      rw [assign_self, Hand.current_of_speech spoken]
      have later := Hand.current_of_speech now other
      simp only [Speech.say, List.map_append] at later
      simp [later, Signal.isOf]
    · rw [assign_of_ne _ _ here]
      simp [Signal.isOf, Ne.symm here]

/-- What is said in a scope that is running is the beginning of whole verbs. -/
theorem unfinished (progress : Progress hands scope connection statements)
    (begins : ∀ task speech, (hands task).speech = some speech → speech.Begins)
    (there : ∀ task speech, (hands task).speech = some speech → speech.scope = scope →
      speech.connection = connection) : Unfinished scope connection statements where
  own := progress.own
  verbs := by
    intro task
    obtain ⟨words, whole, same⟩ := progress.verbs task
    rw [same, Hand.current]
    cases said : (hands task).speech with
    | none => exact ⟨[], by simpa using whole⟩
    | some speech =>
        by_cases here : speech.scope = scope
        · obtain ⟨rest, own, returned, calls⟩ := begins task speech said
          have calls := (there task speech said here) ▸ calls
          refine ⟨rest.map (.statement task speech.demand), ?_⟩
          have verbs := whole.append (here ▸ own) calls
          simpa [here] using verbs
        · exact ⟨[], by simpa [here] using whole⟩

/-- If nobody is in the middle of a verb of the scope, its statements are whole. -/
theorem whole (progress : Progress hands scope connection statements)
    (quiet : ∀ task speech, (hands task).speech = some speech → speech.scope = scope →
      speech.IsWhole ∧ speech.connection = connection) :
    Statements scope connection statements where
  own := progress.own
  verbs := by
    intro task
    obtain ⟨words, whole, same⟩ := progress.verbs task
    rw [same, Hand.current]
    cases said : (hands task).speech with
    | none => simpa using whole
    | some speech =>
        by_cases here : speech.scope = scope
        · obtain ⟨⟨own, returned, calls⟩, there⟩ := quiet task speech said here
          rw [there] at calls
          have verbs := whole.append (here ▸ own) calls
          simpa [here] using verbs
        · simpa [here] using whole

end Progress

/-- The trail of a connection that is held, by the stage that the task has come to. -/
inductive Course (pool : Nat) (hands : Nat → Hand) (connection : Connection) :
    Stage → List Signal → Prop where
  | said {blocks block : List Signal} :
      Whole pool connection blocks → Started pool connection block →
      Course pool hands connection (.said block) (blocks ++ block)
  | entering {blocks : List Signal} (scope : Nat) :
      Whole pool connection blocks →
      Course pool hands connection (.entering scope)
        (blocks ++ [connection.outset (.ok ())])
  | running {blocks statements : List Signal} {scope : Nat} :
      Whole pool connection blocks → Progress hands scope connection statements →
      Course pool hands connection (.running scope)
        (blocks ++ connection.entry scope ++ statements)

namespace Course

variable {pool : Nat} {hands later : Nat → Hand} {connection : Connection} {stage : Stage}
  {signals : List Signal}

theorem mono (course : Course pool hands connection stage signals)
    (progress : ∀ scope statements, stage = .running scope →
      Progress hands scope connection statements →
      Progress later scope connection statements) :
    Course pool later connection stage signals := by
  cases course with
  | said whole started => exact .said whole started
  | entering scope whole => exact .entering scope whole
  | running whole goes => exact .running whole (progress _ _ rfl goes)

/-- A scope that is not left yet has no mark of being left at the end. -/
theorem not_left (course : Course pool hands connection stage signals)
    (goesOn : ∀ block, stage ≠ .said block) {earlier : List Signal} {scope : Nat}
    {returned : Bool} : signals ≠ earlier ++ [.left scope returned] := by
  cases course with
  | said => exact (goesOn _ rfl).elim
  | entering => simp
  | @running blocks statements _ _ progress =>
      intro same
      rcases List.eq_nil_or_concat statements with rfl | ⟨start, final, rfl⟩
      · simpa using congrArg List.getLast? same
      · rw [List.concat_eq_append, ← List.append_assoc] at same
        obtain rfl : final = .left scope returned := by
          simpa using (List.append_inj' same rfl).2
        have states := progress.own (.left scope returned) (by simp)
        cases states

end Course

end Midrange
