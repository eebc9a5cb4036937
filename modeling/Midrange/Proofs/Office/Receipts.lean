import Midrange.Proofs.Office.Client

/-!
# Receipts of offices

A connection that a client holds is held by nobody else, so what the client knows of its
identity stays true, and an identity statement is answered accordingly.  In every run each
insert that returns gives the identity that it generated itself.
-/

namespace Midrange

theorem comp_assign {α β : Type} (field : α → β) (values : Nat → α) (number : Nat)
    (value : α) :
    (fun other => field (assign values number value other)) =
      assign (fun other => field (values other)) number (field value) := by
  funext other
  by_cases same : other = number
  · rw [same, assign_self, assign_self]
  · rw [assign_of_ne _ _ same, assign_of_ne _ _ same]

namespace Tenure

variable {world after : World} {tenure last : Tenure} {connection : Connection}

/-- The connections in use, none of them with a transaction to account for. -/
def uses (tenure : Tenure) (connection : Connection) : Option (List Exchange) :=
  (tenure.hand.held connection).map fun _ => []

theorem uses_eq_none : tenure.uses connection = none ↔ ¬tenure.Holds connection := by
  simp [uses, Holds]

theorem uses_of_holds (holds : tenure.Holds connection) :
    tenure.uses connection = some [] := by
  obtain ⟨block, held⟩ := Option.ne_none_iff_exists'.mp holds
  rw [uses, held, Option.map_some]

theorem uses_hold :
    (tenure.hold connection).uses = Function.update tenure.uses connection (some []) := by
  funext other
  by_cases same : other = connection
  · subst same
    simp [uses, hold]
  · simp [uses, hold, same]

theorem uses_release :
    (tenure.release connection).uses = Function.update tenure.uses connection none := by
  funext other
  by_cases same : other = connection
  · subst same
    simp [uses, release]
  · simp [uses, release, same]

/-- What a client changes, as far as connections are in use. -/
theorem Changes.charge (changes : tenure.Changes world after last) :
    (Charge.Changes world ⟨tenure.uses, none, none⟩ after ⟨last.uses, none, none⟩) := by
  cases changes with
  | other pools opened => exact .other pools opened
  | take idle =>
      rw [uses_hold]
      exact .take idle
  | put number holds =>
      rw [uses_release]
      exact .put number (uses_of_holds holds) .none
  | opened =>
      rw [uses_hold]
      exact .opened
  | enter | leave => exact .other rfl rfl
  | shut number => exact .shut number

theorem Changes.marks (changes : tenure.Changes world after last) :
    last.marks = tenure.marks := by
  cases changes <;> rfl

theorem known_hold {taken : Connection} {row : List Value}
    (holds : (tenure.hold taken).Holds connection)
    (known : (tenure.hold taken).known connection = some row) :
    tenure.Holds connection ∧ tenure.known connection = some row := by
  by_cases same : connection = taken
  · subst same
    simp [hold] at known
  · constructor
    · simpa [Holds, hold, same] using holds
    · simpa [hold, same] using known

/-- What is known after a change was known before. -/
theorem Changes.known (changes : tenure.Changes world after last) {row : List Value}
    (holds : last.Holds connection) (known : last.known connection = some row) :
    tenure.Holds connection ∧ tenure.known connection = some row := by
  cases changes with
  | other | shut => exact ⟨holds, known⟩
  | enter | leave => exact ⟨holds, known⟩
  | @take _ _ taken _ _ => exact known_hold holds known
  | opened => exact known_hold holds known
  | @put _ given number _ _ =>
      refine ⟨?_, known⟩
      by_cases same : connection = given
      · subst same
        simp [Holds, release] at holds
      · simpa [Holds, release, same] using holds

end Tenure

/-- What clients know of scopes is true: those that a client entered are its own until they
end, and those that it knows to have ended have done so. -/
structure Leased (world : World) (runner : Nat → Option Nat) (tenures : Nat → Tenure) :
    Prop where
  scopes : Allotted world fun task => (tenures task).hand
  ended : ∀ task scope, (tenures task).ended scope →
    scope < world.scopeCount ∧ (world.scopes scope).active = false
  runner : ∀ task scope, runner scope = some task →
    scope < world.scopeCount ∧ ((world.scopes scope).active = true →
      ∃ connection, (tenures task).hand.scopes scope = some connection)

namespace Leased

variable {world after : World} {runner : Nat → Option Nat} {tenures : Nat → Tenure}
  {task : Nat} {last : Tenure}

/-- The scopes of the shared state are the same, and so are those of one client, but for
scopes that it knows to have ended. -/
theorem of_eq (leased : Leased world runner tenures)
    (same : after.scopes = world.scopes) (count : after.scopeCount = world.scopeCount)
    (mine : last.hand.scopes = (tenures task).hand.scopes)
    (held : ∀ scope connection, (tenures task).hand.scopes scope = some connection →
      last.Holds connection)
    (ended : ∀ scope, last.ended scope → (tenures task).ended scope ∨
      scope < world.scopeCount ∧ (world.scopes scope).active = false) :
    Leased after runner (assign tenures task last) where
  scopes := by
    rw [comp_assign Tenure.hand]
    exact leased.scopes.of_eq same count mine held
  ended := by
    intro other scope gone
    rw [same, count]
    by_cases this : other = task
    · subst this
      rw [assign_self] at gone
      exact (ended scope gone).elim (leased.ended other scope) id
    · rw [assign_of_ne _ _ this] at gone
      exact leased.ended other scope gone
  runner := by
    intro other scope runs
    obtain ⟨bound, running⟩ := leased.runner other scope runs
    rw [same, count]
    refine ⟨bound, fun active => ?_⟩
    by_cases this : other = task
    · subst this
      rw [assign_self, mine]
      exact running active
    · rw [assign_of_ne _ _ this]
      exact running active

theorem held (leased : Leased world runner tenures) (task scope : Nat)
    (connection : Connection)
    (running : (tenures task).hand.scopes scope = some connection) :
    (tenures task).Holds connection :=
  leased.scopes.held task scope connection running

/-- One client takes up a new scope or gives one up that ends. -/
theorem mind {scope : Nat} {connection : Option Connection}
    (leased : Leased world runner tenures)
    (scopes : Allotted after
      (assign (fun task => (tenures task).hand) task
        ((tenures task).hand.mind scope connection)))
    (count : world.scopeCount ≤ after.scopeCount)
    (ended : ∀ other < world.scopeCount, (world.scopes other).active = false →
      (after.scopes other).active = false)
    (stays : ∀ other < world.scopeCount, (after.scopes other).active = true →
      other ≠ scope ∧ (world.scopes other).active = true) :
    Leased after runner (assign tenures task ((tenures task).mind scope connection)) where
  scopes := by
    rw [comp_assign Tenure.hand]
    exact scopes
  ended := by
    intro other inner gone
    have gone : (tenures other).ended inner := by
      by_cases this : other = task
      · subst this
        rw [assign_self] at gone
        exact gone
      · rw [assign_of_ne _ _ this] at gone
        exact gone
    obtain ⟨bound, inactive⟩ := leased.ended other inner gone
    exact ⟨Nat.lt_of_lt_of_le bound count, ended inner bound inactive⟩
  runner := by
    intro other inner runs
    obtain ⟨bound, running⟩ := leased.runner other inner runs
    refine ⟨Nat.lt_of_lt_of_le bound count, fun active => ?_⟩
    obtain ⟨different, active⟩ := stays inner bound active
    obtain ⟨last, running⟩ := running active
    refine ⟨last, ?_⟩
    by_cases this : other = task
    · subst this
      simpa [Tenure.mind, different] using running
    · rw [assign_of_ne _ _ this]
      exact running

/-- What a client changes leaves the scopes in order. -/
theorem changes (leased : Leased world runner tenures)
    (changes : (tenures task).Changes world after last) :
    Leased after runner (assign tenures task last) := by
  cases changes with
  | other _ _ same count =>
      exact leased.of_eq same count rfl (leased.held task) fun _ => .inl
  | shut => exact leased.of_eq rfl rfl rfl (leased.held task) fun _ => .inl
  | take | opened =>
      refine leased.of_eq rfl rfl rfl (fun scope connection running => ?_) fun _ => .inl
      have holds := leased.held task scope connection running
      rw [Tenure.Holds] at holds ⊢
      simp only [Tenure.hold, Hand.hold, Function.update_apply]
      split <;> simp [holds]
  | @put _ given number holds unscoped =>
      refine leased.of_eq rfl rfl rfl (fun scope connection running => ?_) fun _ => .inl
      have different : connection ≠ given := by
        rintro rfl
        exact unscoped scope running
      simpa [Tenure.Holds, Tenure.release, different] using
        leased.held task scope connection running
  | enter timeout holds unscoped =>
      have scopes := leased.scopes.enter timeout holds unscoped
      refine leased.mind scopes (Nat.le_succ _) ?_ ?_ <;> intro other bound active
      · simpa [World.addScope, assign_of_ne _ _ (Nat.ne_of_lt bound)] using active
      · have different := Nat.ne_of_lt bound
        exact ⟨different, by simpa [World.addScope, assign_of_ne _ _ different] using active⟩
  | @leave _ scope _ running =>
      have scopes := leased.scopes.leave running
      refine leased.mind scopes (Nat.le_refl _) ?_ ?_ <;> intro other _ active
      · by_cases same : other = scope
        · simp [World.changeScope, same]
        · simpa [World.changeScope, assign_of_ne _ _ same] using active
      · by_cases same : other = scope
        · simp [World.changeScope, same] at active
        · exact ⟨same, by simpa [World.changeScope, assign_of_ne _ _ same] using active⟩

/-- A client that runs a scope is recorded for it. -/
theorem record {scope : Nat} {connection : Connection}
    (leased : Leased world runner tenures)
    (running : (tenures task).hand.scopes scope = some connection) :
    Leased world (assign runner scope (some task)) tenures where
  scopes := leased.scopes
  ended := leased.ended
  runner := by
    intro other inner runs
    by_cases same : inner = scope
    · subst same
      obtain rfl : task = other := by simpa using runs
      exact ⟨(leased.scopes.running task inner connection running).1,
        fun _ => ⟨connection, running⟩⟩
    · rw [assign_of_ne _ _ same] at runs
      exact leased.runner other inner runs

end Leased

/-! ## Offices in order -/

namespace Office

/-- The clients at work serve, with what each of them has in its place, and what they know
is true. -/
structure Served (office : Office) (keeper : Connection → Option Keeper)
    (tenures : Nat → Tenure) : Prop where
  clerks : ∀ task (clerk : Clerk), office.clerks[task]? = some clerk →
    clerk.routine.Serves (fun _ _ => True) (tenures task) ∧
      (tenures task).marks = clerk.marks
  vacant : ∀ task, office.clerks[task]? = none → (tenures task).marks = {}
  kept : Kept office.world [] keeper fun task => (tenures task).uses
  leased : Leased office.world office.runner tenures
  known : ∀ task connection row, (tenures task).Holds connection →
    (tenures task).known connection = some row → office.identities connection = some row
  receipts : ∀ receipt ∈ office.receipts, Confirms receipt.value receipt.born

namespace Served

variable {office next : Office} {keeper keeper' : Connection → Option Keeper}
  {tenures : Nat → Tenure} {task : Nat} {clerk clerk' : Clerk} {last : Tenure}

theorem fits (served : office.Served keeper tenures) (task : Nat) :
    (tenures task).Fits office.world where
  idle := fun _ _ idle => Tenure.uses_eq_none.mp (served.kept.free idle task)
  fresh := Tenure.uses_eq_none.mp (served.kept.unused (Nat.lt_succ_self _) task)
  unborn := served.leased.scopes.unborn task
  running := fun scope connection running =>
    (served.leased.scopes.running task scope connection running).2
  ended := fun scope gone => (served.leased.ended task scope gone).2

/-- Nobody else holds what a client holds. -/
theorem sole (served : office.Served keeper tenures) {other : Nat} {connection : Connection}
    (holds : (tenures task).Holds connection) (different : other ≠ task) :
    ¬(tenures other).Holds connection :=
  Tenure.uses_eq_none.mp (served.kept.sole (Tenure.uses_of_holds holds) different)

/-- One client goes on with the rest of its routine. -/
theorem resume (served : office.Served keeper tenures)
    (here : office.clerks[task]? = some clerk)
    (serves : clerk'.routine.Serves (fun _ _ => True) last) (marks : last.marks = clerk'.marks)
    (clerks : next.clerks = office.clerks.set task clerk')
    (kept : Kept next.world [] keeper' (assign (fun task => (tenures task).uses) task last.uses))
    (leased : Leased next.world next.runner (assign tenures task last))
    (known : ∀ other connection row, (assign tenures task last other).Holds connection →
      (assign tenures task last other).known connection = some row →
      next.identities connection = some row)
    (receipts : ∀ receipt ∈ next.receipts, Confirms receipt.value receipt.born) :
    next.Served keeper' (assign tenures task last) where
  clerks := by
    rw [clerks]
    exact holds_set_assign
      (fun clerk tenure =>
        clerk.routine.Serves (fun _ _ => True) tenure ∧ tenure.marks = clerk.marks)
      (List.getElem?_eq_some_iff.mp here).1 served.clerks ⟨serves, marks⟩
  vacant := by
    intro other there
    rw [clerks, List.getElem?_eq_none_iff, List.length_set, ← List.getElem?_eq_none_iff] at there
    have different : other ≠ task := by
      rintro rfl
      rw [here] at there
      cases there
    rw [assign_of_ne _ _ different]
    exact served.vacant other there
  kept := by
    rw [comp_assign Tenure.uses]
    exact kept
  leased := leased
  known := known
  receipts := receipts

/-- A client that changes neither its hand nor what it knows, but for scopes that it knows to
have ended. -/
theorem known_same (served : office.Served keeper tenures)
    (held : last.hand.held = (tenures task).hand.held) (known : last.known = (tenures task).known)
    (other : Nat) (connection : Connection) (row : List Value)
    (holds : (assign tenures task last other).Holds connection)
    (knows : (assign tenures task last other).known connection = some row) :
    office.identities connection = some row := by
  by_cases same : other = task
  · subst same
    rw [assign_self] at holds knows
    apply served.known other connection row
    · rw [Tenure.Holds, ← held]
      exact holds
    · rw [← known]
      exact knows
  · rw [assign_of_ne _ _ same] at holds knows
    exact served.known other connection row holds knows

theorem changes {world : World} (served : office.Served keeper tenures)
    (changes : (tenures task).Changes office.world world last)
    (other : Nat) (connection : Connection) (row : List Value)
    (holds : (assign tenures task last other).Holds connection)
    (knows : (assign tenures task last other).known connection = some row) :
    office.identities connection = some row := by
  by_cases same : other = task
  · subst same
    rw [assign_self] at holds knows
    obtain ⟨held, knew⟩ := changes.known holds knows
    exact served.known other connection row held knew
  · rw [assign_of_ne _ _ same] at holds knows
    exact served.known other connection row holds knows

/-- What is known of the identities stays true: a statement generates one only on a
connection of its own client. -/
theorem hears {request : DriverCall} (served : office.Served keeper tenures)
    (permits : (tenures task).Permits request) (generated : Generated)
    (answer : Except Fault request.Answer) (other : Nat) (connection : Connection)
    (row : List Value)
    (holds : (assign tenures task ((tenures task).hear generated request answer)
      other).Holds connection)
    (knows : (assign tenures task ((tenures task).hear generated request answer)
      other).known connection = some row) :
    request.identitiesAfter (tenures task).marks.made generated office.identities connection =
      some row := by
  -- Where the request generates nothing, what is known stays as it is.
  have quiet (nothing : ∀ identities : Connection → Generated,
      request.identitiesAfter (tenures task).marks.made generated identities connection =
        identities connection) :
      request.identitiesAfter (tenures task).marks.made generated office.identities
        connection = some row := by
    rw [nothing]
    by_cases same : other = task
    · subst same
      rw [assign_self] at holds knows
      exact served.known other connection row holds ((nothing _).symm.trans knows)
    · rw [assign_of_ne _ _ same] at holds knows
      exact served.known other connection row holds knows
  cases request with
  | execute statement parameters =>
      cases made : (tenures task).marks.made.connection? statement with
      | none =>
          exact quiet fun identities => by simp only [DriverCall.identitiesAfter, made]
      | some there =>
          cases generated with
          | none =>
              exact quiet fun identities => by
                simp only [DriverCall.identitiesAfter, made]
          | some own =>
              by_cases same : connection = there
              · subst same
                have mine : other = task := by
                  by_contra different
                  rw [assign_of_ne _ _ different] at holds
                  exact served.sole (permits connection made) different holds
                subst mine
                simp only [assign_self, Tenure.hear, DriverCall.identitiesAfter, made,
                  Function.update_self] at knows ⊢
                exact knows
              · refine quiet fun identities => ?_
                simp only [DriverCall.identitiesAfter, made, Function.update_of_ne same]
  | _ => exact quiet fun _ => rfl

theorem trusts (served : office.Served keeper tenures) (request : DriverCall)
    (reply : Except Fault request.Answer) :
    (tenures task).Trusts request
      (request.answerWith (tenures task).marks.inquiry office.identities reply) := by
  cases request with
  | fetchIdentity statement =>
      cases reply with
      | error fault => trivial
      | ok row =>
          cases inquired : (tenures task).marks.inquiry.connection? statement with
          | none =>
              simp only [DriverCall.answerWith, inquired]
              intro connection known there
              rw [inquired] at there
              cases there
          | some here =>
              simp only [DriverCall.answerWith, inquired]
              intro connection known there holds knows
              obtain rfl := Option.some.inj (inquired.symm.trans there)
              exact served.known task here known holds knows
  | _ => trivial

/-- A memo that is admitted leaves all in order. -/
theorem notes {memo : Memo} {rest : Tenure → Prop} (served : office.Served keeper tenures)
    (writes : (tenures task).Writes rest memo) (admitted : office.admits task memo = true) :
    ∃ last, rest last ∧ last.marks = marksNoted (tenures task).marks memo ∧
      last.known = (tenures task).known ∧ last.hand.held = (tenures task).hand.held ∧
      Leased office.world (runnerNoted task office.runner memo)
        (assign tenures task last) ∧
      ∀ receipt ∈ receiptOf task (tenures task).marks.born memo,
        Confirms receipt.value receipt.born := by
  have same : Leased office.world office.runner (assign tenures task (tenures task)) := by
    rw [assign_eta]
    exact served.leased
  have renewed : Leased office.world office.runner
      (assign tenures task (tenures task).renew) :=
    served.leased.of_eq rfl rfl rfl (served.leased.held task) fun _ => .inl
  match memo with
  | .asked ⟨.pool _, _, _, _⟩ => exact ⟨_, writes, rfl, rfl, rfl, renewed, nofun⟩
  | .asked ⟨.guest .., _, _, _⟩ => cases admitted
  | .asked ⟨.scope scope, _, _, _⟩ =>
      have ended (bound : scope < office.world.scopeCount)
          (finished : (office.world.scopes scope).active = false) :
          Leased office.world office.runner
            (assign tenures task ((tenures task).renew.outlive scope)) := by
        refine served.leased.of_eq rfl rfl rfl (served.leased.held task) ?_
        rintro other (rfl | gone)
        · exact .inr ⟨bound, finished⟩
        · exact .inl gone
      simp only [admits, Bool.or_eq_true, Bool.and_eq_true, decide_eq_true_eq,
        Bool.not_eq_true'] at admitted
      rcases admitted with runs | ⟨bound, finished⟩
      · obtain ⟨bound, running⟩ := served.leased.runner task scope runs
        by_cases active : (office.world.scopes scope).active = true
        · exact ⟨_, writes.1 (running active), rfl, rfl, rfl, renewed, nofun⟩
        · exact ⟨_, writes.2, rfl, rfl, rfl, ended bound (Bool.eq_false_iff.mpr active), nofun⟩
      · exact ⟨_, writes.2, rfl, rfl, rfl, ended bound finished, nofun⟩
  | .answered .insert (.ok value) =>
      refine ⟨_, writes.2, rfl, rfl, rfl, same, fun receipt member => ?_⟩
      obtain rfl := List.mem_singleton.mp member
      exact writes.1
  | .answered .insert (.error _) => exact ⟨_, writes, rfl, rfl, rfl, same, nofun⟩
  | .answered .query _ | .answered .update _ | .answered .execute _ =>
      exact ⟨_, writes, rfl, rfl, rfl, same, nofun⟩
  | .entered (.scope scope) =>
      obtain ⟨⟨connection, running⟩, rest⟩ := writes
      refine ⟨_, rest, rfl, rfl, rfl, ?_, nofun⟩
      rw [assign_eta]
      exact served.leased.record running
  | .entered (.pool _) | .entered (.guest ..) =>
      exact ⟨_, writes, rfl, rfl, rfl, same, nofun⟩

theorem advance (served : office.Served keeper tenures) (reply : Reply)
    (here : office.clerks[task]? = some clerk) :
    ∃ keeper tenures, (office.advance task reply clerk).Served keeper tenures := by
  obtain ⟨routine, marks⟩ := clerk
  obtain ⟨serves, same⟩ := served.clerks task _ here
  obtain rfl : (tenures task).marks = marks := same
  have kept : Kept office.world [] keeper
      (assign (fun task => (tenures task).uses) task (tenures task).uses) := by
    rw [assign_eta]
    exact served.kept
  have leased : Leased office.world office.runner (assign tenures task (tenures task)) := by
    rw [assign_eta]
    exact served.leased
  cases routine with
  | done | fail => exact ⟨keeper, tenures, served⟩
  | step update rest =>
      obtain ⟨last, changes, serves⟩ := serves office.world (served.fits task)
      obtain ⟨keeper', kept⟩ := served.kept.changes rfl changes.charge
      exact ⟨keeper', _, served.resume here serves changes.marks rfl kept
        (served.leased.changes changes) (served.changes changes) served.receipts⟩
  | emit event rest =>
      have serves : rest.Serves (fun _ _ => True) (tenures task) := serves
      exact ⟨keeper, _, served.resume here serves rfl rfl kept leased
        (served.known_same rfl rfl) served.receipts⟩
  | call request rest =>
      cases request with
      | makeGuest | guest =>
          exact ⟨keeper, _, served.resume here (serves _) rfl rfl kept leased
            (served.known_same rfl rfl) served.receipts⟩
      | driver request =>
          obtain ⟨permits, serves⟩ := serves
          let answer := request.answerWith (tenures task).marks.inquiry office.identities
            (reply.answer (.driver request))
          let last := (tenures task).hear reply.generated request answer
          have serves : (rest answer).Serves (fun _ _ => True) last :=
            serves answer reply.generated (served.trusts request _)
          have kept : Kept office.world [] keeper
              (assign (fun task => (tenures task).uses) task last.uses) := kept
          have leased : Leased office.world office.runner (assign tenures task last) :=
            served.leased.of_eq rfl rfl rfl (served.leased.held task) fun _ => .inl
          exact ⟨keeper, _, served.resume here serves rfl rfl kept leased
            (served.hears permits reply.generated answer) served.receipts⟩
  | aside memo rest =>
      rw [Office.advance]
      by_cases admitted : office.admits task memo = true
      · obtain ⟨last, serves, marks, known, held, leased, receipts⟩ :=
          served.notes serves admitted
        have uses : last.uses = (tenures task).uses := by
          funext connection
          rw [Tenure.uses, Tenure.uses, held]
        simp only [admitted, if_true]
        refine ⟨keeper, _, served.resume here serves marks rfl (uses ▸ kept) leased
          (served.known_same held known) fun receipt member => ?_⟩
        exact (List.mem_append.mp member).elim (served.receipts receipt) (receipts receipt)
      · simp only [admitted]
        exact ⟨keeper, tenures, served⟩

theorem join (served : office.Served keeper tenures) (client : Client Unit) :
    (office.move (.join client)).Served keeper tenures where
  clerks := by
    intro task clerk there
    rw [move, List.getElem?_append] at there
    split at there
    · exact served.clerks task clerk there
    · rename_i beyond
      obtain rfl := List.mem_singleton.mp (List.mem_of_getElem? there)
      refine ⟨client.memoed_remains.mono fun _ _ _ => trivial, served.vacant task ?_⟩
      exact List.getElem?_eq_none (Nat.le_of_not_lt beyond)
  vacant := by
    intro task there
    apply served.vacant task
    rw [move, List.getElem?_append] at there
    split at there
    · exact there
    · rename_i beyond
      exact List.getElem?_eq_none (Nat.le_of_not_lt beyond)
  kept := served.kept
  leased := served.leased
  known := served.known
  receipts := served.receipts

theorem move (served : office.Served keeper tenures) (move : Move) :
    ∃ keeper tenures, (office.move move).Served keeper tenures := by
  cases move with
  | join client => exact ⟨keeper, tenures, served.join client⟩
  | advance task reply =>
      rw [Office.move]
      cases here : office.clerks[task]? with
      | none => exact ⟨keeper, tenures, served⟩
      | some clerk => exact served.advance reply here

theorem play (served : office.Served keeper tenures) (moves : List Move) :
    ∃ keeper tenures, (office.play moves).Served keeper tenures := by
  induction moves generalizing office keeper tenures with
  | nil => exact ⟨keeper, tenures, served⟩
  | cons move moves induction =>
      obtain ⟨keeper, tenures, served⟩ := served.move move
      exact induction served

end Served

end Office

end Midrange
