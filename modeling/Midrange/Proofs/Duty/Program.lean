import Midrange.Proofs.Duty

/-!
# Duties of programs

Every program behaves, whatever it does: at its end its task has the duties that it had
before.  A transaction changes its session twice, on entering its scope and on leaving
it, and leaves it coherent both times; a teardown closes what it cleared, one handle
after another.
-/

namespace Midrange

variable {α : Type} {duty : Duty}

/-! ## Transactions -/

section

variable {post : Duty → Prop}

theorem Pool.withConnection_behaves {pool : Nat} {use : Connection → Routine errands α}
    (holds : post duty)
    (uses : ∀ connection, (use connection).Behaves (fun _ => post) duty) :
    (withConnection pool use).Behaves (fun _ => post) duty := by
  refine .after_tending (checkout_tends pool) (fun _ => holds) fun connection => ?_
  refine Routine.behaves_bind.mpr (Routine.behaves_attempt.mpr ((uses connection).mono ?_))
  intro outcome after holds'
  refine Routine.Tends.behaves ?_ fun _ => holds'
  cases outcome with
  | ok value => exact .bind (checkin_tends pool connection) fun _ => trivial
  | error fault => exact .bind connection.closeQuietly_tends fun _ => trivial

theorem Pool.transaction_behaves {pool : Nat} {body : Handle → Routine errands α}
    (holds : post duty) (runs : ∀ inner, (body inner).Behaves (fun _ => post) duty) :
    (transaction pool body).Behaves (fun _ => post) duty := by
  apply withConnection_behaves holds
  intro connection
  refine .after_tending (.drive _) (fun _ => holds) fun _ => ?_
  refine .after_tending (.atomic fun world => ?_) (fun _ => holds) fun scope => ?_
  · exact ⟨rfl, rfl, fun _ => rfl, rfl, Nat.le_refl _⟩
  refine Routine.behaves_bind.mpr
    (Routine.behaves_attempt.mpr ((runs (.scope scope)).mono ?_))
  intro outcome after holds'
  refine Routine.Tends.behaves (.bind (.modify fun world => ?_) fun _ => ?_) fun _ => holds'
  · exact ⟨rfl, rfl, fun _ => rfl, rfl, Nat.le_refl _⟩
  · cases outcome with
    | ok value => exact .bind connection.commit_tends fun _ => trivial
    | error fault => exact .bind connection.rollbackQuietly_tends fun _ => trivial

theorem Handle.guestTransaction_behaves {number : Nat} {dedicated : Bool}
    {body : Handle → Routine errands α} (holds : post duty)
    (runs : ∀ inner, (body inner).Behaves (fun _ => post) duty) :
    (guestTransaction number dedicated body).Behaves (fun _ => post) duty := by
  refine .after_tending (.perform rfl) (fun _ => holds) fun _ => ?_
  refine .after_tending (.atomic fun world => ?_) (fun _ => holds) fun inner => ?_
  · exact ⟨rfl, rfl, fun _ => rfl, rfl, Nat.le_succ _⟩
  refine Routine.behaves_bind.mpr
    (Routine.behaves_attempt.mpr ((runs (.guest inner true)).mono ?_))
  intro outcome after holds'
  refine Routine.Tends.behaves ?_ fun _ => holds'
  cases outcome with
  | ok value => exact .bind (.perform rfl) fun _ => trivial
  | error fault => exact .bind (.perform rfl) fun _ => trivial

/-- Around the body of a transaction there is only what tends. -/
theorem Handle.transaction_behaves (handle : Handle) {body : Handle → Routine errands α}
    (holds : post duty) (runs : ∀ inner, (body inner).Behaves (fun _ => post) duty) :
    (handle.transaction body).Behaves (fun _ => post) duty := by
  cases handle with
  | pool number => exact Pool.transaction_behaves holds runs
  | scope number => exact holds
  | guest number dedicated => exact guestTransaction_behaves holds runs

end

namespace Duty

/-- The task is in as many transactions as before, and has its teardown and closing as
before. -/
structure Returns (before after : Duty) : Prop where
  depth : ∀ number, (after.grips number).depth = (before.grips number).depth
  tearing : after.tearing = before.tearing
  closing : after.closing = before.closing

namespace Returns

theorem refl (duty : Duty) : duty.Returns duty := ⟨fun _ => rfl, rfl, rfl⟩

theorem trans {before middle after : Duty} (first : before.Returns middle)
    (second : middle.Returns after) : before.Returns after where
  depth := fun number => (second.depth number).trans (first.depth number)
  tearing := second.tearing.trans first.tearing
  closing := second.closing.trans first.closing

theorem see (duty : Duty) (number : Nat) (session : Session) :
    duty.Returns (duty.see number session) := by
  refine ⟨fun other => ?_, rfl, rfl⟩
  by_cases here : other = number
  · simp [Duty.see, here]
  · rw [Duty.see, grasp_of_ne _ here]

end Returns

end Duty

namespace Session

variable {number : Nat}

theorem isInTransaction_leaveScope (session : Session) :
    (leaveScope session).isInTransaction = false := by
  cases earlier : session.prior <;> simp [leaveScope, isInTransaction, earlier]

theorem leaveScope_coherent (session : Session) : (leaveScope session).Coherent := by
  cases earlier : session.prior <;> simp [leaveScope, Coherent, earlier]

theorem enterScope_coherent {session : Session} {handle : Handle}
    (connected : session.connection = some handle) (inner : Handle) :
    (enterScope inner session).Coherent := by
  simp [enterScope, Coherent, connected]

/-- A task that is in a transaction of a session may change it. -/
theorem change_behaves {update : Session → Session} {post : Except Fault Unit → Duty → Prop}
    (begun : 0 < (duty.grips number).depth)
    (coherent : (update (duty.grips number).session).Coherent)
    (same : (update (duty.grips number).session).dsn = (duty.grips number).session.dsn)
    (holds : post (.ok ()) (duty.see number (update (duty.grips number).session))) :
    (change number update : Routine errands Unit).Behaves post duty := by
  intro world fits
  have known := fits number begun
  rw [← known] at coherent same holds
  exact ⟨_, .session begun coherent same, holds⟩

theorem report_behaves (event : SessionEvent) {post : Except Fault Unit → Duty → Prop}
    (holds : post (.ok ()) duty) :
    (report number event : Routine errands Unit).Behaves post duty :=
  Routine.behaves_bind.mpr (Routine.behaves_look fun _ _ => holds)

/-- A scope is entered and left, whatever its work does in between. -/
theorem scope_behaves {work : Option (Routine errands (Outcome α))} {handle inner : Handle}
    (begun : 0 < (duty.grips number).depth)
    (connected : (duty.grips number).session.connection = some handle)
    (behaves : ∀ routine, work = some routine → ∀ entered, duty.Returns entered →
      routine.Behaves (fun _ after => entered.Returns after) entered) :
    (scope number work inner).Behaves (fun _ after => duty.Returns after ∧
      (after.grips number).session.isInTransaction = false) duty := by
  refine Routine.behaves_bind.mpr
    (change_behaves begun (enterScope_coherent connected inner) rfl ?_)
  let entered := duty.see number (enterScope inner (duty.grips number).session)
  have enters : duty.Returns entered := .see duty number _
  -- Whatever the work did, the scope is left with the session that it left.
  have leaves (outcome : Except Fault (Option α)) (left : Duty)
      (returns : entered.Returns left) :
      ((change number leaveScope).bind fun _ => Routine.ofExcept outcome).Behaves
        (fun _ after => duty.Returns after ∧
          (after.grips number).session.isInTransaction = false) left := by
    have left' : 0 < (left.grips number).depth := by
      rw [(enters.trans returns).depth]
      exact begun
    refine Routine.behaves_bind.mpr (change_behaves left' (leaveScope_coherent _) rfl ?_)
    refine Routine.behaves_ofExcept.mpr ⟨(enters.trans returns).trans (.see left number _), ?_⟩
    simp [Duty.see, isInTransaction_leaveScope]
  refine Routine.behaves_bind.mpr (report_behaves _ ?_)
  cases work with
  | none => exact leaves _ entered (.refl entered)
  | some routine =>
      refine Routine.behaves_bind.mpr
        (Routine.behaves_attempt.mpr ((behaves routine rfl entered enters).mono ?_))
      intro outcome left returns
      exact leaves _ left returns

/-- A transaction behaves if its work does, on a session that it holds. -/
theorem transaction_behaves {work : Option (Routine errands (Outcome α))}
    (begun : 0 < (duty.grips number).depth)
    (outermost : (duty.grips number).depth = 1 →
      (duty.grips number).session.isInTransaction = false)
    (behaves : ∀ routine, work = some routine → ∀ entered, duty.Returns entered →
      routine.Behaves (fun _ after => entered.Returns after) entered) :
    (transaction number work).Behaves (fun _ after => duty.Returns after ∧
      ((duty.grips number).depth = 1 →
        (after.grips number).session.isInTransaction = false)) duty := by
  have unchanged : duty.Returns duty ∧ ((duty.grips number).depth = 1 →
      (duty.grips number).session.isInTransaction = false) := ⟨.refl duty, outermost⟩
  refine Routine.behaves_bind.mpr (Routine.behaves_bind.mpr
    (Routine.behaves_look fun world fits => ?_))
  rw [Routine.ends_ok, fits number begun]
  cases connected : (duty.grips number).session.connection with
  | none => exact unchanged
  | some handle =>
      refine Routine.behaves_bind.mpr (Routine.behaves_look fun world fits => ?_)
      rw [Routine.ends_ok, fits number begun]
      by_cases running : (duty.grips number).session.isInTransaction = true
      · rw [if_pos running]
        exact unchanged
      · rw [if_neg running]
        have free := Bool.eq_false_iff.mpr running
        refine Routine.behaves_bind.mpr (Routine.behaves_attempt.mpr
          ((handle.transaction_behaves ⟨.refl duty, free⟩ fun inner =>
            scope_behaves begun connected behaves).mono ?_))
        intro outcome after returned
        refine Routine.Tends.behaves ?_ fun _ => ⟨returned.1, fun _ => returned.2⟩
        cases outcome with
        | ok value => exact .bind (report_tends number _) fun _ => trivial
        | error fault =>
            by_cases ordinary : fault.isOrdinary = true
            · simp only [ordinary, if_true]
              exact .bind (report_tends number _) fun _ => trivial
            · simp only [ordinary]
              trivial

/-- A transaction holds its session from its beginning to its end. -/
theorem during_behaves {work : Option (Routine errands (Outcome α))}
    (behaves : ∀ routine, work = some routine → ∀ entered : Duty,
      entered.tearing = duty.tearing → entered.closing = duty.closing →
      routine.Behaves (fun _ after => entered.Returns after) entered) :
    (Errand.during number (transaction number work)).Behaves
      (fun _ after => duty.Returns after) duty := by
  refine Routine.behaves_bind.mpr (Routine.behaves_make.mpr ?_)
  intro session coherent idle known
  refine Routine.behaves_bind.mpr (Routine.behaves_attempt.mpr
    ((transaction_behaves ?_ ?_ ?_).mono ?_))
  · simp
  · intro outermost
    rw [Duty.grasp_self] at outermost ⊢
    exact idle (Nat.succ.inj outermost)
  · intro routine same entered returns
    exact behaves routine same entered returns.tearing returns.closing
  · rintro outcome after ⟨returns, rests⟩
    have depth := returns.depth number
    rw [Duty.grasp_self] at depth rests
    refine Routine.behaves_bind.mpr (Routine.behaves_make.mpr ⟨?_, ?_, ?_⟩)
    · rw [depth]
      exact Nat.succ_pos _
    · rw [depth]
      exact rests
    · refine Routine.behaves_ofExcept.mpr ⟨fun other => ?_, returns.tearing, returns.closing⟩
      by_cases here : other = number
      · subst here
        rw [Duty.grasp_self, depth]
        rfl
      · have same := returns.depth other
        rw [Duty.grasp_of_ne _ here] at same
        rw [Duty.grasp_of_ne _ here, same]

end Session

/-! ## Teardowns -/

namespace Handle

/-- A handle that a factory made is closed by one step or call of its own. -/
theorem close_behaves {handle : Handle} {post : Except Fault Unit → Duty → Prop}
    (closing : duty.closing = some handle) (made : handle.isMade = true)
    (holds : ∀ outcome, post outcome { duty with closing := none }) :
    (handle.close : Routine errands Unit).Behaves post duty := by
  cases handle with
  | scope number => cases made
  | guest number dedicated =>
      exact ⟨_, .dismiss closing, fun answer => Routine.behaves_ofExcept.mpr (holds answer)⟩
  | pool number =>
      intro world _
      refine ⟨_, .shut closing, ?_⟩
      have tends : (((Pool.shut number world).1.forM Connection.closeQuietly :
          Routine errands PUnit)).Tends := .forM Connection.closeQuietly_tends
      exact tends.behaves holds

end Handle

namespace Errand

theorem closeNoted_behaves {dsn : String} {handle : Handle}
    {remaining : List (String × Handle)} {post : Except Fault Unit → Duty → Prop}
    (torn : duty.tearing = some { remaining := (dsn, handle) :: remaining })
    (free : duty.closing = none) (made : handle.isMade = true)
    (holds : ∀ stopped, post (Tearing.outcome { remaining, stopped })
      { duty with tearing := some { remaining, stopped } }) :
    (closeNoted (dsn, handle)).Behaves post duty := by
  refine Routine.behaves_bind.mpr (Routine.behaves_attempt.mpr (Routine.behaves_bind.mpr
    (Routine.behaves_make.mpr ⟨dsn, remaining, torn, free, ?_⟩)))
  refine Routine.behaves_bind.mpr (Routine.behaves_attempt.mpr
    (Handle.close_behaves rfl made fun answer => ?_))
  refine Routine.behaves_bind.mpr (Routine.behaves_make.mpr ⟨remaining, rfl, rfl, ?_⟩)
  refine Routine.behaves_ofExcept.mpr ?_
  have same : { duty with
      tearing := some { remaining, stopped := cancellation? answer }, closing := none } =
      { duty with tearing := some { remaining, stopped := cancellation? answer } } := by
    rw [← free]
  have rest := holds (cancellation? answer)
  rw [← same] at rest
  cases answer with
  | ok => exact rest
  | error fault =>
      by_cases ordinary : fault.isOrdinary = true
      · simpa [cancellation?, ordinary, Tearing.outcome, Routine.report,
          Routine.Behaves] using rest
      · simpa [cancellation?, ordinary, Tearing.outcome] using rest

/-- The handles are closed one after another, up to the end or to a cancellation. -/
theorem forM_closeNoted_behaves {entries : List (String × Handle)}
    {post : Except Fault Unit → Duty → Prop}
    (torn : duty.tearing = some { remaining := entries }) (free : duty.closing = none)
    (made : ∀ entry ∈ entries, entry.2.isMade = true)
    (holds : ∀ tearing : Tearing, tearing.owed = false →
      (tearing.stopped = none → tearing.remaining = []) →
      post tearing.outcome { duty with tearing := some tearing }) :
    (entries.forM closeNoted : Routine errands PUnit).Behaves post duty := by
  induction entries generalizing duty with
  | nil =>
      have rest := holds { remaining := [] } rfl fun _ => rfl
      rw [← torn] at rest
      exact rest
  | cons entry entries induction =>
      refine Routine.behaves_bind.mpr
        (closeNoted_behaves torn free (made entry List.mem_cons_self) fun stopped => ?_)
      cases stopped with
      | some fault =>
          exact holds { remaining := entries, stopped := some fault } rfl nofun
      | none =>
          have rest : Routine.Behaves post
              { duty with tearing := some { remaining := entries } }
              (entries.forM closeNoted : Routine errands PUnit) := by
            refine induction rfl free ?_ holds
            exact fun entry member => made entry (List.mem_cons_of_mem _ member)
          exact rest

theorem tearDown_behaves {registry : Nat} (calm : duty.tearing = none)
    (free : duty.closing = none) :
    (tearDown registry).Behaves (fun _ after => duty.Returns after) duty := by
  refine Routine.behaves_bind.mpr (Routine.behaves_order.mpr ⟨calm, free, ?_⟩)
  intro entries made
  refine Routine.behaves_bind.mpr (Routine.behaves_attempt.mpr (Routine.behaves_bind.mpr
    (forM_closeNoted_behaves rfl free made fun tearing paid empty => ?_)))
  have ends : ((Remark.finished tearing.outcome).make.bind fun _ =>
      Routine.ofExcept tearing.outcome).Behaves (fun _ after => duty.Returns after)
      { duty with tearing := some tearing } := by
    refine Routine.behaves_bind.mpr (Routine.behaves_make.mpr
      ⟨tearing, rfl, paid, free, rfl, empty, ?_⟩)
    exact Routine.behaves_ofExcept.mpr ⟨fun _ => rfl, calm.symm, rfl⟩
  generalize tearing.outcome = outcome at ends
  cases outcome with
  | ok => exact ends
  | error fault => exact ends

end Errand

/-! ## Programs -/

/-- Every program behaves. -/
theorem Program.routine_behaves (program : Program α) (calm : duty.tearing = none)
    (free : duty.closing = none) :
    program.routine.Behaves (fun _ after => duty.Returns after) duty := by
  induction program generalizing duty with
  | done value => exact .refl duty
  | fail fault => exact .refl duty
  | bind first second before after =>
      refine Routine.behaves_bind.mpr ((before calm free).mono ?_)
      intro outcome middle returns
      cases outcome with
      | error fault => exact returns
      | ok value =>
          refine (after value (returns.tearing.trans calm) (returns.closing.trans free)).mono ?_
          exact fun _ final returns' => returns.trans returns'
  | attempt body behaves => exact Routine.behaves_attempt.mpr (behaves calm free)
  | acquire registry dsn options =>
      exact Routine.behaves_order.mpr fun _ => .refl duty
  | tearDown registry | globalClose registry => exact Errand.tearDown_behaves calm free
  | connect session dsn target =>
      exact Routine.behaves_order.mpr fun _ seen _ => .see duty session seen
  | close session | release session =>
      exact Routine.behaves_order.mpr fun _ seen _ => .see duty session seen
  | dispatch session command sql bindings =>
      exact (Session.dispatch_tends session command sql bindings).behaves fun _ => .refl duty
  | execute session sql bindings =>
      exact (Session.execute_tends session sql bindings).behaves fun _ => .refl duty
  | createTable session table =>
      exact (Session.createTable_tends session table).behaves fun _ => .refl duty
  | select session query bindings =>
      exact (Session.select_tends session query bindings).behaves fun _ => .refl duty
  | transaction session work behaves =>
      apply Session.during_behaves
      rintro _ ⟨⟩ entered calm' free'
      exact behaves (calm'.trans calm) (free'.trans free)
  | emptyTransaction session => exact Session.during_behaves (by simp)
  | commit | rollback => exact .refl duty

end Midrange
