import Midrange.Session

/-!
# Programs over sessions and registries

A program issues commands on any number of sessions and registries, handles their
faults or lets them pass, and begins transactions whose work is again a program.

Commands that never wait run undivided: they are errands, which the surroundings of
the program run for it.  A program also notes when its transactions begin and end and
what it closes in a teardown; the notes have no part in what a teardown does.
-/

namespace Midrange

variable {caller : Caller} {α β : Type}

/-- What a program notes: the beginning and the end of a transaction of a session, a
handle that it is about to close, the answer to that, and the outcome of a
teardown. -/
inductive Remark where
  | began (session : Nat)
  | ended (session : Nat)
  | closing (handle : Handle)
  | closed (answer : Except Fault Unit)
  | finished (outcome : Except Fault Unit)

/-- What a program asks of its surroundings: a command, or a note. -/
inductive Errand where
  | acquire (registry : Nat) (dsn : String) (options : Fields Value)
  | connect (session : Nat) (dsn : Option String) (target : Target)
  | close (session : Nat)
  | clear (registry : Nat)
  | note (remark : Remark)

namespace Errand

@[reducible] def Answer : Errand → Type
  | .acquire .. => Handle
  | .clear _ => List (String × Handle)
  | _ => Unit

/-- What an errand does; a note does nothing. -/
def routine : (errand : Errand) → Routine caller errand.Answer
  | .acquire registry dsn options => Registry.acquire registry dsn options
  | .connect session dsn target => Session.connect session dsn target
  | .close session => Session.close session
  | .clear registry => Routine.atomic (Registry.takeAll registry)
  | .note _ => .done ()

end Errand

@[reducible] def errands : Caller :=
  ⟨Errand, fun errand => Except Fault errand.Answer⟩

/-- Has an errand run, and fails if it does. -/
def Errand.order (errand : Errand) : Routine errands errand.Answer :=
  (Routine.ask errand : Routine errands _).bind Routine.ofExcept

def Remark.make (remark : Remark) : Routine errands Unit :=
  Errand.order (.note remark)

/-! ## Transactions and teardowns with their notes -/

/-- Notes the beginning and the end of a transaction, however it ends. -/
def Errand.during (session : Nat) (routine : Routine errands α) : Routine errands α := do
  (Remark.began session).make
  let outcome ← routine.attempt
  (Remark.ended session).make
  Routine.ofExcept outcome

def Errand.closeNoted (entry : String × Handle) : Routine errands Unit :=
  Connection.tolerate (.poolCloseFailed entry.1) do
    (Remark.closing entry.2).make
    let outcome ← entry.2.close.attempt
    (Remark.closed outcome).make
    Routine.ofExcept outcome

/-- A teardown that notes what it closes and how it ends. -/
def Errand.tearDown (registry : Nat) : Routine errands Unit := do
  let entries ← Errand.order (.clear registry)
  let outcome ← (do
    entries.forM closeNoted
    Routine.report (.poolsTornDown entries.length) : Routine errands Unit).attempt
  (Remark.finished outcome).make
  Routine.ofExcept outcome

/-- A program over the commands of sessions and registries. -/
inductive Program : Type → Type 1 where
  | done {α : Type} (value : α) : Program α
  | fail {α : Type} (fault : Fault) : Program α
  | bind {α β : Type} (first : Program β) (second : β → Program α) : Program α
  | attempt {α : Type} (body : Program α) : Program (Except Fault α)
  | acquire (registry : Nat) (dsn : String) (options : Fields Value) : Program Handle
  | tearDown (registry : Nat) : Program Unit
  | globalClose (registry : Option Nat) : Program Unit
  | connect (session : Nat) (dsn : Option String) (target : Target) : Program Unit
  | close (session : Nat) : Program Unit
  | release (session : Nat) : Program Unit
  | dispatch (session : Nat) (command : Command) (sql : String) (bindings : Value) :
      Program QueryResult
  | execute (session : Nat) (sql : String) (bindings : Value) : Program Unit
  | createTable (session : Nat) (table : Table) : Program String
  | select (session : Nat) (query : Select) (bindings : Value) : Program (List Row)
  | transaction {α : Type} (session : Nat) (work : Program (Outcome α)) :
      Program (Option α)
  | emptyTransaction {α : Type} (session : Nat) : Program (Option α)
  | commit : Program Unit
  | rollback : Program Unit

/-- What a program does. -/
def Program.routine : {α : Type} → Program α → Routine errands α
  | _, .done value => .done value
  | _, .fail fault => .fail fault
  | _, .bind first second => first.routine.bind fun value => (second value).routine
  | _, .attempt body => body.routine.attempt
  | _, .acquire registry dsn options => Errand.order (.acquire registry dsn options)
  | _, .tearDown registry => Errand.tearDown registry
  | _, .globalClose registry => Errand.tearDown (registry.getD Registry.shared)
  | _, .connect session dsn target => Errand.order (.connect session dsn target)
  | _, .close session | _, .release session => Errand.order (.close session)
  | _, .dispatch session command sql bindings =>
      Session.dispatch session command sql bindings
  | _, .execute session sql bindings => Session.execute session sql bindings
  | _, .createTable session table => Session.createTable session table
  | _, .select session query bindings => Session.select session query bindings
  | _, .transaction session work =>
      Errand.during session (Session.transaction session (some work.routine))
  | _, .emptyTransaction session => Errand.during session (Session.transaction session none)
  | _, .commit => Session.commit
  | _, .rollback => Session.rollback

/-! ## Without errands -/

namespace Routine

/-- The routine with its errands run on the way. -/
def plain : Routine errands α → Routine caller α
  | .done value => .done value
  | .fail fault => .fail fault
  | .step update next => .step update fun world => (next world).plain
  | .emit event next => .emit event next.plain
  | .call request next => .call request fun answer => (next answer).plain
  | .aside errand next => errand.routine.attempt.bind fun outcome => (next outcome).plain

theorem attempt_bind_ofExcept (routine : Routine caller α) :
    routine.attempt.bind ofExcept = routine := by
  induction routine with
  | done | fail => rfl
  | step update next induction => exact congrArg (step update) (funext induction)
  | emit event next induction => exact congrArg (emit event) induction
  | call request next induction => exact congrArg (call request) (funext induction)
  | aside request next induction =>
      exact congrArg (aside request) (funext induction)

theorem plain_bind (first : Routine errands β) (second : β → Routine errands α) :
    ((first.bind second).plain : Routine caller α) =
      first.plain.bind fun value => (second value).plain := by
  induction first with
  | done | fail => rfl
  | step update next induction => exact congrArg (step update) (funext induction)
  | emit event next induction => exact congrArg (emit event) induction
  | call request next induction => exact congrArg (call request) (funext induction)
  | aside errand next induction =>
      rw [Routine.bind, plain, plain, bind_assoc]
      exact congrArg _ (funext induction)

theorem attempt_bind (first : Routine caller β) (second : β → Routine caller α) :
    (first.bind second).attempt =
      first.attempt.bind fun outcome =>
        match outcome with
        | .ok value => (second value).attempt
        | .error fault => .done (.error fault) := by
  induction first with
  | done | fail => rfl
  | step update next induction => exact congrArg (step update) (funext induction)
  | emit event next induction => exact congrArg (emit event) induction
  | call request next induction => exact congrArg (call request) (funext induction)
  | aside request next induction =>
      exact congrArg (aside request) (funext induction)

theorem attempt_attempt (routine : Routine caller α) :
    routine.attempt.attempt = routine.attempt.bind fun outcome => .done (.ok outcome) := by
  induction routine with
  | done | fail => rfl
  | step update next induction => exact congrArg (step update) (funext induction)
  | emit event next induction => exact congrArg (emit event) induction
  | call request next induction => exact congrArg (call request) (funext induction)
  | aside request next induction =>
      exact congrArg (aside request) (funext induction)

theorem plain_attempt (routine : Routine errands α) :
    (routine.attempt.plain : Routine caller (Except Fault α)) = routine.plain.attempt := by
  induction routine with
  | done | fail => rfl
  | step update next induction => exact congrArg (step update) (funext induction)
  | emit event next induction => exact congrArg (emit event) induction
  | call request next induction => exact congrArg (call request) (funext induction)
  | aside errand next induction =>
      simp only [attempt, plain, attempt_bind, attempt_attempt, bind_assoc, done_bind,
        induction]

@[simp] theorem plain_ofExcept (outcome : Except Fault α) :
    ((ofExcept outcome : Routine errands α).plain : Routine caller α) =
      ofExcept outcome := by
  cases outcome <;> rfl

theorem plain_order (errand : Errand) :
    (errand.order.plain : Routine caller errand.Answer) = errand.routine := by
  rw [← attempt_bind_ofExcept errand.routine]
  simp [Errand.order, ask, plain, Routine.bind]

@[simp] theorem plain_make (remark : Remark) :
    (remark.make.plain : Routine caller Unit) = .done () :=
  plain_order (.note remark)

theorem plain_forM {items : List β} {body : β → Routine errands PUnit}
    {direct : β → Routine caller PUnit} (same : ∀ item, (body item).plain = direct item) :
    ((items.forM body).plain : Routine caller PUnit) = items.forM direct := by
  induction items with
  | nil => rfl
  | cons item items induction =>
      have rest : (((body item).bind fun _ => items.forM body).plain :
          Routine caller PUnit) = (direct item).bind fun _ => items.forM direct := by
        rw [plain_bind, same, induction]
      exact rest

theorem plain_tolerate (event : String → Event) (routine : Routine errands Unit) :
    ((Connection.tolerate event routine).plain : Routine caller Unit) =
      Connection.tolerate event routine.plain := by
  rw [Connection.tolerate, bind_eq, plain_bind, plain_attempt]
  refine congrArg _ (funext fun outcome => ?_)
  cases outcome with
  | ok => rfl
  | error fault =>
      by_cases ordinary : fault.isOrdinary = true
      · simp only [ordinary, if_true]
        rfl
      · simp only [ordinary]
        rfl

theorem plain_perform (request : Call) :
    ((perform request : Routine errands request.Answer).plain :
      Routine caller request.Answer) = perform request :=
  congrArg (call request) (funext fun answer => plain_ofExcept answer)

theorem plain_closeQuietly (connection : Connection) :
    ((connection.closeQuietly : Routine errands Unit).plain : Routine caller Unit) =
      connection.closeQuietly :=
  (plain_tolerate _ _).trans (congrArg _ (plain_perform _))

theorem plain_close (handle : Handle) :
    ((handle.close : Routine errands Unit).plain : Routine caller Unit) =
      handle.close := by
  cases handle with
  | scope number => rfl
  | guest number dedicated => exact plain_perform _
  | pool number =>
      exact congrArg (step _) (funext fun world => plain_forM plain_closeQuietly)

theorem plain_during (session : Nat) (routine : Routine errands α) :
    ((Errand.during session routine).plain : Routine caller α) = routine.plain := by
  simp only [Errand.during, bind_eq, plain_bind, plain_make, plain_attempt, plain_ofExcept,
    done_bind, attempt_bind_ofExcept]

/-- The notes have no part in what a teardown does. -/
theorem plain_tearDown (registry : Nat) :
    ((Errand.tearDown registry).plain : Routine caller Unit) =
      Registry.tearDown registry := by
  have closes (entry : String × Handle) :
      ((Errand.closeNoted entry).plain : Routine caller Unit) =
        Registry.closeEntry entry := by
    simp only [Errand.closeNoted, plain_tolerate, bind_eq, plain_bind, plain_make,
      plain_attempt, plain_ofExcept, done_bind, attempt_bind_ofExcept, plain_close]
    rfl
  simp only [Errand.tearDown, bind_eq, plain_bind, plain_make, plain_attempt,
    plain_ofExcept, done_bind, attempt_bind_ofExcept, plain_forM closes]
  rw [plain_order]
  rfl

/-! ### Transactions -/

/-- Errands may be run part by part. -/
theorem plain_then {first : Routine errands β} {first' : Routine caller β}
    {second : β → Routine errands α} {second' : β → Routine caller α}
    (before : first.plain = first') (after : ∀ value, (second value).plain = second' value) :
    (first.bind second).plain = first'.bind second' := by
  rw [plain_bind, before]
  exact congrArg first'.bind (funext after)

theorem plain_finish (connection : Connection) (request : DriverCall) :
    ((connection.finish request : Routine errands Unit).plain : Routine caller Unit) =
      connection.finish request := by
  have performs : ((perform (.driver request) : Routine errands request.Answer).attempt.plain :
      Routine caller _) = (perform (.driver request)).attempt :=
    (plain_attempt _).trans (congrArg attempt (plain_perform _))
  exact plain_then performs fun outcome =>
    plain_then (plain_perform _) fun _ => plain_ofExcept _

theorem plain_checkout (pool : Nat) :
    ((Pool.checkout pool : Routine errands Connection).plain : Routine caller Connection) =
      Pool.checkout pool := by
  refine plain_then rfl fun offer => ?_
  cases offer with
  | closed | idle => rfl
  | none =>
      refine plain_then (plain_perform _) fun found => ?_
      cases found with
      | false => rfl
      | true => exact plain_then rfl fun target => plain_then (plain_perform _) fun _ => rfl

theorem plain_checkin (pool : Nat) (connection : Connection) :
    ((Pool.checkin pool connection : Routine errands Unit).plain : Routine caller Unit) =
      Pool.checkin pool connection := by
  refine plain_then rfl fun kept => ?_
  cases kept with
  | true => rfl
  | false => exact plain_closeQuietly connection

theorem plain_withConnection (pool : Nat) (use : Connection → Routine errands α) :
    ((Pool.withConnection pool use).plain : Routine caller α) =
      Pool.withConnection pool fun connection => (use connection).plain := by
  refine plain_then (plain_checkout pool) fun connection => ?_
  refine plain_then (plain_attempt _) fun outcome => ?_
  cases outcome with
  | ok value => exact plain_then (plain_checkin pool connection) fun _ => rfl
  | error fault => exact plain_then (plain_closeQuietly connection) fun _ => rfl

/-- The body of a transaction may have its errands run on the way. -/
theorem plain_poolTransaction (pool : Nat) (body : Handle → Routine errands α) :
    ((Pool.transaction pool body).plain : Routine caller α) =
      Pool.transaction pool fun inner => (body inner).plain := by
  refine (plain_withConnection pool _).trans (congrArg _ (funext fun connection => ?_))
  refine plain_then (plain_perform _) fun _ => plain_then rfl fun scope => ?_
  refine plain_then (plain_attempt _) fun outcome => plain_then rfl fun _ => ?_
  cases outcome with
  | ok value => exact plain_then (plain_finish connection _) fun _ => rfl
  | error fault =>
      have rollsBack : ((connection.rollbackQuietly : Routine errands Unit).plain :
          Routine caller Unit) = connection.rollbackQuietly :=
        (plain_tolerate _ _).trans (congrArg _ (plain_finish connection _))
      exact plain_then rollsBack fun _ => rfl

theorem plain_handleTransaction (handle : Handle) (body : Handle → Routine errands α) :
    ((handle.transaction body).plain : Routine caller α) =
      handle.transaction fun inner => (body inner).plain := by
  cases handle with
  | pool number => exact plain_poolTransaction number body
  | scope number => rfl
  | guest number dedicated =>
      refine plain_then (plain_perform _) fun _ => plain_then rfl fun inner => ?_
      refine plain_then (plain_attempt _) fun outcome => ?_
      cases outcome with
      | ok value => exact plain_then (plain_perform _) fun _ => rfl
      | error fault => exact plain_then (plain_perform _) fun _ => rfl

theorem plain_scope (number : Nat) (work : Option (Routine errands (Outcome α)))
    (inner : Handle) :
    ((Session.scope number work inner).plain : Routine caller (Option α)) =
      Session.scope number (work.map plain) inner := by
  have leaves (outcome : Except Fault (Option α)) :
      (((Session.change number Session.leaveScope).bind fun _ => ofExcept outcome :
          Routine errands (Option α)).plain : Routine caller (Option α)) =
        (Session.change number Session.leaveScope).bind fun _ => ofExcept outcome :=
    plain_then rfl fun _ => plain_ofExcept outcome
  refine plain_then rfl fun _ => plain_then rfl fun _ => ?_
  cases work with
  | none => exact leaves _
  | some work => exact plain_then (plain_attempt work) fun _ => leaves _

/-- The work of a transaction may have its errands run on the way. -/
theorem plain_transaction (number : Nat) (work : Option (Routine errands (Outcome α))) :
    ((Session.transaction number work).plain : Routine caller (Option α)) =
      Session.transaction number (work.map plain) := by
  have requires : ((Session.requireConnection number : Routine errands Handle).plain :
      Routine caller Handle) = Session.requireConnection number := by
    refine plain_then rfl fun session => ?_
    cases session.connection <;> rfl
  refine plain_then requires fun handle => plain_then rfl fun session => ?_
  by_cases running : session.isInTransaction = true
  · simp only [running, if_true]
    rfl
  · simp only [running]
    have ends : ((handle.transaction (Session.scope number work)).plain :
        Routine caller (Option α)) =
          handle.transaction (Session.scope number (work.map plain)) :=
      (plain_handleTransaction handle _).trans
        (congrArg handle.transaction (funext (plain_scope number work)))
    refine plain_then ((plain_attempt _).trans (congrArg attempt ends)) fun outcome => ?_
    cases outcome with
    | ok value => exact plain_then rfl fun _ => rfl
    | error fault =>
        by_cases ordinary : fault.isOrdinary = true
        · simp only [ordinary, if_true]
          exact plain_then rfl fun _ => rfl
        · simp only [ordinary]
          rfl

end Routine

end Midrange
