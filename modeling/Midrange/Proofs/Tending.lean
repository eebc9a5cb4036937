import Midrange.Proofs.Crew
import Midrange.Proofs.Exchange

/-!
# Routines that tend

Most of what a program does leaves sessions and registries alone, shuts no pool, makes
no pool and asks no guest to close.  The verbs of handles and the commands of sessions
that run them are of this kind, and so is everything in a pool but shutting it.
-/

namespace Midrange

variable {caller : Caller} {α β : Type}

/-- Sessions, registries and what is shut stay as they are; there may be more guests. -/
structure World.Tends (before after : World) : Prop where
  sessions : after.sessions = before.sessions
  registries : after.registries = before.registries
  closed : ∀ pool, (after.pools pool).closed = (before.pools pool).closed
  poolCount : after.poolCount = before.poolCount
  guestCount : before.guestCount ≤ after.guestCount

namespace World

theorem Tends.refl (world : World) : world.Tends world :=
  ⟨rfl, rfl, fun _ => rfl, rfl, Nat.le_refl _⟩

theorem tends_changePool (world : World) (pool : Nat) {change : Pool → Pool}
    (same : ∀ pool, (change pool).closed = pool.closed) :
    world.Tends (world.changePool pool change) := by
  refine ⟨rfl, rfl, fun other => ?_, rfl, Nat.le_refl _⟩
  by_cases here : other = pool
  · simp [changePool, here, same]
  · simp [changePool, assign_of_ne _ _ here]

end World

namespace Routine

/-- Does nothing but tend, and asks nothing of its caller. -/
def Tends : Routine caller α → Prop
  | .done _ | .fail _ => True
  | .step update next => ∀ world, world.Tends (update world) ∧ (next world).Tends
  | .emit _ next => next.Tends
  | .call request next => Crew.dismissed? request = none ∧ ∀ answer, (next answer).Tends
  | .aside .. => False

namespace Tends

theorem bind {first : Routine caller β} {second : β → Routine caller α}
    (before : first.Tends) (after : ∀ value, (second value).Tends) :
    (first.bind second).Tends := by
  induction first with
  | done value => exact after value
  | fail => trivial
  | step update next induction =>
      exact fun world => ⟨(before world).1, induction world (before world).2⟩
  | emit event next induction => exact induction before
  | call request next induction =>
      exact ⟨before.1, fun answer => induction answer (before.2 answer)⟩
  | aside => exact before.elim

theorem attempt {routine : Routine caller α} (tends : routine.Tends) :
    routine.attempt.Tends := by
  induction routine with
  | done | fail => trivial
  | step update next induction =>
      exact fun world => ⟨(tends world).1, induction world (tends world).2⟩
  | emit event next induction => exact induction tends
  | call request next induction =>
      exact ⟨tends.1, fun answer => induction answer (tends.2 answer)⟩
  | aside => exact tends.elim

theorem ofExcept (outcome : Except Fault α) :
    (Routine.ofExcept outcome : Routine caller α).Tends := by
  cases outcome <;> trivial

theorem look (read : World → α) : (Routine.look read : Routine caller α).Tends :=
  fun world => ⟨.refl world, trivial⟩

theorem atomic {act : World → α × World}
    (tends : ∀ world : World, world.Tends (act world).2) :
    (Routine.atomic act : Routine caller α).Tends :=
  fun world => ⟨tends world, trivial⟩

theorem modify {change : World → World} (tends : ∀ world : World, world.Tends (change world)) :
    (Routine.modify change : Routine caller Unit).Tends :=
  fun world => ⟨tends world, trivial⟩

theorem report (event : Event) : (Routine.report event : Routine caller Unit).Tends :=
  trivial

theorem perform {request : Call} (stays : Crew.dismissed? request = none) :
    (Routine.perform request : Routine caller request.Answer).Tends :=
  ⟨stays, ofExcept⟩

theorem drive (request : DriverCall) :
    (Routine.drive request : Routine caller request.Answer).Tends :=
  perform rfl

theorem of_speaks {connection : Connection} {routine : Routine caller α}
    {post : Made → List Exchange → Except Fault α → Prop} {made : Made}
    {past : List Exchange} (speaks : routine.Speaks connection post made past) :
    routine.Tends := by
  induction routine generalizing made past with
  | done | fail => trivial
  | step | emit | aside => exact speaks.elim
  | call request next induction =>
      cases request with
      | makeGuest | guest => exact speaks.elim
      | driver asked => exact ⟨rfl, fun answer => induction answer (speaks.2.2 answer)⟩

theorem tolerate (event : String → Event) {routine : Routine caller Unit}
    (tends : routine.Tends) : (Connection.tolerate event routine).Tends := by
  refine .bind tends.attempt fun outcome => ?_
  cases outcome with
  | ok => trivial
  | error fault =>
      by_cases ordinary : fault.isOrdinary = true
      · simp only [ordinary, if_true]
        trivial
      · simp only [ordinary]
        trivial

theorem forM {items : List β} {body : β → Routine caller PUnit}
    (tends : ∀ item, (body item).Tends) : (items.forM body).Tends := by
  induction items with
  | nil => trivial
  | cons item items induction => exact .bind (tends item) fun _ => induction

end Tends

end Routine

/-! ## Pools and handles -/

namespace Connection

variable (connection : Connection)

theorem closeQuietly_tends : (connection.closeQuietly : Routine caller Unit).Tends :=
  .tolerate _ (.drive _)

theorem commit_tends : (connection.commit : Routine caller Unit).Tends := by
  have speaks : (connection.commit : Routine caller Unit).Speaks connection
      (fun _ _ _ => True) none [] := commit_speaks fun _ _ => trivial
  exact .of_speaks speaks

theorem rollbackQuietly_tends :
    (connection.rollbackQuietly : Routine caller Unit).Tends := by
  have speaks : (connection.rollback : Routine caller Unit).Speaks connection
      (fun _ _ _ => True) none [] := rollback_speaks fun _ _ => trivial
  exact .tolerate _ (.of_speaks speaks)

theorem perform_tends (timeout : Option Int) (sql : String) (bindings : Value)
    (verb : Verb) :
    (connection.perform timeout sql bindings verb : Routine caller verb.Answer).Tends := by
  have speaks : (connection.perform timeout sql bindings verb :
      Routine caller verb.Answer).Speaks connection (fun _ _ _ => True) none [] :=
    perform_speaks fun _ _ _ _ => trivial
  exact .of_speaks speaks

end Connection

namespace Pool

theorem checkout_tends (pool : Nat) :
    (checkout pool : Routine caller Connection).Tends := by
  have opens : (openConnection pool : Routine caller Connection).Tends := by
    refine .bind (.drive _) fun located => ?_
    cases located with
    | false => trivial
    | true =>
        refine .bind (.look _) fun target => .bind (.drive _) fun _ => .atomic fun world => ?_
        exact ⟨rfl, rfl, fun _ => rfl, rfl, Nat.le_refl _⟩
  refine .bind (.atomic fun world => ?_) fun offer => ?_
  · simp only [takeIdle]
    split
    · exact .refl world
    · split
      · exact .refl world
      · dsimp only
        exact world.tends_changePool pool fun _ => rfl
  · cases offer with
    | closed | idle => trivial
    | none => exact opens

theorem checkin_tends (pool : Nat) (connection : Connection) :
    (checkin pool connection : Routine caller Unit).Tends := by
  refine .bind (.atomic fun world => ?_) fun stored => ?_
  · simp only [putIdle]
    split
    · dsimp only
      exact world.tends_changePool pool fun _ => rfl
    · exact .refl world
  · cases stored with
    | true => trivial
    | false => exact connection.closeQuietly_tends

theorem withConnection_tends {pool : Nat} {use : Connection → Routine caller α}
    (tends : ∀ connection, (use connection).Tends) : (withConnection pool use).Tends := by
  refine .bind (checkout_tends pool) fun connection => ?_
  refine .bind (tends connection).attempt fun outcome => ?_
  cases outcome with
  | ok value => exact .bind (checkin_tends pool connection) fun _ => trivial
  | error fault => exact .bind connection.closeQuietly_tends fun _ => trivial

end Pool

theorem Handle.perform_tends (handle : Handle) (verb : Verb) (sql : String)
    (bindings : Value) : (handle.perform verb sql bindings : Routine caller verb.Answer).Tends := by
  cases handle with
  | pool number =>
      apply Pool.withConnection_tends
      intro connection
      exact .bind (.look _) fun timeout => connection.perform_tends timeout sql bindings verb
  | scope number =>
      refine .bind (.look _) fun scope => ?_
      by_cases active : scope.active = true
      · rw [if_pos active]
        exact scope.connection.perform_tends scope.timeout sql bindings verb
      · rw [if_neg active]
        trivial
  | guest number dedicated => exact .perform rfl

/-! ## Commands of sessions -/

namespace Session

variable (number : Nat)

theorem report_tends (event : SessionEvent) :
    (report number event : Routine caller Unit).Tends :=
  .bind (.look _) fun _ => .report _

theorem requireConnection_tends :
    (requireConnection number : Routine caller Handle).Tends := by
  refine .bind (.look _) fun session => ?_
  cases session.connection <;> trivial

theorem performVerb_tends (handle : Handle) (command : String) (verb : Verb)
    (sql : String) (parameters : List Value) :
    (performVerb number handle command verb sql parameters :
      Routine caller verb.Answer).Tends := by
  refine .bind (handle.perform_tends _ _ _).attempt fun outcome => ?_
  cases outcome with
  | ok answer => trivial
  | error fault =>
      by_cases ordinary : fault.isOrdinary = true
      · simp only [ordinary, if_true]
        exact .bind (report_tends number _) fun _ => .bind (.look _) fun _ => trivial
      · simp only [ordinary]
        trivial

theorem dispatch_tends (command : Command) (sql : String) (bindings : Value) :
    (dispatch number command sql bindings : Routine caller QueryResult).Tends := by
  refine .bind (requireConnection_tends number) fun handle => ?_
  refine .bind (.ofExcept _) fun parameters => ?_
  cases command with
  | insert | update | delete | select | other =>
      exact .bind (performVerb_tends number handle _ _ sql parameters) fun _ => trivial

theorem execute_tends (sql : String) (bindings : Value) :
    (execute number sql bindings : Routine caller Unit).Tends :=
  .bind (requireConnection_tends number) fun handle =>
    .bind (.ofExcept _) fun parameters => performVerb_tends number handle _ _ sql parameters

theorem createTable_tends (table : Table) :
    (createTable number table : Routine caller String).Tends :=
  .bind (.ofExcept _) fun sql => .bind (.report _) fun _ =>
    .bind (execute_tends number sql _) fun _ => trivial

theorem select_tends (query : Select) (bindings : Value) :
    (select number query bindings : Routine caller (List Row)).Tends :=
  .bind (.ofExcept _) fun sql => .bind (.report _) fun _ =>
    .bind (dispatch_tends number .select sql bindings) fun _ => trivial

end Session

end Midrange
