import Midrange.Proofs.Secrecy.Routine
import Midrange.Session

/-!
# Sessions in two runs

What pools, handles, registries and sessions do for paired targets is alike.
-/

namespace Midrange

variable {caller : Caller} {α : Type} {pairing : Pairing}

/-! ## Pools -/

namespace Connection

variable (connection : Connection)

theorem perform_alike (timeout : Option Int) (sql : String) (bindings : Value) (verb : Verb) :
    (connection.perform timeout sql bindings verb : Routine caller verb.Answer).Alike pairing
      (connection.perform timeout sql bindings verb) := by
  have speaks : (connection.perform timeout sql bindings verb :
      Routine caller verb.Answer).Speaks connection (fun _ _ _ => True) none [] :=
    perform_speaks fun _ _ _ _ => trivial
  exact speaks.alike

theorem commit_alike :
    (connection.commit : Routine caller Unit).Alike pairing connection.commit := by
  have speaks : (connection.commit : Routine caller Unit).Speaks connection
      (fun _ _ _ => True) none [] :=
    commit_speaks fun _ _ => trivial
  exact speaks.alike

theorem rollbackQuietly_alike :
    (connection.rollbackQuietly : Routine caller Unit).Alike pairing
      connection.rollbackQuietly := by
  have speaks : (connection.rollback : Routine caller Unit).Speaks connection
      (fun _ _ _ => True) none [] :=
    rollback_speaks fun _ _ => trivial
  exact .tolerate _ speaks.alike

theorem closeQuietly_alike :
    (connection.closeQuietly : Routine caller Unit).Alike pairing connection.closeQuietly :=
  .tolerate _ (.perform rfl)

end Connection

namespace Pool

theorem Alike.takeIdle {left right : World} (worlds : left.Alike pairing right) (pool : Nat) :
    Agree (World.Alike pairing) (takeIdle pool left) (takeIdle pool right) := by
  have same := worlds.pool pool
  simp only [Pool.takeIdle, ← same.closed, ← same.idle]
  cases (left.pools pool).closed with
  | true => exact ⟨rfl, worlds⟩
  | false =>
      cases (left.pools pool).idle with
      | nil => exact ⟨rfl, worlds⟩
      | cons connection idle =>
          constructor
          · rfl
          · apply worlds.changePool pool fun pool => { pool with idle }
            exact ⟨same.target, same.timeout, same.maxIdle, rfl, same.closed⟩

theorem Alike.putIdle {left right : World} (worlds : left.Alike pairing right) (pool : Nat)
    (connection : Connection) :
    Agree (World.Alike pairing) (putIdle pool connection left)
      (putIdle pool connection right) := by
  have same := worlds.pool pool
  simp only [Pool.putIdle, ← same.closed, ← same.idle, ← same.maxIdle]
  split
  · constructor
    · rfl
    · apply worlds.changePool pool fun pool => { pool with idle := connection :: pool.idle }
      have idle := congrArg (connection :: ·) same.idle
      exact ⟨same.target, same.timeout, same.maxIdle, idle, same.closed⟩
  · exact ⟨rfl, worlds⟩

theorem Alike.shut {left right : World} (worlds : left.Alike pairing right) (pool : Nat) :
    Agree (World.Alike pairing) (shut pool left) (shut pool right) := by
  have same := worlds.pool pool
  constructor
  · exact congrArg List.reverse same.idle
  · apply worlds.changePool pool fun pool => { pool with idle := [], closed := true }
    exact ⟨same.target, same.timeout, same.maxIdle, rfl, rfl⟩

variable (pool : Nat)

/-- A connection is opened with the secrets of each run. -/
theorem openConnection_alike :
    (openConnection pool : Routine caller Connection).Alike pairing (openConnection pool) := by
  refine .bind (.perform rfl) fun found => ?_
  cases found with
  | false => exact .fail _
  | true =>
      apply Routine.Alike.step (fun _ _ worlds => worlds)
      intro left right worlds
      apply Routine.Alike.connect (worlds.pool pool).target
      intro answer
      exact .bind (.ofExcept answer) fun _ => .atomic_apart fun _ _ => rfl

theorem checkout_alike :
    (checkout pool : Routine caller Connection).Alike pairing (checkout pool) := by
  refine .bind (.atomic fun _ _ worlds => Alike.takeIdle worlds pool) fun offer => ?_
  cases offer with
  | closed => exact .fail _
  | idle connection => exact .done connection
  | none => exact openConnection_alike pool

theorem checkin_alike (connection : Connection) :
    (checkin pool connection : Routine caller Unit).Alike pairing (checkin pool connection) := by
  refine .bind (.atomic fun _ _ worlds => Alike.putIdle worlds pool connection) fun kept => ?_
  exact .choose (.done ()) connection.closeQuietly_alike

theorem withConnection_alike {use use' : Connection → Routine caller α}
    (uses : ∀ connection, (use connection).Alike pairing (use' connection)) :
    (withConnection pool use).Alike pairing (withConnection pool use') := by
  refine .bind (checkout_alike pool) fun connection => ?_
  refine .bind (uses connection).attempt fun outcome => ?_
  cases outcome with
  | ok value => exact .bind (checkin_alike pool connection) fun _ => .done value
  | error fault => exact .bind connection.closeQuietly_alike fun _ => .fail fault

theorem perform_alike (verb : Verb) (sql : String) (bindings : Value) :
    (perform pool verb sql bindings : Routine caller verb.Answer).Alike pairing
      (perform pool verb sql bindings) := by
  apply withConnection_alike
  intro connection
  refine .bind (.look fun _ _ worlds => (worlds.pool pool).timeout) fun timeout => ?_
  exact connection.perform_alike timeout sql bindings verb

theorem transaction_alike {body body' : Handle → Routine caller α}
    (bodies : ∀ inner, (body inner).Alike pairing (body' inner)) :
    (transaction pool body).Alike pairing (transaction pool body') := by
  apply withConnection_alike
  intro connection
  refine .bind (.perform rfl) fun _ => ?_
  refine .bind ?_ fun scope => .bind (bodies _).attempt fun outcome => ?_
  · apply Routine.Alike.atomic
    intro left right worlds
    rw [(worlds.pool pool).timeout]
    constructor
    · apply worlds.read_eq
      intro _ _
      rfl
    · apply worlds.change
      intro _ _
      rfl
  · refine .bind ?_ fun _ => ?_
    · exact .modify_apart fun _ _ => rfl
    · cases outcome with
      | ok value => exact .bind connection.commit_alike fun _ => .done value
      | error fault => exact .bind connection.rollbackQuietly_alike fun _ => .fail fault

theorem close_alike : (close pool : Routine caller Unit).Alike pairing (close pool) := by
  refine .bind (.atomic fun _ _ worlds => Alike.shut worlds pool) fun idle => ?_
  exact .forM Connection.closeQuietly_alike

end Pool

/-! ## Handles -/

namespace Handle

theorem perform_alike (handle : Handle) (verb : Verb) (sql : String) (bindings : Value) :
    (handle.perform verb sql bindings : Routine caller verb.Answer).Alike pairing
      (handle.perform verb sql bindings) := by
  cases handle with
  | pool number => exact Pool.perform_alike number verb sql bindings
  | scope number =>
      refine .bind (.look_apart fun _ _ => rfl) fun scope => ?_
      exact .choose (scope.connection.perform_alike _ sql bindings verb) (.fail _)
  | guest number dedicated => exact .perform rfl

theorem guestTransaction_alike (number : Nat) (dedicated : Bool)
    {body body' : Handle → Routine caller α}
    (bodies : ∀ inner, (body inner).Alike pairing (body' inner)) :
    (guestTransaction number dedicated body).Alike pairing
      (guestTransaction number dedicated body') := by
  refine .bind (.perform rfl) fun _ => .bind (.atomic_apart fun _ _ => rfl) fun inner => ?_
  refine .bind (bodies _).attempt fun outcome => ?_
  cases outcome with
  | ok value => exact .bind (.perform rfl) fun _ => .done value
  | error fault => exact .bind (.perform rfl) fun _ => .fail fault

theorem transaction_alike (handle : Handle) {body body' : Handle → Routine caller α}
    (bodies : ∀ inner, (body inner).Alike pairing (body' inner)) :
    (handle.transaction body).Alike pairing (handle.transaction body') := by
  cases handle with
  | pool number => exact Pool.transaction_alike number bodies
  | scope number => exact .fail _
  | guest number dedicated => exact guestTransaction_alike number dedicated bodies

theorem close_alike (handle : Handle) :
    (handle.close : Routine caller Unit).Alike pairing handle.close := by
  cases handle with
  | pool number => exact Pool.close_alike number
  | scope number => exact .done ()
  | guest number dedicated => exact .perform rfl

end Handle

/-! ## Registries -/

namespace Registry

variable (number : Nat) {left right : Target}

/-- The pools that are made of paired targets differ in their secrets alone. -/
theorem make_alike (paired : pairing.Pairs left right) :
    (make number left.options : Routine caller Handle).Alike pairing
      (make number right.options) := by
  refine .bind (.look_apart fun _ _ => rfl) fun factory => ?_
  cases factory with
  | guest =>
      refine .makeGuest paired fun answer => .bind (.ofExcept answer) fun _ => ?_
      exact .bind (.atomic_apart fun _ _ => rfl) fun guest => .done _
  | driver =>
      simp only [Pool.ofOptions, ← Pairing.queryTimeout_eq paired]
      cases Options.queryTimeout left.options with
      | error fault => exact .fail fault
      | ok timeout =>
          let pool (target : Target) : Pool :=
            { target := Options.connectionString target.options, timeout }
          have made : (pool left).Alike pairing (pool right) :=
            ⟨.paired paired, rfl, rfl, rfl, rfl⟩
          have adds : (Routine.atomic (World.addPool · (pool left)) :
              Routine caller Nat).Alike pairing
                (Routine.atomic (World.addPool · (pool right))) := by
            apply Routine.Alike.atomic
            intro left right worlds
            constructor
            · apply worlds.read_eq
              intro _ _
              rfl
            · exact worlds.addPool made
          exact adds.bind fun number => .done (Handle.pool number)

/-- What is reported of a new handle tells the same of paired targets. -/
theorem acquire_alike (dsn : String) (paired : pairing.Pairs left right) :
    (acquire number dsn left.options : Routine caller Handle).Alike pairing
      (acquire number dsn right.options) := by
  refine .bind (.look_apart fun _ _ => rfl) fun found => ?_
  cases found with
  | some handle => exact .bind (.report _) fun _ => .done handle
  | none =>
      refine .bind (make_alike number paired) fun handle => ?_
      refine .bind (.modify_apart fun _ _ => rfl) fun _ => ?_
      rw [Pairing.redact_eq paired]
      exact .bind (.report _) fun _ => .done handle

theorem tearDown_alike :
    (tearDown number : Routine caller Unit).Alike pairing (tearDown number) := by
  refine .bind (.atomic_apart fun _ _ => rfl) fun entries => .bind ?_ fun _ => .report _
  exact .forM fun entry => .tolerate _ entry.2.close_alike

end Registry

/-! ## Sessions -/

namespace Session

variable (number : Nat)

theorem get_alike : (get number : Routine caller Session).Alike pairing (get number) :=
  .look_apart fun _ _ => rfl

theorem change_alike (update : Session → Session) :
    (change number update : Routine caller Unit).Alike pairing (change number update) :=
  .modify_apart fun _ _ => rfl

theorem report_alike (event : SessionEvent) :
    (report number event : Routine caller Unit).Alike pairing (report number event) :=
  .bind (get_alike number) fun _ => .report _

theorem connect_alike (dsn : Option String) {left right : Target}
    (paired : pairing.Pairs left right) :
    (connect number dsn left : Routine caller Unit).Alike pairing
      (connect number dsn right) := by
  have source : chooseSource dsn left = chooseSource dsn right := by
    simp only [chooseSource, Pairing.identity_eq paired]
  refine .bind (get_alike number) fun session => .choose (.fail _) ?_
  rw [source]
  refine .bind (Registry.acquire_alike _ _ paired).attempt fun outcome => ?_
  cases outcome with
  | ok handle => exact .bind (change_alike number _) fun _ => report_alike number _
  | error fault => exact .choose (.bind (.report _) fun _ => .fail _) (.fail fault)

theorem close_alike : (close number : Routine caller Unit).Alike pairing (close number) := by
  refine .bind (get_alike number) fun session => .choose (.done ()) ?_
  exact .bind (change_alike number _) fun _ => report_alike number _

theorem requireConnection_alike :
    (requireConnection number : Routine caller Handle).Alike pairing
      (requireConnection number) := by
  refine .bind (get_alike number) fun session => ?_
  cases session.connection with
  | some handle => exact .done handle
  | none => exact .fail _

theorem performVerb_alike (handle : Handle) (command : String) (verb : Verb) (sql : String)
    (parameters : List Value) :
    (performVerb number handle command verb sql parameters :
        Routine caller verb.Answer).Alike pairing
      (performVerb number handle command verb sql parameters) := by
  refine .bind (handle.perform_alike verb sql _).attempt fun outcome => ?_
  cases outcome with
  | ok answer => exact .done answer
  | error fault =>
      refine .choose (.bind (report_alike number _) fun _ => ?_) (.fail fault)
      exact .bind (get_alike number) fun _ => .fail _

theorem dispatch_alike (command : Command) (sql : String) (bindings : Value) :
    (dispatch number command sql bindings : Routine caller QueryResult).Alike pairing
      (dispatch number command sql bindings) := by
  refine .bind (requireConnection_alike number) fun handle => ?_
  refine .bind (.ofExcept _) fun parameters => ?_
  cases command with
  | select | insert | update | delete | other =>
      exact .bind (performVerb_alike number handle _ _ sql parameters) fun _ => .done _

theorem execute_alike (sql : String) (bindings : Value) :
    (execute number sql bindings : Routine caller Unit).Alike pairing
      (execute number sql bindings) := by
  refine .bind (requireConnection_alike number) fun handle => ?_
  refine .bind (.ofExcept _) fun parameters => ?_
  exact performVerb_alike number handle _ _ sql parameters

theorem createTable_alike (table : Table) :
    (createTable number table : Routine caller String).Alike pairing
      (createTable number table) := by
  refine .bind (.ofExcept _) fun sql => .bind (.report _) fun _ => ?_
  exact .bind (execute_alike number sql _) fun _ => .done _

theorem select_alike (query : Select) (bindings : Value) :
    (select number query bindings : Routine caller (List Row)).Alike pairing
      (select number query bindings) := by
  refine .bind (.ofExcept _) fun sql => .bind (.report _) fun _ => ?_
  exact .bind (dispatch_alike number _ sql bindings) fun _ => .done _

/-- Two works for a transaction that are alike, or none in either run. -/
inductive Works (pairing : Pairing) :
    Option (Routine caller (Outcome α)) → Option (Routine caller (Outcome α)) → Prop where
  | none : Works pairing none none
  | some {work work' : Routine caller (Outcome α)} : work.Alike pairing work' →
      Works pairing (some work) (some work')

variable {work work' : Option (Routine caller (Outcome α))}

theorem scope_alike (works : Works pairing work work') (inner : Handle) :
    (scope number work inner).Alike pairing (scope number work' inner) := by
  have leaves (outcome : Except Fault (Option α)) :
      ((change number leaveScope).bind fun _ => Routine.ofExcept outcome :
        Routine caller (Option α)).Alike pairing
      ((change number leaveScope).bind fun _ => Routine.ofExcept outcome) :=
    .bind (change_alike number _) fun _ => .ofExcept outcome
  refine .bind (change_alike number _) fun _ => .bind (report_alike number _) fun _ => ?_
  cases works with
  | none => exact leaves _
  | some alike => exact .bind alike.attempt fun _ => leaves _

theorem transaction_alike (works : Works pairing work work') :
    (transaction number work).Alike pairing (transaction number work') := by
  refine .bind (requireConnection_alike number) fun handle => ?_
  refine .bind (get_alike number) fun session => .choose (.fail _) ?_
  refine .bind (handle.transaction_alike (scope_alike number works)).attempt fun outcome => ?_
  cases outcome with
  | ok value => exact .bind (report_alike number _) fun _ => .done value
  | error fault =>
      by_cases ordinary : fault.isOrdinary = true
      · simp only [ordinary, if_true]
        exact .bind (report_alike number _) fun _ => .fail fault
      · simp only [ordinary]
        exact .fail fault

end Session

end Midrange
