import Midrange.Proofs.Script

/-!
# The stock of connections

Every connection that was opened is in one place at most: among the idle ones of one pool,
in use, or neither.  Checking a connection out and giving it back moves it between places, and
a connection that is in use outside of a script stays out of the pools while the script runs,
whatever the script does.
-/

namespace Midrange

variable {caller : Caller} {σ α β : Type} {world : World}

/-- The connections in use, or the idle ones of a pool. -/
def stock (used : List Connection) (world : World) : Option Nat → List Connection
  | none => used
  | some pool => (world.pools pool).idle

/-- The connections in use and those of the pools are different ones, all of them opened. -/
structure Stowed (used : List Connection) (world : World) : Prop where
  opened : ∀ place, ∀ connection ∈ stock used world place,
    connection.number ≤ world.openedCount
  distinct : ∀ place, (stock used world place).Nodup
  apart : ∀ place other connection, connection ∈ stock used world place →
    connection ∈ stock used world other → place = other

namespace Stowed

variable {used : List Connection} {connection : Connection} {pool : Nat}

theorem start : Stowed [] {} := by
  have empty (place : Option Nat) : stock [] {} place = [] := by
    cases place <;> rfl
  constructor
  · intro place connection member
    rw [empty] at member
    cases member
  · intro place
    rw [empty]
    exact List.nodup_nil
  · intro place other connection member
    rw [empty] at member
    cases member

/-- Where connections only leave their places, the others stay apart. -/
theorem leave {later : List Connection} {final : World} (stowed : Stowed used world)
    (fewer : ∀ place, (stock later final place).Sublist (stock used world place))
    (count : world.openedCount ≤ final.openedCount) : Stowed later final where
  opened := fun place connection member =>
    Nat.le_trans (stowed.opened place connection ((fewer place).subset member)) count
  distinct := fun place => (fewer place).nodup (stowed.distinct place)
  apart := fun place other connection member member' =>
    stowed.apart place other connection ((fewer place).subset member)
      ((fewer other).subset member')

theorem of_eq {final : World} (stowed : Stowed used world)
    (pools : final.pools = world.pools) (count : final.openedCount = world.openedCount) :
    Stowed used final := by
  have same (place : Option Nat) : stock used final place = stock used world place := by
    cases place with
    | none => rfl
    | some pool => rw [stock, stock, pools]
  exact stowed.leave (fun place => same place ▸ .refl _) (Nat.le_of_eq count.symm)

/-- Where one connection comes to a place and was nowhere, all stay apart. -/
theorem come {later : List Connection} {final : World} (stowed : Stowed used world)
    (opened : connection.number ≤ world.openedCount)
    (absent : ∀ place, connection ∉ stock used world place) (there : Option Nat)
    (here : stock later final there = connection :: stock used world there)
    (elsewhere : ∀ place, place ≠ there → stock later final place = stock used world place)
    (count : final.openedCount = world.openedCount) : Stowed later final := by
  have found {place : Option Nat} {other : Connection}
      (member : other ∈ stock later final place) :
      place = there ∧ other = connection ∨ other ∈ stock used world place := by
    by_cases same : place = there
    · subst same
      rw [here, List.mem_cons] at member
      exact member.imp_left fun same => ⟨rfl, same⟩
    · rw [elsewhere place same] at member
      exact .inr member
  constructor
  · intro place other member
    rw [count]
    rcases found member with ⟨-, rfl⟩ | member
    · exact opened
    · exact stowed.opened place other member
  · intro place
    by_cases same : place = there
    · rw [same, here]
      exact List.nodup_cons.mpr ⟨absent there, stowed.distinct there⟩
    · rw [elsewhere place same]
      exact stowed.distinct place
  · intro place other moved member member'
    rcases found member with ⟨rfl, rfl⟩ | member <;>
      rcases found member' with ⟨rfl, same⟩ | member'
    · rfl
    · exact (absent other member').elim
    · exact (absent place (same ▸ member)).elim
    · exact stowed.apart place other moved member member'

/-- A connection that is no longer in use. -/
theorem drop (stowed : Stowed (connection :: used) world) : Stowed used world := by
  refine stowed.leave (fun place => ?_) (Nat.le_refl _)
  cases place with
  | none => exact List.sublist_cons_self connection used
  | some pool => exact .refl _

theorem stock_changePool {used : List Connection} {world : World} {pool other : Nat}
    (change : Pool → Pool) :
    stock used (world.changePool pool change) (some other) =
      if other = pool then (change (world.pools pool)).idle else (world.pools other).idle := by
  simp only [stock, World.changePool, assign]
  split <;> rfl

/-- Nothing of a pool is idle any more, or less than before. -/
theorem shrink {change : Pool → Pool} (stowed : Stowed used world)
    (fewer : (change (world.pools pool)).idle.Sublist (world.pools pool).idle) :
    Stowed used (world.changePool pool change) := by
  refine stowed.leave (fun place => ?_) (Nat.le_refl _)
  cases place with
  | none => exact .refl _
  | some other =>
      rw [stock_changePool]
      by_cases same : other = pool
      · rw [if_pos same, same]
        exact fewer
      · rw [if_neg same]
        exact .refl _

theorem take {rest : List Connection} (stowed : Stowed used world)
    (offered : (world.pools pool).idle = connection :: rest) :
    Stowed (connection :: used)
      (world.changePool pool fun pool => { pool with idle := rest }) := by
  have member : connection ∈ stock used world (some pool) := by
    rw [stock, offered]
    exact List.mem_cons_self
  have left : Stowed used (world.changePool pool fun pool => { pool with idle := rest }) := by
    refine stowed.shrink ?_
    rw [offered]
    exact List.sublist_cons_self connection rest
  have once := stowed.distinct (some pool)
  rw [stock, offered, List.nodup_cons] at once
  refine left.come (stowed.opened _ _ member) (fun place within => ?_) none rfl
    (fun place different => ?_) rfl
  · cases place with
    | none => cases stowed.apart (some pool) none connection member within
    | some other =>
        rw [stock_changePool] at within
        split at within
        · exact once.1 within
        · rename_i different
          have same := stowed.apart _ (some other) _ member within
          exact different (Option.some.inj same).symm
  · cases place with
    | none => exact (different rfl).elim
    | some other => rfl

theorem openNew (stowed : Stowed used world) :
    Stowed (world.addConnection.1 :: used) world.addConnection.2 := by
  have grown : Stowed used world.addConnection.2 := by
    refine stowed.leave (fun place => ?_) (Nat.le_succ _)
    cases place <;> exact .refl _
  refine grown.come (Nat.le_refl _) (fun place within => ?_) none rfl
    (fun place different => ?_) rfl
  · have old : world.addConnection.1 ∈ stock used world place := by
      cases place <;> exact within
    exact Nat.not_succ_le_self _ (stowed.opened place _ old)
  · cases place with
    | none => exact (different rfl).elim
    | some other => rfl

theorem put (stowed : Stowed (connection :: used) world) :
    Stowed used
      (world.changePool pool fun pool => { pool with idle := connection :: pool.idle }) := by
  have member : connection ∈ stock (connection :: used) world none := List.mem_cons_self
  have once := stowed.distinct none
  rw [stock, List.nodup_cons] at once
  refine stowed.drop.come (stowed.opened none connection member) (fun place within => ?_)
    (some pool) ?_ (fun place different => ?_) rfl
  · cases place with
    | none => exact once.1 within
    | some other => cases stowed.apart none (some other) connection member within
  · rw [stock_changePool, if_pos rfl]
    rfl
  · cases place with
    | none => rfl
    | some other =>
        rw [stock_changePool, if_neg fun same => different (congrArg some same)]
        rfl

theorem addPool {made : Pool} (stowed : Stowed used world) (empty : made.idle = []) :
    Stowed used (world.addPool made).2 := by
  refine stowed.leave (fun place => ?_) (Nat.le_refl _)
  cases place with
  | none => exact .refl _
  | some other =>
      simp only [stock, World.addPool, assign]
      split
      · rw [empty]
        exact List.nil_sublist _
      · exact .refl _

/-- A checkout brings a connection into use that was nowhere in use. -/
theorem checkedOut {entered : World} (stowed : Stowed used world)
    (out : Pool.CheckedOut pool world connection entered) :
    Stowed (connection :: used) entered := by
  cases out with
  | idle offered => exact stowed.take offered
  | opened => exact stowed.openNew

theorem givenBack {left final : World} {served : Bool} {answer : Option (Except Fault Unit)}
    (stowed : Stowed (connection :: used) left)
    (back : Pool.GivenBack pool connection left served answer final) : Stowed used final := by
  cases back with
  | put => exact stowed.put
  | closed => exact stowed.drop

end Stowed

/-! ## Routines -/

/-- The connections in use at the start are still in use, and apart from all others. -/
def Restowed (world final : World) (_ : List (Entry caller)) : Prop :=
  ∀ used, Stowed used world → Stowed used final

instance : Routine.Path (@Restowed caller) where
  quiet := fun _ _ _ _ stowed => stowed
  trans := fun _ _ _ _ _ earlier later used stowed => later used (earlier used stowed)

/-- A routine that gives back only the connections that it takes. -/
abbrev Routine.Restows (routine : Routine caller α) : Prop :=
  routine.Follows Restowed

namespace Routine

theorem restows_atomic {act : World → α × World}
    (keeps : ∀ world used, Stowed used world → Stowed used (act world).2) :
    (atomic act : Routine caller α).Restows :=
  ⟨fun _ world _ => keeps world⟩

theorem restows_modify {change : World → World}
    (keeps : ∀ world used, Stowed used world → Stowed used (change world)) :
    (modify change : Routine caller Unit).Restows :=
  ⟨fun _ world _ => keeps world⟩

theorem restows_perform (request : Call) :
    (perform request : Routine caller request.Answer).Restows :=
  ⟨fun _ _ _ => reaches_perform request fun _ _ _ stowed => stowed⟩

theorem Speaks.restows {routine : Routine caller α} {connection : Connection}
    {post : Made → List Exchange → Except Fault α → Prop}
    (speaks : routine.Speaks connection post none []) : routine.Restows :=
  ⟨fun _ _ _ => speaks.reaches fun _ _ _ _ _ _ _ stowed => stowed⟩

end Routine

theorem Connection.perform_restows (connection : Connection) (timeout : Option Int)
    (sql : String) (bindings : Value) (verb : Verb) :
    (connection.perform timeout sql bindings verb :
      Routine caller verb.Answer).Restows := by
  have speaks : (connection.perform timeout sql bindings verb :
      Routine caller verb.Answer).Speaks connection (fun _ _ _ => True) none [] :=
    perform_speaks fun _ _ _ _ => trivial
  exact speaks.restows

namespace Pool

variable {pool : Nat}

theorem withConnection_restows {use : Connection → Routine caller α}
    (restows : ∀ connection, (use connection).Restows) :
    (withConnection pool use).Restows := by
  constructor
  intro σ outside world state
  apply withConnection_reaches
  · intro _ _ _ _ _ _ _ stowed
    exact stowed
  · intro connection entered state _ out _ _ _
    apply ((restows connection).reaches outside entered state).mono
    intro _ left _ _ kept _ final _ _ back _ _ used stowed
    exact (kept _ (stowed.checkedOut out)).givenBack back

theorem transaction_restows {body : Handle → Routine caller α}
    (restows : ∀ inner, (body inner).Restows) : (transaction pool body).Restows := by
  apply withConnection_restows
  intro connection
  apply Routine.Follows.bind (Routine.restows_perform _)
  intro _
  refine Routine.Follows.bind (Routine.restows_atomic ?_) fun scope => ?_
  · exact fun world used stowed => stowed.of_eq rfl rfl
  apply Routine.Follows.bind (.attempt (restows _))
  intro outcome
  refine Routine.Follows.bind (Routine.restows_modify ?_) fun _ => ?_
  · exact fun world used stowed => stowed.of_eq rfl rfl
  have finishes (request : DriverCall) : (connection.finish request :
      Routine caller Unit).Restows :=
    Routine.Follows.bind (.attempt (Routine.restows_perform _)) fun _ =>
      .bind (Routine.restows_perform _) fun _ => .remarks (.ofExcept _)
  cases outcome with
  | ok value => exact .bind (finishes _) fun _ => .remarks (.done _)
  | error fault =>
      exact .bind (Connection.tolerate_follows (finishes _)) fun _ => .remarks (.fail _)

end Pool

namespace Handle

theorem perform_restows (handle : Handle) (verb : Verb) (sql : String) (bindings : Value) :
    (handle.perform verb sql bindings : Routine caller verb.Answer).Restows := by
  cases handle with
  | pool number =>
      apply Pool.withConnection_restows
      intro connection
      apply Routine.Follows.bind (.remarks (.look _))
      intro timeout
      exact connection.perform_restows timeout sql bindings verb
  | scope number =>
      apply Routine.Follows.bind (.remarks (.look _))
      intro scope
      by_cases active : scope.active = true
      · rw [if_pos active]
        exact scope.connection.perform_restows scope.timeout sql bindings verb
      · rw [if_neg active]
        exact .remarks (.fail _)
  | guest number dedicated =>
      exact Routine.restows_perform (.guest number dedicated (.perform verb sql bindings))

theorem transaction_restows {handle : Handle} {body : Handle → Routine caller α}
    (restows : ∀ inner, (body inner).Restows) : (handle.transaction body).Restows := by
  cases handle with
  | pool number => exact Pool.transaction_restows restows
  | scope number => exact .remarks (.fail _)
  | guest number dedicated =>
      apply Routine.Follows.bind (Routine.restows_perform (.guest number dedicated .begin))
      intro _
      refine Routine.Follows.bind (Routine.restows_atomic ?_) fun inner => ?_
      · exact fun world used stowed => stowed.of_eq rfl rfl
      apply Routine.Follows.bind (.attempt (restows _))
      intro outcome
      cases outcome with
      | ok value => exact .bind (Routine.restows_perform _) fun _ => .remarks (.done _)
      | error fault => exact .bind (Routine.restows_perform _) fun _ => .remarks (.fail _)

end Handle

theorem Pool.idle_ofOptions {options : Fields Value} {pool : Pool}
    (made : Pool.ofOptions options = .ok pool) : pool.idle = [] := by
  rw [Pool.ofOptions] at made
  cases read : Options.queryTimeout options with
  | error fault =>
      rw [read] at made
      cases made
  | ok timeout =>
      rw [read] at made
      cases made
      rfl

namespace Registry

theorem make_restows (number : Nat) (options : Fields Value) :
    (make number options : Routine caller Handle).Restows := by
  apply Routine.Follows.bind (.remarks (.look _))
  intro factory
  cases factory with
  | driver =>
      cases made : Pool.ofOptions options with
      | error fault => exact .remarks (.fail fault)
      | ok pool =>
          have added : (Routine.atomic (World.addPool · pool) : Routine caller Nat).Restows :=
            Routine.restows_atomic fun world used stowed =>
              stowed.addPool (Pool.idle_ofOptions made)
          exact added.bind fun _ => .remarks (.done _)
  | guest =>
      apply Routine.Follows.bind (Routine.restows_perform (.makeGuest options))
      intro _
      refine Routine.Follows.bind (Routine.restows_atomic ?_) fun _ => .remarks (.done _)
      exact fun world used stowed => stowed.of_eq rfl rfl

theorem acquire_restows (number : Nat) (dsn : String) (options : Fields Value) :
    (acquire number dsn options : Routine caller Handle).Restows := by
  apply Routine.Follows.bind (.remarks (.look _))
  intro found
  cases found with
  | some handle => exact .remarks (.bind (.report _) fun _ => .done handle)
  | none =>
      apply Routine.Follows.bind (make_restows number options)
      intro handle
      refine Routine.Follows.bind (Routine.restows_modify ?_) fun _ => ?_
      · exact fun world used stowed => stowed.of_eq rfl rfl
      · exact .remarks (.bind (.report _) fun _ => .done handle)

end Registry

namespace Session

variable {number : Nat}

theorem Commands.restows {allows : World → Handle → Prop} {routine : Routine caller α}
    (commands : Commands allows routine) : routine.Restows := by
  constructor
  intro σ outside world state
  apply commands.reaches
  · exact fun _ _ _ _ stowed => stowed
  · intro handle verb sql bindings _
    apply ((handle.perform_restows verb sql bindings).reaches outside world state).mono
    intro _ final _ _ kept _ _ _ _ _
    exact kept

theorem change_restows (number : Nat) (update : Session → Session) :
    (change number update : Routine caller Unit).Restows :=
  Routine.restows_modify fun _ _ stowed => stowed.of_eq rfl rfl

theorem connect_restows (dsn : Option String) (target : Target) :
    (connect number dsn target : Routine caller Unit).Restows := by
  apply Routine.Follows.bind (.remarks (.look _))
  intro session
  by_cases running : session.isInTransaction = true
  · simp only [running, if_true]
    exact .remarks (.fail _)
  · simp only [running]
    apply Routine.Follows.bind (.attempt (Registry.acquire_restows _ _ _))
    intro outcome
    cases outcome with
    | ok handle =>
        exact .bind (change_restows number _) fun _ => .remarks (report_remarks number _)
    | error fault =>
        by_cases ordinary : fault.isOrdinary = true
        · simp only [ordinary, if_true]
          exact .remarks (.bind (.report _) fun _ => .fail _)
        · simp only [ordinary]
          exact .remarks (.fail _)

theorem close_restows : (close number : Routine caller Unit).Restows := by
  constructor
  intro σ outside world state
  apply close_reaches
  · exact fun _ _ _ stowed => stowed
  · exact fun _ _ _ stowed => stowed.of_eq rfl rfl

theorem transaction_restows {work : Option (Routine caller (Outcome α))}
    (restows : ∀ routine, work = some routine → routine.Restows) :
    (transaction number work).Restows := by
  have restowsValue := workValue_follows restows
  constructor
  intro σ outside world state
  apply transaction_reaches
  · exact fun _ _ _ stowed => stowed
  intro handle _ _
  have body (inner : Handle) : (scope number work inner).Restows := by
    constructor
    intro σ outside world state
    apply scope_reaches
    intro started _
    apply (restowsValue.reaches outside _ state).mono
    intro _ left _ _ kept used stowed
    have entered : Stowed used (world.changeSession number (enterScope inner)) :=
      stowed.of_eq rfl rfl
    exact (kept used entered).of_eq rfl rfl
  apply ((Handle.transaction_restows body).reaches outside world state).mono
  intro _ final _ _ kept _ _
  exact kept

end Session

/-- Every script gives back only the connections that it takes. -/
theorem Script.routine_restows (number : Nat) (script : Script α) :
    (script.routine number).Restows := by
  induction script with
  | done value => exact .remarks (.done value)
  | fail fault => exact .remarks (.fail fault)
  | bind first second before after => exact .bind before after
  | attempt body restows => exact .attempt restows
  | connect dsn target => exact Session.connect_restows dsn target
  | close =>
      apply Routine.Follows.bind ⟨fun _ _ _ => Routine.reaches_ask.mpr fun _ stowed => stowed⟩
      intro _
      exact Session.close_restows
  | dispatch command sql bindings =>
      exact (Session.dispatch_commands number command sql bindings).restows
  | execute sql bindings => exact (Session.execute_commands number sql bindings).restows
  | createTable table => exact (Session.createTable_commands number table).restows
  | select query bindings => exact (Session.select_commands number query bindings).restows
  | transaction work restows =>
      apply Session.transaction_restows
      rintro _ ⟨⟩
      exact restows
  | emptyTransaction => exact Session.transaction_restows (by simp)
  | commit | rollback => exact .remarks (.fail _)

end Midrange
