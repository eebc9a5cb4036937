import Midrange.Proofs.Traffic.Client

/-!
# Idle connections

Every connection that a task uses or a pool has idle has a keeper, and only one.  With
what the tasks have in charge this accounts for the controls of each connection: whole
rounds, and then those of its use.  So an idle connection is clean in every run, and a
verb of a pool is at a connection in automatic commit.
-/

namespace Midrange

/-- The exchanges on a connection that control its transactions. -/
def controlsOn (connection : Connection) (record : List Observed) : List Exchange :=
  (saidOn connection record).filter Exchange.isControl

theorem controlsOn_append (connection : Connection) (record : List Observed)
    (observed : Observed) :
    controlsOn connection (record ++ [observed]) =
      if observed.said.call.controlled? = some connection then
        controlsOn connection record ++ [observed.said]
      else controlsOn connection record := by
  by_cases controls : observed.said.call.controlled? = some connection
  · have here : observed.connection? = some connection :=
      DriverCall.connection?_of_controlled controls observed.made
    simp [controlsOn, saidOn, here, controls, Exchange.isControl]
  · rw [if_neg controls]
    by_cases here : observed.connection? = some connection
    · have quiet : observed.said.isControl = false := by
        rw [Exchange.isControl, Option.isSome_eq_false_iff, Option.isNone_iff_eq_none]
        by_contra other
        obtain ⟨other, found⟩ := Option.ne_none_iff_exists'.mp other
        have there := DriverCall.connection?_of_controlled found observed.made
        exact controls (found.trans (there.symm.trans here))
      simp [controlsOn, saidOn, here, quiet]
    · simp [controlsOn, saidOn, here]

theorem idle_changePool (world : World) (number other : Nat) (change : Pool → Pool) :
    Fleet.idle other (world.changePool number change) =
      if other = number then (change (world.pools number)).idle
      else Fleet.idle other world := by
  simp only [Fleet.idle, World.changePool, assign]
  split <;> rfl

/-- Who has a connection. -/
inductive Keeper where
  | pool (number : Nat)
  | task (number : Nat)

/-- Whoever has a connection has it alone, and its controls so far are whole rounds,
with those of its use after them. -/
structure Kept (world : World) (record : List Observed)
    (keeper : Connection → Option Keeper)
    (uses : Nat → Connection → Option (List Exchange)) : Prop where
  idle : ∀ number, ∀ connection ∈ Fleet.idle number world,
    keeper connection = some (.pool number) ∧
      Rounds connection (controlsOn connection record)
  once : ∀ number, (Fleet.idle number world).Nodup
  used : ∀ task connection said, uses task connection = some said →
    keeper connection = some (.task task) ∧
      ∃ rounds, Rounds connection rounds ∧
        controlsOn connection record = rounds ++ said
  fresh : ∀ connection, world.openedCount < connection.number →
    keeper connection = none ∧ controlsOn connection record = []

namespace Kept

variable {world after : World} {record : List Observed}
  {keeper : Connection → Option Keeper}
  {uses uses' : Nat → Connection → Option (List Exchange)} {task other number : Nat}
  {connection : Connection} {said : List Exchange}

/-- Only its keeper uses a connection. -/
theorem unused_of_keeper (kept : Kept world record keeper uses)
    (elsewhere : keeper connection ≠ some (.task task)) :
    uses task connection = none := by
  by_contra used
  obtain ⟨said, used⟩ := Option.ne_none_iff_exists'.mp used
  exact elsewhere (kept.used task connection said used).1

theorem free (kept : Kept world record keeper uses)
    (idle : connection ∈ Fleet.idle number world) (task : Nat) :
    uses task connection = none :=
  kept.unused_of_keeper (by simp [(kept.idle number connection idle).1])

theorem sole (kept : Kept world record keeper uses)
    (used : uses task connection = some said) (different : other ≠ task) :
    uses other connection = none :=
  kept.unused_of_keeper
    (by simp [(kept.used task connection said used).1, different.symm])

theorem unused (kept : Kept world record keeper uses)
    (later : world.openedCount < connection.number) (task : Nat) :
    uses task connection = none :=
  kept.unused_of_keeper (by simp [(kept.fresh connection later).1])

theorem opened_of_keeper {holder : Keeper} (kept : Kept world record keeper uses)
    (here : keeper connection = some holder) :
    connection.number ≤ world.openedCount := by
  by_contra later
  have nobody := (kept.fresh connection (Nat.lt_of_not_le later)).1
  simp [here] at nobody

theorem fits {charge : Charge} (kept : Kept world record keeper uses)
    (mine : charge.uses = uses task) : charge.Fits world where
  idle := fun number connection idle => by rw [mine, kept.free idle task]
  fresh := by rw [mine, kept.unused (Nat.lt_succ_self _) task]

/-- A connection comes into use by a task or goes out of it; the others stay where they
are, or are nobody's. -/
theorem pass {use : Option (List Exchange)} (kept : Kept world record keeper uses)
    (connection : Connection) (holder : Keeper)
    (opened : world.openedCount ≤ after.openedCount)
    (bound : connection.number ≤ after.openedCount)
    (once : ∀ number, (Fleet.idle number after).Nodup)
    (stays : ∀ number, ∀ other ∈ Fleet.idle number after, other ≠ connection →
      other ∈ Fleet.idle number world)
    (idle : ∀ number, connection ∈ Fleet.idle number after →
      holder = .pool number ∧ Rounds connection (controlsOn connection record))
    (used : ∀ said, use = some said →
      holder = .task task ∧ ∃ rounds, Rounds connection rounds ∧
        controlsOn connection record = rounds ++ said)
    (alone : ∀ other, other ≠ task → uses other connection = none) :
    Kept after record (Function.update keeper connection (some holder))
      (assign uses task (Function.update (uses task) connection use)) where
  idle := by
    intro number other member
    by_cases here : other = connection
    · subst here
      obtain ⟨rfl, rounds⟩ := idle number member
      exact ⟨Function.update_self _ _ _, rounds⟩
    · rw [Function.update_of_ne here]
      exact kept.idle number other (stays number other member here)
  once := once
  used := by
    intro worker other said there
    by_cases here : other = connection
    · subst here
      by_cases same : worker = task
      · subst same
        rw [assign_self, Function.update_self] at there
        obtain ⟨rfl, rounds⟩ := used said there
        exact ⟨Function.update_self _ _ _, rounds⟩
      · rw [assign_of_ne _ _ same, alone worker same] at there
        cases there
    · have before : uses worker other = some said := by
        by_cases same : worker = task
        · rwa [same, assign_self, Function.update_of_ne here, ← same] at there
        · rwa [assign_of_ne _ _ same] at there
      rw [Function.update_of_ne here]
      exact kept.used worker other said before
  fresh := by
    intro other later
    have here : other ≠ connection := by
      rintro rfl
      exact Nat.not_lt_of_le bound later
    rw [Function.update_of_ne here]
    exact kept.fresh other (Nat.lt_of_le_of_lt opened later)

theorem take {rest : List Connection} (kept : Kept world record keeper uses)
    (idle : Fleet.idle number world = connection :: rest) :
    ∃ keeper, Kept (world.changePool number fun pool => { pool with idle := rest }) record
      keeper (assign uses task (Function.update (uses task) connection (some []))) := by
  obtain ⟨notRest, distinct⟩ := List.nodup_cons.mp (idle ▸ kept.once number)
  have member : connection ∈ Fleet.idle number world := by simp [idle]
  obtain ⟨here, rounds⟩ := kept.idle number connection member
  refine ⟨_, kept.pass connection (.task task) (Nat.le_refl _)
    (kept.opened_of_keeper here) ?_ ?_ ?_ ?_ fun other _ => kept.free member other⟩
  · intro other
    rw [idle_changePool]
    split
    · exact distinct
    · exact kept.once other
  · intro other connection' there _
    rw [idle_changePool] at there
    split at there
    · next same =>
        rw [same, idle]
        exact List.mem_cons_of_mem _ there
    · exact there
  · intro other there
    rw [idle_changePool] at there
    split at there
    · exact (notRest there).elim
    · next different =>
        rw [(kept.idle other connection there).1] at here
        cases here
        exact (different rfl).elim
  · rintro said ⟨⟩
    exact ⟨rfl, _, rounds, (List.append_nil _).symm⟩

theorem put (kept : Kept world record keeper uses)
    (used : uses task connection = some said) (rounds : Rounds connection said) :
    ∃ keeper, Kept
      (world.changePool number fun pool => { pool with idle := connection :: pool.idle })
      record keeper (assign uses task (Function.update (uses task) connection none)) := by
  obtain ⟨here, earlier, before, split⟩ := kept.used task connection said used
  have absent (other : Nat) : connection ∉ Fleet.idle other world := by
    intro there
    rw [kept.free there task] at used
    cases used
  refine ⟨_, kept.pass connection (.pool number) (Nat.le_refl _)
    (kept.opened_of_keeper here) ?_ ?_ ?_ nofun fun other different =>
      kept.sole used different⟩
  · intro other
    rw [idle_changePool]
    split
    · exact List.nodup_cons.mpr ⟨absent number, kept.once number⟩
    · exact kept.once other
  · intro other connection' there different
    rw [idle_changePool] at there
    split at there
    · next same =>
        rw [same]
        exact (List.mem_cons.mp there).resolve_left different
    · exact there
  · intro other there
    rw [idle_changePool] at there
    split at there
    · next same =>
        rw [same, split]
        exact ⟨rfl, before.append rounds⟩
    · exact (absent other there).elim

theorem opened (kept : Kept world record keeper uses) :
    ∃ keeper, Kept world.addConnection.2 record keeper
      (assign uses task
        (Function.update (uses task) world.addConnection.1 (some []))) := by
  have later : world.openedCount < world.addConnection.1.number := Nat.lt_succ_self _
  obtain ⟨nobody, silent⟩ := kept.fresh world.addConnection.1 later
  refine ⟨_, kept.pass world.addConnection.1 (.task task) (Nat.le_succ _) (Nat.le_refl _)
    kept.once (fun _ _ member _ => member) ?_ ?_ ?_⟩
  · intro number there
    rw [(kept.idle number _ there).1] at nobody
    cases nobody
  · rintro said ⟨⟩
    exact ⟨rfl, [], .none, silent⟩
  · exact fun other _ => kept.unused later other

/-- A change of the state that opens no connection and adds none to the idle ones. -/
theorem shrink (kept : Kept world record keeper uses)
    (opened : after.openedCount = world.openedCount)
    (idle : ∀ number, (Fleet.idle number after).Sublist (Fleet.idle number world)) :
    Kept after record keeper uses where
  idle := fun number connection member =>
    kept.idle number connection ((idle number).subset member)
  once := fun number => (kept.once number).sublist (idle number)
  used := kept.used
  fresh := fun connection later => kept.fresh connection (opened ▸ later)

theorem changes {charge charge' : Charge} (kept : Kept world record keeper uses)
    (mine : charge.uses = uses task) (changes : charge.Changes world after charge') :
    ∃ keeper, Kept after record keeper (assign uses task charge'.uses) := by
  cases changes with
  | other pools opened =>
      refine ⟨keeper, ?_⟩
      rw [mine, assign_eta]
      refine kept.shrink opened fun number => ?_
      rw [Fleet.idle, pools]
      exact .refl _
  | take idle =>
      rw [Charge.take, mine]
      exact kept.take idle
  | put number used rounds =>
      rw [Charge.drop, mine]
      exact kept.put (mine ▸ used) rounds
  | opened =>
      rw [Charge.take, mine]
      exact kept.opened
  | shut number =>
      refine ⟨keeper, ?_⟩
      rw [mine, assign_eta]
      refine kept.shrink rfl fun other => ?_
      rw [Pool.shut, idle_changePool]
      split
      · exact List.nil_sublist _
      · exact .refl _

/-- A call is put on record: a control belongs to the use of its connection. -/
theorem hears {charge : Charge} {request : DriverCall}
    (kept : Kept world record keeper uses) (mine : charge.uses = uses task)
    (permits : charge.Permits request) (answer : Except Fault request.Answer) :
    Kept world (record ++ [⟨charge.demand, charge.made, ⟨request, answer⟩⟩]) keeper
      (assign uses task (charge.hear ⟨request, answer⟩).uses) := by
  have uncontrolled {connection : Connection} (free : uses task connection = none) :
      request.controlled? ≠ some connection :=
    fun controls => permits.controls connection controls (mine ▸ free)
  have same {connection : Connection}
      (other : request.controlled? ≠ some connection) :
      controlsOn connection
        (record ++ [⟨charge.demand, charge.made, ⟨request, answer⟩⟩]) =
          controlsOn connection record := by
    rw [controlsOn_append, if_neg other]
  constructor
  · intro number connection idle
    rw [same (uncontrolled (kept.free idle task))]
    exact kept.idle number connection idle
  · exact kept.once
  · intro worker connection said used
    by_cases here : worker = task
    · subst here
      rw [assign_self] at used
      by_cases controls : request.controlled? = some connection
      · obtain ⟨past, before⟩ :=
          Option.ne_none_iff_exists'.mp (permits.controls connection controls)
        rw [Charge.hear_of_control controls, Function.update_self, before] at used
        obtain rfl : past ++ [⟨request, answer⟩] = said := by simpa using used
        obtain ⟨keeps, rounds, whole, split⟩ :=
          kept.used worker connection past (mine ▸ before)
        refine ⟨keeps, rounds, whole, ?_⟩
        rw [controlsOn_append, if_pos controls, split, List.append_assoc]
      · rw [same controls]
        exact kept.used worker connection said (mine ▸ Charge.uses_of_hear controls used)
    · rw [assign_of_ne _ _ here] at used
      rw [same (uncontrolled (kept.sole used (Ne.symm here)))]
      exact kept.used worker connection said used
  · intro connection later
    rw [same (uncontrolled (kept.unused later task))]
    exact kept.fresh connection later

end Kept

/-! ## Runs -/

/-- A place in a list that grew by one entry is its end, or a place in the list before. -/
theorem split_append_singleton {α : Type} {items earlier later : List α} {last middle : α}
    (split : items ++ [last] = earlier ++ middle :: later) :
    items = earlier ∧ last = middle ∨
      ∃ rest, items = earlier ++ middle :: rest ∧ later = rest ++ [last] := by
  rcases List.eq_nil_or_concat later with rfl | ⟨rest, final, rfl⟩
  · obtain ⟨same, ends⟩ := List.append_inj' split rfl
    exact .inl ⟨same, by simpa using ends⟩
  · rw [List.concat_eq_append, ← List.cons_append, ← List.append_assoc] at split
    obtain ⟨same, ends⟩ := List.append_inj' split rfl
    exact .inr ⟨rest, same, by rw [ends, List.concat_eq_append]⟩

namespace Traffic

/-- A verb of a pool is on record only with the calls that open its connection and with
calls on a connection that was in automatic commit. -/
def PlainAutomatic (record : List Observed) : Prop :=
  ∀ earlier observed later, record = earlier ++ observed :: later →
    observed.isPlain = true →
    observed.said.call.isOpening = true ∨
      ∃ connection, observed.connection? = some connection ∧
        isAutomatic (saidOn connection earlier) = true

/-- The clients at work mind their connections, and all that is on record is accounted
for. -/
structure Minded (traffic : Traffic) (keeper : Connection → Option Keeper)
    (uses : Nat → Connection → Option (List Exchange)) : Prop where
  workers : ∀ task (worker : Worker), traffic.workers[task]? = some worker →
    worker.routine.Minds (fun _ _ => True) ⟨uses task, worker.demand, worker.made⟩
  kept : Kept traffic.world traffic.record keeper uses
  plain : PlainAutomatic traffic.record

theorem PlainAutomatic.append {record : List Observed} {observed : Observed}
    (before : PlainAutomatic record)
    (last : observed.isPlain = true → observed.said.call.isOpening = true ∨
      ∃ connection, observed.connection? = some connection ∧
        isAutomatic (saidOn connection record) = true) :
    PlainAutomatic (record ++ [observed]) := by
  intro earlier other later split
  obtain ⟨rfl, rfl⟩ | ⟨rest, same, -⟩ := split_append_singleton split
  · exact last
  · exact before earlier other rest same

namespace Minded

variable {traffic next : Traffic} {keeper keeper' : Connection → Option Keeper}
  {uses : Nat → Connection → Option (List Exchange)} {task : Nat}
  {worker worker' : Worker} {used : Connection → Option (List Exchange)}

/-- One client goes on with the rest of its routine. -/
theorem resume (minded : traffic.Minded keeper uses)
    (here : traffic.workers[task]? = some worker)
    (minds : worker'.routine.Minds (fun _ _ => True)
      ⟨used, worker'.demand, worker'.made⟩)
    (workers : next.workers = traffic.workers.set task worker')
    (kept : Kept next.world next.record keeper' (assign uses task used))
    (plain : PlainAutomatic next.record) :
    next.Minded keeper' (assign uses task used) where
  workers := by
    rw [workers]
    exact holds_set_assign
      (fun worker used =>
        worker.routine.Minds (fun _ _ => True) ⟨used, worker.demand, worker.made⟩)
      (List.getElem?_eq_some_iff.mp here).1 minded.workers minds
  kept := kept
  plain := plain

theorem hears {request : DriverCall} (minded : traffic.Minded keeper uses)
    (permits : Charge.Permits ⟨uses task, worker.demand, worker.made⟩ request)
    (answer : Except Fault request.Answer) :
    PlainAutomatic
      (traffic.record ++ [⟨worker.demand, worker.made, ⟨request, answer⟩⟩]) := by
  refine minded.plain.append fun plain => ?_
  rcases permits.plain plain with opening | ⟨connection, owned, used⟩
  · exact .inl opening
  · obtain ⟨_, rounds, whole, split⟩ := minded.kept.used task connection [] used
    refine .inr ⟨connection, owned, ?_⟩
    rw [← isAutomatic_filter]
    change isAutomatic (controlsOn connection traffic.record) = true
    rw [split, List.append_nil]
    exact whole.isAutomatic

theorem advance (minded : traffic.Minded keeper uses)
    (reply : (request : Call) → Except Fault request.Answer)
    (here : traffic.workers[task]? = some worker) :
    ∃ keeper uses, (traffic.advance task reply worker).Minded keeper uses := by
  obtain ⟨routine, demand, made⟩ := worker
  have minds := minded.workers task _ here
  have unchanged : Kept traffic.world traffic.record keeper
      (assign uses task (uses task)) := by
    rw [assign_eta]
    exact minded.kept
  cases routine with
  | done | fail => exact ⟨keeper, uses, minded⟩
  | step update rest =>
      obtain ⟨after, changes, minds⟩ := minds traffic.world (minded.kept.fits rfl)
      obtain ⟨keeper, kept⟩ := minded.kept.changes rfl changes
      rw [changes.marks] at minds
      exact ⟨keeper, _, minded.resume here minds rfl kept minded.plain⟩
  | emit event rest =>
      have minds : rest.Minds (fun _ _ => True) ⟨uses task, demand, made⟩ := minds
      exact ⟨keeper, _, minded.resume here minds rfl unchanged minded.plain⟩
  | call request rest =>
      cases request with
      | driver request =>
          obtain ⟨permits, minds⟩ := minds
          exact ⟨keeper, _, minded.resume here (minds _) rfl
            (minded.kept.hears rfl permits _) (minded.hears permits _)⟩
      | makeGuest | guest =>
          exact ⟨keeper, _, minded.resume here (minds _) rfl unchanged minded.plain⟩
  | aside entry rest =>
      have minds : (rest ()).Minds (fun _ _ => True)
        ⟨uses task, Fleet.demandOf entry, made⟩ := minds
      exact ⟨keeper, _, minded.resume here minds rfl unchanged minded.plain⟩

theorem join (minded : traffic.Minded keeper uses) (client : Client Unit) :
    (traffic.move (.join client)).Minded keeper uses where
  workers := by
    intro task worker there
    rw [move, List.getElem?_append] at there
    split at there
    · exact minded.workers task worker there
    · obtain rfl := List.mem_singleton.mp (List.mem_of_getElem? there)
      exact (client.restores _).mono fun _ _ _ => trivial
  kept := minded.kept
  plain := minded.plain

theorem move (minded : traffic.Minded keeper uses) (move : Move) :
    ∃ keeper uses, (traffic.move move).Minded keeper uses := by
  cases move with
  | join client => exact ⟨keeper, uses, minded.join client⟩
  | advance task reply =>
      rw [Traffic.move]
      cases here : traffic.workers[task]? with
      | none => exact ⟨keeper, uses, minded⟩
      | some worker => exact minded.advance reply here

theorem play (minded : traffic.Minded keeper uses) (moves : List Move) :
    ∃ keeper uses, (traffic.play moves).Minded keeper uses := by
  induction moves generalizing traffic keeper uses with
  | nil => exact ⟨keeper, uses, minded⟩
  | cons move moves induction =>
      obtain ⟨keeper, uses, minded⟩ := minded.move move
      exact induction minded

end Minded

theorem start_minded (settings : Nat → Pool) :
    (start settings).Minded (fun _ => none) fun _ _ => none where
  workers := by simp [start]
  kept := by constructor <;> simp [start, Fleet.idle, controlsOn, saidOn]
  plain := by simp [PlainAutomatic, start]

/-- Every idle connection is clean, and no verb of a pool was at a connection in manual
commit. -/
structure Orderly (traffic : Traffic) : Prop where
  idle : ∀ number, ∀ connection ∈ (traffic.world.pools number).idle,
    Clean connection (saidOn connection traffic.record)
  plain : PlainAutomatic traffic.record

/-- Every run is orderly, whatever its clients do and whatever their calls are
answered. -/
theorem play_orderly (settings : Nat → Pool) (moves : List Move) :
    ((start settings).play moves).Orderly := by
  obtain ⟨keeper, uses, minded⟩ := (start_minded settings).play moves
  refine ⟨fun number connection member => ?_, minded.plain⟩
  exact Rounds.clean (minded.kept.idle number connection member).2

/-- A driver that is there and refuses nothing but the statements of verbs. -/
def obliging : (request : Call) → Except Fault request.Answer
  | .driver .locate => .ok true
  | .driver (.connect _) | .driver (.autocommit ..) | .driver (.commit _)
  | .driver (.rollback _) | .driver (.close _) => .ok ()
  | _ => .error (.outside .runtime "")

example :
    let client := Client.transaction (.pool 0) fun _ => .done ()
    let traffic := (start fun _ => {}).play
      (.join client :: List.replicate 14 (.advance 0 obliging))
    (traffic.world.pools 0).idle = [⟨1⟩] ∧
      saidOn ⟨1⟩ traffic.record = Connection.round ⟨1⟩ := by
  exact ⟨rfl, rfl⟩

end Traffic

end Midrange
