import Midrange.Proofs.Traffic.Idle
import Midrange.Proofs.Traffic.Spoil

/-!
# Reuse of connections

What becomes of a connection on which a verb raised.  If it was a verb of a pool, the
connection is closed, and no pool has it idle again or uses it for anything.  If a
transaction was open on the connection, then it is used again only after that transaction
was committed, whatever its verbs did.
-/

namespace Midrange

/-! ## Outcasts -/

namespace Charge

variable {world after : World} {charge charge' : Charge} {connection : Connection}
  {said : Exchange}

/-- A task puts back only what it uses. -/
theorem Changes.idle (changes : charge.Changes world after charge') {number : Nat}
    (idle : connection ∈ Fleet.idle number after) :
    connection ∈ Fleet.idle number world ∨ charge.uses connection ≠ none := by
  cases changes with
  | other pools opened =>
      rw [Fleet.idle, pools] at idle
      exact .inl idle
  | take before =>
      rw [idle_changePool] at idle
      split at idle
      · next same =>
          rw [same, Fleet.idle, before]
          exact .inl (List.mem_cons_of_mem _ idle)
      · exact .inl idle
  | put pool used rounds =>
      rw [idle_changePool] at idle
      split at idle
      · next same =>
          rcases List.mem_cons.mp idle with rfl | there
          · exact .inr (by simp [used])
          · exact .inl (same ▸ there)
      · exact .inl idle
  | opened => exact .inl idle
  | shut pool =>
      rw [Pool.shut, idle_changePool] at idle
      split at idle
      · cases idle
      · exact .inl idle

/-- A task comes to use what was idle or is new. -/
theorem Changes.used (changes : charge.Changes world after charge')
    (used : charge'.uses connection ≠ none) :
    charge.uses connection ≠ none ∨ (∃ number, connection ∈ Fleet.idle number world) ∨
      world.openedCount < connection.number := by
  cases changes with
  | other | shut => exact .inl used
  | @take _ number taken _ idle =>
      by_cases here : connection = taken
      · exact .inr (.inl ⟨number, by simp [Fleet.idle, idle, here]⟩)
      · exact .inl (by simpa [Charge.take, here] using used)
  | @put _ given =>
      by_cases here : connection = given
      · simp [Charge.drop, here] at used
      · exact .inl (by simpa [Charge.drop, here] using used)
  | opened =>
      by_cases here : connection = world.addConnection.1
      · exact .inr (.inr (here ▸ Nat.lt_succ_self _))
      · exact .inl (by simpa [Charge.take, here] using used)

theorem Changes.opened_le (changes : charge.Changes world after charge') :
    world.openedCount ≤ after.openedCount := by
  cases changes with
  | other pools opened => exact Nat.le_of_eq opened.symm
  | opened => exact Nat.le_succ _
  | take | put | shut => exact Nat.le_refl _

/-- What is in use after a call was in use before, and is not closed. -/
theorem used_of_hear (used : (charge.hear said).uses connection ≠ none) :
    charge.uses connection ≠ none ∧ said.call ≠ .close connection := by
  obtain ⟨call, answer⟩ := said
  cases call with
  | autocommit there | commit there | rollback there =>
      by_cases here : connection = there
      · subst here
        simpa [hear, usesAfter, DriverCall.controlled?] using used
      · simpa [hear, usesAfter, DriverCall.controlled?, here] using used
  | close there =>
      by_cases here : connection = there
      · simp [hear, usesAfter, here] at used
      · exact ⟨by simpa [hear, usesAfter, here] using used, by simpa using Ne.symm here⟩
  | _ => exact ⟨used, by simp⟩

/-- A verb of a pool is at a connection on which no transaction began. -/
theorem Permits.used {request : DriverCall} (permits : charge.Permits request)
    (plain : charge.isPlain = true)
    (here : request.connection? charge.made = some connection) :
    charge.uses connection = some [] := by
  rcases permits.plain plain with opening | ⟨there, owned, began⟩
  · cases request <;> simp [DriverCall.isOpening, DriverCall.connection?] at opening here
  · obtain rfl : there = connection := Option.some.inj (owned.symm.trans here)
    exact began

end Charge

/-- A connection that is idle nowhere, and that whoever uses it has to close. -/
structure Outcast (world : World) (uses : Nat → Connection → Option (List Exchange))
    (spoilt : Nat → Option Connection) (connection : Connection) : Prop where
  opened : connection.number ≤ world.openedCount
  absent : ∀ number, connection ∉ Fleet.idle number world
  due : ∀ task, uses task connection ≠ none → spoilt task = some connection

section

variable {world after : World} {record : List Observed}
  {keeper : Connection → Option Keeper}
  {uses : Nat → Connection → Option (List Exchange)}
  {spoilt : Nat → Option Connection} {task : Nat} {connection : Connection}
  {charge charge' : Charge} {spoil : Spoil} {request : DriverCall}

namespace Outcast

theorem changes (outcast : Outcast world uses spoilt connection)
    (mine : charge.uses = uses task) (due : spoil.spoilt = spoilt task)
    (changes : charge.Changes world after charge') (allows : spoil.Allows world after) :
    Outcast after (assign uses task charge'.uses) spoilt connection where
  opened := Nat.le_trans outcast.opened changes.opened_le
  absent := by
    intro number idle
    rcases changes.idle idle with before | used
    · exact outcast.absent number before
    · have spoils := due.trans (outcast.due task (mine ▸ used))
      exact outcast.absent number (allows connection spoils number idle)
  due := by
    intro other used
    by_cases here : other = task
    · subst here
      rw [assign_self] at used
      rcases changes.used used with before | ⟨number, idle⟩ | later
      · exact outcast.due other (mine ▸ before)
      · exact (outcast.absent number idle).elim
      · exact (Nat.not_lt_of_le outcast.opened later).elim
    · rw [assign_of_ne _ _ here] at used
      exact outcast.due other used

theorem hears (outcast : Outcast world uses spoilt connection)
    (mine : charge.uses = uses task) (due : spoil.spoilt = spoilt task)
    (permits : spoil.Permits request) (answer : Except Fault request.Answer)
    (next : Option Connection) :
    Outcast world (assign uses task (charge.hear ⟨request, answer⟩).uses)
      (assign spoilt task next) connection where
  opened := outcast.opened
  absent := outcast.absent
  due := by
    intro other used
    by_cases here : other = task
    · subst here
      rw [assign_self] at used
      obtain ⟨before, stays⟩ := Charge.used_of_hear used
      have spoils := due.trans (outcast.due other (mine ▸ before))
      exact (stays (permits connection spoils)).elim
    · rw [assign_of_ne _ _ here] at used
      rw [assign_of_ne _ _ here]
      exact outcast.due other used

/-- Whoever uses the connection closes it; the others do not control transactions on it,
and are at no verb of a pool. -/
theorem calls (outcast : Outcast world uses spoilt connection)
    (mine : charge.uses = uses task) (due : spoil.spoilt = spoilt task)
    (permits : charge.Permits request) (allowed : spoil.Permits request)
    (here : request.connection? charge.made = some connection) :
    request = .close connection ∨ charge.isPlain = false ∧ request.controlled? = none := by
  by_cases used : uses task connection = none
  · rw [← mine] at used
    refine .inr ⟨?_, ?_⟩
    · by_contra plain
      simp [permits.used (by simpa using plain) here] at used
    · by_contra controls
      obtain ⟨there, controls⟩ := Option.ne_none_iff_exists'.mp controls
      obtain rfl : there = connection := Option.some.inj
        ((DriverCall.connection?_of_controlled controls _).symm.trans here)
      exact permits.controls there controls used
  · exact .inl (allowed connection (due.trans (outcast.due task used)))

end Outcast

/-- A verb of a pool that raises makes an outcast of the connection that it used. -/
theorem Kept.outcast (kept : Kept world record keeper uses) (mine : charge.uses = uses task)
    (permits : charge.Permits request) {answer : Except Fault request.Answer}
    (spoils : Observed.spoilt? ⟨charge.demand, charge.made, ⟨request, answer⟩⟩ =
      some connection) :
    Outcast world (assign uses task (charge.hear ⟨request, answer⟩).uses)
      (assign spoilt task (some connection)) connection := by
  obtain ⟨plain, _, here⟩ := Observed.spoilt?_eq_some.mp spoils
  have used : uses task connection = some [] := mine ▸ permits.used plain here
  refine ⟨kept.opened_of_keeper (kept.used task connection [] used).1, ?_, ?_⟩
  · intro number idle
    simp [kept.free idle task] at used
  · intro other uses'
    by_cases same : other = task
    · rw [same, assign_self]
    · rw [assign_of_ne _ _ same] at uses'
      exact (uses' (kept.sole used same)).elim

end

/-! ## What is on record of a connection -/

namespace Observed

/-- A pool uses a connection: for one of its own verbs, or to begin a transaction. -/
def Uses (connection : Connection) (observed : Observed) : Prop :=
  observed.connection? = some connection ∧
    (observed.isPlain = true ∨ observed.said.call = .autocommit connection false)

/-- A later call keeps apart from the connection that an earlier one spoilt: it is its
close, or neither of a verb of a pool nor for a transaction. -/
def Apart (raised other : Observed) : Prop :=
  ∀ connection, raised.spoilt? = some connection → other.connection? = some connection →
    other.said.call = .close connection ∨
      other.isPlain = false ∧ other.said.call.controlled? = none

end Observed

theorem controlsOn_append_cons {connection : Connection} {earlier later : List Observed}
    {observed : Observed} (quiet : observed.said.isControl = false) :
    controlsOn connection (earlier ++ observed :: later) =
      controlsOn connection earlier ++ controlsOn connection later := by
  by_cases here : observed.connection? = some connection
  · simp [controlsOn, saidOn, here, quiet]
  · simp [controlsOn, saidOn, here]

/-- A transaction has begun on a connection, and nothing was done to end it. -/
def Begun (connection : Connection) (record : List Observed) : Prop :=
  (controlsOn connection record).getLast? = some ⟨.autocommit connection false, .ok ()⟩

/-- The next that is done to end the transaction of a connection is its commit, which
succeeds, and so does the change back to automatic commit. -/
def Commits (connection : Connection) (record : List Observed) : Prop :=
  [⟨.commit connection, .ok ()⟩, ⟨.autocommit connection true, .ok ()⟩] <+:
    controlsOn connection record

/-- Where whole rounds are on record, the transaction of a verb that raised was
committed. -/
theorem Rounds.commits {connection : Connection} {earlier later : List Observed}
    {raised : Observed}
    (rounds : Rounds connection (controlsOn connection (earlier ++ raised :: later)))
    (raises : raised.raises = true) (begun : Begun connection earlier) :
    Commits connection later := by
  obtain ⟨before, same⟩ := List.getLast?_eq_some_iff.mp begun
  have quiet : raised.said.isControl = false := by
    obtain ⟨demand, _, raises⟩ := (Option.any_eq_true _ _).mp raises
    exact Exchange.isControl_of_raises raises
  have split : controlsOn connection (earlier ++ raised :: later) =
      before ++ ⟨.autocommit connection false, .ok ()⟩ :: controlsOn connection later := by
    rw [controlsOn_append_cons quiet, same, List.append_assoc]
    rfl
  obtain ⟨rest, next⟩ := rounds.committed split
  exact ⟨rest, next.symm⟩

/-! ## Runs -/

/-- A client at work closes what it has spoilt, and all that it spoils. -/
def Worker.Clears (worker : Worker) (spoilt : Option Connection) : Prop :=
  worker.routine.Clears ⟨spoilt, worker.demand, worker.made⟩

namespace Traffic

/-- Wherever a pool uses a connection, its earlier transactions were committed. -/
def UsesWhole (record : List Observed) : Prop :=
  ∀ earlier observed later connection, record = earlier ++ observed :: later →
    observed.Uses connection → Rounds connection (controlsOn connection earlier)

theorem UsesWhole.append {record : List Observed} {observed : Observed}
    (whole : UsesWhole record)
    (last : ∀ connection, observed.Uses connection →
      Rounds connection (controlsOn connection record)) :
    UsesWhole (record ++ [observed]) := by
  intro earlier other later connection split use
  obtain ⟨rfl, rfl⟩ | ⟨rest, same, -⟩ := split_append_singleton split
  · exact last connection use
  · exact whole earlier other rest connection same use

/-- What was spoilt is closed, or its task has yet to close it. -/
def Closes (record : List Observed) (spoilt : Nat → Option Connection) : Prop :=
  ∀ earlier raised later connection, record = earlier ++ raised :: later →
    raised.spoilt? = some connection →
    (∃ other ∈ later, other.said.call = .close connection) ∨
      ∃ task, spoilt task = some connection

theorem Closes.append {record : List Observed} {spoilt : Nat → Option Connection}
    {task : Nat} {demand : Option Demand} {made : Made} {said : Exchange}
    (closes : Closes record spoilt)
    (permits : Spoil.Permits ⟨spoilt task, demand, made⟩ said.call) :
    Closes (record ++ [⟨demand, made, said⟩])
      (assign spoilt task (Spoil.hear said ⟨spoilt task, demand, made⟩).spoilt) := by
  intro earlier raised later connection split spoils
  obtain ⟨-, rfl⟩ | ⟨rest, same, rfl⟩ := split_append_singleton split
  · exact .inr ⟨task, by rw [assign_self, Spoil.hear_of_spoils spoils]⟩
  · rcases closes earlier raised rest connection same spoils with
      ⟨other, member, closed⟩ | ⟨other, due⟩
    · exact .inl ⟨other, List.mem_append_left _ member, closed⟩
    · by_cases mine : other = task
      · exact .inl ⟨_, List.mem_append_right _ List.mem_cons_self,
          permits connection (mine ▸ due)⟩
      · exact .inr ⟨other, by rw [assign_of_ne _ _ mine, due]⟩

/-- The clients at work discard what they spoil, and what was spoilt is out of use. -/
structure Discarding (traffic : Traffic) (keeper : Connection → Option Keeper)
    (uses : Nat → Connection → Option (List Exchange)) (spoilt : Nat → Option Connection) :
    Prop where
  minded : traffic.Minded keeper uses
  workers : ∀ task (worker : Worker), traffic.workers[task]? = some worker →
    worker.Clears (spoilt task)
  vacant : ∀ task, traffic.workers.length ≤ task → spoilt task = none
  outcast : ∀ raised ∈ traffic.record, ∀ connection, raised.spoilt? = some connection →
    Outcast traffic.world uses spoilt connection
  apart : traffic.record.Pairwise Observed.Apart
  closes : Closes traffic.record spoilt
  whole : UsesWhole traffic.record

namespace Discarding

variable {traffic next : Traffic} {keeper keeper' : Connection → Option Keeper}
  {uses uses' : Nat → Connection → Option (List Exchange)}
  {spoilt : Nat → Option Connection} {task : Nat} {worker worker' : Worker}
  {request : DriverCall} {rest : Except Fault request.Answer → Routine journal Unit}
  {demand : Option Demand} {made : Made}

/-- One client goes on with the rest of its routine, without a call. -/
theorem resume (discarding : traffic.Discarding keeper uses spoilt)
    (here : traffic.workers[task]? = some worker)
    (clears : worker'.Clears (spoilt task))
    (minded : next.Minded keeper' uses')
    (workers : next.workers = traffic.workers.set task worker')
    (record : next.record = traffic.record)
    (outcast : ∀ connection, Outcast traffic.world uses spoilt connection →
      Outcast next.world uses' spoilt connection) :
    next.Discarding keeper' uses' spoilt where
  minded := minded
  workers := by
    rw [workers, ← assign_eta spoilt task]
    exact holds_set_assign Worker.Clears (List.getElem?_eq_some_iff.mp here).1
      discarding.workers clears
  vacant := by
    rw [workers, List.length_set]
    exact discarding.vacant
  outcast := by
    rw [record]
    exact fun raised member connection spoils =>
      outcast connection (discarding.outcast raised member connection spoils)
  apart := record ▸ discarding.apart
  closes := record ▸ discarding.closes
  whole := record ▸ discarding.whole

/-- A pool uses a connection only if no transaction began in the use of its task. -/
theorem uses_whole (discarding : traffic.Discarding keeper uses spoilt)
    (permits : Charge.Permits ⟨uses task, demand, made⟩ request)
    {answer : Except Fault request.Answer} {connection : Connection}
    (use : Observed.Uses connection ⟨demand, made, ⟨request, answer⟩⟩) :
    Rounds connection (controlsOn connection traffic.record) := by
  have used : uses task connection = some [] := by
    obtain ⟨here, plain | begins⟩ := use
    · exact permits.used plain here
    · exact permits.begins connection begins
  obtain ⟨_, rounds, whole, split⟩ := discarding.minded.kept.used task connection [] used
  rw [split, List.append_nil]
  exact whole

/-- One client makes a call of the driver. -/
theorem hears (discarding : traffic.Discarding keeper uses spoilt)
    (here : traffic.workers[task]? = some ⟨.call (.driver request) rest, demand, made⟩)
    (reply : (request : Call) → Except Fault request.Answer) :
    ∃ uses spoilt,
      (traffic.advance task reply ⟨.call (.driver request) rest, demand, made⟩).Discarding
        keeper uses spoilt := by
  obtain ⟨permits, minds⟩ := discarding.minded.workers task _ here
  obtain ⟨allowed, clears⟩ := discarding.workers task _ here
  have inside := (List.getElem?_eq_some_iff.mp here).1
  have kept := discarding.minded.kept
  let said : Exchange := ⟨request, reply (.driver request)⟩
  let goesOn : Worker := ⟨rest said.answer, demand, request.madeAfter made said.answer⟩
  have clears : goesOn.Clears (Spoil.hear said ⟨spoilt task, demand, made⟩).spoilt :=
    clears said.answer
  have outcast (raised : Observed) (member : raised ∈ traffic.record)
      (connection : Connection) (spoils : raised.spoilt? = some connection) :=
    discarding.outcast raised member connection spoils
  refine ⟨_, assign spoilt task (Spoil.hear said ⟨spoilt task, demand, made⟩).spoilt,
    discarding.minded.resume here (minds _) rfl (kept.hears rfl permits _)
      (discarding.minded.hears permits _), ?_, ?_, ?_, ?_, ?_, ?_⟩
  · exact holds_set_assign Worker.Clears inside discarding.workers clears
  · intro other far
    have far : traffic.workers.length ≤ other := by simpa [advance, Traffic.resume] using far
    rw [assign_of_ne _ _ (Nat.ne_of_gt (Nat.lt_of_lt_of_le inside far))]
    exact discarding.vacant other far
  · intro raised member connection spoils
    rcases List.mem_append.mp member with earlier | last
    · exact (outcast raised earlier connection spoils).hears rfl rfl allowed _ _
    · obtain rfl := List.mem_singleton.mp last
      rw [Spoil.hear_of_spoils spoils]
      exact kept.outcast rfl permits spoils
  · refine List.pairwise_append.mpr ⟨discarding.apart, List.pairwise_singleton _ _, ?_⟩
    intro raised earlier other last connection spoils here
    obtain rfl := List.mem_singleton.mp last
    exact (outcast raised earlier connection spoils).calls rfl rfl permits allowed here
  · exact discarding.closes.append allowed
  · exact discarding.whole.append fun connection use => discarding.uses_whole permits use

theorem advance (discarding : traffic.Discarding keeper uses spoilt)
    (reply : (request : Call) → Except Fault request.Answer)
    (here : traffic.workers[task]? = some worker) :
    ∃ keeper uses spoilt,
      (traffic.advance task reply worker).Discarding keeper uses spoilt := by
  obtain ⟨routine, demand, made⟩ := worker
  have minded := discarding.minded
  have minds := minded.workers task _ here
  have clears := discarding.workers task _ here
  have unchanged : Kept traffic.world traffic.record keeper
      (assign uses task (uses task)) := by
    rw [assign_eta]
    exact minded.kept
  have stays (connection : Connection)
      (outcast : Outcast traffic.world uses spoilt connection) :
      Outcast traffic.world (assign uses task (uses task)) spoilt connection := by
    rw [assign_eta]
    exact outcast
  cases routine with
  | done | fail => exact ⟨keeper, uses, spoilt, discarding⟩
  | step update rest =>
      obtain ⟨after, changes, minds⟩ := minds traffic.world (minded.kept.fits rfl)
      obtain ⟨allows, clears⟩ := clears traffic.world
      have clears : Worker.Clears ⟨rest traffic.world, demand, made⟩ (spoilt task) := clears
      obtain ⟨keeper, kept⟩ := minded.kept.changes rfl changes
      rw [changes.marks] at minds
      exact ⟨keeper, _, spoilt, discarding.resume here clears
        (minded.resume here minds rfl kept minded.plain) rfl rfl
        fun connection outcast => outcast.changes rfl rfl changes allows⟩
  | emit event rest =>
      have minds : rest.Minds (fun _ _ => True) ⟨uses task, demand, made⟩ := minds
      have clears : Worker.Clears ⟨rest, demand, made⟩ (spoilt task) := clears
      exact ⟨keeper, _, spoilt, discarding.resume here clears
        (minded.resume here minds rfl unchanged minded.plain) rfl rfl stays⟩
  | call request rest =>
      cases request with
      | driver request => exact ⟨keeper, discarding.hears here reply⟩
      | makeGuest | guest =>
          have clears (answer) : Worker.Clears ⟨rest answer, demand, made⟩ (spoilt task) :=
            clears answer
          exact ⟨keeper, _, spoilt, discarding.resume here (clears _)
            (minded.resume here (minds _) rfl unchanged minded.plain) rfl rfl stays⟩
  | aside entry rest =>
      have minds : (rest ()).Minds (fun _ _ => True)
        ⟨uses task, Fleet.demandOf entry, made⟩ := minds
      have clears : Worker.Clears ⟨rest (), Fleet.demandOf entry, made⟩ (spoilt task) :=
        clears
      exact ⟨keeper, _, spoilt, discarding.resume here clears
        (minded.resume here minds rfl unchanged minded.plain) rfl rfl stays⟩

theorem join (discarding : traffic.Discarding keeper uses spoilt) (client : Client Unit) :
    (traffic.move (.join client)).Discarding keeper uses spoilt where
  minded := discarding.minded.join client
  workers := by
    intro task worker there
    rw [move, List.getElem?_append] at there
    split at there
    · exact discarding.workers task worker there
    · next far =>
        obtain rfl := List.mem_singleton.mp (List.mem_of_getElem? there)
        exact client.discards (discarding.vacant task (Nat.le_of_not_lt far))
  vacant := by
    intro task far
    rw [move, List.length_append] at far
    exact discarding.vacant task (Nat.le_trans (Nat.le_add_right _ _) far)
  outcast := discarding.outcast
  apart := discarding.apart
  closes := discarding.closes
  whole := discarding.whole

theorem move (discarding : traffic.Discarding keeper uses spoilt) (move : Move) :
    ∃ keeper uses spoilt, (traffic.move move).Discarding keeper uses spoilt := by
  cases move with
  | join client => exact ⟨keeper, uses, spoilt, discarding.join client⟩
  | advance task reply =>
      rw [Traffic.move]
      cases here : traffic.workers[task]? with
      | none => exact ⟨keeper, uses, spoilt, discarding⟩
      | some worker => exact discarding.advance reply here

theorem play (discarding : traffic.Discarding keeper uses spoilt) (moves : List Move) :
    ∃ keeper uses spoilt, (traffic.play moves).Discarding keeper uses spoilt := by
  induction moves generalizing traffic keeper uses spoilt with
  | nil => exact ⟨keeper, uses, spoilt, discarding⟩
  | cons move moves induction =>
      obtain ⟨keeper, uses, spoilt, discarding⟩ := discarding.move move
      exact induction discarding

/-- A client that has come to its end has nothing left to close. -/
theorem vacant_of_over (discarding : traffic.Discarding keeper uses spoilt)
    (ended : ∀ worker ∈ traffic.workers, Fleet.isOver worker.routine = true) (task : Nat) :
    spoilt task = none := by
  cases here : traffic.workers[task]? with
  | none => exact discarding.vacant task (List.getElem?_eq_none_iff.mp here)
  | some worker =>
      have clears := discarding.workers task worker here
      have finished := ended worker (List.mem_of_getElem? here)
      obtain ⟨routine, demand, made⟩ := worker
      cases routine with
      | done | fail => exact clears
      | step | emit | call | aside => cases finished

end Discarding

theorem start_discarding (settings : Nat → Pool) :
    (start settings).Discarding (fun _ => none) (fun _ _ => none) fun _ => none where
  minded := start_minded settings
  workers := by simp [start]
  vacant := fun _ _ => rfl
  outcast := by simp [start]
  apart := .nil
  closes := by simp [Closes, start]
  whole := by simp [UsesWhole, start]

/-- What becomes of a connection on which a verb raised. -/
structure Retires (traffic : Traffic) : Prop where
  /-- After a verb of a pool it is put back to none. -/
  absent : ∀ raised ∈ traffic.record, ∀ connection, raised.spoilt? = some connection →
    ∀ number, connection ∉ (traffic.world.pools number).idle
  /-- After a verb of a pool no pool uses it, but to close it. -/
  apart : traffic.record.Pairwise Observed.Apart
  /-- After a verb of a pool it is closed, before the clients have all come to their end. -/
  closed : (∀ worker ∈ traffic.workers, Fleet.isOver worker.routine = true) →
    ∀ earlier raised later connection, traffic.record = earlier ++ raised :: later →
      raised.spoilt? = some connection → ∃ other ∈ later, other.said.call = .close connection
  /-- After a verb in a transaction it is put back to a pool, or used by one, only if
  the transaction was committed. -/
  commits : ∀ earlier raised later connection,
    traffic.record = earlier ++ raised :: later → raised.raises = true →
    raised.connection? = some connection → Begun connection earlier →
    (∀ number, connection ∈ (traffic.world.pools number).idle →
      Commits connection later) ∧
    ∀ between other rest, later = between ++ other :: rest → other.Uses connection →
      Commits connection between

/-- In every run, whatever its clients do with the faults that they see and whatever
their calls are answered, a connection on which a verb of a pool raised is closed and never
used again, and one on which a verb raised in a transaction is used again only after the
transaction was committed. -/
theorem play_retires (settings : Nat → Pool) (moves : List Move) :
    ((start settings).play moves).Retires := by
  obtain ⟨keeper, uses, spoilt, discarding⟩ := (start_discarding settings).play moves
  refine ⟨?_, discarding.apart, ?_, ?_⟩
  · intro raised member connection spoils
    exact (discarding.outcast raised member connection spoils).absent
  · intro ended earlier raised later connection split spoils
    rcases discarding.closes earlier raised later connection split spoils with
      closed | ⟨task, due⟩
    · exact closed
    · rw [discarding.vacant_of_over ended task] at due
      cases due
  · intro earlier raised later connection split raises here begun
    constructor
    · intro number idle
      have rounds := (discarding.minded.kept.idle number connection idle).2
      rw [split] at rounds
      exact rounds.commits raises begun
    · rintro between other rest rfl use
      have rounds : Rounds connection (controlsOn connection (earlier ++ raised :: between)) :=
        discarding.whole _ other rest connection (by simpa using split) use
      exact rounds.commits raises begun

/-- A client whose scope goes on after a verb of it was refused, and its run. -/
def undeterred : Traffic :=
  let client := Client.transaction (.pool 0) fun inner =>
    .bind (.attempt (.perform ⟨inner, .execute, "", .null⟩)) fun _ => .done ()
  (start fun _ => {}).play (.join client :: List.replicate 17 (.advance 0 obliging))

/-- A verb of a scope is refused, its body goes on, and the pool has the connection again:
after the commit. -/
theorem play_retires_undeterred :
    ∃ earlier raised later, undeterred.record = earlier ++ raised :: later ∧
      raised.raises = true ∧ raised.connection? = some ⟨1⟩ ∧ Begun ⟨1⟩ earlier ∧
      (undeterred.world.pools 0).idle = [⟨1⟩] ∧ Commits ⟨1⟩ later := by
  have split : undeterred.record =
      [⟨none, none, ⟨.locate, .ok true⟩⟩, ⟨none, none, ⟨.connect "", .ok ()⟩⟩,
        ⟨none, none, ⟨.autocommit ⟨1⟩ false, .ok ()⟩⟩] ++
      ⟨some ⟨.scope 0, .execute, "", .null⟩, none,
        ⟨.prepare ⟨1⟩ "" none, .error (.outside .runtime "")⟩⟩ ::
      [⟨none, none, ⟨.commit ⟨1⟩, .ok ()⟩⟩, ⟨none, none, ⟨.autocommit ⟨1⟩ true, .ok ()⟩⟩] :=
    rfl
  have idle : (undeterred.world.pools 0).idle = [⟨1⟩] := rfl
  have commits := ((play_retires _ _).commits _ _ _ ⟨1⟩ split rfl rfl rfl).1
  exact ⟨_, _, _, split, rfl, rfl, rfl, idle, commits 0 (idle ▸ List.mem_singleton_self _)⟩

/-- A verb of a pool is refused, and the pool does not have its connection again. -/
example :
    let client := Client.attempt (.perform ⟨.pool 0, .execute, "", .null⟩)
    let traffic := (start fun _ => {}).play
      (.join (.bind client fun _ => .done ()) :: List.replicate 9 (.advance 0 obliging))
    (traffic.record.filterMap (·.spoilt?), (traffic.world.pools 0).idle) = ([⟨1⟩], []) := by
  rfl

end Traffic

end Midrange
