import Midrange.Proofs.Custody.Fleet

/-!
# What stands on the wire

In a run of a fleet the calls on one connection make whole blocks, each a
verb or a transaction in its bracket, and a block that does not return is followed
by one close and nothing more, as long as no verb of a scope is in flight when the body
of the scope ends.  A scope that was left ends before anything else is
said on its connection, and from then on its verbs only raise.
-/

namespace Midrange

/-- The verbs of an ended scope raise, and nothing is said to the driver. -/
theorem Handle.run_perform_of_ended {caller : Caller} {σ : Type}
    (outside : Outside caller σ) {scope : Nat} {world : World}
    (ended : (world.scopes scope).active = false) (verb : Verb) (sql : String)
    (bindings : Value) (state : σ) :
    ((Handle.scope scope).perform verb sql bindings).run outside world state =
      ⟨.error Misuse.scopeEnded.fault, world, state, []⟩ := by
  simp [perform, performInScope, Routine.look, Routine.refuse, Routine.run,
    Routine.bind, ended]

/-- The trail of a connection that is held is underway. -/
theorem Course.underway {pool task : Nat} {world : World} {runner : Nat → Option Nat}
    {hands : Nat → Hand} {connection : Connection} {stage : Stage} {signals : List Signal}
    (course : Course pool hands connection stage signals)
    (scopes : Scopes world runner hands)
    (held : (hands task).held connection = some stage) :
    Underway pool connection signals := by
  cases course with
  | said whole started => exact .started whole started
  | entering scope whole => exact .started whole (started_outset (.ok ()))
  | @running _ _ scope whole progress =>
      refine .running scope whole (progress.unfinished ?_ ?_)
      · exact fun task speech said => (scopes.spoken task speech said).begins
      · exact fun other speech said same => scopes.speech_connection held said same

namespace Fleet

/-- What a fleet has left on the wire. -/
structure Bracketed (pool : Nat) (fleet : Fleet) : Prop where
  /-- The trail of a connection that no task holds is a word of the wire. -/
  wire : ∀ connection, (∀ task, fleet.place connection ≠ .held task) →
    Wire pool connection (fleet.trail connection)
  /-- The trail of a connection in use is made of whole blocks and the beginning of
  one more, or a transaction whose scope is running, and the task that uses it is not
  over. -/
  inUse : ∀ connection task, fleet.place connection = .held task →
    Underway pool connection (fleet.trail connection) ∧
    ∃ routine, fleet.tasks[task]? = some routine ∧ isOver routine = false
  /-- No call on a connection is missing in the trails. -/
  recorded : ∀ (task : Nat) (request : DriverCall)
    (next : Except Fault request.Answer → Routine journal Unit),
    fleet.tasks[task]? = some (.call (.driver request) next) →
      request = .locate ∨ (∃ target, request = .connect target) ∨
        ∃ connection, request.connection? (fleet.pens task).made = some connection
  /-- A scope that was left has ended before anything else is said. -/
  left : ∀ connection scope returned earlier signal later,
    fleet.trail connection =
      earlier ++ .left scope returned :: signal :: later →
    scope < fleet.world.scopeCount ∧ (fleet.world.scopes scope).active = false
  /-- A scope that has ended never runs again, and its verbs raise without a
  call. -/
  refused : ∀ scope < fleet.world.scopeCount,
    (fleet.world.scopes scope).active = false →
    ∀ (moves : List (Move pool)) {caller : Caller} {σ : Type} (outside : Outside caller σ)
      (verb : Verb) (sql : String) (bindings : Value) (state : σ),
      ((Handle.scope scope).perform verb sql bindings).run outside
          (play pool fleet moves).world state =
        ⟨.error Misuse.scopeEnded.fault, (play pool fleet moves).world, state, []⟩

theorem Accords.bracketed {pool : Nat} {capacity : Int} {fleet : Fleet}
    {hands : Nat → Hand} (accords : fleet.Accords pool capacity True hands) :
    fleet.Bracketed pool where
  wire := by
    have trails := accords.trails trivial
    intro connection free
    cases here : fleet.place connection with
    | unopened =>
        rw [trails.unopened connection here]
        exact .opened .none
    | idle => exact .opened (trails.idle connection here)
    | held task => exact (free task here).elim
    | leaving task => exact .opened (trails.leaving task connection here)
    | closed => exact .ended (trails.closed connection here)
  inUse := by
    intro connection task here
    have held := (accords.places.held task connection).mpr here
    obtain ⟨stage, held⟩ := Option.ne_none_iff_exists'.mp held
    have course := (accords.trails trivial).held task connection stage held
    exact ⟨course.underway accords.scopes held, accords.busy (.inl here)⟩
  recorded := by
    intro task request next here
    rcases accords.nextCall here with locate | connect | ⟨connection, owned, _⟩
    · exact .inl locate
    · exact .inr (.inl connect)
    · exact .inr (.inr ⟨connection, owned⟩)
  left := by
    have trails := accords.trails trivial
    intro connection scope returned earlier signal later parts
    refine ⟨(trails.marks connection scope returned (by simp [parts])).1, ?_⟩
    by_contra running
    have last := trails.last connection scope returned earlier _ parts
      (by simpa using running)
    simp at last
  refused := by
    intro scope bound ended moves caller σ outside verb sql bindings state
    obtain ⟨_, _, outlives⟩ := accords.bare.play moves False.elim
    exact Handle.run_perform_of_ended outside (outlives.ended scope bound ended) verb
      sql bindings state

/-- In a run of a fleet the transactions stand in their brackets, if no verb of a scope is
in flight when the body of the scope has ended. -/
theorem play_bracketed (pool : Nat) (settings : Pool) (moves : List (Move pool))
    (attended : (start pool settings).isAttendedThroughout pool moves = true) :
    (play pool (start pool settings) moves).Bracketed pool := by
  obtain ⟨hands, accords⟩ := play_accords pool True settings moves fun _ => attended
  exact accords.bracketed

/-- Two tasks ask verbs of one scope, and both verbs come to their end while the body of
the scope is running. -/
def shared : List (Move 0) :=
  [.join (.transaction (.pool 0) fun inner => .perform ⟨inner, .execute, "first", .null⟩)
      ⟨rfl, fun _ => rfl⟩,
    .join (.perform ⟨.scope 0, .execute, "second", .null⟩) rfl] ++
    steps 0 0 12 ++ steps 0 1 4 ++ steps 0 0 6

theorem play_bracketed_shared :
    let fleet := play 0 (start 0 {}) shared
    let first : Demand := ⟨.scope 0, .execute, "first", .null⟩
    let second : Demand := ⟨.scope 0, .execute, "second", .null⟩
    (start 0 {}).isAttendedThroughout 0 shared = true ∧ fleet.Bracketed 0 ∧
      fleet.trail ⟨1⟩ = Connection.entry ⟨1⟩ 0 ++
        [.statement 0 first ⟨.prepare ⟨1⟩ "first" none, .ok ⟨1⟩⟩,
          .statement 1 second ⟨.prepare ⟨1⟩ "second" none, .ok ⟨1⟩⟩,
          .statement 1 second ⟨.execute ⟨1⟩ none, .ok ()⟩,
          .statement 0 first ⟨.execute ⟨1⟩ none, .ok ()⟩,
          .left 0 true, .exchange none ⟨.commit ⟨1⟩, .ok ()⟩,
          .exchange none ⟨.autocommit ⟨1⟩ true, .ok ()⟩] :=
  ⟨rfl, play_bracketed 0 {} shared rfl, rfl⟩

/-- A verb that is in flight when its scope ends is said after the bracket, on a connection
that is idle.  A transaction that is asked of the ended scope is refused, but not because
the scope has ended. -/
theorem play_overrun :
    let fleet := play 0 (start 0 {}) (latecomer ++ steps 0 1 1)
    let outside : Outside journal Unit :=
      { answer := fun request state => (Replies.smooth.answer request, state),
        reply := fun _ state => ((), state) }
    (fleet.world.scopes 0).active = false ∧ fleet.place ⟨1⟩ = .idle ∧
      fleet.trail ⟨1⟩ = Connection.entry ⟨1⟩ 0 ++
        [.left 0 true, .exchange none ⟨.commit ⟨1⟩, .ok ()⟩,
          .exchange none ⟨.autocommit ⟨1⟩ true, .ok ()⟩] ++
        [.statement 1 ⟨.scope 0, .execute, "late", .null⟩
          ⟨.prepare ⟨1⟩ "late" none, .ok ⟨1⟩⟩] ∧
      ¬ fleet.Bracketed 0 ∧
      (((Handle.scope 0).transaction fun _ => Routine.done ()).run outside fleet.world
        ()).outcome = .error Misuse.nestedTransaction.fault ∧
      Misuse.nestedTransaction.fault ≠ Misuse.scopeEnded.fault := by
  intro fleet outside
  have idle : fleet.place ⟨1⟩ = .idle := rfl
  refine ⟨rfl, idle, rfl, fun bracketed => ?_, rfl, ?_⟩
  · have wire := bracketed.wire ⟨1⟩ (by simp [idle])
    obtain ⟨demand, said, last⟩ := wire.last rfl
    cases last
  · simp [Misuse.fault, AdapterError.of, Misuse.message]

end Fleet

end Midrange
