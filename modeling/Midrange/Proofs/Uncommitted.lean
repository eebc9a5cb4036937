import Midrange.Proofs.Restoration
import Midrange.Proofs.Stock

/-!
# Transactions whose commit fails

The work of a transaction has returned, and the commit behind it fails.  The connection is
closed and comes back to no pool, and the session has its earlier connection back.  The fault
of the commit reaches the caller, unless the change back to automatic commit fails as well:
then that fault takes its place, and so does the cancellation of the close.
-/

namespace Midrange

namespace Pool

open Connection (tolerated concluded)

variable {α : Type} {connection : Connection} {fault : Fault} {restored : Except Fault Unit}

/-- The fault of a transaction whose commit failed, by the answers to the change back to
automatic commit and to the close. -/
def lost (fault : Fault) (restored closed : Except Fault Unit) : Fault :=
  match tolerated closed with
  | .error cancelled => cancelled
  | .ok () =>
      match restored with
      | .error later => later
      | .ok () => fault

/-- The fault of the commit is the one that reaches the caller if nothing fails behind it but
the close, and that is not cancelled. -/
theorem lost_of_restored {closed : Except Fault Unit} (handled : tolerated closed = .ok ()) :
    lost fault (.ok ()) closed = fault := by
  simp only [lost, handled]

theorem cleaned_lost (value : α) (closed : Except Fault Unit) :
    cleaned (.ok value) (.error fault) restored (some closed) =
      .error (lost fault restored closed) := by
  have given : Connection.closed (some closed) = tolerated closed := rfl
  rw [cleaned, given]
  unfold lost
  cases tolerated closed with
  | error cancelled => rfl
  | ok => cases restored <;> rfl

theorem concluded_lost (value : α) :
    (concluded (.ok value) (.error fault) restored).isOk = false := by
  cases restored <;> rfl

/-- A connection whose transaction failed is closed. -/
theorem GivenBack.of_failed {pool : Nat} {left final : World}
    {closing : Option (Except Fault Unit)}
    (back : GivenBack pool connection left false closing final) :
    ∃ closed, closing = some closed ∧ final = left := by
  cases back with
  | put served => cases served
  | closed answer => exact ⟨answer, rfl, rfl⟩

/-- Behind the work, a commit that failed is the one that ends the transaction. -/
theorem commit_mem_cleanup {returned : Bool} {answer : Except Fault Unit}
    {closing : Option (Except Fault Unit)}
    (member : ⟨.commit connection, .error fault⟩ ∈
      cleanup connection returned answer restored closing) :
    returned = true ∧ answer = .error fault := by
  cases returned with
  | true => cases closing <;> simpa [cleanup, returning, Connection.ending, eq_comm] using member
  | false => cases closing <;> simp [cleanup, returning, Connection.ending] at member

end Pool

/-- What is left of a transaction whose commit failed: the change back to automatic commit
and the close are all that is said behind the commit, the connection is idle in no pool, and
the session has its earlier connection, or none if the work closed it. -/
structure Uncommitted {σ α : Type} (number : Nat) (session : Session)
    (connection : Connection) (fault : Fault) (said : List Exchange)
    (run : Run diary σ (Option α)) : Prop where
  lost : ∃ restored closed,
    said = [⟨.commit connection, .error fault⟩, ⟨.autocommit connection true, restored⟩,
      ⟨.close connection, closed⟩] ∧
    run.outcome = .error (Pool.lost fault restored closed)
  passed : ⟨.autocommit connection true, .ok ()⟩ ∈ said →
    (∀ raised, ⟨.close connection, .error raised⟩ ∈ said → raised.isOrdinary = true) →
    run.outcome = .error fault
  gone : ∀ pool, connection ∉ (run.world.pools pool).idle
  kept : Unasked run.trace → run.world.sessions number = session
  closed : ¬Unasked run.trace →
    (run.world.sessions number).connection = none ∧
      (run.world.sessions number).prior = none ∧
      (run.world.sessions number).state = .disconnected

namespace Uncommitted

variable {σ α : Type} {number pool scope : Nat} {session : Session} {outside : Outside diary σ}
  {connection : Connection} {handle : Handle} {fault : Fault} {entered final : World} {last : σ}
  {before after : List (Entry diary)} {inner : Run diary σ (Option α)}
  {answer restored : Except Fault Unit} {closing : Option (Except Fault Unit)}

theorem ran (rests : session.AtRest) (connected : session.connection = some handle)
    (now : entered.sessions number = Session.enterScope (.scope scope) session)
    (keeps : Script.Kept number entered inner.world inner.trace)
    (stowed : Stowed [connection] inner.world)
    (unasked : Unasked before) (unasked' : Unasked after)
    (said : exchanges after =
      Pool.cleanup connection inner.outcome.isOk answer restored closing)
    (failed : ⟨.commit connection, .error fault⟩ ∈ exchanges after)
    (back : Pool.GivenBack pool connection (Session.outOfScope number scope inner.world)
      (Connection.concluded inner.outcome answer restored).isOk closing final) :
    Uncommitted number session connection fault (exchanges after)
      ⟨Pool.cleaned inner.outcome answer restored closing, final, last,
        before ++ inner.trace ++ after⟩ := by
  rw [said] at failed
  obtain ⟨returned, rfl⟩ := Pool.commit_mem_cleanup failed
  obtain ⟨value, ended⟩ : ∃ value, inner.outcome = .ok value := by
    cases ended : inner.outcome with
    | ok value => exact ⟨value, rfl⟩
    | error raised =>
        rw [ended] at returned
        cases returned
  rw [ended, Pool.concluded_lost] at back
  obtain ⟨closed, rfl, rfl⟩ := back.of_failed
  have whole : Unasked (before ++ inner.trace ++ after) ↔ Unasked inner.trace := by
    simp [unasked, unasked']
  have left : (Session.outOfScope number scope inner.world).sessions number =
      Session.leaveScope (inner.world.sessions number) := by
    simp [Session.outOfScope, World.changeScope]
  rw [Script.Kept, now] at keeps
  obtain ⟨stays, ends⟩ := keeps.leaveScope rests connected
  have calls : exchanges after = [⟨.commit connection, .error fault⟩,
      ⟨.autocommit connection true, restored⟩, ⟨.close connection, closed⟩] := by
    rw [said, ended]
    rfl
  have outcome : Pool.cleaned inner.outcome (.error fault) restored (some closed) =
      .error (Pool.lost fault restored closed) := by
    rw [ended]
    exact Pool.cleaned_lost value closed
  constructor
  · exact ⟨restored, closed, calls, outcome⟩
  · intro changed handled
    rw [calls] at changed handled
    obtain rfl : restored = .ok () := by
      simpa [eq_comm] using changed
    refine outcome.trans (congrArg _ (Pool.lost_of_restored ?_))
    cases closed with
    | ok => rfl
    | error raised => exact if_pos (handled raised (by simp))
  · intro pool member
    exact Option.some_ne_none pool
      (stowed.apart (some pool) none connection member List.mem_cons_self)
  · intro unclosed
    exact left.trans (stays (whole.mp unclosed))
  · intro asked
    rw [left, ends (mt whole.mpr asked)]
    exact ⟨rfl, rfl, rfl⟩

end Uncommitted

/-- How a transaction ran, and what became of it if its commit failed. -/
inductive Committing {σ α : Type} (number : Nat) (session : Session)
    (work : Option (Script (Outcome α))) (outside : Outside diary σ)
    (run : Run diary σ (Option α)) : Prop where
  /-- It failed before it began, and the work did not run. -/
  | refused (fault : Fault) :
      run.outcome = .error fault →
      Unasked run.trace → Pool.Refuses (exchanges run.trace) →
      Committing number session work outside run
  /-- The work ran once.  If it returned it is committed, and that may fail. -/
  | ran (connection : Connection) (scope : Nat) (entered : World) (state : σ)
      (before after : List (Entry diary)) (inner : Run diary σ (Option α)) :
      entered.sessions number = Session.enterScope (.scope scope) session →
      inner = (Session.workValue (work.map (Script.routine number))).run outside entered
        state →
      run.trace = before ++ inner.trace ++ after →
      Unasked before → Unasked after →
      ⟨.autocommit connection false, .ok ()⟩ ∈ exchanges before →
      (inner.outcome.isOk = true → ∃ answer, ⟨.commit connection, answer⟩ ∈ exchanges after) →
      (∀ fault, ⟨.commit connection, .error fault⟩ ∈ exchanges after →
        Uncommitted number session connection fault (exchanges after) run) →
      Committing number session work outside run

namespace Session

variable {σ α : Type} {number pool : Nat} {world : World}

/-- The fault of a commit reaches the caller of its transaction, unless it is lost to a later
one: `Pool.lost` tells which.  The session and the pools are as after any transaction that
failed. -/
theorem transaction_uncommitted (sound : (world.sessions number).Sound)
    (idle : (world.sessions number).isInTransaction = false)
    (connected : (world.sessions number).connection = some (.pool pool))
    (stowed : Stowed [] world) (work : Option (Script (Outcome α)))
    (outside : Outside diary σ) (state : σ) :
    Committing number (world.sessions number) work outside
      ((transaction number (work.map (Script.routine number))).run outside world state) := by
  have rests := sound.atRest idle
  have reaches : (transaction number (work.map (Script.routine number))).Reaches outside
      (fun outcome final last trace => Committing number (world.sessions number) work outside
        ⟨outcome, final, last, trace⟩) world state := by
    apply transaction_runs_pool connected idle
    · intro fault last trace unasked refuses _
      exact .refused fault rfl unasked refuses
    · intro connection opened fault last trace _ unasked refuses _
      exact .refused fault rfl unasked refuses
    intro connection opened state before opening out unasked _ began
    have given {routine : Routine diary (Outcome α)}
        (some' : work.map (Script.routine number) = some routine) :
        ∃ script : Script (Outcome α), routine = script.routine number := by
      obtain ⟨script, -, rfl⟩ := Option.map_eq_some_iff.mp some'
      exact ⟨script, rfl⟩
    have keeps : (workValue (work.map (Script.routine number))).Follows
        (Script.Kept number) := by
      refine workValue_follows fun routine some' => ?_
      obtain ⟨script, rfl⟩ := given some'
      exact Script.routine_keeps number script
    have restows : (workValue (work.map (Script.routine number))).Restows := by
      refine workValue_follows fun routine some' => ?_
      obtain ⟨script, rfl⟩ := given some'
      exact Script.routine_restows number script
    have now : (inScope number pool connection opened).sessions number =
        enterScope (.scope opened.scopeCount) (world.sessions number) := by
      rw [inScope, World.changeSession_self]
      exact congrArg _ (congrFun out.sessions number)
    have used : Stowed [connection] (inScope number pool connection opened) :=
      (stowed.checkedOut out).of_eq rfl rfl
    have goes := keeps.reaches outside (inScope number pool connection opened) state
    have apart := restows.reaches outside (inScope number pool connection opened) state _ used
    have off : ⟨.autocommit connection false, .ok ()⟩ ∈ exchanges before := by
      simp [began]
    intro answer restored closing final last after back unasked' said
    refine .ran connection opened.scopeCount _ state before after _ now rfl rfl unasked
      unasked' off ?_ ?_
    · intro returned
      refine ⟨answer, ?_⟩
      rw [said, returned]
      exact List.mem_cons_self
    · intro fault failed
      exact .ran rests connected now goes apart unasked unasked' said failed back
  exact reaches

theorem connectedWorld_stowed : Stowed [] connectedWorld :=
  Stowed.start.of_eq rfl rfl

/-- The commit fails, and so does the change back to automatic commit: the caller is not told
of the first fault. -/
theorem transaction_uncommitted_rehearsed :
    let fault : Fault := .outside .runtime "commit failed"
    let later : Fault := .outside .runtime "autocommit failed"
    let rehearsal := Rehearsal.arm "autocommit" later 1 1 (Rehearsal.arm "commit" fault 0 1 {})
    let work : Option (Script (Outcome Unit)) := some (.done (.plain ()))
    let run := (transaction 0 (work.map (Script.routine 0))).run rehearsed connectedWorld
      rehearsal
    (connectedWorld.sessions 0).Sound ∧
      (connectedWorld.sessions 0).isInTransaction = false ∧
      (connectedWorld.sessions 0).connection = some (.pool 0) ∧ Stowed [] connectedWorld ∧
      Committing 0 (connectedWorld.sessions 0) work rehearsed run ∧
      ⟨.commit ⟨1⟩, .error fault⟩ ∈ exchanges run.trace ∧ run.outcome = .error later := by
  intro fault later rehearsal work run
  have said : exchanges run.trace = [⟨.locate, .ok true⟩, ⟨.connect "", .ok ()⟩,
      ⟨.autocommit ⟨1⟩ false, .ok ()⟩, ⟨.commit ⟨1⟩, .error fault⟩,
      ⟨.autocommit ⟨1⟩ true, .error later⟩, ⟨.close ⟨1⟩, .ok ()⟩] := rfl
  refine ⟨connectedWorld_sound 0, rfl, rfl, connectedWorld_stowed,
    transaction_uncommitted (connectedWorld_sound 0) rfl rfl connectedWorld_stowed work
      rehearsed rehearsal, ?_, rfl⟩
  rw [said]
  simp

end Session

end Midrange
