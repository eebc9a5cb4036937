import Midrange.Proofs.Custody.Pool

/-!
# Custody of clients

Every client of a pool keeps custody, whatever it does with its handles: a verb of the
pool makes a block of its own, a transaction makes a block around the statements of its
scope, and a verb of a scope is said whoever holds the connection.
-/

namespace Midrange

namespace Hand

variable {hand after : Hand} {connection : Connection} {scope : Nat}

theorem advances_note (demand : Option Demand) : hand.Advances (hand.note demand) :=
  ⟨rfl, rfl, rfl, rfl, quiet_of_silent rfl⟩

/-- A scope begins on a connection that was not in hand. -/
theorem Steady.enter (steady : hand.Steady) (free : hand.held connection = none)
    (leaving : after.leaving = hand.leaving)
    (held : after.held = Function.update hand.held connection (some (.running scope)))
    (scopes : after.scopes = Function.update hand.scopes scope (some connection))
    (quiet : after.Quiet) : after.Steady where
  leaving := leaving.trans steady.leaving
  running := by
    intro inner other running
    by_cases same : inner = scope
    · obtain rfl : connection = other := by simpa [scopes, same] using running
      simp [held, same]
    · have running' : hand.scopes inner = some other := by
        simpa [scopes, same] using running
      have different : other ≠ connection := by
        rintro rfl
        exact steady.unscoped free inner running'
      simpa [held, different] using steady.running inner other running'
  quiet := quiet

end Hand

/-! ## Verbs -/

variable {pool : Nat} {hand : Hand} {demand : Demand}

theorem Pool.perform_keeps (steady : hand.Steady) (calm : hand.Calm)
    (marked : hand.pen.demand = some demand) (own : demand.handle = .pool pool) :
    (Pool.perform pool demand.verb demand.sql demand.bindings :
      Routine journal demand.verb.Answer).Keeps pool
      (fun _ after => hand.Advances after) hand := by
  refine withConnection_keeps calm (fun _ => .refl steady.quiet) fun connection free => ?_
  have unscoped : hand.Unscoped connection := steady.unscoped free
  rw [Routine.bind_eq, Routine.keeps_bind]
  apply Routine.keeps_look (calm.hold connection (.said [])).silent
  intro world _
  rw [Routine.ends_ok]
  have speaks : (connection.perform (world.pools pool).timeout demand.sql demand.bindings
      demand.verb : Routine journal demand.verb.Answer).Speaks connection
      (fun _ past outcome => VerbCalls connection demand.sql demand.bindings
        demand.verb outcome.isOk past) hand.pen.made [] :=
    Connection.perform_speaks fun _ _ _ said => said
  have spoken {outcome : Except Fault demand.verb.Answer} {past : List Exchange}
      (said : VerbCalls connection demand.sql demand.bindings demand.verb outcome.isOk past) :
      Block pool connection outcome.isOk
        ([] ++ past.map (.exchange (hand.hold connection (.said [])).pen.demand)) := by
    rw [Hand.hold_pen, marked]
    exact .verb (.verb own said)
  refine speaks.keeps (calm.hold _ _) (by simp) rfl unscoped
    (fun _ _ _ said => (spoken said).started) ?_
  intro made past outcome said
  refine ⟨_, (calm.hold _ _).say _ _ _, Function.update_self _ _ _, spoken said, unscoped, ?_⟩
  exact ⟨rfl, rfl, rfl, by simp [← free], steady.quiet⟩

/-- A verb of a scope is refused after the end of the scope, and before it is said with
nothing in hand but the speech. -/
theorem Handle.performInScope_keeps {scope : Nat} (silent : hand.speech = none)
    (marked : hand.pen.demand = some demand) (own : demand.handle = .scope scope) :
    (performInScope scope demand.verb demand.sql demand.bindings :
      Routine journal demand.verb.Answer).Keeps pool
      (fun _ after => hand.Advances after) hand := by
  rw [performInScope, Routine.bind_eq, Routine.keeps_bind]
  refine ⟨silent, fun world fits => ?_⟩
  by_cases active : (world.scopes scope).active = true
  · refine ⟨_, .heed marked own (fits.given scope active), ?_⟩
    rw [Routine.keeps_done, Routine.ends_ok, if_pos active]
    let speech : Speech := ⟨demand, scope, (world.scopes scope).connection, []⟩
    have speaks : (speech.connection.perform (world.scopes scope).timeout
        demand.sql demand.bindings demand.verb :
        Routine journal demand.verb.Answer).Speaks speech.connection
        (fun _ past outcome => VerbCalls speech.connection demand.sql
          demand.bindings demand.verb outcome.isOk past) hand.pen.made speech.past :=
      Connection.perform_speaks fun _ _ _ said => said
    refine speaks.keeps_speech rfl rfl ?_ ?_
    · intro made past outcome said
      exact ⟨own, _, said⟩
    · intro made past outcome said
      refine ⟨rfl, rfl, rfl, rfl, ?_⟩
      rintro _ ⟨⟩
      exact ⟨own, _, said⟩
  · refine ⟨hand, .look, ?_⟩
    rw [Routine.keeps_done, Routine.ends_ok, if_neg active, Routine.refuse,
      Routine.keeps_fail]
    exact .refl (Hand.quiet_of_silent silent)

/-! ## Transactions -/

variable {α : Type}

/-- The body of a transaction runs while its scope does, and the statements of the scope
and the mark of its end make the block of the connection. -/
theorem Client.inScope_keeps {scope : Nat} {connection : Connection} {inner : Hand}
    {body : Routine journal α} {post : Except Fault α → Hand → Prop}
    (quiet : hand.Quiet) (own : hand.scopes scope = some connection)
    (held : hand.held connection = some (.entering scope))
    (enters : inner = (hand.hold connection (.running scope)).note none)
    (runs : body.Keeps pool (fun _ after => inner.Advances after) inner)
    (holds : ∀ after statements outcome, inner.Advances after →
      Statements scope connection statements →
      post outcome ((after.hold connection (.said
        (connection.entry scope ++ statements ++ [.left scope outcome.isOk]))).note none)) :
    (Client.inScope (.scope scope) body).Keeps pool post hand := by
  subst enters
  refine ⟨quiet, connection, own, held, ?_⟩
  change ((body.attempt).bind fun outcome => (Client.note _).bind fun _ =>
    Routine.ofExcept outcome).Keeps pool post _
  rw [Routine.keeps_bind, Routine.keeps_attempt]
  apply runs.mono
  intro outcome after advances
  have running : after.scopes scope = some connection := by
    rw [advances.scopes]
    exact own
  have entered : after.held connection = some (.running scope) := by
    simp [advances.held]
  refine ⟨advances.quiet, connection, running, entered, fun statements said => ?_⟩
  exact Routine.keeps_ofExcept.mpr (holds after statements outcome advances said)

/-- The end of a transaction: a commit or a rollback, and automatic commit. -/
theorem Connection.conclude_keeps {connection : Connection} {block : List Signal}
    {outcome : Except Fault α} {post : Except Fault α → Hand → Prop}
    (calm : hand.Calm) (unmarked : hand.pen.demand = none)
    (held : hand.held connection = some (.said block))
    (unscoped : hand.Unscoped connection)
    (starts : ∀ ended restored, Started pool connection
      (block ++ [.exchange none (connection.ending outcome.isOk ended),
        .exchange none ⟨.autocommit connection true, restored⟩]))
    (holds : ∀ made ended restored result,
      result.isOk = (outcome.isOk && ended.isOk && restored.isOk) →
      post result (hand.say connection
        (block ++ [.exchange none (connection.ending outcome.isOk ended),
          .exchange none ⟨.autocommit connection true, restored⟩]) made)) :
    (connection.conclude outcome : Routine journal α).Keeps pool post hand := by
  cases outcome with
  | ok value =>
      apply Routine.keeps_bind.mpr
      have speaks : (connection.commit : Routine journal Unit).Speaks connection
          (fun _ past result => ∃ ended restored,
            past = [⟨.commit connection, ended⟩,
              ⟨.autocommit connection true, restored⟩] ∧
            result = Connection.finished ended restored) hand.pen.made [] :=
        Connection.commit_speaks fun ended restored => ⟨ended, restored, rfl, rfl⟩
      apply speaks.keeps calm (by simpa using held) rfl unscoped
      · rintro _ _ _ ⟨ended, restored, rfl, _⟩
        rw [unmarked]
        exact starts ended restored
      · rintro made _ _ ⟨ended, restored, rfl, rfl⟩
        rw [unmarked]
        have rest := holds made ended restored
        cases ended <;> cases restored <;> exact rest _ rfl
  | error fault =>
      refine Routine.keeps_bind.mpr (Connection.tolerate_keeps ?_)
      have speaks : (connection.rollback : Routine journal Unit).Speaks connection
          (fun _ past _ => ∃ ended restored,
            past = [⟨.rollback connection, ended⟩,
              ⟨.autocommit connection true, restored⟩]) hand.pen.made [] :=
        Connection.rollback_speaks fun ended restored => ⟨ended, restored, rfl⟩
      apply speaks.keeps calm (by simpa using held) rfl unscoped
      · rintro _ _ _ ⟨ended, restored, rfl⟩
        rw [unmarked]
        exact starts ended restored
      · rintro made _ result ⟨ended, restored, rfl⟩
        rw [unmarked]
        have rest (raised : Fault) := holds made ended restored (.error raised) rfl
        refine ⟨calm.silent, ?_⟩
        cases Connection.tolerated result with
        | ok => exact rest fault
        | error raised => exact rest raised

/-- The scope of a transaction and its end make a block of the connection. -/
theorem Pool.scope_keeps {scope : Nat} {connection : Connection}
    {body : Routine journal α} {made : Made} (steady : hand.Steady)
    (free : hand.held connection = none)
    (unborn : hand.scopes scope = none)
    (runs : ∀ inner : Hand, inner.Steady →
      body.Keeps pool (fun _ after => inner.Advances after) inner) :
    (do
      let outcome ← (Client.inScope (.scope scope) body).attempt
      Routine.modify (World.changeScope · scope fun scope =>
        { scope with active := false })
      connection.conclude outcome : Routine journal α).Keeps pool
      (fun outcome after => ∃ block, after.Calm ∧ after.held connection = some (.said block) ∧
        Block pool connection outcome.isOk block ∧ after.Unscoped connection ∧
        hand.Advances (after.release connection))
      (((hand.say connection [connection.outset (.ok ())] made).hold connection
        (.entering scope)).mind scope (some connection)) := by
  have own : (((hand.say connection [connection.outset (.ok ())] made).hold connection
      (.entering scope)).mind scope (some connection)).scopes scope = some connection := by
    simp
  have held : (((hand.say connection [connection.outset (.ok ())] made).hold connection
      (.entering scope)).mind scope (some connection)).held connection =
        some (.entering scope) := by
    simp
  have used {statements : List Signal} (outcome : Except Fault α)
      (ended restored : Except Fault Unit)
      (said : Statements scope connection statements) :
      Block pool connection (outcome.isOk && ended.isOk && restored.isOk)
        (connection.entry scope ++ statements ++ [.left scope outcome.isOk] ++
          [.exchange none (connection.ending outcome.isOk ended),
            .exchange none ⟨.autocommit connection true, restored⟩]) := by
    rw [List.append_assoc]
    exact .transaction scope outcome.isOk ended restored said
  rw [Routine.bind_eq, Routine.keeps_bind, Routine.keeps_attempt]
  apply Client.inScope_keeps (by exact steady.quiet) own held rfl
  · exact runs _ (steady.enter free rfl (by simp) rfl (Hand.quiet_of_silent rfl))
  · intro after statements outcome advances said
    have scopes : after.scopes = Function.update hand.scopes scope (some connection) :=
      advances.scopes
    have unscoped (other : Nat) :
        Function.update after.scopes scope none other ≠ some connection := by
      intro running
      by_cases same : other = scope
      · simp [same] at running
      · exact steady.unscoped free other (by simpa [same, scopes] using running)
    have running : after.scopes scope = some connection := by simp [scopes]
    have left : ((after.hold connection (.said (connection.entry scope ++ statements ++
        [.left scope outcome.isOk]))).note none).held connection =
          some (.said (connection.entry scope ++ statements ++
            [.left scope outcome.isOk])) := by
      simp
    rw [Routine.ends_ok, Routine.bind_eq, Routine.keeps_bind]
    refine ⟨rfl, fun world _ => ⟨_, .leave running left, ?_⟩⟩
    apply Connection.conclude_keeps
    · exact ⟨rfl, rfl⟩
    · rfl
    · exact left
    · exact unscoped
    · intro ended restored
      exact (used outcome ended restored said).started
    · intro made ended restored result same
      refine ⟨_, ⟨rfl, rfl⟩, Function.update_self _ _ _, ?_, unscoped, ?_⟩
      · rw [same]
        exact used outcome ended restored said
      · refine ⟨advances.arriving, advances.leaving, ?_, ?_, Hand.quiet_of_silent rfl⟩
        · simp [scopes, ← unborn]
        · simp [advances.held, ← free]

/-- A transaction keeps custody if the body keeps it in any scope. -/
theorem Pool.transaction_keeps {body : Handle → Routine journal α}
    (steady : hand.Steady) (calm : hand.Calm) (unmarked : hand.pen.demand = none)
    (runs : ∀ scope (inner : Hand), inner.Steady →
      (body (.scope scope)).Keeps pool (fun _ after => inner.Advances after) inner) :
    (Pool.transaction pool fun inner => Client.inScope inner (body inner)).Keeps pool
      (fun _ after => hand.Advances after) hand := by
  refine withConnection_keeps calm (fun _ => .refl steady.quiet) fun connection free => ?_
  have unscoped : hand.Unscoped connection := steady.unscoped free
  have begins : (connection.begin : Routine journal Unit).Speaks connection
      (fun _ past outcome => past = [⟨.autocommit connection false, outcome⟩])
      hand.pen.made [] :=
    Connection.begin_speaks fun _ => rfl
  rw [Routine.bind_eq, Routine.keeps_bind]
  have signals (answer : Except Fault Unit) :
      [] ++ [⟨.autocommit connection false, answer⟩].map
        (.exchange (hand.hold connection (.said [])).pen.demand) =
          [connection.outset answer] := by
    simp [unmarked]
  have starts (past : List Exchange) (answer : Except Fault Unit)
      (said : past = [⟨.autocommit connection false, answer⟩]) :
      Started pool connection
        ([] ++ past.map (.exchange (hand.hold connection (.said [])).pen.demand)) := by
    rw [said, signals]
    exact started_outset answer
  refine begins.keeps (calm.hold _ _) (by simp) rfl unscoped (fun _ => starts) ?_
  rintro made _ answer rfl
  have said : (hand.hold connection (.said [])).say connection
      [connection.outset answer] made =
      hand.say connection [connection.outset answer] made := by
    simp [Hand.say]
  rw [signals, said]
  cases answer with
  | error fault =>
      refine ⟨_, calm.say _ _ _, by simp, .refused fault, unscoped, ?_⟩
      exact ⟨rfl, rfl, rfl, by simp [← free], steady.quiet⟩
  | ok =>
      rw [Routine.ends_ok, Routine.bind_eq, Routine.keeps_bind]
      have held : (hand.say connection [connection.outset (.ok ())] made).held connection =
          some (.said [connection.outset (.ok ())]) := by simp
      refine Routine.keeps_atomic calm.silent fun world fits =>
        ⟨_, .enter _ held unscoped, ?_⟩
      exact scope_keeps steady free fits.unborn (runs world.scopeCount)

theorem Pool.close_keeps (steady : hand.Steady) (calm : hand.Calm) :
    (Pool.close pool : Routine journal Unit).Keeps pool
      (fun _ after => hand.Advances after) hand := by
  rw [Pool.close, Routine.bind_eq, Routine.keeps_bind]
  refine Routine.keeps_atomic calm.silent fun world _ => ⟨_, .shut steady.leaving, ?_⟩
  exact Connection.forM_closeQuietly_keeps ⟨calm.silent, calm.unscoped⟩ rfl
    ⟨rfl, steady.leaving.symm, rfl, rfl, steady.quiet⟩

/-! ## Clients -/

theorem Client.note_keeps {entry : Note} {rest : Routine journal α}
    {post : Except Fault α → Hand → Prop} :
    ((note entry).bind fun _ => rest).Keeps pool post hand ↔
      hand.Quiet ∧ hand.Writes (fun after => rest.Keeps pool post after) entry := Iff.rfl

theorem Routine.Keeps.after_advancing {routine : Routine journal α} {now : Hand}
    (steady : hand.Steady) (advances : hand.Advances now)
    (keeps : now.Steady →
      routine.Keeps pool (fun _ after => now.Advances after) now) :
    routine.Keeps pool (fun _ after => hand.Advances after) now :=
  (keeps (advances.steady steady)).mono fun _ _ later => advances.trans later

/-- Every client of a pool keeps custody. -/
theorem Client.keeps (client : Client α) (within : client.Within pool) {hand : Hand}
    (steady : hand.Steady) :
    client.routine.Keeps pool (fun _ after => hand.Advances after) hand := by
  induction client generalizing hand with
  | done value => exact .refl steady.quiet
  | fail fault => exact .refl steady.quiet
  | bind first second firstKeeps secondKeeps =>
      rw [routine, Routine.bind_eq, Routine.keeps_bind]
      refine (firstKeeps within.1 steady).mono fun outcome middle advances => ?_
      cases outcome with
      | error fault => exact advances
      | ok value =>
          exact .after_advancing steady advances fun steady =>
            secondKeeps value (within.2 value) steady
  | attempt client keeps => exact Routine.keeps_attempt.mpr (keeps within steady)
  | perform demand =>
      obtain ⟨handle, verb, sql, bindings⟩ := demand
      rw [routine, Routine.bind_eq, note_keeps]
      refine ⟨steady.quiet, .after_advancing steady (Hand.advances_note _) fun steady => ?_⟩
      cases handle with
      | pool number =>
          obtain rfl : number = pool := of_decide_eq_true within
          exact Pool.perform_keeps steady ⟨rfl, rfl⟩ rfl rfl
      | scope number => exact Handle.performInScope_keeps rfl rfl rfl
      | guest number dedicated => cases within
  | transaction handle body keeps =>
      rw [routine, Routine.bind_eq, note_keeps]
      refine ⟨steady.quiet, .after_advancing steady (Hand.advances_note _) fun steady => ?_⟩
      cases handle with
      | pool number =>
          obtain rfl : number = pool := of_decide_eq_true within.1
          rw [Handle.transaction]
          exact Pool.transaction_keeps steady ⟨rfl, rfl⟩ rfl fun scope inner steady =>
            keeps (.scope scope) (within.2 scope) steady
      | scope number => exact .refl steady.quiet
      | guest number dedicated => cases within.1
  | close handle =>
      rw [routine, Routine.bind_eq, note_keeps]
      refine ⟨steady.quiet, .after_advancing steady (Hand.advances_note _) fun steady => ?_⟩
      cases handle with
      | pool number =>
          obtain rfl : number = pool := of_decide_eq_true within
          exact Pool.close_keeps steady ⟨rfl, rfl⟩
      | scope number => exact .refl steady.quiet
      | guest number dedicated => cases within

end Midrange
