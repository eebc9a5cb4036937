import Midrange.Proofs.Office.Tenure

/-!
# Clients that serve

Every client executes statements only on connections that it holds, whatever it does with
its handles and whatever the calls are answered.  An insert that returns has executed one
statement, and then it has read the identity on the same connection.
-/

namespace Midrange

variable {α : Type} {tenure : Tenure} {connection : Connection}

/-! ## Verbs -/

/-- The value of an insert is an identity of its own. -/
def Verb.Confirms : (verb : Verb) → verb.Answer → List Generated → Prop
  | .insert, value, born => Midrange.Confirms value born
  | _, _, _ => True

namespace Connection

theorem run_serves {timeout : Option Int} {sql : String} {bindings : Value}
    {post : Except Fault Statement → Tenure → Prop} (holds : tenure.Holds connection)
    (new : tenure.marks.born = [])
    (fails : ∀ fault after, after.hand = tenure.hand → post (.error fault) after)
    (returns : ∀ statement generated after, after.hand = tenure.hand →
      after.marks.born = [generated] →
      (∀ row, generated = some row → after.known connection = some row) →
      post (.ok statement) after) :
    (connection.run timeout sql bindings : Routine memos Statement).Serves post tenure := by
  rw [run, Routine.bind_eq, Routine.serves_bind, Routine.serves_drive]
  refine ⟨trivial, fun answer generated _ => ?_⟩
  cases answer with
  | error fault => exact fails fault _ rfl
  | ok statement =>
      have executes (parameters : Option (List Value)) :
          ((Routine.drive (.execute statement parameters)).bind fun _ =>
            .done statement : Routine memos Statement).Serves post
            (tenure.hear generated (.prepare connection sql (timeout.filter (· != 0)))
              (.ok statement)) := by
        rw [Routine.serves_bind, Routine.serves_drive]
        constructor
        · intro other made
          have same : connection = other := by
            simpa [Tenure.hear, Marks.after, DriverCall.madeAfter, Made.connection?] using made
          exact same ▸ holds
        intro answer generated _
        cases answer with
        | error fault => exact fails fault _ rfl
        | ok =>
            rw [Routine.ends_ok, Routine.serves_done]
            refine returns statement generated _ rfl ?_ ?_
            · simp [Tenure.hear, Marks.after, DriverCall.bornAfter, new]
            · rintro row rfl
              simp [Tenure.hear, Marks.after, DriverCall.madeAfter,
                DriverCall.identitiesAfter, Made.connection?]
      rw [Routine.ends_ok]
      by_cases bound : bindings.isTrue = true
      · simp only [bound, if_true]
        cases bindings.items? with
        | none => exact fails _ _ rfl
        | some items => exact executes (some items)
      · simp only [bound]
        exact executes none

theorem fetchRows_serves (statement : Statement) (limit : Nat) :
    (fetchRows statement limit : Routine memos (List Row)).Serves
      (fun _ after => after.hand = tenure.hand) tenure := by
  induction limit generalizing tenure with
  | zero => rfl
  | succ limit induction =>
      rw [fetchRows, Routine.bind_eq, Routine.serves_bind, Routine.serves_drive]
      refine ⟨trivial, fun answer generated _ => ?_⟩
      cases answer with
      | error fault => rfl
      | ok fetched =>
          cases fetched with
          | none => rfl
          | some row =>
              rw [Routine.ends_ok]
              by_cases empty : row.isEmpty = true
              · simp only [empty, if_true]
                rfl
              · simp only [empty, Bool.false_eq_true, if_false, Routine.bind_eq,
                  Routine.serves_bind]
                apply induction.mono
                intro outcome after same
                cases outcome <;> exact same

theorem perform_supplies {timeout : Option Int} {sql : String} {bindings : Value} {verb : Verb}
    (holds : tenure.Holds connection) (new : tenure.marks.born = []) :
    (connection.perform timeout sql bindings verb : Routine memos verb.Answer).Supplies
      verb.Confirms tenure := by
  have fails {β : Type} (confirms : β → List Generated → Prop) (fault : Fault)
      (after : Tenure) (same : after.hand = tenure.hand) :
      tenure.Within after ∧ ∀ value, (.error fault : Except Fault β) = .ok value →
        confirms value after.marks.born :=
    ⟨.of_hand same, nofun⟩
  cases verb with
  | query =>
      rw [Routine.Supplies, perform, Routine.bind_eq, Routine.serves_bind]
      apply run_serves holds new (fails _)
      intro statement _ after same _ _
      rw [Routine.ends_ok, Routine.bind_eq, Routine.serves_bind]
      apply (fetchRows_serves statement rowLimit).mono
      intro outcome last same'
      cases outcome with
      | error fault => exact fails _ fault last (same'.trans same)
      | ok rows => exact ⟨.of_hand (same'.trans same), fun _ _ => trivial⟩
  | update =>
      rw [Routine.Supplies, perform, Routine.bind_eq, Routine.serves_bind]
      apply run_serves holds new (fails _)
      intro statement _ after same _ _
      refine Routine.serves_drive.mpr ⟨trivial, fun _ _ _ => ?_⟩
      exact ⟨.of_hand same, fun _ _ => trivial⟩
  | execute =>
      rw [Routine.Supplies, perform, Routine.bind_eq, Routine.serves_bind]
      apply run_serves holds new (fails _)
      intro statement _ after same _ _
      exact ⟨.of_hand same, fun _ _ => trivial⟩
  | insert =>
      rw [Routine.Supplies, perform, Routine.bind_eq, Routine.serves_bind]
      apply run_serves holds new (fails _)
      intro statement generated after same born known
      rw [Routine.ends_ok, Routine.bind_eq, Routine.serves_bind, Routine.serves_drive]
      refine ⟨trivial, fun answer _ _ => ?_⟩
      cases answer with
      | error fault => exact fails _ fault _ same
      | ok inquiry =>
          rw [Routine.ends_ok, Routine.bind_eq, Routine.serves_bind, Routine.serves_drive]
          refine ⟨trivial, fun answer _ trusts => ?_⟩
          cases answer with
          | error fault => exact fails _ fault _ same
          | ok row =>
              refine ⟨.of_hand same, ?_⟩
              rintro _ ⟨⟩
              refine ⟨generated, born, fun own given => ?_⟩
              -- The connection is still held, so its identity is the one of the insert.
              have holds' : after.Holds connection := by
                rw [Tenure.Holds, same]
                exact holds
              have answered := trusts connection own
                (by simp [Tenure.hear, Marks.after, DriverCall.inquiryAfter, Made.connection?])
                holds' (known own given)
              rw [answered]

end Connection

/-! ## Closing, beginning and ending -/

namespace Connection

theorem tolerate_serves {event : String → Event} {routine : Routine memos Unit}
    {post : Tenure → Prop} (serves : routine.Serves (fun _ after => post after) tenure) :
    (tolerate event routine).Serves (fun _ after => post after) tenure := by
  rw [tolerate, Routine.bind_eq, Routine.serves_bind, Routine.serves_attempt]
  apply serves.mono
  intro outcome after holds
  cases outcome with
  | ok => exact holds
  | error fault =>
      rw [Routine.ends_ok]
      by_cases ordinary : fault.isOrdinary = true
      · simpa [ordinary, Routine.report, Routine.Serves] using holds
      · simpa [ordinary] using holds

theorem closeQuietly_leaves :
    (connection.closeQuietly : Routine memos Unit).Leaves tenure :=
  tolerate_serves (Routine.serves_quiet (.close connection) rfl fun _ => rfl)

theorem forM_closeQuietly_leaves (connections : List Connection) :
    (connections.forM closeQuietly : Routine memos PUnit).Leaves tenure := by
  induction connections with
  | nil => rfl
  | cons connection connections induction =>
      refine Routine.serves_bind.mpr (closeQuietly_leaves.mono ?_)
      rintro outcome after rfl
      cases outcome with
      | ok => exact induction
      | error fault => rfl

theorem finish_leaves {request : DriverCall} (quiet : request.isQuiet = true) :
    (connection.finish request : Routine memos Unit).Leaves tenure := by
  rw [Routine.Leaves, finish, Routine.bind_eq, Routine.serves_bind, Routine.serves_attempt]
  apply Routine.serves_quiet request quiet
  intro answer
  rw [Routine.ends_ok, Routine.bind_eq, Routine.serves_bind]
  apply Routine.serves_quiet (.autocommit connection true) rfl
  intro restored
  cases restored with
  | error fault => rfl
  | ok => exact Routine.serves_ofExcept.mpr rfl

theorem conclude_leaves (outcome : Except Fault α) :
    (connection.conclude outcome : Routine memos α).Leaves tenure := by
  cases outcome with
  | ok value =>
      have commits : (connection.commit : Routine memos Unit).Leaves tenure :=
        finish_leaves rfl
      refine Routine.serves_bind.mpr (commits.mono ?_)
      rintro outcome after rfl
      cases outcome <;> rfl
  | error fault =>
      have rolls : (connection.rollbackQuietly : Routine memos Unit).Leaves tenure :=
        tolerate_serves (finish_leaves rfl)
      refine Routine.serves_bind.mpr (rolls.mono ?_)
      rintro outcome after rfl
      cases outcome <;> rfl

end Connection

/-! ## Uses of a connection -/

namespace Pool

variable {number : Nat}

theorem checkout_serves {post : Except Fault Connection → Tenure → Prop}
    (fails : ∀ fault, post (.error fault) tenure)
    (takes : ∀ connection, ¬tenure.Holds connection → tenure.hand.Unscoped connection →
      post (.ok connection) (tenure.hold connection)) :
    (checkout number : Routine memos Connection).Serves post tenure := by
  have opens : (openConnection number : Routine memos Connection).Serves post tenure := by
    rw [openConnection, Routine.bind_eq, Routine.serves_bind]
    apply Routine.serves_quiet .locate rfl
    intro located
    match located with
    | .error fault => exact fails fault
    | .ok false => exact fails _
    | .ok true =>
        rw [Routine.ends_ok, if_pos rfl, Routine.bind_eq, Routine.serves_bind]
        apply Routine.serves_look
        intro world _
        rw [Routine.ends_ok, Routine.bind_eq, Routine.serves_bind]
        apply Routine.serves_quiet (.connect _) rfl
        intro answer
        cases answer with
        | error fault => exact fails fault
        | ok =>
            intro world fits
            exact ⟨_, .opened, takes _ fits.fresh (fits.unscoped fits.fresh)⟩
  rw [checkout, Routine.bind_eq, Routine.serves_bind]
  intro world fits
  by_cases closed : (world.pools number).closed = true
  · refine ⟨tenure, .other ?_ ?_ ?_ ?_, ?_⟩ <;> try simp [takeIdle, closed]
    exact fails _
  · cases idle : (world.pools number).idle with
    | nil =>
        refine ⟨tenure, .other ?_ ?_ ?_ ?_, ?_⟩ <;> try simp [takeIdle, closed, idle]
        exact opens
    | cons connection rest =>
        have free : ¬tenure.Holds connection :=
          fits.idle number connection (by simp [Fleet.idle, idle])
        refine ⟨tenure.hold connection, ?_, ?_⟩
        · simpa [takeIdle, closed, idle] using Tenure.Changes.take idle
        · simpa [takeIdle, closed, idle] using takes connection free (fits.unscoped free)

theorem checkin_serves (holds : tenure.Holds connection)
    (unscoped : tenure.hand.Unscoped connection) :
    (checkin number connection : Routine memos Unit).Serves
      (fun _ after => after = tenure ∨ after = tenure.release connection) tenure := by
  rw [checkin, Routine.bind_eq, Routine.serves_bind]
  intro world _
  by_cases room : !(world.pools number).closed &&
      decide (((world.pools number).idle.length : Int) < (world.pools number).maxIdle)
  · refine ⟨tenure.release connection, ?_, ?_⟩
    · simpa [putIdle, room] using Tenure.Changes.put number holds unscoped
    · simp [putIdle, room]
  · refine ⟨tenure, .other ?_ ?_ ?_ ?_, ?_⟩ <;> try simp [putIdle, room]
    exact Connection.closeQuietly_leaves.mono fun _ _ => .inl

theorem within_release {after : Tenure} (free : ¬tenure.Holds connection)
    (within : (tenure.hold connection).Within after) :
    tenure.Within after ∧ tenure.Within (after.release connection) := by
  have scopes : after.hand.scopes = tenure.hand.scopes := within.scopes
  have holds (other : Connection) (held : tenure.Holds other) :
      other ≠ connection ∧ after.Holds other := by
    have different : other ≠ connection := by
      rintro rfl
      exact free held
    refine ⟨different, within.holds other ?_⟩
    simpa [Tenure.Holds, Tenure.hold, different] using held
  constructor
  · exact ⟨fun other held => (holds other held).2, scopes⟩
  · refine ⟨fun other held => ?_, scopes⟩
    obtain ⟨different, held⟩ := holds other held
    simpa [Tenure.Holds, Tenure.release, different] using held

theorem withConnection_supplies {confirms : α → List Generated → Prop}
    {use : Connection → Routine memos α}
    (supplies : ∀ connection, ¬tenure.Holds connection →
      tenure.hand.Unscoped connection →
      (use connection).Supplies confirms (tenure.hold connection)) :
    (withConnection number use).Supplies confirms tenure := by
  rw [Routine.Supplies, withConnection, Routine.bind_eq, Routine.serves_bind]
  apply checkout_serves
  · intro fault
    exact ⟨.refl tenure, by simp⟩
  intro connection free unscoped
  rw [Routine.ends_ok, Routine.bind_eq, Routine.serves_bind, Routine.serves_attempt]
  apply (supplies connection free unscoped).mono
  rintro outcome middle ⟨within, confirmed⟩
  obtain ⟨kept, released⟩ := within_release free within
  cases outcome with
  | error fault =>
      refine Routine.serves_bind.mpr (Connection.closeQuietly_leaves.mono ?_)
      rintro outcome after rfl
      cases outcome <;> exact ⟨kept, by simp⟩
  | ok value =>
      have holds : middle.Holds connection :=
        within.holds connection (by simp [Tenure.Holds, Tenure.hold])
      have unscoped : middle.hand.Unscoped connection := by
        intro scope
        rw [within.scopes]
        exact unscoped scope
      refine Routine.serves_bind.mpr ((checkin_serves holds unscoped).mono ?_)
      have confirmed := confirmed value rfl
      rintro outcome after (rfl | rfl)
      · cases outcome with
        | ok => exact ⟨kept, fun _ same => Except.ok.inj same ▸ confirmed⟩
        | error fault => exact ⟨kept, by simp⟩
      · cases outcome with
        | ok => exact ⟨released, fun _ same => Except.ok.inj same ▸ confirmed⟩
        | error fault => exact ⟨released, by simp⟩

theorem perform_supplies {verb : Verb} {sql : String} {bindings : Value}
    (new : tenure.marks.born = []) :
    (perform number verb sql bindings : Routine memos verb.Answer).Supplies verb.Confirms
      tenure := by
  apply withConnection_supplies
  intro connection _ _
  rw [Routine.Supplies, Routine.bind_eq, Routine.serves_bind]
  apply Routine.serves_look
  intro world _
  exact Connection.perform_supplies (by simp [Tenure.Holds, Tenure.hold]) new

/-- The body of a transaction runs a scope on a connection that is held. -/
theorem transaction_remains {body : Handle → Routine memos α}
    (supplies : ∀ scope (tenure : Tenure),
      (∃ connection, tenure.hand.scopes scope = some connection) →
      (body (.scope scope)).Remains tenure) :
    (transaction number body).Remains tenure := by
  apply withConnection_supplies
  intro connection free unscoped
  rw [Routine.Supplies, Routine.bind_eq, Routine.serves_bind]
  apply Routine.serves_quiet (.autocommit connection false) rfl
  intro begun
  cases begun with
  | error fault => exact ⟨.refl _, nofun⟩
  | ok =>
      rw [Routine.ends_ok, Routine.bind_eq, Routine.serves_bind]
      intro world fits
      refine ⟨_, .enter _ (by simp [Tenure.Holds, Tenure.hold]) unscoped, ?_⟩
      have runs : ((tenure.hold connection).mind world.scopeCount
          (some connection)).hand.scopes world.scopeCount = some connection := by
        simp [Tenure.mind]
      rw [Routine.serves_done, Routine.ends_ok, Routine.bind_eq, Routine.serves_bind,
        Routine.serves_attempt]
      apply (supplies _ _ ⟨connection, runs⟩).mono
      rintro outcome middle ⟨within, -⟩
      rw [Routine.ends_ok, Routine.bind_eq, Routine.serves_bind]
      intro _ _
      refine ⟨_, .leave (within.scopes ▸ runs), ?_⟩
      -- The scopes are those before the transaction, for its number was not taken.
      have left : (tenure.hold connection).Within (middle.mind world.scopeCount none) := by
        refine ⟨within.holds, ?_⟩
        have scopes : middle.hand.scopes = Function.update tenure.hand.scopes
            world.scopeCount (some connection) := within.scopes
        have unborn : tenure.hand.scopes world.scopeCount = none := fits.unborn
        simp only [Tenure.mind, Hand.mind_scopes, scopes, Function.update_idem]
        rw [← unborn, Function.update_eq_self]
        rfl
      apply (Connection.conclude_leaves outcome).mono
      rintro outcome after rfl
      exact ⟨left, fun _ _ => trivial⟩

theorem close_remains :
    (close number : Routine memos Unit).Remains tenure := by
  rw [Routine.remains_iff, close, Routine.bind_eq, Routine.serves_bind]
  intro world _
  refine ⟨tenure, .shut number, ?_⟩
  apply (Connection.forM_closeQuietly_leaves _).mono
  rintro outcome after rfl
  exact .refl _

end Pool

namespace Handle

/-- A verb of a scope is for the client that runs the scope, or it is refused. -/
theorem performInScope_supplies {number : Nat} {verb : Verb} {sql : String}
    {bindings : Value} (new : tenure.marks.born = [])
    (mine : (∃ connection, tenure.hand.scopes number = some connection) ∨
      tenure.ended number) :
    (performInScope number verb sql bindings : Routine memos verb.Answer).Supplies
      verb.Confirms tenure := by
  rw [Routine.Supplies, performInScope, Routine.bind_eq, Routine.serves_bind]
  apply Routine.serves_look
  intro world fits
  rw [Routine.ends_ok]
  rcases mine with ⟨connection, running⟩ | ended
  · obtain ⟨active, same, holds⟩ := fits.running number connection running
    rw [if_pos active, same]
    exact Connection.perform_supplies holds new
  · rw [fits.ended number ended]
    exact ⟨.refl _, nofun⟩

theorem guestTransaction_remains {number : Nat} {dedicated : Bool}
    {body : Handle → Routine memos α}
    (remains : ∀ inner (tenure : Tenure), (body (.guest inner true)).Remains tenure) :
    (guestTransaction number dedicated body).Remains tenure := by
  intro answer
  cases answer with
  | error fault => exact ⟨.refl _, nofun⟩
  | ok =>
      intro world _
      refine ⟨tenure, .other rfl rfl rfl rfl, ?_⟩
      change ((body (.guest _ true)).attempt.bind _).Serves _ tenure
      rw [Routine.serves_bind, Routine.serves_attempt]
      apply (remains _ tenure).mono
      rintro outcome after ⟨within, -⟩
      cases outcome with
      | ok value =>
          intro answer
          cases answer <;> exact ⟨within, fun _ _ => trivial⟩
      | error fault =>
          intro answer
          cases answer <;> exact ⟨within, fun _ _ => trivial⟩

end Handle

/-! ## Clients -/

theorem Memo.write_remains {memo : Memo}
    (writes : tenure.Writes (fun after => after.hand = tenure.hand) memo) :
    memo.write.Remains tenure := by
  rw [Routine.remains_iff, Routine.serves_write]
  exact writes.mono fun after same => .of_hand same

/-- A verb, and then the memo of its answer. -/
theorem Demand.answers_remains {handle : Handle} {verb : Verb} {sql : String}
    {bindings : Value}
    (supplies : (handle.perform verb sql bindings : Routine memos verb.Answer).Supplies
      verb.Confirms tenure) :
    ((handle.perform verb sql bindings).attempt.bind fun outcome =>
      (Memo.answered verb outcome).write.bind fun _ => .ofExcept outcome :
      Routine memos verb.Answer).Remains tenure := by
  rw [Routine.remains_iff, Routine.serves_bind, Routine.serves_attempt]
  apply supplies.mono
  rintro outcome after ⟨within, confirmed⟩
  rw [Routine.ends_ok, Routine.serves_bind, Routine.serves_write]
  have rest : (Routine.ofExcept outcome : Routine memos verb.Answer).Serves
      (fun _ after => tenure.Within after) after :=
    Routine.serves_ofExcept.mpr within
  cases outcome with
  | error fault => cases verb <;> exact rest
  | ok value =>
      cases verb with
      | insert => exact ⟨confirmed value rfl, rest⟩
      | query | update | execute => exact rest

theorem Demand.memoed_remains (demand : Demand) : demand.memoed.Remains tenure := by
  obtain ⟨handle, verb, sql, bindings⟩ := demand
  have within {after : Tenure} (same : after.hand.scopes = tenure.hand.scopes)
      (held : after.hand.held = tenure.hand.held) : tenure.Within after := by
    refine ⟨fun connection holds => ?_, same⟩
    rw [Tenure.Holds, held]
    exact holds
  have goes {after : Tenure} (begins : tenure.Within after)
      (supplies : (handle.perform verb sql bindings : Routine memos verb.Answer).Supplies
        verb.Confirms after) :
      ((handle.perform verb sql bindings).attempt.bind fun outcome =>
        (Memo.answered verb outcome).write.bind fun _ => .ofExcept outcome :
        Routine memos verb.Answer).Serves (fun _ last => tenure.Within last) after :=
    (Routine.remains_iff.mp (answers_remains supplies)).mono fun _ _ => begins.trans
  rw [memoed, Routine.bind_eq, Routine.remains_iff, Routine.serves_bind,
    Routine.serves_write]
  cases handle with
  | pool number => exact goes (within rfl rfl) (Pool.perform_supplies rfl)
  | scope number =>
      constructor
      · intro runs
        exact goes (within rfl rfl) (Handle.performInScope_supplies rfl (.inl runs))
      · exact goes (within rfl rfl) (Handle.performInScope_supplies rfl (.inr (.inl rfl)))
  | guest number dedicated => trivial

theorem Handle.memoed_remains {inner : Handle} {body : Routine memos α}
    (runs : ∀ scope, inner = .scope scope →
      ∃ connection, tenure.hand.scopes scope = some connection)
    (remains : ∀ tenure : Tenure, body.Remains tenure) : (inner.memoed body).Remains tenure := by
  refine Routine.Remains.bind (Memo.write_remains ?_) fun _ => remains
  cases inner with
  | pool | guest => rfl
  | scope scope => exact ⟨runs scope rfl, rfl⟩

theorem Client.memoed_remains (client : Client α) : client.memoed.Remains tenure := by
  induction client generalizing tenure with
  | done value => exact ⟨.refl _, fun _ _ => trivial⟩
  | fail fault => exact ⟨.refl _, fun _ _ => trivial⟩
  | bind first second before after =>
      exact before.bind fun value _ => after value
  | attempt client induction =>
      refine Routine.remains_iff.mpr (Routine.serves_attempt.mpr ?_)
      exact Routine.remains_iff.mp induction
  | perform demand => exact demand.memoed_remains
  | transaction handle body induction =>
      cases handle with
      | pool number =>
          change (Pool.transaction number fun inner =>
            inner.memoed (body inner).memoed).Remains tenure
          apply Pool.transaction_remains
          intro scope tenure runs
          apply Handle.memoed_remains _ fun _ => induction _
          rintro _ ⟨⟩
          exact runs
      | scope number => exact ⟨.refl _, nofun⟩
      | guest number dedicated =>
          change (Handle.guestTransaction number dedicated fun inner =>
            inner.memoed (body inner).memoed).Remains tenure
          apply Handle.guestTransaction_remains
          intro inner tenure
          exact Handle.memoed_remains nofun fun _ => induction _
  | close handle =>
      cases handle with
      | pool number => exact Pool.close_remains
      | scope number => exact ⟨.refl _, fun _ _ => trivial⟩
      | guest number dedicated =>
          intro answer
          cases answer <;> exact ⟨.refl _, fun _ _ => trivial⟩

end Midrange
