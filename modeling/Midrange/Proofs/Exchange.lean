import Midrange.Pool.Connection

/-!
# Exchanges on one connection

What a verb says to the driver.  `VerbCalls` is the language of the verbs: which
calls with which answers one verb makes, and whether it returns after them.
`Routine.Speaks` holds of a routine that makes calls on one connection only,
none of them a close; the verbs are such routines and speak that language.
-/

namespace Midrange

/-- A call of the driver with its answer. -/
structure Exchange where
  call : DriverCall
  answer : Except Fault call.Answer

/-- The statement that a caller made last, with its connection. -/
abbrev Made := Option (Statement × Connection)

/-- The connection of a statement, if it is the one made last. -/
def Made.connection? (made : Made) (statement : Statement) : Option Connection :=
  match made with
  | some (last, connection) => if last = statement then some connection else none
  | none => none

namespace DriverCall

/-- The connection that a call is made on.  A call on a statement is made on the
connection that the statement was made on. -/
def connection? (made : Made) : DriverCall → Option Connection
  | .locate | .connect _ => none
  | .prepare connection .. | .executeImmediate connection _
  | .autocommit connection _ | .commit connection | .rollback connection
  | .close connection => some connection
  | .execute statement _ | .fetchRow statement | .countRows statement
  | .fetchIdentity statement => made.connection? statement

/-- Holds for the call that closes a connection. -/
def isClose : DriverCall → Bool
  | .close _ => true
  | _ => false

/-- The statement made last after a call is answered. -/
def madeAfter (made : Made) :
    (call : DriverCall) → Except Fault call.Answer → Made
  | .prepare connection .., .ok statement => some (statement, connection)
  | .executeImmediate connection _, .ok statement => some (statement, connection)
  | _, _ => made

end DriverCall

/-! ## The language of the verbs -/

/-- The parameters that bindings pass to a statement. -/
def Value.parameters? (bindings : Value) : Option (List Value) :=
  if bindings.isTrue then bindings.items? else none

/-- Preparing and executing a statement: the exchanges, and the statement if it
was executed. -/
inductive Executes (connection : Connection) (sql : String) (bindings : Value) :
    Option Statement → List Exchange → Prop where
  | unprepared (timeout : Option Int) (fault : Fault) :
      Executes connection sql bindings none
        [⟨.prepare connection sql timeout, .error fault⟩]
  | unbound (timeout : Option Int) (statement : Statement) :
      bindings.isTrue = true → bindings.items? = none →
      Executes connection sql bindings none
        [⟨.prepare connection sql timeout, .ok statement⟩]
  | refused (timeout : Option Int) (statement : Statement) (fault : Fault) :
      Executes connection sql bindings none
        [⟨.prepare connection sql timeout, .ok statement⟩,
          ⟨.execute statement bindings.parameters?, .error fault⟩]
  | executed (timeout : Option Int) (statement : Statement) :
      Executes connection sql bindings (some statement)
        [⟨.prepare connection sql timeout, .ok statement⟩,
          ⟨.execute statement bindings.parameters?, .ok ()⟩]

/-- Fetching rows: whether it returns, and the exchanges.  Only the last answer
can be a fault. -/
inductive Fetches (statement : Statement) : Bool → List Exchange → Prop where
  | enough : Fetches statement true []
  | last (row : Option Row) :
      Fetches statement true [⟨.fetchRow statement, .ok row⟩]
  | failed (fault : Fault) :
      Fetches statement false [⟨.fetchRow statement, .error fault⟩]
  | next (row : Row) {returned : Bool} {rest : List Exchange} :
      Fetches statement returned rest →
      Fetches statement returned (⟨.fetchRow statement, .ok (some row)⟩ :: rest)

/-- One verb on a connection: whether it returns, and the exchanges. -/
inductive VerbCalls (connection : Connection) (sql : String) (bindings : Value) :
    Verb → Bool → List Exchange → Prop where
  | stopped {verb : Verb} {calls : List Exchange} :
      Executes connection sql bindings none calls →
      VerbCalls connection sql bindings verb false calls
  | query {statement : Statement} {returned : Bool} {calls rest : List Exchange} :
      Executes connection sql bindings (some statement) calls →
      Fetches statement returned rest →
      VerbCalls connection sql bindings .query returned (calls ++ rest)
  | update {statement : Statement} {calls : List Exchange}
      (answer : Except Fault Value) :
      Executes connection sql bindings (some statement) calls →
      VerbCalls connection sql bindings .update answer.isOk
        (calls ++ [⟨.countRows statement, answer⟩])
  | unidentified {statement : Statement} {calls : List Exchange} (fault : Fault) :
      Executes connection sql bindings (some statement) calls →
      VerbCalls connection sql bindings .insert false
        (calls ++ [⟨.executeImmediate connection Connection.identityStatement,
          .error fault⟩])
  | insert {statement : Statement} {calls : List Exchange} (identity : Statement)
      (answer : Except Fault (Option (List Value))) :
      Executes connection sql bindings (some statement) calls →
      VerbCalls connection sql bindings .insert answer.isOk
        (calls ++ [⟨.executeImmediate connection Connection.identityStatement,
          .ok identity⟩, ⟨.fetchIdentity identity, answer⟩])
  | execute {statement : Statement} {calls : List Exchange} :
      Executes connection sql bindings (some statement) calls →
      VerbCalls connection sql bindings .execute true calls

/-! ## Routines that speak on one connection -/

namespace Routine

/-- What holds of an outcome, given what holds of its value and of its fault. -/
def Ends {α : Type} (ofValue : α → Prop) (ofFault : Fault → Prop) :
    Except Fault α → Prop
  | .ok value => ofValue value
  | .error fault => ofFault fault

@[simp] theorem ends_ok {α : Type} {ofValue : α → Prop} {ofFault : Fault → Prop}
    {value : α} : Ends ofValue ofFault (.ok value) ↔ ofValue value := Iff.rfl

@[simp] theorem ends_error {α : Type} {ofValue : α → Prop} {ofFault : Fault → Prop}
    {fault : Fault} : Ends ofValue ofFault (.error fault) ↔ ofFault fault := Iff.rfl

variable {caller : Caller} {α β : Type} {connection : Connection}

/-- Makes calls on one connection only, none of them a close, and nothing else.
The condition relates the statement made last, the exchanges and the outcome at
the end; `made` and `past` are those so far. -/
def Speaks (connection : Connection)
    (post : Made → List Exchange → Except Fault α → Prop) :
    Made → List Exchange → Routine caller α → Prop
  | made, past, .done value => post made past (.ok value)
  | made, past, .fail fault => post made past (.error fault)
  | made, past, .call (.driver asked) next =>
      asked.connection? made = some connection ∧ asked.isClose = false ∧
        ∀ answer, Speaks connection post (asked.madeAfter made answer)
          (past ++ [⟨asked, answer⟩]) (next answer)
  | _, _, _ => False

variable {post : Made → List Exchange → Except Fault α → Prop} {made : Made}
  {past : List Exchange}

@[simp] theorem speaks_done {value : α} :
    (done value : Routine caller α).Speaks connection post made past ↔
      post made past (.ok value) := by
  simp [Speaks]

@[simp] theorem speaks_fail {fault : Fault} :
    (fail fault : Routine caller α).Speaks connection post made past ↔
      post made past (.error fault) := by
  simp [Speaks]

theorem speaks_drive {asked : DriverCall}
    {post : Made → List Exchange → Except Fault asked.Answer → Prop} :
    (drive asked : Routine caller asked.Answer).Speaks connection post made past ↔
      asked.connection? made = some connection ∧ asked.isClose = false ∧
        ∀ answer, post (asked.madeAfter made answer) (past ++ [⟨asked, answer⟩])
          answer := by
  simp only [drive, perform, Speaks]
  refine and_congr_right fun _ => and_congr_right fun _ => forall_congr' ?_
  intro answer
  cases answer <;> simp [ofExcept]

/-- A second routine speaks where the first one ended. -/
theorem speaks_bind {first : Routine caller β} {second : β → Routine caller α} :
    (first.bind second).Speaks connection post made past ↔
      first.Speaks connection (fun made past =>
        Ends (fun value => (second value).Speaks connection post made past)
          fun fault => post made past (.error fault)) made past := by
  induction first generalizing made past with
  | done | fail => simp [Routine.bind]
  | step | emit | aside => simp [Routine.bind, Speaks]
  | call request next induction =>
      cases request with
      | driver asked => simp only [Routine.bind, Speaks, induction]
      | makeGuest | guest => simp [Routine.bind, Speaks]

theorem speaks_attempt {routine : Routine caller β}
    {post : Made → List Exchange → Except Fault (Except Fault β) → Prop} :
    routine.attempt.Speaks connection post made past ↔
      routine.Speaks connection (fun made past outcome => post made past (.ok outcome))
        made past := by
  induction routine generalizing made past with
  | done | fail => simp [attempt]
  | step | emit | aside => simp [attempt, Speaks]
  | call request next induction =>
      cases request with
      | driver asked => simp only [attempt, Speaks, induction]
      | makeGuest | guest => simp [attempt, Speaks]

/-- However far a routine has come, it can come to an end. -/
theorem Speaks.ends {routine : Routine caller α}
    (speaks : routine.Speaks connection post made past) :
    ∃ made rest outcome, post made (past ++ rest) outcome := by
  induction routine generalizing made past with
  | done value => exact ⟨made, [], .ok value, by simpa using speaks⟩
  | fail fault => exact ⟨made, [], .error fault, by simpa using speaks⟩
  | step | emit | aside => simp [Speaks] at speaks
  | call request next induction =>
      cases request with
      | driver asked =>
          obtain ⟨_, _, rest⟩ := speaks
          obtain ⟨made, later, outcome, ended⟩ :=
            induction _ (rest (.error (.outside .runtime "")))
          rw [List.append_assoc] at ended
          exact ⟨made, _, outcome, ended⟩
      | makeGuest | guest => simp [Speaks] at speaks

end Routine

/-! ## The verbs speak their language -/

namespace Connection

variable {caller : Caller} {connection : Connection} {made : Made}
  {past : List Exchange}

private theorem made_connection? (statement : Statement) (connection : Connection) :
    Made.connection? (some (statement, connection)) statement = some connection := by
  simp [Made.connection?]

theorem run_speaks {timeout : Option Int} {sql : String} {bindings : Value}
    {post : Made → List Exchange → Except Fault Statement → Prop}
    (fails : ∀ made calls fault, Executes connection sql bindings none calls →
      post made (past ++ calls) (.error fault))
    (returns : ∀ made calls statement,
      Executes connection sql bindings (some statement) calls →
      made.connection? statement = some connection →
      post made (past ++ calls) (.ok statement)) :
    (connection.run timeout sql bindings : Routine caller Statement).Speaks
      connection post made past := by
  have execute (statement : Statement) (parameters : Option (List Value))
      (same : parameters = bindings.parameters?) :
      (Routine.drive (.execute statement parameters) :
        Routine caller Unit).Speaks connection
        (fun made past => Routine.Ends (fun _ => post made past (.ok statement))
          fun fault => post made past (.error fault))
        (some (statement, connection))
        (past ++ [⟨.prepare connection sql (timeout.filter (· != 0)),
          .ok statement⟩]) := by
    subst same
    rw [Routine.speaks_drive]
    refine ⟨made_connection? statement connection, rfl, fun answer => ?_⟩
    rw [List.append_assoc]
    cases answer with
    | error fault => exact fails _ _ fault (.refused _ statement fault)
    | ok =>
        exact returns _ _ statement (.executed _ statement)
          (made_connection? statement connection)
  rw [run, Routine.bind_eq, Routine.speaks_bind, Routine.speaks_drive]
  refine ⟨rfl, rfl, fun answer => ?_⟩
  cases answer with
  | error fault => exact fails _ _ fault (.unprepared _ fault)
  | ok statement =>
      by_cases bound : bindings.isTrue = true
      · cases items : bindings.items? with
        | none =>
            simpa [bound, items, DriverCall.madeAfter] using
              fails (some (statement, connection)) _
                (.mismatch (.notIterable bindings.kindName))
                (.unbound (timeout.filter (· != 0)) statement bound items)
        | some items' =>
            simpa [bound, items, Routine.speaks_bind, DriverCall.madeAfter] using
              execute statement (some items')
                (by simp [Value.parameters?, bound, items])
      · simpa [bound, Routine.speaks_bind, DriverCall.madeAfter] using
          execute statement none (by simp [Value.parameters?, bound])

theorem fetchRows_speaks {statement : Statement} (limit : Nat)
    (owned : made.connection? statement = some connection)
    {post : Made → List Exchange → Except Fault (List Row) → Prop}
    (holds : ∀ calls outcome, Fetches statement outcome.isOk calls →
      post made (past ++ calls) outcome) :
    (fetchRows statement limit : Routine caller (List Row)).Speaks
      connection post made past := by
  induction limit generalizing past post with
  | zero => simpa [fetchRows] using holds [] (.ok []) .enough
  | succ limit induction =>
      rw [fetchRows, Routine.bind_eq, Routine.speaks_bind, Routine.speaks_drive]
      refine ⟨owned, rfl, fun answer => ?_⟩
      match answer with
      | .error fault => exact holds _ (.error fault) (.failed fault)
      | .ok none => exact holds _ (.ok []) (.last none)
      | .ok (some row) =>
          by_cases empty : row.isEmpty = true
          · simpa [empty, DriverCall.madeAfter] using
              holds _ (.ok []) (.last (some row))
          · simp only [Routine.ends_ok, empty, Bool.false_eq_true, if_false,
              Routine.bind_eq, Routine.speaks_bind]
            apply induction
            intro calls outcome fetches
            rw [List.append_assoc]
            cases outcome with
            | error fault => exact holds _ (.error fault) (.next row fetches)
            | ok rows => exact holds _ (.ok (row :: rows)) (.next row fetches)

/-- A verb speaks the language of the verbs. -/
theorem perform_speaks {timeout : Option Int} {sql : String} {bindings : Value}
    {verb : Verb} {post : Made → List Exchange → Except Fault verb.Answer → Prop}
    (holds : ∀ made calls outcome,
      VerbCalls connection sql bindings verb outcome.isOk calls →
      post made (past ++ calls) outcome) :
    (connection.perform timeout sql bindings verb :
      Routine caller verb.Answer).Speaks connection post made past := by
  cases verb with
  | query =>
      rw [perform, Routine.bind_eq, Routine.speaks_bind]
      refine run_speaks (fun made calls fault executes =>
        holds _ _ (.error fault) (.stopped executes)) ?_
      intro made calls statement executes owned
      rw [Routine.ends_ok, Routine.bind_eq, Routine.speaks_bind]
      apply fetchRows_speaks rowLimit owned
      intro rest outcome fetches
      rw [List.append_assoc]
      cases outcome with
      | error fault => exact holds _ _ (.error fault) (.query executes fetches)
      | ok rows => exact holds _ _ (.ok (some rows)) (.query executes fetches)
  | update =>
      rw [perform, Routine.bind_eq, Routine.speaks_bind]
      refine run_speaks (fun made calls fault executes =>
        holds _ _ (.error fault) (.stopped executes)) ?_
      intro made calls statement executes owned
      refine Routine.speaks_drive.mpr ⟨owned, rfl, fun answer => ?_⟩
      rw [List.append_assoc]
      exact holds _ _ answer (.update answer executes)
  | insert =>
      rw [perform, Routine.bind_eq, Routine.speaks_bind]
      refine run_speaks (fun made calls fault executes =>
        holds _ _ (.error fault) (.stopped executes)) ?_
      intro made calls statement executes owned
      rw [Routine.ends_ok, Routine.bind_eq, Routine.speaks_bind, Routine.speaks_drive]
      refine ⟨rfl, rfl, fun answer => ?_⟩
      cases answer with
      | error fault =>
          rw [List.append_assoc]
          exact holds _ _ (.error fault) (.unidentified fault executes)
      | ok identity =>
          rw [Routine.ends_ok, Routine.bind_eq, Routine.speaks_bind,
            Routine.speaks_drive]
          refine ⟨made_connection? identity connection, rfl, fun answer => ?_⟩
          rw [List.append_assoc, List.append_assoc]
          cases answer with
          | error fault =>
              exact holds _ _ (.error fault) (.insert identity (.error fault) executes)
          | ok row =>
              exact holds _ _ (.ok (firstColumn row))
                (.insert identity (.ok row) executes)
  | execute =>
      rw [perform, Routine.bind_eq, Routine.speaks_bind]
      exact run_speaks (fun made calls fault executes =>
        holds _ _ (.error fault) (.stopped executes))
        fun made calls statement executes owned =>
          holds _ _ (.ok ()) (.execute executes)

/-! ## Beginning and ending a transaction -/

/-- The call that ends a transaction: a commit if its work returned, else a
rollback. -/
def ending (connection : Connection) (returned : Bool) (answer : Except Fault Unit) :
    Exchange :=
  if returned then ⟨.commit connection, answer⟩ else ⟨.rollback connection, answer⟩

/-- The outcome of carrying on after an ordinary fault. -/
def tolerated : Except Fault Unit → Except Fault Unit
  | .ok () => .ok ()
  | .error fault => if fault.isOrdinary then .ok () else .error fault

/-- The end of a transaction: the work is committed if it returned, else rolled
back. -/
def conclude {α : Type} (connection : Connection) :
    Except Fault α → Routine caller α
  | .ok value => do
      connection.commit
      return value
  | .error fault => do
      connection.rollbackQuietly
      Routine.fail fault

theorem begin_speaks {post : Made → List Exchange → Except Fault Unit → Prop}
    (holds : ∀ answer,
      post made (past ++ [⟨.autocommit connection false, answer⟩]) answer) :
    (connection.begin : Routine caller Unit).Speaks connection post made past :=
  Routine.speaks_drive.mpr ⟨rfl, rfl, holds⟩

/-- The outcome of a commit or a rollback, by its own answer and that of the
change back to automatic commit. -/
def finished (answer restored : Except Fault Unit) : Except Fault Unit :=
  restored.bind fun _ => answer

/-- The outcome of a transaction whose work has ended. -/
def concluded {α : Type} (returned : Except Fault α)
    (answer restored : Except Fault Unit) : Except Fault α :=
  match returned with
  | .ok value => (finished answer restored).map fun _ => value
  | .error fault => (tolerated (finished answer restored)).bind fun _ => .error fault

/-- The outcome of giving a connection back, by the answer to its close if it was
closed. -/
def closed : Option (Except Fault Unit) → Except Fault Unit
  | none => .ok ()
  | some answer => tolerated answer

theorem finish_speaks {request : DriverCall}
    (owned : request.connection? made = some connection)
    (notClose : request.isClose = false)
    {post : Made → List Exchange → Except Fault Unit → Prop}
    (holds : ∀ answer restored, post (request.madeAfter made answer)
      (past ++ [⟨request, answer⟩, ⟨.autocommit connection true, restored⟩])
      (finished (answer.map fun _ => ()) restored)) :
    (connection.finish request : Routine caller Unit).Speaks
      connection post made past := by
  rw [finish, Routine.bind_eq, Routine.speaks_bind, Routine.speaks_attempt,
    Routine.speaks_drive]
  refine ⟨owned, notClose, fun answer => ?_⟩
  rw [Routine.ends_ok, Routine.bind_eq, Routine.speaks_bind, Routine.speaks_drive]
  refine ⟨rfl, rfl, fun restored => ?_⟩
  rw [List.append_assoc]
  have rest := holds answer restored
  cases restored with
  | error fault => exact rest
  | ok => cases answer <;> exact rest

theorem commit_speaks {post : Made → List Exchange → Except Fault Unit → Prop}
    (holds : ∀ answer restored,
      post made (past ++ [⟨.commit connection, answer⟩,
        ⟨.autocommit connection true, restored⟩]) (finished answer restored)) :
    (connection.commit : Routine caller Unit).Speaks connection post made past := by
  apply finish_speaks rfl rfl
  intro answer restored
  cases answer <;> exact holds _ restored

theorem rollback_speaks {post : Made → List Exchange → Except Fault Unit → Prop}
    (holds : ∀ answer restored,
      post made (past ++ [⟨.rollback connection, answer⟩,
        ⟨.autocommit connection true, restored⟩]) (finished answer restored)) :
    (connection.rollback : Routine caller Unit).Speaks connection post made past := by
  apply finish_speaks rfl rfl
  intro answer restored
  cases answer <;> exact holds _ restored

end Connection

end Midrange
