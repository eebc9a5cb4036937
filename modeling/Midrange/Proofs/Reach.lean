import Midrange.Proofs.Exchange

/-!
# Where a run ends

`Routine.Reaches` relates the outcome of a run to the state of both sides at its
end and to its trace.  There is a rule for each way in which routines are put
together, and routines that only speak on one connection reach what they speak.
-/

namespace Midrange

namespace Entry

variable {caller : Caller}

/-- The call of the driver that an entry of a trace records. -/
def exchange? : Entry caller → Option Exchange
  | .call (.driver request) answer => some ⟨request, answer⟩
  | _ => none

def isAside : Entry caller → Bool
  | .aside .. => true
  | _ => false

end Entry

/-- The calls of the driver in a trace. -/
def exchanges {caller : Caller} (trace : List (Entry caller)) : List Exchange :=
  trace.filterMap Entry.exchange?

def Exchange.fault? (said : Exchange) : Option Fault :=
  match said.answer with
  | .ok _ => none
  | .error fault => some fault

/-- The faults of the driver. -/
def faults (said : List Exchange) : List Fault :=
  said.filterMap Exchange.fault?

@[simp] theorem faults_append (earlier later : List Exchange) :
    faults (earlier ++ later) = faults earlier ++ faults later :=
  List.filterMap_append

/-- The caller is not asked for anything. -/
def Unasked {caller : Caller} (trace : List (Entry caller)) : Prop :=
  ∀ entry ∈ trace, entry.isAside = false

instance {caller : Caller} (trace : List (Entry caller)) : Decidable (Unasked trace) :=
  inferInstanceAs (Decidable (∀ entry ∈ trace, entry.isAside = false))

section

variable {caller : Caller} {earlier later : List (Entry caller)}

@[simp] theorem exchanges_nil : exchanges ([] : List (Entry caller)) = [] := rfl

@[simp] theorem exchanges_append :
    exchanges (earlier ++ later) = exchanges earlier ++ exchanges later :=
  List.filterMap_append

@[simp] theorem exchanges_event (event : Event) :
    exchanges (.event event :: later) = exchanges later := rfl

@[simp] theorem exchanges_driver (request : DriverCall)
    (answer : Except Fault request.Answer) :
    exchanges (.call (.driver request) answer :: later) =
      ⟨request, answer⟩ :: exchanges later := rfl

@[simp] theorem unasked_nil : Unasked ([] : List (Entry caller)) := by
  simp [Unasked]

@[simp] theorem unasked_append :
    Unasked (earlier ++ later) ↔ Unasked earlier ∧ Unasked later := by
  simp only [Unasked, List.mem_append, or_imp, forall_and]

@[simp] theorem unasked_event (event : Event) :
    Unasked (.event event :: later) ↔ Unasked later := by
  simp [Unasked, Entry.isAside]

theorem not_unasked_aside (request : caller.Request) (reply : caller.Reply request) :
    ¬Unasked (.aside request reply :: later) := by
  simp [Unasked, Entry.isAside]

@[simp] theorem unasked_call (request : Call)
    (answer : Except Fault request.Answer) :
    Unasked (.call request answer :: later) ↔ Unasked later := by
  simp [Unasked, Entry.isAside]

/-- Nothing but reports. -/
structure Quiet {caller : Caller} (trace : List (Entry caller)) : Prop where
  unasked : Unasked trace
  silent : exchanges trace = []

theorem Quiet.nil : Quiet ([] : List (Entry caller)) := ⟨unasked_nil, rfl⟩

theorem Quiet.event (event : Event) : Quiet [(.event event : Entry caller)] :=
  ⟨by simp, rfl⟩

theorem Quiet.append (first : Quiet earlier) (second : Quiet later) :
    Quiet (earlier ++ later) :=
  ⟨unasked_append.mpr ⟨first.unasked, second.unasked⟩,
    by rw [exchanges_append, first.silent, second.silent, List.append_nil]⟩

end

namespace Routine

variable {caller : Caller} {σ α β : Type} {outside : Outside caller σ}

/-- The condition holds of the outcome, of both sides and of the trace when a
routine has run. -/
def Reaches (outside : Outside caller σ)
    (post : Except Fault α → World → σ → List (Entry caller) → Prop)
    (world : World) (state : σ) (routine : Routine caller α) : Prop :=
  let run := routine.run outside world state
  post run.outcome run.world run.outside run.trace

variable {post : Except Fault α → World → σ → List (Entry caller) → Prop}
  {world : World} {state : σ}

@[simp] theorem reaches_done {value : α} :
    (done value : Routine caller α).Reaches outside post world state ↔
      post (.ok value) world state [] := Iff.rfl

@[simp] theorem reaches_fail {fault : Fault} :
    (fail fault : Routine caller α).Reaches outside post world state ↔
      post (.error fault) world state [] := Iff.rfl

theorem reaches_call {request : Call}
    {next : Except Fault request.Answer → Routine caller α} :
    (call request next).Reaches outside post world state ↔
      (next (outside.answer request state).1).Reaches outside
        (fun outcome final last trace => post outcome final last
          (.call request (outside.answer request state).1 :: trace))
        world (outside.answer request state).2 := Iff.rfl

/-- A second routine runs where the first one ended. -/
theorem reaches_bind {first : Routine caller β} {second : β → Routine caller α} :
    (first.bind second).Reaches outside post world state ↔
      first.Reaches outside (fun outcome world state earlier =>
        Ends (fun value => (second value).Reaches outside
            (fun outcome world state later =>
              post outcome world state (earlier ++ later)) world state)
          (fun fault => post (.error fault) world state earlier) outcome)
        world state := by
  simp only [Reaches, run_bind]
  generalize first.run outside world state = run
  obtain ⟨outcome, final, state, trace⟩ := run
  cases outcome with
  | ok value => exact Iff.rfl
  | error fault => exact Iff.rfl

theorem run_attempt (routine : Routine caller β) (world : World) (state : σ) :
    routine.attempt.run outside world state =
      let run := routine.run outside world state
      ⟨.ok run.outcome, run.world, run.outside, run.trace⟩ := by
  induction routine generalizing world state with
  | done | fail => rfl
  | step update next induction => exact induction world (update world) state
  | emit event next induction => simp only [attempt, run, induction, Run.after]
  | call request next induction => simp only [attempt, run, induction, Run.after]
  | aside request next induction => simp only [attempt, run, induction, Run.after]

theorem run_perform (request : Call) (world : World) (state : σ) :
    (perform request : Routine caller request.Answer).run outside world state =
      ⟨(outside.answer request state).1, world, (outside.answer request state).2,
        [.call request (outside.answer request state).1]⟩ := by
  rw [perform, run]
  obtain ⟨answer, after⟩ := outside.answer request state
  cases answer with
  | ok value => rfl
  | error fault => rfl

theorem reaches_attempt {routine : Routine caller β}
    {post : Except Fault (Except Fault β) → World → σ → List (Entry caller) → Prop} :
    routine.attempt.Reaches outside post world state ↔
      routine.Reaches outside (fun outcome => post (.ok outcome)) world state := by
  rw [Reaches, run_attempt]
  exact Iff.rfl

@[simp] theorem reaches_ofExcept {outcome : Except Fault α} :
    (ofExcept outcome : Routine caller α).Reaches outside post world state ↔
      post outcome world state [] := by
  cases outcome <;> exact Iff.rfl

@[simp] theorem reaches_look {read : World → α} :
    (look read : Routine caller α).Reaches outside post world state ↔
      post (.ok (read world)) world state [] := Iff.rfl

@[simp] theorem reaches_atomic {act : World → α × World} :
    (atomic act : Routine caller α).Reaches outside post world state ↔
      post (.ok (act world).1) (act world).2 state [] := Iff.rfl

@[simp] theorem reaches_modify {change : World → World}
    {post : Except Fault Unit → World → σ → List (Entry caller) → Prop} :
    (modify change : Routine caller Unit).Reaches outside post world state ↔
      post (.ok ()) (change world) state [] := Iff.rfl

@[simp] theorem reaches_report {event : Event}
    {post : Except Fault Unit → World → σ → List (Entry caller) → Prop} :
    (report event : Routine caller Unit).Reaches outside post world state ↔
      post (.ok ()) world state [.event event] := Iff.rfl

@[simp] theorem reaches_ask {request : caller.Request}
    {post : Except Fault (caller.Reply request) → World → σ → List (Entry caller) →
      Prop} :
    (ask request : Routine caller (caller.Reply request)).Reaches outside post world
        state ↔
      post (.ok (outside.reply request state).1) world (outside.reply request state).2
        [.aside request (outside.reply request state).1] := Iff.rfl

theorem Reaches.mono {routine : Routine caller α}
    {weaker : Except Fault α → World → σ → List (Entry caller) → Prop}
    (reaches : routine.Reaches outside post world state)
    (implies : ∀ outcome final state trace, post outcome final state trace →
      weaker outcome final state trace) :
    routine.Reaches outside weaker world state :=
  implies _ _ _ _ reaches

theorem Reaches.and {routine : Routine caller α}
    {other : Except Fault α → World → σ → List (Entry caller) → Prop}
    (first : routine.Reaches outside post world state)
    (second : routine.Reaches outside other world state) :
    routine.Reaches outside (fun outcome final state trace =>
      post outcome final state trace ∧ other outcome final state trace) world state :=
  ⟨first, second⟩

/-- Nothing is known of the answer to a call. -/
theorem reaches_perform (request : Call)
    {post : Except Fault request.Answer → World → σ → List (Entry caller) → Prop}
    (holds : ∀ answer state, post answer world state [.call request answer]) :
    (perform request : Routine caller request.Answer).Reaches outside post world
      state := by
  rw [perform, reaches_call, reaches_ofExcept]
  exact holds _ _

theorem reaches_drive (request : DriverCall)
    {post : Except Fault request.Answer → World → σ → List (Entry caller) → Prop}
    (holds : ∀ answer state,
      post answer world state [.call (.driver request) answer]) :
    (drive request : Routine caller request.Answer).Reaches outside post world state :=
  reaches_perform (.driver request) holds

/-- A routine that speaks on one connection leaves the shared state alone, and its
trace is what it speaks. -/
theorem Speaks.reaches {routine : Routine caller α} {connection : Connection}
    {spoken : Made → List Exchange → Except Fault α → Prop} {made : Made}
    {past : List Exchange} (speaks : routine.Speaks connection spoken made past)
    (holds : ∀ made outcome state trace, Unasked trace →
      spoken made (past ++ exchanges trace) outcome →
      post outcome world state trace) :
    routine.Reaches outside post world state := by
  induction routine generalizing made past state post with
  | done | fail =>
      apply holds made _ state [] unasked_nil
      rw [exchanges_nil, List.append_nil]
      exact speaks
  | step | emit | aside => exact speaks.elim
  | call request next induction =>
      cases request with
      | makeGuest | guest => exact speaks.elim
      | driver asked =>
          obtain ⟨_, _, rest⟩ := speaks
          refine reaches_call.mpr (induction _ (rest _) ?_)
          intro made outcome state trace unasked said
          apply holds made outcome state _
          · exact (unasked_call _ _).mpr unasked
          · rw [List.append_assoc] at said
            exact said

/-! ## Routines that stop at the first fault -/

/-- The outcome of a routine that stops at the first fault of the driver, and those
faults; of itself it fails only for a fault that is allowed. -/
inductive Relayed (allowed : Fault → Prop) : Except Fault α → List Fault → Prop where
  | returned (value : α) : Relayed allowed (.ok value) []
  | refused {fault : Fault} : allowed fault → Relayed allowed (.error fault) []
  | raised (fault : Fault) : Relayed allowed (.error fault) [fault]

/-- A routine that stops at the first fault of the driver. -/
def Relays (allowed : Fault → Prop) : Routine caller α → Prop
  | .done _ => True
  | .fail fault => allowed fault
  | .step _ next => ∀ world, Relays allowed (next world)
  | .call (.driver _) next =>
      (∀ fault, next (.error fault) = .fail fault) ∧
        ∀ answer, Relays allowed (next (.ok answer))
  | _ => False

namespace Relays

variable {allowed : Fault → Prop}

theorem drive (request : DriverCall) :
    (Routine.drive request : Routine caller request.Answer).Relays allowed := by
  constructor
  · intro fault
    rfl
  · intro answer
    trivial

theorem bind {first : Routine caller β} {second : β → Routine caller α}
    (before : first.Relays allowed) (after : ∀ value, (second value).Relays allowed) :
    (first.bind second).Relays allowed := by
  induction first with
  | done value => exact after value
  | fail fault => exact before
  | step update next induction => exact fun world => induction world (before world)
  | emit | aside => exact before.elim
  | call request next induction =>
      cases request with
      | makeGuest | guest => exact before.elim
      | driver asked =>
          constructor
          · intro fault
            exact congrArg (·.bind second) (before.1 fault)
          · intro answer
            exact induction _ (before.2 answer)

theorem reaches {routine : Routine caller α} (relays : routine.Relays allowed)
    (holds : ∀ outcome final state trace,
      Relayed allowed outcome (faults (exchanges trace)) →
      post outcome final state trace) :
    routine.Reaches outside post world state := by
  induction routine generalizing world state post with
  | done value => exact holds _ world state [] (.returned value)
  | fail fault => exact holds _ world state [] (.refused relays)
  | step update next induction => exact induction world (relays world) holds
  | emit | aside => exact relays.elim
  | call request next induction =>
      cases request with
      | makeGuest | guest => exact relays.elim
      | driver asked =>
          refine reaches_call.mpr ?_
          cases (outside.answer (.driver asked) state).1 with
          | error fault =>
              rw [relays.1 fault]
              exact holds _ world _ _ (.raised fault)
          | ok answer =>
              apply induction _ (relays.2 answer)
              intro outcome final state trace relayed
              exact holds outcome final state _ relayed

end Relays

/-! ## Routines that only report -/

/-- A routine that leaves both sides as they are and only reports. -/
structure Remarks (routine : Routine caller α) : Prop where
  reaches : ∀ {σ : Type} {outside : Outside caller σ} {world : World} {state : σ}
    {post : Except Fault α → World → σ → List (Entry caller) → Prop},
    (∀ outcome reports, Quiet reports → post outcome world state reports) →
    routine.Reaches outside post world state

namespace Remarks

theorem done (value : α) : (Routine.done value : Routine caller α).Remarks :=
  ⟨fun holds => holds _ [] .nil⟩

theorem fail (fault : Fault) : (Routine.fail fault : Routine caller α).Remarks :=
  ⟨fun holds => holds _ [] .nil⟩

theorem look (read : World → α) : (Routine.look read : Routine caller α).Remarks :=
  ⟨fun holds => holds _ [] .nil⟩

theorem report (event : Event) :
    (Routine.report event : Routine caller Unit).Remarks :=
  ⟨fun holds => holds _ _ (.event event)⟩

theorem ofExcept (outcome : Except Fault α) :
    (Routine.ofExcept outcome : Routine caller α).Remarks :=
  ⟨fun holds => reaches_ofExcept.mpr (holds _ [] .nil)⟩

theorem bind {first : Routine caller β} {second : β → Routine caller α}
    (before : first.Remarks) (after : ∀ value, (second value).Remarks) :
    (first.bind second).Remarks := by
  constructor
  intro σ outside world state post holds
  rw [reaches_bind]
  apply before.reaches
  intro outcome earlier quiet
  cases outcome with
  | error fault => exact holds _ earlier quiet
  | ok value =>
      apply ends_ok.mpr
      apply (after value).reaches
      intro outcome later quiet'
      exact holds outcome _ (quiet.append quiet')

end Remarks

/-! ## Relations that runs follow -/

/-- A relation between both ends of a run and its trace, which holds of runs that
only report, and of two runs one after the other if it holds of each. -/
class Path (relation : World → World → List (Entry caller) → Prop) : Prop where
  quiet : ∀ world trace, Quiet trace → relation world world trace
  trans : ∀ first middle last earlier later, relation first middle earlier →
    relation middle last later → relation first last (earlier ++ later)

/-- The relation holds of every run of a routine. -/
structure Follows (relation : World → World → List (Entry caller) → Prop)
    (routine : Routine caller α) : Prop where
  reaches : ∀ {σ : Type} (outside : Outside caller σ) (world : World) (state : σ),
    routine.Reaches outside (fun _ final _ trace => relation world final trace) world
      state

namespace Follows

variable {relation : World → World → List (Entry caller) → Prop} [path : Path relation]

theorem remarks {routine : Routine caller α} (remarks : routine.Remarks) :
    routine.Follows relation := by
  constructor
  intro σ outside world state
  apply remarks.reaches
  intro _ reports quiet
  exact path.quiet world reports quiet

theorem bind {first : Routine caller β} {second : β → Routine caller α}
    (before : first.Follows relation) (after : ∀ value, (second value).Follows relation) :
    (first.bind second).Follows relation := by
  constructor
  intro σ outside world state
  rw [reaches_bind]
  apply (before.reaches outside world state).mono
  intro outcome middle state earlier holds
  cases outcome with
  | error fault => exact holds
  | ok value =>
      apply ends_ok.mpr
      apply ((after value).reaches outside middle state).mono
      intro _ final _ later holds'
      exact path.trans world middle final earlier later holds holds'

omit path in
theorem attempt {routine : Routine caller α} (follows : routine.Follows relation) :
    routine.attempt.Follows relation := by
  constructor
  intro σ outside world state
  rw [reaches_attempt]
  exact follows.reaches outside world state

end Follows

end Routine

end Midrange
