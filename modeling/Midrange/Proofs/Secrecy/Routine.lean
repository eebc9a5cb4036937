import Midrange.Proofs.Exchange
import Midrange.Proofs.Secrecy

/-!
# Runs that differ in secrets

Two runs may be given paired targets.  `Routine.Alike` relates the routines that they are
at: such routines report the same events, make the same calls and change the shared state
in the same way, except that connections are opened, and guests made, with the secrets of
each.

Alike routines run alike: against outsides that give the same answers, they have the same
outcome and report the same events.
-/

namespace Midrange

/-! ## The shared states of two runs -/

/-- Pools that differ only in the secrets of their targets. -/
structure Pool.Alike (pairing : Pairing) (left right : Pool) : Prop where
  target : pairing.Connects left.target right.target
  timeout : left.timeout = right.timeout
  maxIdle : left.maxIdle = right.maxIdle
  idle : left.idle = right.idle
  closed : left.closed = right.closed

def World.withPools (world : World) (pools : Nat → Pool) : World :=
  { world with pools }

/-- Shared states that differ only in the secrets of their pools. -/
inductive World.Alike (pairing : Pairing) : World → World → Prop where
  | intro (world : World) {pools : Nat → Pool} :
      (∀ number, (world.pools number).Alike pairing (pools number)) →
      Alike pairing world (world.withPools pools)

namespace World.Alike

variable {pairing : Pairing} {left right : World}

/-- Before any pool is made there is nothing to differ. -/
theorem fresh {world : World} (unset : ∀ number, (world.pools number).target = "") :
    world.Alike pairing world := by
  apply World.Alike.intro world
  intro number
  refine ⟨?_, rfl, rfl, rfl, rfl⟩
  rw [unset number]
  exact .unset

theorem pool (alike : left.Alike pairing right) (number : Nat) :
    (left.pools number).Alike pairing (right.pools number) := by
  cases alike with
  | intro pools => exact pools number

/-- Whatever is read beside the pools is the same. -/
theorem read_eq {α : Type} {read : World → α}
    (apart : ∀ world pools, read (world.withPools pools) = read world)
    (alike : left.Alike pairing right) : read left = read right := by
  cases alike with
  | intro => exact (apart left _).symm

/-- A change beside the pools keeps what is alike. -/
theorem change {change : World → World}
    (apart : ∀ world pools, change (world.withPools pools) = (change world).withPools pools)
    (alike : left.Alike pairing right) : (change left).Alike pairing (change right) := by
  cases alike with
  | intro pools =>
      have kept : (change left).pools = left.pools :=
        calc (change left).pools
          _ = (change (left.withPools left.pools)).pools := rfl
          _ = ((change left).withPools left.pools).pools := by rw [apart]
          _ = left.pools := rfl
      rw [apart]
      apply World.Alike.intro
      rw [kept]
      exact pools

private theorem assign {pools : Nat → Pool} {pool other : Pool} (number : Nat)
    (alike : ∀ number, (left.pools number).Alike pairing (pools number))
    (assigned : pool.Alike pairing other) (place : Nat) :
    (Midrange.assign left.pools number pool place).Alike pairing
      (Midrange.assign pools number other place) := by
  by_cases here : place = number
  · rw [here, assign_self, assign_self]
    exact assigned
  · rw [assign_of_ne _ _ here, assign_of_ne _ _ here]
    exact alike place

theorem changePool (alike : left.Alike pairing right) (number : Nat) (change : Pool → Pool)
    (changed : (change (left.pools number)).Alike pairing (change (right.pools number))) :
    (left.changePool number change).Alike pairing (right.changePool number change) := by
  cases alike with
  | intro pools => exact .intro (left.changePool number change) (assign number pools changed)

theorem addPool {pool other : Pool} (alike : left.Alike pairing right)
    (added : pool.Alike pairing other) :
    (left.addPool pool).2.Alike pairing (right.addPool other).2 := by
  cases alike with
  | intro pools => exact .intro (left.addPool pool).2 (assign left.poolCount pools added)

end World.Alike

/-! ## The routines of two runs -/

/-- Holds of the calls that are given options, secrets among them. -/
def Call.isOpening : Call → Bool
  | .driver (.connect _) | .makeGuest _ => true
  | _ => false

/-- Two answers that are the same, with states that are related. -/
def Agree {α σ τ : Type} (related : σ → τ → Prop) (left : α × σ) (right : α × τ) : Prop :=
  left.1 = right.1 ∧ related left.2 right.2

namespace Routine

variable {caller : Caller} {α β : Type} {pairing : Pairing}

/-- Routines that do the same, each with its own secrets. -/
inductive Alike (pairing : Pairing) : Routine caller α → Routine caller α → Prop where
  | done (value : α) : Alike pairing (.done value) (.done value)
  | fail (fault : Fault) : Alike pairing (.fail fault) (.fail fault)
  | step {update update' : World → World} {next next' : World → Routine caller α} :
      (∀ left right, left.Alike pairing right →
        (update left).Alike pairing (update' right)) →
      (∀ left right, left.Alike pairing right →
        Alike pairing (next left) (next' right)) →
      Alike pairing (.step update next) (.step update' next')
  | emit (event : Event) {next next' : Routine caller α} : Alike pairing next next' →
      Alike pairing (.emit event next) (.emit event next')
  | call (request : Call) {next next' : Except Fault request.Answer → Routine caller α} :
      request.isOpening = false → (∀ answer, Alike pairing (next answer) (next' answer)) →
      Alike pairing (.call request next) (.call request next')
  | connect {target target' : String} {next next' : Except Fault Unit → Routine caller α} :
      pairing.Connects target target' →
      (∀ answer, Alike pairing (next answer) (next' answer)) →
      Alike pairing (.call (.driver (.connect target)) next)
        (.call (.driver (.connect target')) next')
  | makeGuest {left right : Target} {next next' : Except Fault Unit → Routine caller α} :
      pairing.Pairs left right → (∀ answer, Alike pairing (next answer) (next' answer)) →
      Alike pairing (.call (.makeGuest left.options) next)
        (.call (.makeGuest right.options) next')

namespace Alike

theorem bind {first first' : Routine caller β} {second second' : β → Routine caller α}
    (before : first.Alike pairing first')
    (after : ∀ value, (second value).Alike pairing (second' value)) :
    (first.bind second).Alike pairing (first'.bind second') := by
  induction before with
  | done value => exact after value
  | fail fault => exact .fail fault
  | step updates _ induction => exact .step updates induction
  | emit event _ induction => exact .emit event induction
  | call request bare _ induction => exact .call request bare induction
  | connect connects _ induction => exact .connect connects induction
  | makeGuest paired _ induction => exact .makeGuest paired induction

theorem attempt {routine other : Routine caller α} (alike : routine.Alike pairing other) :
    routine.attempt.Alike pairing other.attempt := by
  induction alike with
  | done value => exact .done (Except.ok value)
  | fail fault => exact .done (Except.error fault)
  | step updates _ induction => exact .step updates induction
  | emit event _ induction => exact .emit event induction
  | call request bare _ induction => exact .call request bare induction
  | connect connects _ induction => exact .connect connects induction
  | makeGuest paired _ induction => exact .makeGuest paired induction

theorem ofExcept (outcome : Except Fault α) :
    (Routine.ofExcept outcome : Routine caller α).Alike pairing (Routine.ofExcept outcome) := by
  cases outcome with
  | ok value => exact .done value
  | error fault => exact .fail fault

theorem look {read : World → α}
    (same : ∀ left right, left.Alike pairing right → read left = read right) :
    (Routine.look read : Routine caller α).Alike pairing (Routine.look read) := by
  refine .step (fun _ _ alike => alike) fun left right alike => ?_
  rw [same left right alike]
  exact .done (read right)

theorem atomic {act act' : World → α × World}
    (agree : ∀ left right, left.Alike pairing right →
      Agree (World.Alike pairing) (act left) (act' right)) :
    (Routine.atomic act : Routine caller α).Alike pairing (Routine.atomic act') := by
  refine .step (fun left right alike => (agree left right alike).2)
    fun left right alike => ?_
  rw [(agree left right alike).1]
  exact .done (act' right).1

theorem modify {change : World → World}
    (keeps : ∀ left right, left.Alike pairing right →
      (change left).Alike pairing (change right)) :
    (Routine.modify change : Routine caller Unit).Alike pairing (Routine.modify change) :=
  .step keeps fun _ _ _ => .done ()

/-! What leaves the pools aside is the same in both runs. -/

theorem look_apart {read : World → α}
    (apart : ∀ world pools, read (world.withPools pools) = read world) :
    (Routine.look read : Routine caller α).Alike pairing (Routine.look read) :=
  .look fun _ _ alike => alike.read_eq apart

theorem atomic_apart {act : World → α × World}
    (apart : ∀ world pools,
      act (world.withPools pools) = ((act world).1, (act world).2.withPools pools)) :
    (Routine.atomic act : Routine caller α).Alike pairing (Routine.atomic act) := by
  apply Routine.Alike.atomic
  intro left right alike
  constructor
  · apply alike.read_eq
    intro world pools
    rw [apart]
  · apply alike.change
    intro world pools
    rw [apart]

theorem modify_apart {change : World → World}
    (apart : ∀ world pools,
      change (world.withPools pools) = (change world).withPools pools) :
    (Routine.modify change : Routine caller Unit).Alike pairing (Routine.modify change) :=
  .modify fun _ _ alike => alike.change apart

theorem report (event : Event) :
    (Routine.report event : Routine caller Unit).Alike pairing (Routine.report event) :=
  .emit event (.done ())

theorem perform {request : Call} (bare : request.isOpening = false) :
    (Routine.perform request : Routine caller request.Answer).Alike pairing
      (Routine.perform request) :=
  .call request bare ofExcept

theorem choose {condition : Prop} [Decidable condition]
    {first first' second second' : Routine caller α} (yes : first.Alike pairing first')
    (no : second.Alike pairing second') :
    (if condition then first else second : Routine caller α).Alike pairing
      (if condition then first' else second') := by
  split
  · exact yes
  · exact no

theorem forM {items : List β} {body : β → Routine caller PUnit}
    (alike : ∀ item, (body item).Alike pairing (body item)) :
    (items.forM body : Routine caller PUnit).Alike pairing (items.forM body) := by
  induction items with
  | nil => exact .done _
  | cons item items induction => exact (alike item).bind fun _ => induction

theorem tolerate (event : String → Event) {routine other : Routine caller Unit}
    (alike : routine.Alike pairing other) :
    (Connection.tolerate event routine).Alike pairing (Connection.tolerate event other) := by
  refine alike.attempt.bind fun outcome => ?_
  cases outcome with
  | ok => exact .done ()
  | error fault => exact .choose (.report _) (.fail fault)

end Alike

/-- A routine that speaks on one connection is given no secrets. -/
theorem Speaks.alike {routine : Routine caller α} {connection : Connection}
    {post : Made → List Exchange → Except Fault α → Prop} {made : Made}
    {past : List Exchange} (speaks : routine.Speaks connection post made past) :
    routine.Alike pairing routine := by
  induction routine generalizing made past with
  | done value => exact .done value
  | fail fault => exact .fail fault
  | step | emit | aside => exact speaks.elim
  | call request next induction =>
      cases request with
      | makeGuest | guest => exact speaks.elim
      | driver asked =>
          obtain ⟨owned, _, rest⟩ := speaks
          refine .call _ ?_ fun answer => induction answer (rest answer)
          cases asked with
          | connect target => cases owned
          | _ => rfl

end Routine

/-! ## Two runs -/

/-- The event that an entry of a trace records. -/
def Entry.event? {caller : Caller} : Entry caller → Option Event
  | .event reported => some reported
  | _ => none

/-- The events of a trace. -/
def events {caller : Caller} (trace : List (Entry caller)) : List Event :=
  trace.filterMap Entry.event?

section

variable {caller : Caller} {σ τ α : Type} {pairing : Pairing} {related : σ → τ → Prop}

/-- Outsides that answer the same, also to calls that differ in secrets.  The relation is
between their states. -/
structure Outside.Alike (pairing : Pairing) (related : σ → τ → Prop)
    (left : Outside caller σ) (right : Outside caller τ) : Prop where
  answers : ∀ (request : Call), request.isOpening = false → ∀ state state',
    related state state' →
    Agree related (left.answer request state) (right.answer request state')
  connects : ∀ target target', pairing.Connects target target' → ∀ state state',
    related state state' →
    Agree related (left.answer (.driver (.connect target)) state)
      (right.answer (.driver (.connect target')) state')
  guests : ∀ target target', pairing.Pairs target target' → ∀ state state',
    related state state' →
    Agree related (left.answer (.makeGuest target.options) state)
      (right.answer (.makeGuest target'.options) state')

/-- Runs with the same outcome and the same events, which end alike. -/
structure Run.Alike (pairing : Pairing) (related : σ → τ → Prop) (left : Run caller σ α)
    (right : Run caller τ α) : Prop where
  outcome : left.outcome = right.outcome
  events : events left.trace = events right.trace
  world : left.world.Alike pairing right.world
  outside : related left.outside right.outside

theorem Run.Alike.after {left : Run caller σ α} {right : Run caller τ α}
    {entry other : Entry caller} (alike : left.Alike pairing related right)
    (same : entry.event? = other.event?) :
    (left.after entry).Alike pairing related (right.after other) where
  outcome := alike.outcome
  events := by
    have later : left.trace.filterMap Entry.event? = right.trace.filterMap Entry.event? :=
      alike.events
    simp only [Run.after, Midrange.events, List.filterMap_cons, same, later]
  world := alike.world
  outside := alike.outside

theorem Routine.run_call (outside : Outside caller σ) (request : Call)
    (next : Except Fault request.Answer → Routine caller α) (world : World) (state : σ) :
    (Routine.call request next).run outside world state =
      ((next (outside.answer request state).1).run outside world
        (outside.answer request state).2).after
          (.call request (outside.answer request state).1) := rfl

/-- Alike routines run alike against outsides that answer alike. -/
theorem Routine.Alike.run {left : Outside caller σ} {right : Outside caller τ}
    (outsides : left.Alike pairing related right) {first second : Routine caller α}
    (alike : first.Alike pairing second) {world world' : World}
    (worlds : world.Alike pairing world') {state : σ} {state' : τ}
    (states : related state state') :
    (first.run left world state).Alike pairing related (second.run right world' state') := by
  induction alike generalizing world world' state state' with
  | done | fail => exact ⟨rfl, rfl, worlds, states⟩
  | step updates _ induction =>
      exact induction world world' worlds (updates world world' worlds) states
  | emit event _ induction => exact (induction worlds states).after rfl
  | call request bare _ induction =>
      obtain ⟨same, states⟩ := outsides.answers request bare state state' states
      rw [run_call, run_call, ← same]
      exact (induction _ worlds states).after rfl
  | connect connects _ induction =>
      obtain ⟨same, states⟩ := outsides.connects _ _ connects state state' states
      rw [run_call, run_call, ← same]
      exact (induction _ worlds states).after rfl
  | makeGuest paired _ induction =>
      obtain ⟨same, states⟩ := outsides.guests _ _ paired state state' states
      rw [run_call, run_call, ← same]
      exact (induction _ worlds states).after rfl

end

end Midrange
