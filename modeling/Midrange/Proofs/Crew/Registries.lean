import Mathlib.Data.List.Nodup
import Midrange.Proofs.Crew.Errands
import Midrange.Proofs.Duty

/-!
# The registries of a crew

A registry holds what its factory made since it was last cleared, one handle for each
data source.  All that was made in a period is held by the teardown that clears the
registry at its end, and every teardown closes what it holds from the first to the last,
unless a cancellation stops it.  What is shut was closed by a teardown.
-/

namespace Midrange

/-- What a new record has in common with the old one stays as it is everywhere. -/
theorem Record.field_update {β : Type} (field : Record → β) {records : Period → Record}
    {present : Period} {record : Record} (same : field record = field (records present))
    (period : Period) :
    field (Function.update records present record period) = field (records period) := by
  by_cases here : period = present
  · rw [here, Function.update_self, same]
  · rw [Function.update_of_ne here]

/-! ## What is made and given -/

/-- The handles that have been made. -/
def World.Knows (world : World) : Handle → Prop
  | .pool number => number < world.poolCount
  | .guest number dedicated => number < world.guestCount ∧ dedicated = false
  | .scope _ => False

theorem World.Knows.isMade {world : World} {handle : Handle} (known : world.Knows handle) :
    handle.isMade = true := by
  cases handle with
  | pool number => rfl
  | guest number dedicated => simp [Handle.isMade, known.2]
  | scope number => exact known.elim

namespace World

variable (world : World)

theorem newHandle?_self : world.newHandle? world = none := by
  simp [newHandle?]

theorem newHandle?_pool (pool : Pool) (registry : Nat) (dsn : String) (handle : Handle) :
    world.newHandle? ((world.addPool pool).2.keep registry dsn handle) =
      some (.pool world.poolCount) :=
  if_pos (Nat.lt_succ_self world.poolCount)

theorem newHandle?_guest (registry : Nat) (dsn : String) (handle : Handle) :
    world.newHandle? (world.addGuest.2.keep registry dsn handle) =
      some (.guest world.guestCount false) := by
  have unpooled : ¬world.poolCount < (world.addGuest.2.keep registry dsn handle).poolCount :=
    Nat.lt_irrefl world.poolCount
  rw [newHandle?, if_neg unpooled]
  exact if_pos (Nat.lt_succ_self world.guestCount)

variable {world} {number : Nat} {dsn : String} {handle : Handle}

/-- A new handle is the last one of its registry. -/
theorem entries_keep (absent : (world.registries number).handles.get? dsn = none) :
    ((world.keep number dsn handle).registries number).handles.entries =
      (world.registries number).handles.entries ++ [(dsn, handle)] := by
  rw [keep, changeRegistry_self, Fields.entries_insert handle absent]

theorem prefix_keep (absent : (world.registries number).handles.get? dsn = none)
    (other : Nat) : (world.registries other).handles.entries <+:
      ((world.keep number dsn handle).registries other).handles.entries := by
  by_cases here : other = number
  · rw [here, entries_keep absent]
    exact List.prefix_append _ _
  · simp only [keep, changeRegistry_of_ne _ _ here, List.prefix_rfl]

end World

/-- What was made has different names, and is what was given. -/
structure Record.Sound (record : Record) : Prop where
  names : (record.made.map (·.1)).Nodup
  given : ∀ entry, entry ∈ record.given ↔ entry ∈ record.made

namespace Record.Sound

variable {record other : Record} {dsn : String}

theorem of_eq (sound : record.Sound) (made : other.made = record.made)
    (given : other.given = record.given) : other.Sound := by
  constructor
  · rw [made]
    exact sound.names
  · rw [made, given]
    exact sound.given

/-- What is there already is given again. -/
theorem gives (sound : record.Sound) {given : Option Handle}
    (there : ∀ handle, given = some handle → (dsn, handle) ∈ record.made) :
    (record.enroll dsn none given).Sound := by
  have made : (record.enroll dsn none given).made = record.made := List.append_nil _
  refine ⟨by rw [made]; exact sound.names, fun entry => ?_⟩
  rw [made, Record.enroll, List.mem_append, sound.given, or_iff_left_iff_imp]
  intro member
  obtain ⟨handle, here, rfl⟩ := List.mem_map.mp member
  exact there handle (Option.mem_toList.mp here)

/-- Something new is made and given. -/
theorem makes (sound : record.Sound) (unnamed : dsn ∉ record.made.map (·.1))
    (handle : Handle) : (record.enroll dsn (some handle) (some handle)).Sound := by
  constructor
  · rw [Record.enroll, List.map_append, List.nodup_append']
    refine ⟨sound.names, by simp, ?_⟩
    simpa [List.disjoint_left] using unnamed
  · intro entry
    rw [Record.enroll, List.mem_append, List.mem_append, sound.given]

end Record.Sound

/-- The registries hold what is on record as made in their present periods, and no
handle was made twice.  Nothing is on record of later periods. -/
structure Stocked (world : World) (clock : Nat → Nat) (records : Period → Record) :
    Prop where
  entries : ∀ registry,
    (world.registries registry).handles.entries = (records ⟨registry, clock registry⟩).made
  sound : ∀ period, (records period).Sound
  known : ∀ period, ∀ entry ∈ (records period).made, world.Knows entry.2
  apart : ∀ first second, ∀ left ∈ (records first).made, ∀ right ∈ (records second).made,
    left.2 = right.2 → first = second ∧ left = right
  later : ∀ period, clock period.registry < period.number → records period = {}

namespace Stocked

variable {world after : World} {clock : Nat → Nat} {records records' : Period → Record}

theorem of_eq (stocked : Stocked world clock records)
    (registries : after.registries = world.registries)
    (known : ∀ handle, world.Knows handle → after.Knows handle)
    (made : ∀ period, (records' period).made = (records period).made)
    (given : ∀ period, (records' period).given = (records period).given)
    (later : ∀ period, clock period.registry < period.number →
      records' period = records period) : Stocked after clock records' where
  entries := by
    intro registry
    rw [registries, made]
    exact stocked.entries registry
  sound := fun period => (stocked.sound period).of_eq (made period) (given period)
  known := by
    intro period entry member
    rw [made] at member
    exact known _ (stocked.known period entry member)
  apart := by simpa only [made] using stocked.apart
  later := fun period future => (later period future).trans (stocked.later period future)

/-- What an acquisition finds is on record. -/
theorem mem (stocked : Stocked world clock records) {registry : Nat} {dsn : String}
    {handle : Handle} (found : (world.registries registry).handles.get? dsn = some handle) :
    (dsn, handle) ∈ (records ⟨registry, clock registry⟩).made := by
  rw [← stocked.entries]
  exact Fields.mem_of_get? found

/-- What was given in the present period is what an acquisition finds. -/
theorem given_iff (stocked : Stocked world clock records) {registry : Nat} {dsn : String}
    {handle : Handle} : (dsn, handle) ∈ (records ⟨registry, clock registry⟩).given ↔
      (world.registries registry).handles.get? dsn = some handle := by
  rw [(stocked.sound _).given]
  refine ⟨fun member => Fields.get?_of_mem ?_, stocked.mem⟩
  rw [stocked.entries]
  exact member

/-- No handle was made twice in a period. -/
theorem handles (stocked : Stocked world clock records) (period : Period) :
    ((records period).made.map (·.2)).Nodup := by
  apply (stocked.sound period).names.of_map.map_on
  intro left member right member' same
  exact (stocked.apart period period left member right member' same).2

/-- A record of a period that has begun changes. -/
theorem later_update (stocked : Stocked world clock records) {present : Period}
    (begun : present.number ≤ clock present.registry) (record : Record) (period : Period)
    (future : clock period.registry < period.number) :
    Function.update records present record period = {} := by
  rw [Function.update_of_ne]
  · exact stocked.later period future
  · rintro rfl
    exact Nat.not_lt_of_le begun future

theorem gives (stocked : Stocked world clock records) {registry : Nat} {dsn : String}
    {given : Option Handle}
    (found : ∀ handle, given = some handle →
      (world.registries registry).handles.get? dsn = some handle) :
    Stocked world clock (Function.update records ⟨registry, clock registry⟩
      ((records ⟨registry, clock registry⟩).enroll dsn none given)) := by
  have same (period : Period) : (Function.update records ⟨registry, clock registry⟩
      ((records ⟨registry, clock registry⟩).enroll dsn none given) period).made =
        (records period).made :=
    Record.field_update Record.made (List.append_nil _) period
  refine ⟨?_, ?_, ?_, ?_, stocked.later_update (Nat.le_refl _) _⟩
  · intro other
    rw [same]
    exact stocked.entries other
  · refine (Function.forall_update_iff records fun _ record => record.Sound).mpr
      ⟨(stocked.sound _).gives fun handle same => ?_, fun period _ => stocked.sound period⟩
    exact stocked.mem (found handle same)
  · simpa only [same] using stocked.known
  · simpa only [same] using stocked.apart

/-- A new handle comes into a registry, and on record. -/
theorem makes (stocked : Stocked world clock records) {registry : Nat} {dsn : String}
    {handle : Handle} (absent : (world.registries registry).handles.get? dsn = none)
    (registries : after.registries = (world.keep registry dsn handle).registries)
    (known : ∀ handle, world.Knows handle → after.Knows handle)
    (fresh : ¬world.Knows handle) (now : after.Knows handle) :
    Stocked after clock (Function.update records ⟨registry, clock registry⟩
      ((records ⟨registry, clock registry⟩).enroll dsn (some handle) (some handle))) := by
  let present : Period := ⟨registry, clock registry⟩
  have mem (period : Period) (entry : String × Handle) :
      entry ∈ (Function.update records present
        ((records present).enroll dsn (some handle) (some handle)) period).made ↔
        entry ∈ (records period).made ∨ period = present ∧ entry = (dsn, handle) := by
    by_cases here : period = present
    · simp [here, Record.enroll]
    · simp [here]
  refine ⟨?_, ?_, ?_, ?_, stocked.later_update (Nat.le_refl _) _⟩
  · intro other
    rw [registries]
    by_cases here : other = registry
    · subst here
      rw [Function.update_self, World.entries_keep absent, stocked.entries]
      rfl
    · rw [Function.update_of_ne (by simp [here]), World.keep,
        World.changeRegistry_of_ne _ _ here]
      exact stocked.entries other
  · refine (Function.forall_update_iff records fun _ record => record.Sound).mpr
      ⟨(stocked.sound _).makes ?_ handle, fun period _ => stocked.sound period⟩
    rw [← stocked.entries]
    exact Fields.get?_eq_none.mp absent
  · intro period entry member
    rcases (mem period entry).mp member with old | ⟨_, rfl⟩
    · exact known _ (stocked.known period entry old)
    · exact now
  · intro first second left member right member' same
    rcases (mem first left).mp member with old | ⟨rfl, rfl⟩ <;>
      rcases (mem second right).mp member' with old' | ⟨rfl, rfl⟩
    · exact stocked.apart first second left old right old' same
    · have knew := stocked.known first left old
      rw [same] at knew
      exact (fresh knew).elim
    · have knew := stocked.known second right old'
      rw [← same] at knew
      exact (fresh knew).elim
    · exact ⟨rfl, rfl⟩

/-- An acquisition comes on record with what it made and what it gave. -/
theorem enrolls (stocked : Stocked world clock records) {registry : Nat} {dsn : String}
    {verdict : Except Fault Unit} {outcome : Except Fault Handle}
    (acquired : Registry.Acquired world registry dsn verdict outcome after) :
    Stocked after clock (Function.update records ⟨registry, clock registry⟩
      ((records ⟨registry, clock registry⟩).enroll dsn (world.newHandle? after)
        outcome.toOption)) := by
  cases acquired with
  | reused found =>
      rw [World.newHandle?_self]
      exact stocked.gives (by rintro _ ⟨⟩; exact found)
  | failed absent refused =>
      rw [World.newHandle?_self]
      exact stocked.gives nofun
  | pool absent accepted opened =>
      rw [World.newHandle?_pool]
      refine stocked.makes absent rfl ?_ (Nat.lt_irrefl _) (Nat.lt_succ_self world.poolCount)
      intro handle known
      cases handle with
      | pool number => exact Nat.lt_succ_of_lt known
      | guest | scope => exact known
  | guest absent accepted =>
      rw [World.newHandle?_guest]
      refine stocked.makes absent rfl ?_ (fun known => Nat.lt_irrefl _ known.1)
        ⟨Nat.lt_succ_self world.guestCount, rfl⟩
      intro handle known
      cases handle with
      | guest number dedicated => exact ⟨Nat.lt_succ_of_lt known.1, known.2⟩
      | pool | scope => exact known

/-- A cleared registry is empty, and a new period begins. -/
theorem clears (stocked : Stocked world clock records) (registry : Nat)
    (teardown : Teardown) :
    Stocked (Registry.takeAll registry world).2 (assign clock registry (clock registry + 1))
      (Function.update records ⟨registry, clock registry⟩
        { records ⟨registry, clock registry⟩ with teardown }) := by
  have made (period : Period) : (Function.update records ⟨registry, clock registry⟩
      { records ⟨registry, clock registry⟩ with teardown } period).made =
        (records period).made :=
    Record.field_update Record.made (by rfl) period
  have given (period : Period) : (Function.update records ⟨registry, clock registry⟩
      { records ⟨registry, clock registry⟩ with teardown } period).given =
        (records period).given :=
    Record.field_update Record.given (by rfl) period
  refine ⟨?_, ?_, ?_, ?_, ?_⟩
  · intro other
    rw [made]
    by_cases here : other = registry
    · subst here
      rw [assign_self, stocked.later _ (Nat.lt_succ_self _), Registry.takeAll,
        World.changeRegistry_self]
      rfl
    · rw [assign_of_ne _ _ here, Registry.takeAll, World.changeRegistry_of_ne _ _ here]
      exact stocked.entries other
  · exact fun period => (stocked.sound period).of_eq (made period) (given period)
  · intro period entry member
    rw [made] at member
    have known := stocked.known period entry member
    cases handle : entry.2 with
    | pool | guest | scope =>
        rw [handle] at known
        exact known
  · simpa only [made] using stocked.apart
  · intro period future
    by_cases here : period.registry = registry
    · rw [here, assign_self] at future
      apply stocked.later_update (Nat.le_refl _)
      rw [here]
      omega
    · rw [assign_of_ne _ _ here] at future
      exact stocked.later_update (Nat.le_refl _) _ period future

end Stocked

end Midrange
