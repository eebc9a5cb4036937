/-!
# Fields

An ordered assignment of values to distinct names.  A name keeps the position
of its first insertion and the value of its last one.
-/

namespace Midrange

/-- Values under distinct names, in order of first insertion. -/
structure Fields (α : Type) where
  entries : List (String × α)
  distinct : (entries.map (·.1)).Nodup
  deriving Repr

namespace Fields

variable {α β : Type}

instance [DecidableEq α] : DecidableEq (Fields α) := fun left right =>
  if same : left.entries = right.entries then
    .isTrue (by cases left; cases right; cases same; rfl)
  else
    .isFalse fun equal => same (congrArg Fields.entries equal)

/-- Fields with the same entries are the same. -/
theorem ext {left right : Fields α} (same : left.entries = right.entries) :
    left = right := by
  cases left
  cases right
  cases same
  rfl

def empty : Fields α := ⟨[], List.nodup_nil⟩

instance : EmptyCollection (Fields α) := ⟨empty⟩

instance : Inhabited (Fields α) := ⟨empty⟩

def names (fields : Fields α) : List String :=
  fields.entries.map (·.1)

def size (fields : Fields α) : Nat :=
  fields.entries.length

def isEmpty (fields : Fields α) : Bool :=
  fields.entries.isEmpty

private def lookup (name : String) : List (String × α) → Option α
  | [] => none
  | (key, value) :: rest => if key = name then some value else lookup name rest

def get? (fields : Fields α) (name : String) : Option α :=
  lookup name fields.entries

def contains (fields : Fields α) (name : String) : Bool :=
  (fields.get? name).isSome

private def put (name : String) (value : α) :
    List (String × α) → List (String × α)
  | [] => [(name, value)]
  | (key, old) :: rest =>
      if key = name then (key, value) :: rest
      else (key, old) :: put name value rest

private theorem mem_names_put {name : String} {value : α}
    {entries : List (String × α)} {key : String} :
    key ∈ (put name value entries).map (·.1) ↔
      key = name ∨ key ∈ entries.map (·.1) := by
  induction entries with
  | nil => simp [put]
  | cons entry rest induction =>
      obtain ⟨first, old⟩ := entry
      by_cases same : first = name
      · subst same
        simp [put]
      · simp only [put, if_neg same, List.map_cons, List.mem_cons, induction]
        exact or_left_comm

private theorem nodup_put {name : String} {value : α}
    {entries : List (String × α)} (distinct : (entries.map (·.1)).Nodup) :
    ((put name value entries).map (·.1)).Nodup := by
  induction entries with
  | nil => simp [put]
  | cons entry rest induction =>
      obtain ⟨first, old⟩ := entry
      rw [List.map_cons, List.nodup_cons] at distinct
      by_cases same : first = name
      · simpa [put, same] using distinct
      · simp only [put, if_neg same, List.map_cons, List.nodup_cons]
        refine ⟨fun found => ?_, induction distinct.2⟩
        exact (mem_names_put.mp found).elim same distinct.1

/-- The name gets the value: in its old position if it has one, else last. -/
def insert (fields : Fields α) (name : String) (value : α) : Fields α :=
  ⟨put name value fields.entries, nodup_put fields.distinct⟩

private theorem lookup_put_self {name : String} {value : α}
    {entries : List (String × α)} :
    lookup name (put name value entries) = some value := by
  induction entries with
  | nil => simp [put, lookup]
  | cons entry rest induction =>
      obtain ⟨first, old⟩ := entry
      by_cases same : first = name
      · simp [put, lookup, same]
      · simpa [put, lookup, same] using induction

private theorem lookup_put_of_ne {name other : String} {value : α}
    {entries : List (String × α)} (different : other ≠ name) :
    lookup other (put name value entries) = lookup other entries := by
  induction entries with
  | nil => simp [put, lookup, different.symm]
  | cons entry rest induction =>
      obtain ⟨first, old⟩ := entry
      by_cases same : first = name
      · subst same
        simp [put, lookup, different.symm]
      · by_cases found : first = other
        · simp [put, lookup, found, different]
        · simpa [put, lookup, same, found] using induction

@[simp] theorem get?_empty (name : String) :
    (empty : Fields α).get? name = none := rfl

@[simp] theorem get?_insert_self (fields : Fields α) (name : String) (value : α) :
    (fields.insert name value).get? name = some value :=
  lookup_put_self

theorem get?_insert_of_ne (fields : Fields α) {name other : String} (value : α)
    (different : other ≠ name) :
    (fields.insert name value).get? other = fields.get? other :=
  lookup_put_of_ne different

/-- An insertion adds its name and no other. -/
theorem mem_names_insert {fields : Fields α} {name key : String} {value : α} :
    key ∈ (fields.insert name value).names ↔ key = name ∨ key ∈ fields.names :=
  mem_names_put

private theorem mem_of_lookup {name : String} {value : α}
    {entries : List (String × α)} (found : lookup name entries = some value) :
    (name, value) ∈ entries := by
  induction entries with
  | nil => cases found
  | cons entry rest induction =>
      obtain ⟨first, old⟩ := entry
      by_cases same : first = name
      · simp_all [lookup]
      · rw [lookup, if_neg same] at found
        exact List.mem_cons_of_mem _ (induction found)

private theorem lookup_eq_none {name : String} {entries : List (String × α)} :
    lookup name entries = none ↔ name ∉ entries.map (·.1) := by
  induction entries with
  | nil => simp [lookup]
  | cons entry rest induction =>
      obtain ⟨first, old⟩ := entry
      by_cases same : first = name
      · simp [lookup, same]
      · simp [lookup, same, induction, Ne.symm same]

private theorem lookup_of_mem {name : String} {value : α} {entries : List (String × α)}
    (distinct : (entries.map (·.1)).Nodup) (member : (name, value) ∈ entries) :
    lookup name entries = some value := by
  induction entries with
  | nil => cases member
  | cons entry rest induction =>
      obtain ⟨absent, distinct⟩ := List.nodup_cons.mp distinct
      rcases List.mem_cons.mp member with rfl | later
      · exact if_pos rfl
      · have named : name ∈ rest.map (·.1) := List.mem_map.mpr ⟨_, later, rfl⟩
        have different : entry.1 ≠ name := by
          rintro rfl
          exact absent named
        rw [lookup, if_neg different]
        exact induction distinct later

private theorem put_of_notMem {name : String} {value : α}
    {entries : List (String × α)} (absent : name ∉ entries.map (·.1)) :
    put name value entries = entries ++ [(name, value)] := by
  induction entries with
  | nil => rfl
  | cons entry rest induction =>
      obtain ⟨first, old⟩ := entry
      rw [List.map_cons, List.mem_cons, not_or] at absent
      rw [put, if_neg (Ne.symm absent.1), induction absent.2, List.cons_append]

private theorem put_of_mem {name : String} {value : α} {entries : List (String × α)}
    (distinct : (entries.map (·.1)).Nodup) (member : name ∈ entries.map (·.1)) :
    put name value entries = entries.map fun entry =>
      (entry.1, if entry.1 = name then value else entry.2) := by
  induction entries with
  | nil => cases member
  | cons entry rest induction =>
      obtain ⟨first, old⟩ := entry
      obtain ⟨absent, distinct⟩ := List.nodup_cons.mp distinct
      by_cases same : first = name
      · subst same
        -- The name is not among the later entries, which stay as they are.
        have kept : rest.map (fun entry =>
            (entry.1, if entry.1 = first then value else entry.2)) = rest := by
          rw [List.map_congr_left (g := id), List.map_id]
          intro entry later
          have different : entry.1 ≠ first := by
            rintro rfl
            exact absent (List.mem_map.mpr ⟨entry, later, rfl⟩)
          exact Prod.ext rfl (if_neg different)
        rw [put, if_pos rfl, List.map_cons, if_pos rfl, kept]
      · have later : name ∈ rest.map (·.1) := by
          simpa [Ne.symm same] using member
        rw [put, if_neg same, List.map_cons, if_neg same, induction distinct later]

theorem mem_of_get? {fields : Fields α} {name : String} {value : α}
    (found : fields.get? name = some value) : (name, value) ∈ fields.entries :=
  mem_of_lookup found

theorem get?_eq_none {fields : Fields α} {name : String} :
    fields.get? name = none ↔ name ∉ fields.names :=
  lookup_eq_none

theorem get?_of_mem {fields : Fields α} {name : String} {value : α}
    (member : (name, value) ∈ fields.entries) : fields.get? name = some value :=
  lookup_of_mem fields.distinct member

/-- A new name comes last. -/
theorem entries_insert {fields : Fields α} {name : String} (value : α)
    (absent : fields.get? name = none) :
    (fields.insert name value).entries = fields.entries ++ [(name, value)] :=
  put_of_notMem (get?_eq_none.mp absent)

def insertAll (fields : Fields α) (pairs : List (String × α)) : Fields α :=
  pairs.foldl (fun fields pair => fields.insert pair.1 pair.2) fields

/-- The fields that pairs assign, a later pair overriding an earlier one. -/
def ofPairs (pairs : List (String × α)) : Fields α :=
  empty.insertAll pairs

private theorem entries_insertAll_pairs {pairs : List (String × α)}
    (distinct : (pairs.map (·.1)).Nodup) (fields : Fields α) :
    (fields.insertAll pairs).entries =
      (fields.entries.map fun entry => (entry.1, (lookup entry.1 pairs).getD entry.2)) ++
        pairs.filter fun entry => entry.1 ∉ fields.names := by
  induction pairs generalizing fields with
  | nil => simp [insertAll, lookup]
  | cons pair rest induction =>
      obtain ⟨name, value⟩ := pair
      obtain ⟨absent, distinct⟩ := List.nodup_cons.mp distinct
      have later : lookup name rest = none := lookup_eq_none.mpr absent
      have fresh : rest.filter (fun entry => entry.1 ∉ (fields.insert name value).names) =
          rest.filter fun entry => entry.1 ∉ fields.names := by
        refine List.filter_congr fun entry member => ?_
        have different : entry.1 ≠ name := by
          rintro rfl
          exact absent (List.mem_map.mpr ⟨entry, member, rfl⟩)
        simp [mem_names_insert, different]
      have rest' := induction distinct (fields.insert name value)
      rw [fresh] at rest'
      refine rest'.trans ?_
      by_cases named : name ∈ fields.names
      · have updated : (fields.insert name value).entries = fields.entries.map fun entry =>
            (entry.1, if entry.1 = name then value else entry.2) :=
          put_of_mem fields.distinct named
        rw [updated, List.map_map, List.filter_cons_of_neg (by simpa using named)]
        refine congrArg (· ++ _) (List.map_congr_left fun entry _ => Prod.ext rfl ?_)
        by_cases same : entry.1 = name
        · simp [same, later, lookup]
        · simp [same, Ne.symm same, lookup]
      · rw [entries_insert value (get?_eq_none.mpr named), List.map_append,
          List.filter_cons_of_pos (by simpa using named), List.append_assoc]
        have kept : fields.entries.map (fun entry =>
              (entry.1, (lookup entry.1 ((name, value) :: rest)).getD entry.2)) =
            fields.entries.map fun entry =>
              (entry.1, (lookup entry.1 rest).getD entry.2) := by
          refine List.map_congr_left fun entry member => ?_
          have different : name ≠ entry.1 := by
            rintro rfl
            exact named (List.mem_map.mpr ⟨entry, member, rfl⟩)
          rw [lookup, if_neg different]
        simp [kept, later]

/-- Fields that are inserted replace the values of their names in place; the new names
follow in their own order. -/
theorem entries_insertAll (fields other : Fields α) :
    (fields.insertAll other.entries).entries =
      (fields.entries.map fun entry => (entry.1, (other.get? entry.1).getD entry.2)) ++
        other.entries.filter fun entry => entry.1 ∉ fields.names :=
  entries_insertAll_pairs other.distinct fields

/-- Pairs under distinct names are the fields that they assign. -/
theorem entries_ofPairs {pairs : List (String × α)} (distinct : (pairs.map (·.1)).Nodup) :
    (ofPairs pairs).entries = pairs := by
  rw [ofPairs, entries_insertAll_pairs distinct]
  simp [empty, names]

def filter (fields : Fields α) (keep : String → α → Bool) : Fields α :=
  ⟨fields.entries.filter fun entry => keep entry.1 entry.2,
    List.Sublist.nodup (List.filter_sublist.map _) fields.distinct⟩

theorem get?_filter (fields : Fields α) (keep : String → α → Bool) (name : String) :
    (fields.filter keep).get? name = (fields.get? name).filter (keep name) := by
  cases found : fields.get? name with
  | none =>
      refine get?_eq_none.mpr fun named => get?_eq_none.mp found ?_
      obtain ⟨entry, member, rfl⟩ := List.mem_map.mp named
      exact List.mem_map.mpr ⟨entry, (List.mem_filter.mp member).1, rfl⟩
  | some value =>
      have member := mem_of_get? found
      by_cases kept : keep name value = true
      · rw [Option.filter_some_pos kept]
        exact get?_of_mem (List.mem_filter.mpr ⟨member, kept⟩)
      · rw [Option.filter_some_neg (Bool.eq_false_iff.mpr kept)]
        refine get?_eq_none.mpr fun named => kept ?_
        obtain ⟨⟨_, other⟩, left, rfl⟩ := List.mem_map.mp named
        obtain ⟨left, keeps⟩ := List.mem_filter.mp left
        have same : other = value := Option.some_inj.mp ((get?_of_mem left).symm.trans found)
        exact same ▸ keeps

/-- Fields that are inserted are looked up before those that they are inserted into. -/
theorem get?_insertAll (fields other : Fields α) (name : String) :
    (fields.insertAll other.entries).get? name = (other.get? name).or (fields.get? name) := by
  have entries := entries_insertAll fields other
  cases given : other.get? name with
  | some value =>
      refine get?_of_mem ?_
      rw [entries, List.mem_append]
      by_cases named : name ∈ fields.names
      · obtain ⟨entry, member, rfl⟩ := List.mem_map.mp named
        exact .inl (List.mem_map.mpr ⟨entry, member, by rw [given]; rfl⟩)
      · exact .inr (List.mem_filter.mpr ⟨mem_of_get? given, by simpa using named⟩)
  | none =>
      cases found : fields.get? name with
      | some value =>
          refine get?_of_mem ?_
          rw [entries, List.mem_append]
          exact .inl (List.mem_map.mpr ⟨_, mem_of_get? found, by rw [given]; rfl⟩)
      | none =>
          refine get?_eq_none.mpr fun named => ?_
          rw [names, entries, List.map_append, List.mem_append] at named
          rcases named with old | new
          · rw [List.map_map] at old
            exact get?_eq_none.mp found old
          · obtain ⟨entry, member, rfl⟩ := List.mem_map.mp new
            exact get?_eq_none.mp given
              (List.mem_map.mpr ⟨entry, (List.mem_filter.mp member).1, rfl⟩)

theorem filter_eq_self {fields : Fields α} {keep : String → Bool} :
    (fields.filter fun name _ => keep name) = fields ↔ ∀ name ∈ fields.names, keep name = true := by
  have entries : (fields.filter fun name _ => keep name) = fields ↔
      (fields.entries.filter fun entry => keep entry.1) = fields.entries :=
    ⟨fun same => congrArg Fields.entries same, fun same => ext same⟩
  rw [entries, List.filter_eq_self, names, List.forall_mem_map]

theorem filter_filter (fields : Fields α) (keep other : String → Bool) :
    ((fields.filter fun name _ => keep name).filter fun name _ => other name) =
      fields.filter fun name _ => other name && keep name :=
  ext List.filter_filter

/-- A choice that leaves out all that was inserted leaves the fields that were not
overridden. -/
theorem filter_insertAll (fields other : Fields α) {keep : String → Bool}
    (dropped : ∀ name ∈ other.names, keep name = false) :
    ((fields.insertAll other.entries).filter fun name _ => keep name) =
      fields.filter fun name _ => keep name := by
  have new : ((other.entries.filter fun entry => entry.1 ∉ fields.names).filter
      fun entry => keep entry.1) = [] := by
    refine List.filter_eq_nil_iff.mpr fun entry member => ?_
    have named := List.mem_map_of_mem (f := (·.1)) (List.mem_filter.mp member).1
    simp [dropped entry.1 named]
  have old : ∀ entry ∈ fields.entries.filter fun entry => keep entry.1,
      (entry.1, (other.get? entry.1).getD entry.2) = entry := by
    intro entry member
    have unnamed : other.get? entry.1 = none := by
      refine get?_eq_none.mpr fun named => ?_
      cases (List.mem_filter.mp member).2.symm.trans (dropped entry.1 named)
    rw [unnamed]
    rfl
  refine ext ?_
  calc (fields.insertAll other.entries).entries.filter (fun entry => keep entry.1)
    _ = (fields.entries.filter fun entry => keep entry.1).map
          fun entry => (entry.1, (other.get? entry.1).getD entry.2) := by
        rw [entries_insertAll, List.filter_append, new, List.append_nil, List.filter_map]
        rfl
    _ = fields.entries.filter fun entry => keep entry.1 :=
        (List.map_congr_left old).trans (List.map_id _)

def erase (fields : Fields α) (name : String) : Fields α :=
  fields.filter fun key _ => key != name

private theorem names_map {change : String → α → β}
    (entries : List (String × α)) :
    (entries.map fun entry => (entry.1, change entry.1 entry.2)).map (·.1) =
      entries.map (·.1) := by
  simp [List.map_map, Function.comp_def]

/-- Changes every value, which may depend on its name. -/
def map (fields : Fields α) (change : String → α → β) : Fields β :=
  ⟨fields.entries.map fun entry => (entry.1, change entry.1 entry.2), by
    rw [names_map]; exact fields.distinct⟩

private theorem lookup_map {change : String → α → β} (name : String)
    (entries : List (String × α)) :
    lookup name (entries.map fun entry => (entry.1, change entry.1 entry.2)) =
      (lookup name entries).map (change name) := by
  induction entries with
  | nil => rfl
  | cons entry rest induction =>
      by_cases same : entry.1 = name
      · simp [lookup, same]
      · simp [lookup, same, induction]

theorem get?_map (fields : Fields α) (change : String → α → β) (name : String) :
    (fields.map change).get? name = (fields.get? name).map (change name) :=
  lookup_map name fields.entries

private theorem put_map {change : String → α → β} (name : String) (value : α)
    (entries : List (String × α)) :
    put name (change name value)
        (entries.map fun entry => (entry.1, change entry.1 entry.2)) =
      (put name value entries).map fun entry => (entry.1, change entry.1 entry.2) := by
  induction entries with
  | nil => rfl
  | cons entry rest induction =>
      by_cases same : entry.1 = name
      · simp [put, same]
      · simp [put, same, induction]

/-- Insertions may be made before a change of all values or after it. -/
theorem map_insertAll (fields : Fields α) (pairs : List (String × α))
    (change : String → α → β) :
    (fields.insertAll pairs).map change =
      (fields.map change).insertAll (pairs.map fun pair => (pair.1, change pair.1 pair.2)) := by
  induction pairs generalizing fields with
  | nil => rfl
  | cons pair pairs induction =>
      have inserted : (fields.insert pair.1 pair.2).map change =
          (fields.map change).insert pair.1 (change pair.1 pair.2) :=
        ext (put_map pair.1 pair.2 fields.entries).symm
      exact (induction _).trans (congrArg (insertAll · _) inserted)

/-- A choice by names may be made before a change of all values or after it. -/
theorem map_filter (fields : Fields α) (keep : String → Bool) (change : String → α → β) :
    (fields.filter fun name _ => keep name).map change =
      (fields.map change).filter fun name _ => keep name := by
  refine ext ?_
  simp only [map, filter, List.filter_map]
  rfl

end Fields

end Midrange
