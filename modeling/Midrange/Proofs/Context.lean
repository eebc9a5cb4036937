import Midrange.Fault

/-!
# What is recorded about an error

Values are recorded in the context of an error under names, call after call, and the report of
the error describes the context.  Here it is told what the description holds after any calls:
the latest value under each name, except that metadata which the error begins with hide members
of the same name, and that some names belong to the context itself.
-/

namespace Midrange

/-- The latest value that was given under a name. -/
def latest? (given : List (String × Value)) (name : String) : Option Value :=
  given.reverse.lookup name

theorem latest?_append_singleton (given : List (String × Value)) (pair : String × Value)
    (name : String) :
    latest? (given ++ [pair]) name =
      if name = pair.1 then some pair.2 else latest? given name := by
  rw [latest?, List.reverse_append, List.reverse_singleton, List.singleton_append,
    List.lookup_cons]
  by_cases same : name = pair.1
  · simp [same]
  · simp [same, beq_eq_false_iff_ne.mpr same, latest?]

/-- Values that can be listed, and null. -/
def Value.IsListed (value : Value) : Prop :=
  value = .null ∨ value.items?.isSome = true

namespace Context

variable {context next : Context} {metadata : Fields Value} {name : String} {value : Value}

/-! ## One value -/

/-- Names under which nothing can be recorded. -/
def refusedNames : List String := ["self", "__class__", "__weakref__"]

/-- Values that are never taken: any under those names, and as all members at once any but a
dictionary. -/
def IsRefused (pair : String × Value) : Prop :=
  pair.1 ∈ refusedNames ∨ pair.1 = "__dict__" ∧ ∀ entries, pair.2 ≠ .dict entries

def memberNames : List String := ["dsn", "command", "sql", "bindings"]

theorem memberNames_free : ∀ name ∈ memberNames, name ∉ ownNames := by
  decide

/-- The context with a value for one of its members. -/
def setMember (context : Context) (name : String) (value : Value) : Context :=
  match name with
  | "dsn" => { context with dsn := value }
  | "command" => { context with command := value }
  | "sql" => { context with sql := value }
  | "bindings" => { context with bindings := value }
  | _ => context

theorem member?_setMember (among : name ∈ memberNames) (other : String) :
    (context.setMember name value).member? other =
      if other = name then some value else context.member? other := by
  simp only [memberNames, List.mem_cons, List.not_mem_nil, or_false] at among
  rcases among with rfl | rfl | rfl | rfl <;>
    · unfold member? setMember
      split <;> simp_all

@[simp] theorem metadata_setMember (context : Context) (name : String) (value : Value) :
    (context.setMember name value).metadata = context.metadata := by
  unfold setMember
  split <;> rfl

@[simp] theorem further_setMember (context : Context) (name : String) (value : Value) :
    (context.setMember name value).further = context.further := by
  unfold setMember
  split <;> rfl

@[simp] theorem replacement_setMember (context : Context) (name : String) (value : Value) :
    (context.setMember name value).replacement = context.replacement := by
  unfold setMember
  split <;> rfl

theorem bindings_setMember (context : Context) (name : String) (value : Value) :
    (context.setMember name value).bindings =
      if name = "bindings" then value else context.bindings := by
  unfold setMember
  split <;> simp_all

theorem member?_eq_none : context.member? name = none ↔ name ∉ memberNames := by
  unfold member?
  split <;> simp_all [memberNames]

theorem mem_of_member? (found : context.member? name = some value) : name ∈ memberNames := by
  refine Decidable.of_not_not fun outside => ?_
  cases found.symm.trans (member?_eq_none.mpr outside)

theorem record_member (context : Context) (value : Value) (among : name ∈ memberNames) :
    context.record name value = .ok (context.setMember name value) := by
  simp only [memberNames, List.mem_cons, List.not_mem_nil, or_false] at among
  rcases among with rfl | rfl | rfl | rfl <;> rfl

theorem record_refused (context : Context) {pair : String × Value} (refused : IsRefused pair) :
    ∃ fault, context.record pair.1 pair.2 = .error fault := by
  obtain ⟨name, value⟩ := pair
  rcases refused with among | ⟨rfl, scalar⟩
  · simp only [refusedNames, List.mem_cons, List.not_mem_nil, or_false] at among
    rcases among with rfl | rfl | rfl <;> exact ⟨_, rfl⟩
  · cases value with
    | dict entries => cases scalar entries rfl
    | _ => exact ⟨_, rfl⟩

theorem record_own (context : Context) (value : Value) (among : name ∈ ownNames) :
    context.record name value = .ok context := by
  unfold record
  split
  case h_10 =>
    refine if_pos ⟨?_, .inl among⟩
    rintro rfl
    exact absurd among (by decide)
  all_goals exact absurd among (by decide)

/-- Any other name goes into the metadata. -/
theorem record_further (fields : context.metadata = .fields metadata)
    (complete : context.further = []) (value : Value) (member : name ∉ memberNames)
    (own : name ∉ ownNames) (refused : name ∉ refusedNames) (describer : name ≠ "to_dict")
    (whole : name ≠ "__dict__") :
    context.record name value =
      .ok { context with metadata := .fields (metadata.insert name value) } := by
  unfold record
  split
  case h_10 =>
    rw [if_neg (by simp [own, complete]), fields]
    rfl
  all_goals first
    | exact absurd rfl describer
    | exact absurd rfl whole
    | exact absurd (by decide) member
    | exact absurd (by decide) refused

/-! ## Many values -/

/-- A context whose metadata are fields, and which has only the members that it was made
with. -/
structure Intact (context : Context) (metadata : Fields Value) : Prop where
  fields : context.metadata = .fields metadata
  listed : context.bindings.IsListed
  complete : context.further = []

/-- A value for one name, which is not refused, and not for all members at once. -/
def IsTaken (pair : String × Value) : Prop :=
  pair.1 ∉ refusedNames ∧ pair.1 ≠ "__dict__"

/-- Values that leave a context intact: they are taken, and bindings are listed. -/
def Fits (pair : String × Value) : Prop :=
  IsTaken pair ∧ (pair.1 = "bindings" → pair.2.IsListed)

/-- A context after values were given, by the context before. -/
structure Follows (context : Context) (metadata : Fields Value) (given : List (String × Value))
    (next : Context) (current : Fields Value) : Prop where
  intact : next.Intact current
  replacement : next.replacement = (latest? given "to_dict").or context.replacement
  member : ∀ name value, context.member? name = some value →
    next.member? name = some ((latest? given name).getD value)
  kept : ∀ name, name ∈ memberNames ∨ name ∈ ownNames ∨ name = "to_dict" →
    current.get? name = metadata.get? name
  further : ∀ name, name ∉ memberNames → name ∉ ownNames → name ≠ "to_dict" →
    current.get? name = (latest? given name).or (metadata.get? name)

theorem Follows.start (intact : context.Intact metadata) :
    Follows context metadata [] context metadata where
  intact := intact
  replacement := rfl
  member := fun _ _ found => found
  kept := fun _ _ => rfl
  further := fun _ _ _ _ => rfl

section

variable {given : List (String × Value)} {current : Fields Value}

private theorem latest?_before {other : String} (different : other ≠ name) :
    latest? (given ++ [(name, value)]) other = latest? given other := by
  rw [latest?_append_singleton, if_neg different]

private theorem latest?_last : latest? (given ++ [(name, value)]) name = some value := by
  rw [latest?_append_singleton, if_pos rfl]

/-- A member takes the value. -/
theorem Follows.setMember (follows : Follows context metadata given next current)
    (among : name ∈ memberNames) (listed : name = "bindings" → value.IsListed) :
    Follows context metadata (given ++ [(name, value)]) (next.setMember name value) current where
  intact := by
    refine ⟨?_, ?_, ?_⟩
    · rw [metadata_setMember, follows.intact.fields]
    · rw [bindings_setMember]
      split
      · exact listed ‹_›
      · exact follows.intact.listed
    · rw [further_setMember, follows.intact.complete]
  replacement := by
    have different : "to_dict" ≠ name := by
      rintro rfl
      exact absurd among (by decide)
    rw [replacement_setMember, latest?_before different, follows.replacement]
  member := by
    intro other before found
    rw [member?_setMember among]
    split
    · rename_i same
      rw [same, latest?_last, Option.getD_some]
    · rw [latest?_before ‹_›, follows.member other before found]
  kept := follows.kept
  further := by
    intro other outside own describer
    rw [latest?_before (by rintro rfl; exact outside among),
      follows.further other outside own describer]

/-- A name of the context's own loses the value. -/
theorem Follows.lose (follows : Follows context metadata given next current)
    (own : name ∈ ownNames) : Follows context metadata (given ++ [(name, value)]) next current where
  intact := follows.intact
  replacement := by
    have different : "to_dict" ≠ name := by
      rintro rfl
      exact absurd own (by decide)
    rw [latest?_before different, follows.replacement]
  member := by
    intro other before found
    have different : other ≠ name := by
      rintro rfl
      exact memberNames_free other (mem_of_member? found) own
    rw [latest?_before different, follows.member other before found]
  kept := follows.kept
  further := by
    intro other outside unowned describer
    rw [latest?_before (by rintro rfl; exact unowned own),
      follows.further other outside unowned describer]

/-- The description itself is replaced. -/
theorem Follows.replace (follows : Follows context metadata given next current) :
    Follows context metadata (given ++ [("to_dict", value)])
      { next with replacement := some value } current where
  intact := ⟨follows.intact.fields, follows.intact.listed, follows.intact.complete⟩
  replacement := by
    rw [latest?_last]
    rfl
  member := by
    intro other before found
    have different : other ≠ "to_dict" := by
      rintro rfl
      cases found
    rw [latest?_before different]
    exact follows.member other before found
  kept := follows.kept
  further := by
    intro other outside own describer
    rw [latest?_before describer, follows.further other outside own describer]

/-- The metadata take the value. -/
theorem Follows.insert (follows : Follows context metadata given next current)
    (outside : name ∉ memberNames) (own : name ∉ ownNames) (describer : name ≠ "to_dict") :
    Follows context metadata (given ++ [(name, value)])
      { next with metadata := .fields (current.insert name value) }
      (current.insert name value) where
  intact := ⟨rfl, follows.intact.listed, follows.intact.complete⟩
  replacement := by
    rw [latest?_before (Ne.symm describer)]
    exact follows.replacement
  member := by
    intro other before found
    have different : other ≠ name := by
      rintro rfl
      cases found.symm.trans (member?_eq_none.mpr outside)
    rw [latest?_before different]
    exact follows.member other before found
  kept := by
    intro other taken
    have different : other ≠ name := by
      rintro rfl
      exact taken.elim outside (Or.rec own describer)
    rw [Fields.get?_insert_of_ne _ _ different, follows.kept other taken]
  further := by
    intro other outside own describer
    by_cases same : other = name
    · rw [same, Fields.get?_insert_self, latest?_last, Option.some_or]
    · rw [Fields.get?_insert_of_ne _ _ same, latest?_before same,
        follows.further other outside own describer]

theorem record_follows (fits : Fits (name, value))
    (follows : Follows context metadata given next current) :
    ∃ last current, next.record name value = .ok last ∧
      Follows context metadata (given ++ [(name, value)]) last current := by
  obtain ⟨⟨refused, whole⟩, listed⟩ := fits
  by_cases among : name ∈ memberNames
  · exact ⟨_, _, record_member next value among, follows.setMember among listed⟩
  by_cases own : name ∈ ownNames
  · exact ⟨_, _, record_own next value own, follows.lose own⟩
  by_cases describer : name = "to_dict"
  · subst describer
    exact ⟨_, _, rfl, follows.replace⟩
  · exact ⟨_, _, record_further follows.intact.fields follows.intact.complete value among own
      refused describer whole, follows.insert among own describer⟩

end

/-- Values given one after another are recorded, each in its turn. -/
theorem recordAll_follows {given later : List (String × Value)} {current : Fields Value}
    (fits : ∀ pair ∈ later, Fits pair) (follows : Follows context metadata given next current) :
    ∃ last current, next.recordAll later = .ok last ∧
      Follows context metadata (given ++ later) last current := by
  induction later generalizing given next current with
  | nil => exact ⟨next, current, rfl, by rwa [List.append_nil]⟩
  | cons pair later induction =>
      obtain ⟨middle, between, recorded, follows⟩ :=
        record_follows (fits pair List.mem_cons_self) follows
      obtain ⟨last, current, recorded', follows⟩ :=
        induction (fun pair member => fits pair (List.mem_cons_of_mem _ member)) follows
      rw [List.append_assoc, List.singleton_append] at follows
      refine ⟨last, current, ?_, follows⟩
      rw [recordAll, List.foldlM_cons, recorded]
      exact recorded'

/-! ## The description -/

/-- A description of a context after values were given, name by name. -/
structure Describes (context : Context) (metadata : Fields Value) (given : List (String × Value))
    (described : Fields Value) : Prop where
  /-- A member is told with its latest value, null left out and bindings as a list, unless the
  first metadata have its name. -/
  member : ∀ name value, context.member? name = some value → described.get? name =
    (metadata.get? name).or (tell name ((latest? given name).getD value))
  /-- What is given under a name of the context's own is lost. -/
  own : ∀ name ∈ ownNames, described.get? name = metadata.get? name
  /-- Any other name has its latest value. -/
  further : ∀ name, context.member? name = none → name ∉ ownNames →
    described.get? name = (latest? given name).or (metadata.get? name)

theorem Follows.describes {given : List (String × Value)} {current : Fields Value}
    (follows : Follows context metadata given next current) (own : context.replacement = none)
    (describer : latest? given "to_dict" = none) :
    ∃ described, next.toFields = .ok described ∧ Describes context metadata given described ∧
      ∀ name, described.get? name =
        (current.get? name).or ((next.member? name).bind (tell name)) := by
  have undescribed : next.replacement = none := by
    rw [follows.replacement, describer, own]
    rfl
  obtain ⟨described, made, found⟩ :=
    toFields_of_fields undescribed follows.intact.fields follows.intact.listed
  refine ⟨described, made, ⟨?_, ?_, ?_⟩, found⟩
  · intro name value member
    rw [found, follows.kept name (.inl (mem_of_member? member)), follows.member name value member]
    rfl
  · intro name own
    have outside : next.member? name = none :=
      member?_eq_none.mpr fun among => memberNames_free name among own
    rw [found, follows.kept name (.inr (.inl own)), outside, Option.bind_none, Option.or_none]
  · intro name absent own
    have outside := member?_eq_none.mp absent
    rw [found, member?_eq_none.mpr outside, Option.bind_none, Option.or_none]
    by_cases describer' : name = "to_dict"
    · rw [follows.kept name (.inr (.inr describer')), describer', describer, Option.none_or]
    · exact follows.further name outside own describer'

/-- A value that is refused stops the recording, whatever is given before it. -/
theorem recordAll_refused {given : List (String × Value)}
    (refused : ∃ pair ∈ given, IsRefused pair) (context : Context) :
    ∃ fault, context.recordAll given = .error fault := by
  induction given generalizing context with
  | nil =>
      obtain ⟨_, member, _⟩ := refused
      cases member
  | cons pair given induction =>
      rw [recordAll, List.foldlM_cons]
      cases recorded : context.record pair.1 pair.2 with
      | error fault => exact ⟨fault, rfl⟩
      | ok next =>
          obtain ⟨named, member, refused⟩ := refused
          rcases List.mem_cons.mp member with rfl | later
          · obtain ⟨fault, failed⟩ := record_refused context refused
            cases recorded.symm.trans failed
          · exact induction ⟨named, later, refused⟩ next

end Context

namespace AdapterError

variable {error : AdapterError Fault} {metadata : Fields Value}
  {calls : List (List (String × Value))}

/-- Calls record their values one after another. -/
theorem foldlM_withContext (error : AdapterError Fault) (calls : List (List (String × Value))) :
    calls.foldlM withContext error =
      (error.context.recordAll calls.flatten).map fun context => { error with context } := by
  induction calls generalizing error with
  | nil => rfl
  | cons values calls induction =>
      have joined (context : Context) : context.recordAll (values ++ calls.flatten) =
          (context.recordAll values).bind fun next => next.recordAll calls.flatten :=
        List.foldlM_append
      rw [List.foldlM_cons, List.flatten_cons, joined, withContext]
      cases error.context.recordAll values with
      | error fault => rfl
      | ok next => exact induction { error with context := next }

theorem sql_eq_getD (error : AdapterError Fault) :
    error.sql = ((Context.shown? error.context.sql).filter (·.isTrue)).getD (.text "") := by
  unfold sql
  cases error.context.sql with
  | null => rfl
  | _ => simp only [Context.shown?, Option.filter_some]; split <;> rfl

/-- The statement and the bindings of an error are those of a description; a statement that
counts as nothing shows as an empty text. -/
structure Agrees (error : AdapterError Fault) (described : Fields Value) : Prop where
  sql : error.sql = ((described.get? "sql").filter (·.isTrue)).getD (.text "")
  bindings : described.get? "bindings" = Context.listing? error.bindings

/-- What calls record about an error whose context was made with metadata. -/
structure Records (error : AdapterError Fault) (metadata : Fields Value)
    (calls : List (List (String × Value))) : Prop where
  /-- Unless the description or all members at once are replaced, there is a report that tells
  what was given.  The statement and the bindings agree with it if the first metadata do not
  have their names. -/
  described : (∀ pair ∈ calls.flatten, Context.IsTaken pair) →
    latest? calls.flatten "to_dict" = none →
    ∃ after described, calls.foldlM withContext error = .ok after ∧
      after.report = .ok {
        kind := error.kind.name
        message := error.message
        category := error.category.name
        context := described
        cause := error.cause.map Fault.text } ∧
      Context.Describes error.context metadata calls.flatten described ∧
      (metadata.get? "sql" = none → metadata.get? "bindings" = none → after.Agrees described)
  /-- A value that replaces the description takes the report away. -/
  replaced : (∀ pair ∈ calls.flatten, Context.IsTaken pair) →
    ∀ value, latest? calls.flatten "to_dict" = some value →
    ∃ after, calls.foldlM withContext error = .ok after ∧
      after.report = .error (.mismatch (.notCallable value.kindName))
  /-- Some values cannot be given at all. -/
  refused : (∃ pair ∈ calls.flatten, Context.IsRefused pair) →
    ∃ fault, calls.foldlM withContext error = .error fault

/-- The report of an error is a faithful record of the values that were given, as long as no
name belongs to the context object itself and the first metadata have no name of a member. -/
theorem report_records (intact : error.context.Intact metadata)
    (own : error.context.replacement = none)
    (listed : ∀ pair ∈ calls.flatten, pair.1 = "bindings" → pair.2.IsListed) :
    Records error metadata calls := by
  have follows (taken : ∀ pair ∈ calls.flatten, Context.IsTaken pair) :
      ∃ last current, calls.foldlM withContext error = .ok { error with context := last } ∧
        Context.Follows error.context metadata calls.flatten last current := by
    obtain ⟨last, current, recorded, follows⟩ := Context.recordAll_follows
      (fun pair member => ⟨taken pair member, listed pair member⟩)
      (Context.Follows.start intact)
    rw [foldlM_withContext, recorded]
    exact ⟨last, current, rfl, follows⟩
  refine ⟨?_, ?_, ?_⟩
  · intro taken describer
    obtain ⟨last, current, recorded, follows⟩ := follows taken
    obtain ⟨described, made, tells, found⟩ := follows.describes own describer
    refine ⟨_, described, recorded, ?_, tells, fun sql bindings => ⟨?_, ?_⟩⟩
    · rw [report, made]
      rfl
    · have told : described.get? "sql" = Context.shown? last.sql := by
        rw [found, follows.kept "sql" (.inl (by decide)), sql, Option.none_or]
        rfl
      rw [told]
      exact sql_eq_getD { error with context := last }
    · rw [found, follows.kept "bindings" (.inl (by decide)), bindings, Option.none_or]
      rfl
  · intro taken value describer
    obtain ⟨last, current, recorded, follows⟩ := follows taken
    have replaced : last.replacement = some value := by
      rw [follows.replacement, describer]
      rfl
    refine ⟨_, recorded, ?_⟩
    rw [report, Context.toFields, replaced]
    rfl
  · intro refused
    obtain ⟨fault, failed⟩ := Context.recordAll_refused refused error.context
    exact ⟨fault, by rw [foldlM_withContext, failed]; rfl⟩

/-- The latest attempt is told; a source in the metadata hides the one given later. -/
theorem report_records_source :
    let error := ofQuery "lost" (.text "select 1") (.tuple [.int 1])
      { metadata := .fields (.ofPairs [("dsn", .text "old")]) }
    let calls := [[("attempt", .int 1), ("__doc__", .text "none")],
      [("dsn", .text "new"), ("attempt", .int 2)]]
    error.context.Intact (.ofPairs [("dsn", .text "old")]) ∧ error.context.replacement = none ∧
      (∀ pair ∈ calls.flatten, pair.1 = "bindings" → pair.2.IsListed) ∧
      Records error (.ofPairs [("dsn", .text "old")]) calls ∧
      (calls.foldlM withContext error >>= report).toOption.map (·.context) =
        some (.ofPairs [("dsn", .text "old"), ("sql", .text "select 1"),
          ("bindings", .list [.int 1]), ("attempt", .int 2)]) := by
  intro error calls
  have intact : error.context.Intact (.ofPairs [("dsn", .text "old")]) := ⟨rfl, .inr rfl, rfl⟩
  have listed : ∀ pair ∈ calls.flatten, pair.1 = "bindings" → pair.2.IsListed := by
    have unnamed : ∀ name ∈ calls.flatten.map (·.1), name ≠ "bindings" := by
      decide
    exact fun pair member named => absurd named (unnamed _ (List.mem_map_of_mem member))
  exact ⟨intact, rfl, listed, report_records intact rfl listed, rfl⟩

end AdapterError

end Midrange
