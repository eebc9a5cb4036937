import Midrange.Options.ConnectionString

/-!
# The keywords of connection strings

A reader of the grammar of connection strings, as the driver has it.  It takes a
connection string apart into the keywords of its options, whatever their values
hold: a value that stands without braces has nothing that the reader would stop at.
-/

namespace Midrange.Options

open Midrange.Text

/-! ## The reader -/

/-- The text before a mark and the text after it. -/
def readUpTo? (mark : Char) : List Char → Option (List Char × List Char)
  | [] => none
  | character :: rest =>
      if character = mark then
        some ([], rest)
      else
        (readUpTo? mark rest).map fun (text, rest) => (character :: text, rest)

/-- A text in braces, behind the opening one: two closing braces stand for one in the
text, and the first one that is alone ends it. -/
def readBraced? : List Char → Option (List Char × List Char)
  | [] => none
  | '}' :: '}' :: rest => (readBraced? rest).map fun (text, rest) => ('}' :: text, rest)
  | '}' :: rest => some ([], rest)
  | character :: rest =>
      (readBraced? rest).map fun (text, rest) => (character :: text, rest)

/-- A value with the semicolon that ends it. -/
def readValue? : List Char → Option (List Char × List Char)
  | '{' :: rest =>
      match readBraced? rest with
      | some (text, ';' :: rest) => some (text, rest)
      | _ => none
  | characters => readUpTo? ';' characters

/-- A keyword with its value, and the text after them. -/
def readKeyword? (characters : List Char) : Option ((String × String) × List Char) := do
  let (name, rest) ← readUpTo? '=' characters
  let (value, rest) ← readValue? rest
  return ((String.ofList name, String.ofList value), rest)

theorem length_readUpTo? {mark : Char} {characters text rest : List Char}
    (read : readUpTo? mark characters = some (text, rest)) :
    rest.length < characters.length := by
  induction characters generalizing text with
  | nil => cases read
  | cons character later induction =>
      rw [readUpTo?] at read
      split at read
      · cases read
        exact Nat.lt_succ_self _
      · obtain ⟨⟨text, rest⟩, found, same⟩ := Option.map_eq_some_iff.mp read
        cases same
        exact Nat.lt_succ_of_lt (induction found)

theorem length_readBraced? {characters text rest : List Char}
    (read : readBraced? characters = some (text, rest)) :
    rest.length < characters.length := by
  fun_induction readBraced? characters generalizing text with
  | case1 => cases read
  | case2 later induction =>
      obtain ⟨⟨text, rest⟩, found, same⟩ := Option.map_eq_some_iff.mp read
      cases same
      exact Nat.lt_succ_of_lt (Nat.lt_succ_of_lt (induction found))
  | case3 later =>
      cases read
      exact Nat.lt_succ_self _
  | case4 character later _ _ induction =>
      obtain ⟨⟨text, rest⟩, found, same⟩ := Option.map_eq_some_iff.mp read
      cases same
      exact Nat.lt_succ_of_lt (induction found)

theorem length_readValue? {characters text rest : List Char}
    (read : readValue? characters = some (text, rest)) :
    rest.length < characters.length := by
  unfold readValue? at read
  split at read
  · split at read
    · rename_i found
      cases read
      have shorter := length_readBraced? found
      simp only [List.length_cons] at shorter ⊢
      omega
    · cases read
  · exact length_readUpTo? read

theorem length_readKeyword? {characters rest : List Char} {entry : String × String}
    (read : readKeyword? characters = some (entry, rest)) :
    rest.length < characters.length := by
  obtain ⟨⟨name, behind⟩, named, read⟩ := Option.bind_eq_some_iff.mp read
  obtain ⟨⟨value, rest⟩, valued, read⟩ := Option.bind_eq_some_iff.mp read
  cases read
  exact Nat.lt_trans (length_readValue? valued) (length_readUpTo? named)

/-- The keywords of a text, if it holds nothing else. -/
def readKeywords? (characters : List Char) : Option (List (String × String)) :=
  if characters.isEmpty then
    some []
  else
    match _ : readKeyword? characters with
    | none => none
    | some (entry, rest) => (readKeywords? rest).map (entry :: ·)
termination_by characters.length
decreasing_by exact length_readKeyword? ‹_›

/-! ## Values -/

theorem readUpTo?_append {mark : Char} {text : List Char} (absent : mark ∉ text)
    (rest : List Char) : readUpTo? mark (text ++ mark :: rest) = some (text, rest) := by
  induction text with
  | nil => simp [readUpTo?]
  | cons character later induction =>
      rw [List.mem_cons, not_or] at absent
      rw [List.cons_append, readUpTo?, if_neg (Ne.symm absent.1), induction absent.2]
      rfl

/-- Behind doubled braces the reader stops at the one that is alone. -/
theorem readBraced?_doubleBraces (text : List Char) {rest : List Char}
    (ended : rest.head? ≠ some '}') :
    readBraced? (doubleBraces text ++ '}' :: rest) = some (text, rest) := by
  induction text with
  | nil =>
      cases rest with
      | nil => rfl
      | cons character later =>
          have other : character ≠ '}' := by
            simpa using ended
          simp [doubleBraces, readBraced?, other]
  | cons character later induction =>
      by_cases brace : character = '}'
      · subst brace
        simp only [doubleBraces, List.flatMap_cons, if_true] at induction ⊢
        simp [readBraced?, induction]
      · simp only [doubleBraces, List.flatMap_cons, if_neg brace] at induction ⊢
        simp [readBraced?, brace, induction]

/-- A value is read back, whatever it holds. -/
theorem readValue?_keywordValue (text rest : List Char) :
    readValue? (keywordValue text ++ ';' :: rest) = some (text, rest) := by
  rw [keywordValue]
  split
  · have braced : readBraced? (doubleBraces text ++ '}' :: ';' :: rest) =
        some (text, ';' :: rest) := readBraced?_doubleBraces text (by simp)
    simp [readValue?, braced]
  · rename_i plain
    rw [Bool.or_eq_true, not_or, List.any_eq_true] at plain
    have unmarked : ';' ∉ text := fun member => plain.1 ⟨_, member, rfl⟩
    have unbraced : '{' ∉ text := fun member => plain.1 ⟨_, member, rfl⟩
    have bare : readValue? (text ++ ';' :: rest) = readUpTo? ';' (text ++ ';' :: rest) := by
      cases text with
      | nil => rfl
      | cons character later =>
          have other : character ≠ '{' := by
            rintro rfl
            exact unbraced List.mem_cons_self
          simp [readValue?, other]
    rw [bare]
    exact readUpTo?_append unmarked rest

theorem readKeyword?_keyword {name : String} (plain : '=' ∉ name.toList) (value : Value)
    (rest : List Char) :
    readKeyword? (keyword name value ++ rest) = some ((name, value.toText), rest) := by
  have parts : keyword name value ++ rest =
      name.toList ++ '=' :: (keywordValue value.toText.toList ++ ';' :: rest) := by
    simp [keyword]
  rw [parts, readKeyword?]
  simp [readUpTo?_append plain, readValue?_keywordValue]

theorem readKeywords?_nil : readKeywords? [] = some [] := by
  rw [readKeywords?]
  rfl

theorem readKeywords?_cons {characters rest : List Char} {entry : String × String}
    (read : readKeyword? characters = some (entry, rest)) :
    readKeywords? characters = (readKeywords? rest).map (entry :: ·) := by
  have filled : ¬characters.isEmpty := by
    intro none
    rw [List.isEmpty_iff.mp none] at read
    cases read
  rw [readKeywords?, if_neg filled]
  split
  · rename_i unread
    rw [read] at unread
    cases unread
  · rename_i found
    cases read.symm.trans found
    rfl

/-- Keywords one after another are read back, and then what follows them, if no name of
them has the mark that stands before a value. -/
theorem readKeywords?_append {entries : List (String × Value)}
    (plain : ∀ entry ∈ entries, '=' ∉ entry.1.toList) (rest : List Char) :
    readKeywords? (entries.flatMap (fun entry => keyword entry.1 entry.2) ++ rest) =
      (readKeywords? rest).map
        ((entries.map fun entry => (entry.1, entry.2.toText)) ++ ·) := by
  induction entries with
  | nil => simp
  | cons entry later induction =>
      have first := readKeyword?_keyword (plain _ List.mem_cons_self) entry.2
        (later.flatMap (fun entry => keyword entry.1 entry.2) ++ rest)
      have others := induction fun entry member => plain entry (List.mem_cons_of_mem _ member)
      rw [List.flatMap_cons, List.append_assoc, readKeywords?_cons first, others,
        Option.map_map]
      rfl

theorem readKeywords?_flatMap {entries : List (String × Value)}
    (plain : ∀ entry ∈ entries, '=' ∉ entry.1.toList) :
    readKeywords? (entries.flatMap fun entry => keyword entry.1 entry.2) =
      some (entries.map fun entry => (entry.1, entry.2.toText)) := by
  have read := readKeywords?_append plain []
  rwa [List.append_nil, readKeywords?_nil, Option.map_some, List.append_nil] at read

/-! ## Connection strings -/

/-- A further option has a name that is not mapped. -/
theorem mem_of_further? {options : Fields Value} {name : String}
    (given : (further? options name).isSome) : name ∈ options.names ∧ name ∉ mapped := by
  rw [further?] at given
  split at given
  · cases given
  · rename_i own
    refine ⟨?_, mt List.contains_iff_mem.mpr own⟩
    cases found : options.get? name with
    | none =>
        rw [found] at given
        cases given
    | some value => exact List.mem_map.mpr ⟨_, Fields.mem_of_get? found, rfl⟩

/-- The keywords are the six and the further options: no text of an option adds one or
drops one. -/
theorem names_listed (options : Fields Value) :
    (listed options).map (·.1) = (standard options).map (·.1) ++
      (options.names.filter (· ∉ (standard options).map (·.1))).filter fun name =>
        (further? options name).isSome := by
  have further (names : List String) :
      (names.filterMap fun name => (further? options name).map fun text => (name, text)).map
          (·.1) = names.filter fun name => (further? options name).isSome := by
    induction names with
    | nil => rfl
    | cons name rest induction =>
        cases given : further? options name <;> simp [given, induction]
  rw [listed, List.map_append, List.map_map, further]
  rfl

/-- A connection string is read as the keywords of its options, each of them once, with
their exact texts. -/
theorem connectionString_read {options : Fields Value}
    (plain : ∀ name ∈ options.names, name ∉ mapped →
      ∀ character ∈ name.toList, isSpecial character = false) :
    readKeywords? (connectionString options).toList = some (listed options) ∧
      ((listed options).map (·.1)).Nodup := by
  have names : (keywords options).names = (listed options).map (·.1) := by
    rw [← texts_keywords, List.map_map]
    rfl
  have unmarked : ∀ entry ∈ (keywords options).entries, '=' ∉ entry.1.toList := by
    intro entry member marked
    have named : entry.1 ∈ (listed options).map (·.1) :=
      names ▸ List.mem_map.mpr ⟨entry, member, rfl⟩
    rw [names_listed, List.mem_append] at named
    rcases named with six | further
    · have bare : ∀ name ∈ (standard options).map (·.1), '=' ∉ name.toList := by
        rw [names_standard]
        decide
      exact bare _ six marked
    · obtain ⟨given, own⟩ := mem_of_further? (List.mem_filter.mp further).2
      exact Bool.noConfusion (plain _ given own '=' marked)
  constructor
  · rw [connectionString, String.toList_ofList, readKeywords?_flatMap unmarked, texts_keywords]
  · exact names ▸ (keywords options).distinct

/-- Options whose texts look like keywords, with one that is spelled like a keyword. -/
def hostileOptions : Fields Value :=
  .ofPairs [
    (host, .text "as400:446:1"),
    (password, .text "p;UID=root;x=\x7b\x7d\x7d"),
    ("CCSID", .text "\x7d;PORT=1"),
    ("PROTOCOL", .text " a "),
    ("naming", .null),
    (user, .int 0)]

theorem hostileOptions_read :
    (∀ name ∈ hostileOptions.names, name ∉ mapped →
      ∀ character ∈ name.toList, isSpecial character = false) ∧
    readKeywords? (connectionString hostileOptions).toList = some [
      ("DATABASE", ""), ("HOSTNAME", "as400"), ("PORT", "446:1"), ("PROTOCOL", " a "),
      ("UID", ""), ("PWD", "p;UID=root;x=\x7b\x7d\x7d"), ("CCSID", "\x7d;PORT=1")] := by
  have plain : ∀ name ∈ hostileOptions.names, name ∉ mapped →
      ∀ character ∈ name.toList, isSpecial character = false := by
    have checked : ∀ name ∈ hostileOptions.names, name ∉ mapped →
        (name.toList.any isSpecial) = false := by
      decide
    intro name given own character member
    simpa using List.any_eq_false.mp (checked name given own) character member
  exact ⟨plain, (connectionString_read plain).1⟩

end Midrange.Options
