import Midrange.Proofs.Steering

/-!
# The address of a store

A target joins its host and its port with a colon, and the connection string takes them
apart again at the first colon.  So the two come back as they were exactly if the host has
no colon of its own.  Of a host that has one, such as an IPv6 address, what stands behind
its first colon goes to the port.
-/

namespace Midrange

namespace Options

private theorem kept_of_plain {name : List Char} (plain : ':' ∉ name) :
    ∀ character ∈ name, decide (character ≠ ':') = true := by
  intro character member
  apply decide_eq_true
  intro colon
  exact plain (colon ▸ member)

/-- The first colon ends the host. -/
theorem splitAddress_append {name : List Char} (plain : ':' ∉ name) (port : List Char) :
    splitAddress (name ++ ':' :: port) = (name, port) := by
  have kept := kept_of_plain plain
  rw [splitAddress, List.takeWhile_append_of_pos kept, List.dropWhile_append_of_pos kept]
  simp

theorem splitAddress_plain {name : List Char} (plain : ':' ∉ name) :
    splitAddress name = (name, []) := by
  have kept := kept_of_plain plain
  have taken : (name ++ []).takeWhile (· ≠ ':') = _ := List.takeWhile_append_of_pos kept
  have dropped : (name ++ []).dropWhile (· ≠ ':') = _ := List.dropWhile_append_of_pos kept
  rw [List.append_nil] at taken dropped
  rw [splitAddress, taken, dropped]
  simp

theorem notMem_splitAddress (address : List Char) : ':' ∉ (splitAddress address).1 := by
  intro member
  have kept : (address.takeWhile (· ≠ ':')).all (· ≠ ':') = true := List.all_takeWhile
  have other := List.all_eq_true.mp kept ':' member
  simp at other

end Options

namespace Target

open Options

variable {target : Target} {host : String}

/-! ## The keywords of an address -/

theorem served_append {name port : List Char} (plain : ':' ∉ name) (given : port ≠ []) :
    served (name ++ ':' :: port) = (String.ofList name, String.ofList port) := by
  have filled : port.isEmpty = false := List.isEmpty_eq_false_iff.mpr given
  simp only [served, splitAddress_append plain, filled, Bool.false_eq_true, if_false]

theorem served_plain {name : List Char} (plain : ':' ∉ name) :
    served name = (String.ofList name, "50000") := by
  rw [served, splitAddress_plain plain]
  rfl

theorem notMem_served (address : List Char) : ':' ∉ (served address).1.toList := by
  rw [served, String.toList_ofList]
  exact notMem_splitAddress address

/-- The connection string names this host and this port, each of them once. -/
def Leads (target : Target) (host port : String) : Prop :=
  valuesOf? target.options "HOSTNAME" = some [host] ∧
    valuesOf? target.options "PORT" = some [port]

theorem leads_iff (bare : target.extra = ∅) {port : String} :
    target.Leads host port ↔ served target.whereabouts = (host, port) := by
  have own : target.bare = target := by
    rw [Target.bare, ← bare]
  have values {name : String} (steers : name ∈ steering) :
      valuesOf? target.options name =
        some [((standard target.options).lookup name).getD ""] := by
    have values : valuesOf? target.bare.options name = _ := valuesOf?_bare steers
    rwa [own] at values
  rw [Leads, values (by decide), values (by decide), standard_options bare]
  simp [List.lookup_cons, Prod.ext_iff]

/-! ## Hosts that are texts -/

section

variable (named : target.host = .text host) (given : host ≠ "")
include named given

theorem shown_named : target.host.shown = host.toList ∧ target.host.isTrue = true := by
  have isTrue : target.host.isTrue = true := by
    rw [named]
    exact bne_iff_ne.mpr given
  constructor
  · rw [Value.shown, if_pos isTrue, named]
    rfl
  · exact isTrue

theorem whereabouts_ported (port : target.port.isTrue = true) :
    target.whereabouts = host.toList ++ ':' :: target.port.toText.toList := by
  obtain ⟨shown, isTrue⟩ := shown_named named given
  rw [whereabouts, if_pos isTrue, place, shown, if_pos port, Value.shown, if_pos port]

theorem whereabouts_unported (port : target.port.isTrue = false) :
    target.whereabouts = host.toList := by
  obtain ⟨shown, isTrue⟩ := shown_named named given
  rw [whereabouts, if_pos isTrue, place, shown, port]
  exact List.append_nil _

end

/-- What becomes of a host and its port in the connection string. -/
structure Located (target : Target) (host : String) : Prop where
  /-- The two are cut apart at their first colon. -/
  divided : target.port.isTrue = true → ∃ name port, target.Leads name port ∧
    ':' ∉ name.toList ∧ name ++ ":" ++ port = host ++ ":" ++ target.port.toText
  /-- They come back exactly if the host has no colon. -/
  ported : target.port.isTrue = true →
    (target.Leads host target.port.toText ↔ ':' ∉ host.toList)
  /-- Without a port the host comes back, with the default port, exactly if it has no
  colon. -/
  unported : target.port.isTrue = false →
    (target.Leads host "50000" ↔ ':' ∉ host.toList)

/-- A host and its port survive the connection string exactly if the host has no colon. -/
theorem address_survives (bare : target.extra = ∅) (named : target.host = .text host)
    (given : host ≠ "") : target.Located host := by
  have plain_of_leads {port : String} (leads : target.Leads host port) : ':' ∉ host.toList := by
    have plain := notMem_served target.whereabouts
    rwa [(leads_iff bare).mp leads] at plain
  have leads_of_plain (port : target.port.isTrue = true) (plain : ':' ∉ host.toList) :
      target.Leads host target.port.toText := by
    have filled : target.port.toText.toList ≠ [] :=
      mt String.toList_eq_nil_iff.mp (Value.toText_ne_empty port)
    rw [leads_iff bare, whereabouts_ported named given port, served_append plain filled,
      String.ofList_toList, String.ofList_toList]
  constructor
  · intro port
    by_cases plain : ':' ∈ host.toList
    · obtain ⟨name, rest, parts, plain⟩ := List.eq_append_cons_of_mem plain
      refine ⟨String.ofList name, String.ofList (rest ++ ':' :: target.port.toText.toList),
        ?_, ?_, ?_⟩
      · rw [leads_iff bare, whereabouts_ported named given port, parts, List.append_assoc,
          List.cons_append]
        exact served_append plain (by simp)
      · rwa [String.toList_ofList]
      · apply String.toList_injective
        simp [parts]
    · exact ⟨host, target.port.toText, leads_of_plain port plain, plain, rfl⟩
  · intro port
    exact ⟨plain_of_leads, leads_of_plain port⟩
  · intro port
    refine ⟨plain_of_leads, fun plain => ?_⟩
    rw [leads_iff bare, whereabouts_unported named given port, served_plain plain,
      String.ofList_toList]

/-- A target whose host is an IPv6 address. -/
def numericTarget : Target where
  host := .text "fe80::1"
  port := .int 446

theorem address_survives_numeric :
    numericTarget.extra = ∅ ∧ numericTarget.host = .text "fe80::1" ∧ "fe80::1" ≠ "" ∧
      numericTarget.Located "fe80::1" ∧ numericTarget.Leads "fe80" ":1:446" ∧
      ¬numericTarget.Leads "fe80::1" "446" := by
  have located : numericTarget.Located "fe80::1" := address_survives rfl rfl (by decide)
  have marked : ':' ∈ "fe80::1".toList := by
    decide
  refine ⟨rfl, rfl, by decide, located, ?_, fun leads => ?_⟩
  · exact (leads_iff rfl).mpr (by decide)
  · exact (located.ported rfl).mp leads marked

end Target

end Midrange
