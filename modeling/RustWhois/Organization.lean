import RustWhois.Arms

/-!
# Whose network

The `registrar` of an IP response is an organization if the response names one, and a network name
otherwise. The loop decides line by line and may overrule itself.

* `ipEntries`, `firstValue`: what the lines of a response say, and the first value under some keys;
* `Chosen`: what the record and the flag of the loop are after some lines;
* **`chosen_parseIpLines`**: every line keeps it;
* **`registrar_parseIpWhoisData`**: the organization wins wherever it stands.
-/

namespace RustWhois

open Rust

namespace WhoisParser

/-- Keys and values of the lines that are neither empty nor comments nor lack a value. -/
def ipEntries (data : Text) : List (Text × Text) :=
  (substantive ["%", "#"] data).filterMap keyValue

def organizationKeys : List Text := ["orgname", "org-name", "owner", "organization"]

def networkNameKeys : List Text := ["netname"]

/-- The value of the first entry with one of the keys. -/
def firstValue (keys : List Text) (entries : List (Text × Text)) : Option Text :=
  (entries.find? fun e => isOneOf e.1 keys).map Prod.snd

theorem firstValue_concat (keys : List Text) (entries : List (Text × Text)) (k value : Text) :
    firstValue keys (entries ++ [(k, value)]) =
      (firstValue keys entries).or (if isOneOf k keys then some value else none) := by
  rw [firstValue, List.find?_append, Option.map_or, ← firstValue]
  congr 1
  by_cases hk : isOneOf k keys = true
  · simp [hk]
  · simp [hk]

theorem firstValue_filter (keys : List Text) (entries : List (Text × Text)) :
    firstValue keys (entries.filter fun e => isOneOf e.1 keys) = firstValue keys entries := by
  simp only [firstValue, List.find?_filter, and_self, Bool.decide_eq_true]

/-! ## The loop -/

theorem not_networkName_of_organization {k : Text} (h : isOneOf k organizationKeys = true) :
    isOneOf k networkNameKeys = false := by
  simp only [isOneOf, organizationKeys, List.contains_iff_mem, List.mem_cons, List.not_mem_nil,
    or_false] at h
  rcases h with rfl | rfl | rfl | rfl <;> rfl

theorem registrar_parseIpLine {s : IpState} {line k value : Text}
    (h : keyValue line = some (k, value)) :
    ((parseIpLine s line).parsed.registrar, (parseIpLine s line).orgFromNetname) =
      if isOneOf k organizationKeys && (s.parsed.registrar.isNone || s.orgFromNetname) then
        (some value, false)
      else if isOneOf k networkNameKeys && s.parsed.registrar.isNone then (some value, true)
      else (s.parsed.registrar, s.orgFromNetname) := by
  rw [parseIpLine, h]
  dsimp only
  by_cases horg : (isOneOf k organizationKeys &&
      (s.parsed.registrar.isNone || s.orgFromNetname)) = true
  · have hm : matchIpField s k value = some .organization := if_pos horg
    rw [hm, if_pos horg]
    rfl
  by_cases hnet : (isOneOf k networkNameKeys && s.parsed.registrar.isNone) = true
  · have hm : matchIpField s k value = some .networkName := (if_neg horg).trans (if_pos hnet)
    rw [hm, if_neg horg, if_pos hnet]
    rfl
  rw [if_neg horg, if_neg hnet]
  cases hm : matchIpField s k value with
  | none => rfl
  | some arm =>
    rw [matchIpField_eq_find] at hm
    have hguard := List.find?_some (p := IpField.guard s k value) hm
    cases arm with
    | organization => exact absurd hguard horg
    | networkName => exact absurd hguard hnet
    | _ => rfl

/-- After the lines with these entries: the first organization, or else the first network name, and
whether it is the network name. -/
def Chosen (entries : List (Text × Text)) (s : IpState) : Prop :=
  s.parsed.registrar =
      (firstValue organizationKeys entries).or (firstValue networkNameKeys entries) ∧
    s.orgFromNetname =
      ((firstValue organizationKeys entries).isNone && (firstValue networkNameKeys entries).isSome)

theorem Chosen.step {entries : List (Text × Text)} {s : IpState} (hs : Chosen entries s)
    (line : Text) : Chosen (entries ++ (keyValue line).toList) (parseIpLine s line) := by
  cases hkv : keyValue line with
  | none =>
    rw [parseIpLine, hkv, Option.toList_none, List.append_nil]
    exact hs
  | some kv =>
    obtain ⟨k, value⟩ := kv
    obtain ⟨hregistrar, hflag⟩ := hs
    have hline := registrar_parseIpLine (s := s) hkv
    rw [hregistrar, hflag] at hline
    have hdisjoint := not_networkName_of_organization (k := k)
    rw [Chosen, Option.toList_some, firstValue_concat, firstValue_concat]
    generalize firstValue organizationKeys entries = org at hline ⊢
    generalize firstValue networkNameKeys entries = net at hline ⊢
    -- an organization counts unless there was one, a network name unless there was either
    cases ho : isOneOf k organizationKeys with
    | true =>
      rw [ho, hdisjoint ho] at hline
      rw [hdisjoint ho]
      cases org <;> cases net <;> simpa using hline
    | false =>
      rw [ho] at hline
      cases hn : isOneOf k networkNameKeys with
      | true =>
        rw [hn] at hline
        cases org <;> cases net <;> simpa using hline
      | false =>
        rw [hn] at hline
        cases org <;> cases net <;> simpa using hline

theorem chosen_parseIpLines (data : Text) : Chosen (ipEntries data) (parseIpLines data) := by
  suffices h : ∀ (lines : List Text) (entries : List (Text × Text)) (s : IpState),
      Chosen entries s → Chosen (entries ++ lines.filterMap keyValue) (lines.foldl parseIpLine s)
    from h _ [] .start ⟨rfl, rfl⟩
  intro lines
  induction lines with
  | nil =>
    intro entries s hs
    rw [List.filterMap_nil, List.append_nil]
    exact hs
  | cons line lines ih =>
    intro entries s hs
    have hrest := ih _ _ (hs.step line)
    rw [List.append_assoc] at hrest
    rw [List.foldl_cons, List.filterMap_cons]
    cases hkv : keyValue line with
    | none => simpa [hkv] using hrest
    | some e => simpa [hkv] using hrest

/-! ## The record -/

/-- Two responses whose organizations come in the same order, and whose network names do. -/
def SameNames (data data' : Text) : Prop :=
  ∀ keys ∈ [organizationKeys, networkNameKeys],
    (ipEntries data').filter (fun e => isOneOf e.1 keys) =
      (ipEntries data).filter fun e => isOneOf e.1 keys

instance (data data' : Text) : Decidable (SameNames data data') := by
  unfold SameNames
  infer_instance

/-- **An organization beats a network name**, and it does not matter where the lines of the one kind
stand among those of the other. -/
theorem registrar_parseIpWhoisData (clock : Clock) (data : Text) :
    ((parseIpWhoisDataWithAnalysis clock data).1.map ParsedWhoisData.registrar =
      some ((firstValue organizationKeys (ipEntries data)).or
        (firstValue networkNameKeys (ipEntries data)))) ∧
    ∀ data', SameNames data data' →
      (parseIpWhoisDataWithAnalysis clock data').1.map ParsedWhoisData.registrar =
        (parseIpWhoisDataWithAnalysis clock data).1.map ParsedWhoisData.registrar := by
  have hchosen : ∀ data, (parseIpWhoisDataWithAnalysis clock data).1.map ParsedWhoisData.registrar =
      some ((firstValue organizationKeys (ipEntries data)).or
        (firstValue networkNameKeys (ipEntries data))) :=
    fun data => congrArg some (chosen_parseIpLines data).1
  refine ⟨hchosen data, fun data' hsame => ?_⟩
  have horg := hsame organizationKeys List.mem_cons_self
  have hnet := hsame networkNameKeys (List.mem_cons_of_mem _ List.mem_cons_self)
  rw [hchosen, hchosen, ← firstValue_filter, horg, firstValue_filter,
    ← firstValue_filter networkNameKeys, hnet, firstValue_filter]

/-- A network name moved behind the organization. -/
theorem registrar_moved :
    (parseIpWhoisDataWithAnalysis ⟨0, fun _ => none⟩
        "OrgName: Example Org\nNetName: EX-NET").1.map ParsedWhoisData.registrar =
      (parseIpWhoisDataWithAnalysis ⟨0, fun _ => none⟩
        "NetName: EX-NET\nOrgName: Example Org").1.map ParsedWhoisData.registrar :=
  (registrar_parseIpWhoisData ⟨0, fun _ => none⟩ "NetName: EX-NET\nOrgName: Example Org").2
    "OrgName: Example Org\nNetName: EX-NET" (by decide +kernel)

end WhoisParser

end RustWhois
