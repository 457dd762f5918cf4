import RustWhois.Parser

/-!
# Lines inserted into a response

What the parsers make of a response in which further lines were inserted anywhere.

* `Grown`: a record has filled the fields that decide the classification, as far as another has;
* `matchField_of_grown`, `matchIpField_of_grown`: a line that fills such a field still does so after
  more lines, unless the field is filled already;
* **`found_of_sublist`**: inserted lines never hide a record.
-/

namespace RustWhois

open Rust WhoisParser

/-- Two folds, the second over more elements, stay related by what one step preserves. -/
theorem foldl_of_sublist {α σ : Type} {R : σ → σ → Prop} {f : σ → α → σ}
    (hboth : ∀ s s' a, R s s' → R (f s a) (f s' a)) (hmore : ∀ s s' a, R s s' → R s (f s' a))
    {l l' : List α} (h : List.Sublist l l') {s s' : σ} (hs : R s s') :
    R (l.foldl f s) (l'.foldl f s') := by
  induction h generalizing s s' with
  | slnil => exact hs
  | cons a _ ih => exact ih (hmore _ _ a hs)
  | cons_cons a _ ih => exact ih (hboth _ _ a hs)

theorem substantive_sublist (marks : List Text) {data data' : Text}
    (h : List.Sublist data.lines data'.lines) :
    List.Sublist (substantive marks data) (substantive marks data') :=
  (h.map _).filter _

/-! ## Fields that are filled -/

/-- The fields of the first arms of the parsers. -/
def RecordField.early : RecordField → Bool
  | registrar | creationDate | expirationDate | updatedDate | nameServers => true
  | _ => false

def RecordField.isFilled (p : ParsedWhoisData) (f : RecordField) : Bool := !(f.value p).isEmpty

/-- The early fields that `p` has filled, `p'` has filled. -/
def Grown (p p' : ParsedWhoisData) : Prop :=
  ∀ f : RecordField, f.early = true → f.isFilled p = true → f.isFilled p' = true

theorem Grown.step {p p' q q' : ParsedWhoisData} (h : Grown p p')
    (hkeep : ∀ f : RecordField, f.isFilled p' = true → f.isFilled q' = true)
    (hnew : ∀ f : RecordField, f.early = true → f.isFilled p = false → f.isFilled p' = false →
      f.isFilled q = true → f.isFilled q' = true) : Grown q q' := by
  intro f he hf
  cases hf' : f.isFilled p' with
  | true => exact hkeep f hf'
  | false =>
    refine hnew f he ?_ hf' hf
    by_contra htrue
    rw [h f he (by simpa using htrue)] at hf'
    cases hf'

theorem Grown.refl (p : ParsedWhoisData) : Grown p p := fun _ _ h => h

/-- **A record that has grown still has its data.** -/
theorem Grown.hasRecordData {p p' : ParsedWhoisData} (h : Grown p p')
    (hp : p.hasRecordData = true) : p'.hasRecordData = true := by
  have hregistrar := h .registrar rfl
  have hcreation := h .creationDate rfl
  have hservers := h .nameServers rfl
  simp only [RecordField.isFilled, RecordField.value, FieldValue.isEmpty, Option.not_isNone]
    at hregistrar hcreation hservers
  simp only [ParsedWhoisData.hasRecordData, Bool.or_eq_true] at hp ⊢
  exact hp.imp (Or.imp hregistrar hcreation) hservers

namespace WhoisParser

/-! ## Domain responses -/

/-- The field an arm fills. -/
def Field.slot : Field → RecordField
  | expirationDate => .expirationDate
  | creationDate => .creationDate
  | updatedDate => .updatedDate
  | registrar => .registrar
  | nameServer => .nameServers
  | status => .status
  | registrantName => .registrantName
  | registrantEmail => .registrantEmail
  | adminEmail => .adminEmail
  | techEmail => .techEmail

theorem isFilled_store (p : ParsedWhoisData) (value : Text) (arm : Field) (f : RecordField) :
    f.isFilled (store p value arm) = (f.isFilled p || f == arm.slot) := by
  cases arm with
  | nameServer =>
    rw [store]
    split_ifs with h
    · have hne : p.nameServers.isEmpty = false := by
        cases hs : p.nameServers with
        | nil => simp [hs] at h
        | cons _ _ => rfl
      cases f <;> simp [RecordField.isFilled, RecordField.value, FieldValue.isEmpty, Field.slot, hne]
    · cases f <;> simp [RecordField.isFilled, RecordField.value, FieldValue.isEmpty, Field.slot]
  | _ =>
    cases f <;>
      simp [store, RecordField.isFilled, RecordField.value, FieldValue.isEmpty, Field.slot]

/-- The early arms, each with its test of the key. -/
theorem matchField_early (k value : Text) : ∃ expir creat updat regis names : Bool,
    ∀ p : ParsedWhoisData, ∃ rest : Option Field, (∀ arm ∈ rest, arm.slot.early = false) ∧
      matchField p k value =
        if expir && p.expirationDate.isNone then some .expirationDate
        else if creat && p.creationDate.isNone then some .creationDate
        else if updat && p.updatedDate.isNone then some .updatedDate
        else if regis && p.registrar.isNone then some .registrar
        else if names then some .nameServer
        else rest := by
  refine ⟨_, _, _, _, _, fun p => ⟨_, ?_, rfl⟩⟩
  intro arm harm
  split_ifs at harm <;> cases harm <;> rfl

theorem not_guard_of_grown {x x' : Option Text} (h : (!x.isNone) = true → (!x'.isNone) = true)
    (test : Bool) (hn : ¬ (test && x.isNone) = true) : ¬ (test && x'.isNone) = true := by
  cases test
  · simp
  · simp only [Bool.true_and, Bool.not_eq_true, Bool.not_eq_true'] at h hn ⊢
    exact h hn

theorem guard_of_empty {x x' : Option Text} {test : Bool} (hp : (test && x.isNone) = true)
    (hempty : (!x'.isNone) = false) : (test && x'.isNone) = true := by
  rw [Bool.and_eq_true] at hp ⊢
  exact ⟨hp.1, by simpa using hempty⟩

/-- **After more lines, a line still fills the field it filled before, if nothing else has.** -/
theorem matchField_of_grown {p p' : ParsedWhoisData} (h : Grown p p') {k value : Text}
    {arm : Field} (hm : matchField p k value = some arm) (he : arm.slot.early = true)
    (hempty : arm.slot.isFilled p' = false) : matchField p' k value = some arm := by
  obtain ⟨expir, creat, updat, regis, names, hearly⟩ := matchField_early k value
  obtain ⟨rest, hrest, heq⟩ := hearly p
  obtain ⟨rest', -, heq'⟩ := hearly p'
  have hexpir := not_guard_of_grown (h .expirationDate rfl)
  have hcreat := not_guard_of_grown (h .creationDate rfl)
  have hupdat := not_guard_of_grown (h .updatedDate rfl)
  have hregis := not_guard_of_grown (h .registrar rfl)
  rw [heq] at hm
  rw [heq']
  split_ifs at hm with h1 h2 h3 h4 h5
  · cases hm
    rw [if_pos (guard_of_empty h1 hempty)]
  · cases hm
    rw [if_neg (hexpir _ h1), if_pos (guard_of_empty h2 hempty)]
  · cases hm
    rw [if_neg (hexpir _ h1), if_neg (hcreat _ h2), if_pos (guard_of_empty h3 hempty)]
  · cases hm
    rw [if_neg (hexpir _ h1), if_neg (hcreat _ h2), if_neg (hupdat _ h3),
      if_pos (guard_of_empty h4 hempty)]
  · cases hm
    rw [if_neg (hexpir _ h1), if_neg (hcreat _ h2), if_neg (hupdat _ h3), if_neg (hregis _ h4), if_pos h5]
  · rw [hrest arm hm] at he
    cases he

theorem isFilled_parseLine {p : ParsedWhoisData} {f : RecordField} (hf : f.isFilled p = true)
    (line : Text) : f.isFilled (parseLine p line) = true := by
  rw [parseLine]
  rcases keyValue line with _ | ⟨key, value⟩
  · exact hf
  dsimp only
  rcases matchField p key value with _ | arm
  · exact hf
  · dsimp only
    rw [isFilled_store, hf, Bool.true_or]

theorem grown_parseLine {p p' : ParsedWhoisData} (h : Grown p p') (line : Text) :
    Grown (parseLine p line) (parseLine p' line) := by
  refine h.step (fun f hf => isFilled_parseLine hf line) ?_
  intro f he hp hp' hf
  rw [parseLine] at hf ⊢
  rcases hkv : keyValue line with _ | ⟨key, value⟩
  · rw [hkv, hp] at hf
    cases hf
  rw [hkv] at hf
  dsimp only at hf ⊢
  rcases hm : matchField p key value with _ | arm
  · rw [hm, hp] at hf
    cases hf
  -- the line fills the field in the one record, and so in the other
  rw [hm] at hf
  dsimp only at hf
  rw [isFilled_store, hp, Bool.false_or, beq_iff_eq] at hf
  subst hf
  rw [matchField_of_grown h hm he hp']
  dsimp only
  rw [isFilled_store, beq_self_eq_true, Bool.or_true]

/-! ## IP responses -/

/-- The field an arm fills; a network range is only logged. -/
def IpField.slot : IpField → Option RecordField
  | organization | networkName => some .registrar
  | updatedDate => some .updatedDate
  | createdDate => some .creationDate
  | techEmail => some .techEmail
  | abuseEmail => some .adminEmail
  | contactEmail => some .registrantEmail
  | status => some .status
  | networkRange => none

theorem isFilled_storeIp (p : ParsedWhoisData) (value : Text) (arm : IpField) (f : RecordField) :
    f.isFilled (storeIp p value arm) = (f.isFilled p || arm.slot == some f) := by
  cases arm <;> cases f <;>
    simp [storeIp, RecordField.isFilled, RecordField.value, FieldValue.isEmpty, IpField.slot]

theorem not_guard_of_key {k : Text} {words others : List Text} {test : Bool}
    (h : (isOneOf k words && test) = true)
    (hd : words.all (fun w => !isOneOf w others) = true) (test' : Bool) :
    ¬ (isOneOf k others && test') = true := by
  have hmem : k ∈ words := by simpa [isOneOf] using (Bool.and_eq_true_iff.mp h).1
  have hk := List.all_eq_true.mp hd k hmem
  rw [Bool.not_eq_true'] at hk
  rw [hk, Bool.false_and]
  exact Bool.false_ne_true

/-- **After more lines, a line fills the field it filled before, if nothing else has.** -/
theorem matchIpField_of_grown {s s' : IpState} {k value : Text} {arm : IpField}
    {f : RecordField} (hm : matchIpField s k value = some arm) (hslot : arm.slot = some f)
    (he : f.early = true) (hempty : f.isFilled s'.parsed = false) :
    ∃ arm', matchIpField s' k value = some arm' ∧ arm'.slot = some f := by
  rw [matchIpField] at hm
  simp only [matchIpField]
  split_ifs at hm with h1 h2 h3 h4
  · cases hm
    cases hslot
    have hnone : s'.parsed.registrar.isNone = true := by rwa [← Bool.not_eq_false']
    have hkey := (Bool.and_eq_true_iff.mp h1).1
    rw [if_pos (by rw [hkey, hnone]; rfl)]
    exact ⟨_, rfl, rfl⟩
  · cases hm
    cases hslot
    rw [if_neg (not_guard_of_key h2 (by decide) _), if_pos (guard_of_empty h2 hempty)]
    exact ⟨_, rfl, rfl⟩
  · cases hm
    cases hslot
    rw [if_neg (not_guard_of_key h3 (by decide) _), if_neg (not_guard_of_key h3 (by decide) _),
      if_pos (guard_of_empty h3 hempty)]
    exact ⟨_, rfl, rfl⟩
  · cases hm
    cases hslot
    rw [if_neg (not_guard_of_key h4 (by decide) _), if_neg (not_guard_of_key h4 (by decide) _),
      if_neg (not_guard_of_key h4 (by decide) _), if_pos (guard_of_empty h4 hempty)]
    exact ⟨_, rfl, rfl⟩
  -- the other arms fill no early field
  all_goals
    cases hm
    cases hslot <;> cases he

theorem isFilled_parseIpLine {s : IpState} {f : RecordField} (hf : f.isFilled s.parsed = true)
    (line : Text) : f.isFilled (parseIpLine s line).parsed = true := by
  rw [parseIpLine]
  rcases keyValue line with _ | ⟨key, value⟩
  · exact hf
  dsimp only
  rcases matchIpField s key value with _ | arm
  · exact hf
  · dsimp only
    rw [isFilled_storeIp, hf, Bool.true_or]

theorem grown_parseIpLine {s s' : IpState} (h : Grown s.parsed s'.parsed) (line : Text) :
    Grown (parseIpLine s line).parsed (parseIpLine s' line).parsed := by
  refine h.step (fun f hf => isFilled_parseIpLine hf line) ?_
  intro f he hp hp' hf
  rw [parseIpLine] at hf ⊢
  rcases hkv : keyValue line with _ | ⟨key, value⟩
  · rw [hkv, hp] at hf
    cases hf
  rw [hkv] at hf
  dsimp only at hf ⊢
  rcases hm : matchIpField s key value with _ | arm
  · rw [hm, hp] at hf
    cases hf
  rw [hm] at hf
  dsimp only at hf
  rw [isFilled_storeIp, hp, Bool.false_or, beq_iff_eq] at hf
  obtain ⟨arm', hm', hslot⟩ := matchIpField_of_grown hm hf he hp'
  rw [hm']
  dsimp only
  rw [isFilled_storeIp, hslot, beq_self_eq_true, Bool.or_true]

/-! ## Whole responses -/

section Responses

variable (clock : Clock) {data data' : Text}

theorem Grown.calculateAgeFields {p p' : ParsedWhoisData} (h : Grown p p') :
    Grown (p.calculateAgeFields clock) (p'.calculateAgeFields clock) := by
  intro f he hf
  cases f with
  | registrar => exact h .registrar he hf
  | creationDate => exact h .creationDate he hf
  | expirationDate => exact h .expirationDate he hf
  | updatedDate => exact h .updatedDate he hf
  | nameServers => exact h .nameServers he hf
  | _ => cases he

theorem grown_parseWhoisData (h : List.Sublist data.lines data'.lines) :
    Grown (parseWhoisData clock data) (parseWhoisData clock data') := by
  refine Grown.calculateAgeFields clock ?_
  exact foldl_of_sublist (R := Grown) (fun _ _ line hs => grown_parseLine hs line)
    (fun _ _ line hs f he hf => isFilled_parseLine (hs f he hf) line)
    (substantive_sublist ["%", "#", ">>>"] h) (Grown.refl {})

theorem grown_parseIpWhoisData (h : List.Sublist data.lines data'.lines) :
    Grown (parseIpWhoisData clock data) (parseIpWhoisData clock data') := by
  refine Grown.calculateAgeFields clock ?_
  exact foldl_of_sublist (R := fun s s' : IpState => Grown s.parsed s'.parsed)
    (fun _ _ line hs => grown_parseIpLine hs line)
    (fun _ _ line hs f he hf => isFilled_parseIpLine (hs f he hf) line)
    (substantive_sublist ["%", "#"] h) (Grown.refl {})

/-- **Inserted lines never hide a record**, in a domain response or in an IP response. -/
theorem found_of_sublist (data data' : Text) (h : List.Sublist data.lines data'.lines) :
    ((parseWhoisData clock data).hasRecordData = true →
      (parseWhoisData clock data').hasRecordData = true ∧
        classifyResponse data' (parseWhoisData clock data') = .found) ∧
    ((parseIpWhoisData clock data).hasRecordData = true →
      (parseIpWhoisData clock data').hasRecordData = true ∧
        classifyResponse data' (parseIpWhoisData clock data') = .found) := by
  constructor
  · intro hd
    have hd' := (grown_parseWhoisData clock h).hasRecordData hd
    exact ⟨hd', classifyResponse_of_hasRecordData hd' data'⟩
  · intro hd
    have hd' := (grown_parseIpWhoisData clock h).hasRecordData hd
    exact ⟨hd', classifyResponse_of_hasRecordData hd' data'⟩

end Responses

/-- A notice before the record and another field after it. -/
theorem found_of_sublist_notice :
    classifyResponse "Rate limit exceeded\nRegistrar: R\nns: a"
        (parseWhoisData ⟨0, fun _ => none⟩ "Rate limit exceeded\nRegistrar: R\nns: a") = .found ∧
      classifyResponse "Not found\nNetName: N\nOrgName: O"
        (parseIpWhoisData ⟨0, fun _ => none⟩ "Not found\nNetName: N\nOrgName: O") = .found :=
  ⟨((found_of_sublist ⟨0, fun _ => none⟩ "Registrar: R" _ (by decide +kernel)).1
      (by decide +kernel)).2,
    ((found_of_sublist ⟨0, fun _ => none⟩ "NetName: N" _ (by decide +kernel)).2
      (by decide +kernel)).2⟩

end WhoisParser

end RustWhois
