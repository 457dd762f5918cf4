import RustWhois.Rdap.Response

/-!
# The order of events

What the order of the events of an RDAP document decides. Both parsers take the last registration,
and the first of two actions that count as an update.

* `findSome?_perm_iff`: when the first value found in a list is that of every permutation;
* `applyEvent_eq`: an event is a date of its own and an update of what has none;
* `Reads`: a record is built from the dates of the events;
* **`eventOrder`**: every permutation yields the same record but for the update, which is that of
  the first of the two actions.
-/

namespace RustWhois

open Rust

/-! ## The first value in a list -/

theorem exists_perm_cons {α : Type} {l : List α} {a : α} (h : a ∈ l) : ∃ l', l.Perm (a :: l') := by
  obtain ⟨s, t, rfl⟩ := List.append_of_mem h
  exact ⟨s ++ t, List.perm_middle⟩

/-- **The first value is that of every permutation exactly if there are no two values.** -/
theorem findSome?_perm_iff {α β : Type} {f : α → Option β} {l : List α} :
    (∀ l', l.Perm l' → l'.findSome? f = l.findSome? f) ↔
      ∀ a ∈ l, ∀ b ∈ l, ∀ x ∈ f a, ∀ y ∈ f b, x = y := by
  constructor
  · intro h
    have hfirst : ∀ a ∈ l, ∀ x ∈ f a, l.findSome? f = some x := by
      intro a ha x hx
      obtain ⟨l', hp⟩ := exists_perm_cons ha
      rw [← h _ hp, List.findSome?_cons, hx]
    intro a ha b hb x hx y hy
    have hxy := (hfirst a ha x hx).symm.trans (hfirst b hb y hy)
    exact Option.some.inj hxy
  · intro h l' hp
    cases hl : l.findSome? f with
    | none =>
      rw [List.findSome?_eq_none_iff] at hl ⊢
      exact fun a ha => hl a (hp.mem_iff.mpr ha)
    | some x =>
      obtain ⟨a, ha, hx⟩ := List.exists_of_findSome?_eq_some hl
      cases hl' : l'.findSome? f with
      | none =>
        rw [List.findSome?_eq_none_iff.mp hl' a (hp.mem_iff.mp ha)] at hx
        cases hx
      | some y =>
        obtain ⟨b, hb, hy⟩ := List.exists_of_findSome?_eq_some hl'
        rw [h b (hp.mem_iff.mpr hb) a ha y hy x hx]

theorem eq_of_key {α β : Type} {f : α → Option β} {l : List α} (h : (l.filterMap f).Nodup)
    {a b : α} (ha : a ∈ l) (hb : b ∈ l) {x : β} (hx : f a = some x) (hy : f b = some x) :
    a = b := by
  obtain ⟨l', hp⟩ := exists_perm_cons ha
  have hnodup := (hp.filterMap f).nodup_iff.mp h
  rw [List.filterMap_cons_some hx, List.nodup_cons] at hnodup
  rcases List.mem_cons.mp (hp.mem_iff.mp hb) with rfl | hb
  · rfl
  · exact absurd (List.mem_filterMap.mpr ⟨b, hb, hy⟩) hnodup.1

/-! ## One event -/

/-- The date of an event that counts as an update. -/
def RdapEvent.updateDate (event : RdapEvent) : Option Text :=
  if event.eventAction = some "last changed".toList ∨
      event.eventAction = some "last update of RDAP database".toList then
    event.eventDate
  else none

def ParsedWhoisData.setUpdated (p : ParsedWhoisData) (date : Option Text) : ParsedWhoisData :=
  { p with updatedDate := date }

/-- What an event does to the dates that have an action of their own. -/
def applyDate (p : ParsedWhoisData) (event : RdapEvent) : ParsedWhoisData :=
  match event.eventAction, event.eventDate with
  | some action, some date =>
    if action = "registration" then { p with creationDate := some date }
    else if action = "expiration" then { p with expirationDate := some date }
    else p
  | _, _ => p

theorem applyDate_setUpdated (p : ParsedWhoisData) (date : Option Text) (event : RdapEvent) :
    applyDate (p.setUpdated date) event = (applyDate p event).setUpdated date := by
  rcases event with ⟨_ | action, _ | d⟩ <;> try rfl
  unfold applyDate
  dsimp only
  split_ifs <;> rfl

theorem updateDate_of_none {event : RdapEvent}
    (h : event.eventAction = none ∨ event.eventDate = none) : event.updateDate = none := by
  rw [RdapEvent.updateDate]
  rcases h with h | h
  · rw [h]
    exact if_neg (by rintro (h | h) <;> cases h)
  · rw [h]
    exact ite_self none

theorem updateDate_some (action d : Text) :
    RdapEvent.updateDate ⟨some action, some d⟩ =
      if action = "last changed" ∨ action = "last update of RDAP database" then some d else none := by
  simp only [RdapEvent.updateDate, Option.some.injEq]

/-- **An event is a date of its own, and an update of what has none.** -/
theorem applyEvent_eq (p : ParsedWhoisData) (event : RdapEvent) :
    applyEvent p event = (applyDate p event).setUpdated (p.updatedDate.or event.updateDate) := by
  have hself : ∀ {q : ParsedWhoisData} {u : Option Text}, q.updatedDate = p.updatedDate →
      u = none → q = q.setUpdated (p.updatedDate.or u) := by
    rintro q u hq rfl
    rw [Option.or_none, ← hq]
    rfl
  rcases event with ⟨_ | action, _ | d⟩
  · exact hself rfl (updateDate_of_none (.inl rfl))
  · exact hself rfl (updateDate_of_none (.inl rfl))
  · exact hself rfl (updateDate_of_none (.inr rfl))
  rw [updateDate_some, applyEvent, applyDate]
  dsimp only
  by_cases h1 : action = "registration"
  · rw [if_pos h1, if_pos h1, if_neg (by rw [h1]; decide)]
    exact hself rfl rfl
  rw [if_neg h1, if_neg h1]
  by_cases h2 : action = "expiration"
  · rw [if_pos h2, if_pos h2, if_neg (by rw [h2]; decide)]
    exact hself rfl rfl
  rw [if_neg h2, if_neg h2]
  by_cases h3 : action = "last changed" ∨ action = "last update of RDAP database"
  · rw [if_pos h3]
    cases hu : p.updatedDate with
    | none =>
      rw [if_pos ⟨h3, rfl⟩]
      rfl
    | some u =>
      rw [if_neg (by simp), Option.some_or, ← hu]
      rfl
  · rw [if_neg h3, if_neg fun h => h3 h.1]
    exact hself rfl rfl

/-! ## All events -/

/-- The actions of the events are distinct. -/
def DistinctActions (l : List RdapEvent) : Prop := (l.filterMap (·.eventAction)).Nodup

instance (l : List RdapEvent) : Decidable (DistinctActions l) :=
  inferInstanceAs (Decidable (List.Nodup _))

theorem applyDate_comm {x y : RdapEvent}
    (h : ∀ a, x.eventAction = some a → y.eventAction = some a → x = y) (p : ParsedWhoisData) :
    applyDate (applyDate p x) y = applyDate (applyDate p y) x := by
  by_cases hxy : x = y
  · rw [hxy]
  rcases x with ⟨_ | a, _ | d⟩ <;> rcases y with ⟨_ | b, _ | e⟩ <;> try rfl
  have hab : a ≠ b := by
    rintro rfl
    exact hxy (h a rfl rfl)
  unfold applyDate
  dsimp only
  split_ifs with ha hb <;> first
    | rfl
    | exact absurd (hb.trans ha.symm) hab
    | exact absurd (Eq.trans ‹a = "expiration".toList› (Eq.symm ‹b = "expiration".toList›)) hab

theorem foldl_applyDate_perm {l l' : List RdapEvent} (hd : DistinctActions l) (hp : l.Perm l')
    (p : ParsedWhoisData) : l.foldl applyDate p = l'.foldl applyDate p :=
  hp.foldl_eq' (fun _ hx _ hy z => applyDate_comm (fun _ ha hb => eq_of_key hd hx hy ha hb) z) p

theorem foldl_setUpdated {α : Type} {f : ParsedWhoisData → α → ParsedWhoisData}
    (h : ∀ p date a, f (p.setUpdated date) a = (f p a).setUpdated date) (l : List α)
    (p : ParsedWhoisData) (date : Option Text) :
    l.foldl f (p.setUpdated date) = (l.foldl f p).setUpdated date := by
  induction l generalizing p with
  | nil => rfl
  | cons a l ih => rw [List.foldl_cons, List.foldl_cons, h, ih]

theorem foldl_applyEvent (l : List RdapEvent) (p : ParsedWhoisData) :
    l.foldl applyEvent p = (l.foldl applyDate p).setUpdated
      (p.updatedDate.or (l.findSome? RdapEvent.updateDate)) := by
  induction l generalizing p with
  | nil =>
    rw [List.findSome?_nil, Option.or_none]
    rfl
  | cons e l ih =>
    rw [List.foldl_cons, List.foldl_cons, ih, applyEvent_eq, foldl_setUpdated applyDate_setUpdated,
      List.findSome?_cons]
    cases p.updatedDate <;> cases e.updateDate <;> rfl

/-- Both actions that count as an update occur, with different dates. -/
def Clash (l : List RdapEvent) : Prop :=
  ∃ d d', d ≠ d' ∧ RdapEvent.mk (some "last changed") (some d) ∈ l ∧
    RdapEvent.mk (some "last update of RDAP database") (some d') ∈ l

theorem updateDate_eq_some {event : RdapEvent} {d : Text} (h : event.updateDate = some d) :
    event = ⟨some "last changed", some d⟩ ∨
      event = ⟨some "last update of RDAP database", some d⟩ := by
  rcases event with ⟨action, date⟩
  rw [RdapEvent.updateDate] at h
  split_ifs at h with hu
  dsimp only at h hu
  rw [h]
  rcases hu with rfl | rfl
  · exact .inl rfl
  · exact .inr rfl

/-- **The update does not depend on the order exactly if the two actions do not clash.** -/
theorem updates_agree_iff {l : List RdapEvent} (hd : DistinctActions l) :
    (∀ a ∈ l, ∀ b ∈ l, ∀ x ∈ a.updateDate, ∀ y ∈ b.updateDate, x = y) ↔ ¬ Clash l := by
  constructor
  · rintro h ⟨d, d', hne, hm, hm'⟩
    exact hne (h _ hm _ hm' d (by rw [updateDate_some]; rfl) d' (by rw [updateDate_some]; rfl))
  · intro h a ha b hb x hx y hy
    by_contra hne
    rcases updateDate_eq_some hx with rfl | rfl <;> rcases updateDate_eq_some hy with rfl | rfl
    · cases eq_of_key hd ha hb rfl rfl
      exact hne rfl
    · exact h ⟨x, y, hne, ha, hb⟩
    · exact h ⟨y, x, Ne.symm hne, hb, ha⟩
    · cases eq_of_key hd ha hb rfl rfl
      exact hne rfl

/-! ## Records -/

/-- The record with another update, and its age. -/
def ParsedWhoisData.withUpdated (clock : Clock) (p : ParsedWhoisData) (date : Option Text) :
    ParsedWhoisData :=
  { p with updatedDate := date, updatedAgo := clock.age clock.daysSince date }

/-- The record is built from the dates of the events, and nothing else in it depends on the
update. -/
def Reads (clock : Clock) (record : List RdapEvent → ParsedWhoisData) : Prop :=
  ∃ (base : ParsedWhoisData) (finish : ParsedWhoisData → ParsedWhoisData),
    base.updatedDate = none ∧
    (∀ p date, finish (p.setUpdated date) = (finish p).withUpdated clock date) ∧
    ∀ l, record l = finish (l.foldl applyEvent base)

section Reads

variable {clock : Clock} {record : List RdapEvent → ParsedWhoisData}

theorem Reads.updatedDate (h : Reads clock record) (l : List RdapEvent) :
    (record l).updatedDate = l.findSome? RdapEvent.updateDate := by
  obtain ⟨base, finish, hbase, hfin, hrec⟩ := h
  rw [hrec, foldl_applyEvent, hfin, hbase, Option.none_or]
  rfl

theorem Reads.perm (h : Reads clock record) {l l' : List RdapEvent} (hd : DistinctActions l)
    (hp : l.Perm l') :
    record l' = (record l).withUpdated clock (l'.findSome? RdapEvent.updateDate) := by
  obtain ⟨base, finish, hbase, hfin, hrec⟩ := h
  rw [hrec, hrec, foldl_applyEvent, foldl_applyEvent l base, foldl_applyDate_perm hd hp, hfin, hfin,
    hbase, Option.none_or]
  rfl

variable {E : Type} {f : E → RdapEvent} {l : List E}

/-- **Every permutation yields the same record exactly if the two actions do not clash.** -/
theorem Reads.perm_iff (h : Reads clock record) (hd : DistinctActions (l.map f)) :
    (∀ l' : List E, l.Perm l' → record (l'.map f) = record (l.map f)) ↔
      ¬ Clash (l.map f) := by
  have hagree : (∀ l' : List E, l.Perm l' →
      l'.findSome? (fun e => (f e).updateDate) = l.findSome? fun e => (f e).updateDate) ↔
      ¬ Clash (l.map f) := by
    rw [findSome?_perm_iff, ← updates_agree_iff hd]
    simp only [List.forall_mem_map]
  rw [← hagree]
  refine forall_congr' fun l' => forall_congr' fun hp => ?_
  have hsome : ∀ m : List E, (record (m.map f)).updatedDate =
      m.findSome? fun e => (f e).updateDate := by
    intro m
    rw [h.updatedDate, List.findSome?_map]
    rfl
  constructor
  · intro heq
    rw [← hsome, ← hsome, heq]
  · intro heq
    rw [h.perm hd (hp.map f), ← h.updatedDate, hsome, heq, ← hsome, h.updatedDate]
    exact (h.perm hd (List.Perm.refl _)).symm

/-- Where they do not clash, the date of the last change is that of the record. -/
theorem Reads.lastChanged (h : Reads clock record) {l : List RdapEvent} (hd : DistinctActions l)
    (hc : ¬ Clash l) {d : Text} (hm : RdapEvent.mk (some "last changed") (some d) ∈ l) :
    (record l).updatedDate = some d := by
  rw [h.updatedDate]
  cases hu : l.findSome? RdapEvent.updateDate with
  | none =>
    have hnone := List.findSome?_eq_none_iff.mp hu _ hm
    rw [updateDate_some] at hnone
    cases hnone
  | some d' =>
    obtain ⟨e, he, hx⟩ := List.exists_of_findSome?_eq_some hu
    exact congrArg some ((updates_agree_iff hd).mpr hc e he _ hm d' hx d (by rw [updateDate_some]; rfl))

end Reads

/-! ## Domain documents -/

/-- The record of a domain document. -/
def domainRecord (clock : Clock) (rdap : RdapDomainResponse) : ParsedWhoisData :=
  (readDomainResponse rdap).calculateAgeFields clock

theorem parseRdapResponse_fst (serde : Serde) (clock : Clock) (rawData : Text) :
    (parseRdapResponse serde clock rawData).1 =
      (serde.domainResponse rawData).toOption.map (domainRecord clock) := by
  unfold parseRdapResponse
  cases serde.domainResponse rawData <;> rfl

theorem applyEntity_setUpdated (p : ParsedWhoisData) (date : Option Text) (entity : RdapEntity) :
    applyEntity (p.setUpdated date) entity = (applyEntity p entity).setUpdated date := by
  rcases entity with ⟨_ | roles, _ | vcard⟩ <;> try rfl
  unfold applyEntity
  dsimp only
  split_ifs <;> rfl

theorem reads_domainRecord (clock : Clock) (rdap : RdapDomainResponse) :
    Reads clock fun events => domainRecord clock { rdap with events := some events } := by
  refine ⟨{ nameServers := (rdap.nameServers.getD []).filterMap (·.ldhName)
            status := rdap.status.getD [] },
    fun p => ((rdap.entities.getD []).foldl applyEntity p).calculateAgeFields clock, rfl,
    fun p date => ?_, fun l => rfl⟩
  dsimp only
  rw [foldl_setUpdated applyEntity_setUpdated]
  rfl

/-! ## IP documents -/

/-- The record of an IP document. -/
def ipRecord (clock : Clock) (json : Json) : ParsedWhoisData :=
  (readIpResponse json ({}, ["=== RDAP IP PARSING ANALYSIS ==="])).1.calculateAgeFields clock

theorem parseRdapIpResponse_fst (serde : Serde) (clock : Clock) (rawData : Text) :
    (parseRdapIpResponse serde clock rawData).1 =
      (serde.value rawData).toOption.map (ipRecord clock) := by
  unfold parseRdapIpResponse
  cases serde.value rawData <;> rfl

/-- The action and the date of an event of an IP document. -/
def jsonEvent (event : Json) : RdapEvent := ⟨event.str "eventAction", event.str "eventDate"⟩

/-- The document with other events in its array. -/
def Json.withEvents : Json → List Json → Json
  | object fields, events =>
    object (fields.map fun field =>
      if field.1 = "events".toList then (field.1, array events) else field)
  | json, _ => json

theorem lookup_replace (name : Text) (v : Json) (fields : List (Text × Json)) (key : Text) :
    (fields.map fun field => if field.1 = name then (field.1, v) else field).lookup key =
      if key = name then (fields.lookup key).map fun _ => v else fields.lookup key := by
  induction fields with
  | nil => simp
  | cons field fields ih =>
    rw [List.map_cons, List.lookup_cons, List.lookup_cons, ih]
    by_cases hk : key = field.1
    · subst hk
      split_ifs <;> simp
    · split_ifs <;> simp [beq_false_of_ne hk]

theorem Json.get_withEvents (json : Json) (events : List Json) (key : Text) :
    (json.withEvents events).get key =
      if key = "events".toList then (json.get key).map fun _ => array events else json.get key := by
  cases json with
  | object fields => exact lookup_replace "events" (array events) fields key
  | _ => exact (ite_self none).symm

theorem Json.arr_withEvents_of_ne (json : Json) (events : List Json) {key : Text}
    (h : key ≠ "events".toList) : (json.withEvents events).arr key = json.arr key := by
  rw [arr, get_withEvents, if_neg h, arr]

theorem Json.arr_withEvents {json : Json} {events : List Json}
    (h : json.arr "events" = some events) (events' : List Json) :
    (json.withEvents events').arr "events" = some events' := by
  rw [arr, Option.bind_eq_some_iff] at h
  obtain ⟨v, hv, -⟩ := h
  rw [arr, get_withEvents, if_pos rfl, hv]
  rfl

theorem Json.str_withEvents_of_ne (json : Json) (events : List Json) {key : Text}
    (h : key ≠ "events".toList) : (json.withEvents events).str key = json.str key := by
  rw [str, get_withEvents, if_neg h, str]

/-- The reading of an IP document before its events. -/
def beforeEvents (json : Json) : Reading :=
  readStatus json (readRange json (readName json ({}, ["=== RDAP IP PARSING ANALYSIS ==="])))

theorem dates_beforeEvents (json : Json) : (beforeEvents json).1.updatedDate = none ∧
    (beforeEvents json).1.expirationDate = none := by
  simp only [beforeEvents, readName, readRange, readStatus]
  cases json.str "name" <;> cases json.arr "status" <;> exact ⟨rfl, rfl⟩

theorem beforeEvents_withEvents (json : Json) (events : List Json) :
    beforeEvents (json.withEvents events) = beforeEvents json := by
  simp only [beforeEvents, readName, readRange, readStatus]
  rw [Json.str_withEvents_of_ne json events (by decide),
    Json.arr_withEvents_of_ne json events (by decide),
    Json.str_withEvents_of_ne json events (by decide),
    Json.str_withEvents_of_ne json events (by decide),
    Json.arr_withEvents_of_ne json events (by decide)]

def ParsedWhoisData.setExpiration (p : ParsedWhoisData) (date : Option Text) : ParsedWhoisData :=
  { p with expirationDate := date }

theorem readEvent_fst {reading : Reading} {p : ParsedWhoisData}
    (h : reading.1 = p.setExpiration none) (event : Json) :
    (readEvent reading event).1 = (applyEvent p (jsonEvent event)).setExpiration none := by
  obtain ⟨q, analysis⟩ := reading
  subst h
  rw [readEvent, applyEvent, jsonEvent]
  rcases event.str "eventAction" with _ | action
  · rfl
  rcases event.str "eventDate" with _ | d
  · rfl
  dsimp only
  by_cases h1 : action = "registration"
  · rw [if_pos h1, if_pos h1]
    rfl
  rw [if_neg h1, if_neg h1]
  by_cases h2 : action = "expiration"
  · rw [if_pos h2, if_neg (by rw [h2]; rintro ⟨h | h, -⟩ <;> revert h <;> decide)]
    rfl
  have hu : (p.setExpiration none).updatedDate = p.updatedDate := rfl
  rw [if_neg h2, hu]
  by_cases h3 : (action = "last changed" ∨ action = "last update of RDAP database") ∧
      p.updatedDate.isNone
  · rw [if_pos h3, if_pos h3]
    rfl
  · rw [if_neg h3, if_neg h3]

theorem foldl_readEvent_fst (l : List Json) {reading : Reading} {p : ParsedWhoisData}
    (h : reading.1 = p.setExpiration none) :
    (l.foldl readEvent reading).1 = ((l.map jsonEvent).foldl applyEvent p).setExpiration none := by
  induction l generalizing reading p with
  | nil => exact h
  | cons event l ih => exact ih (readEvent_fst h event)

theorem readEntityName_fst {r r' : Reading} {date : Option Text}
    (h : r.1 = r'.1.setUpdated date) (vcard : Json) :
    (readEntityName vcard r).1 = (readEntityName vcard r').1.setUpdated date := by
  obtain ⟨p, analysis⟩ := r
  obtain ⟨q, analysis'⟩ := r'
  subst h
  rw [readEntityName, readEntityName]
  rcases extractNameFromVcard vcard with _ | name
  · rfl
  have hname : (q.setUpdated date).registrantName = q.registrantName := rfl
  dsimp only
  rw [hname]
  by_cases hq : q.registrantName.isNone = true
  · rw [if_pos hq, if_pos hq]
    rfl
  · rw [if_neg hq, if_neg hq]

theorem readEntityEmail_fst {r r' : Reading} {date : Option Text}
    (h : r.1 = r'.1.setUpdated date) (entity vcard : Json) :
    (readEntityEmail entity vcard r).1 = (readEntityEmail entity vcard r').1.setUpdated date := by
  obtain ⟨p, analysis⟩ := r
  obtain ⟨q, analysis'⟩ := r'
  subst h
  rw [readEntityEmail, readEntityEmail]
  rcases extractEmailFromVcard vcard with _ | email
  · rfl
  rcases entity.arr "roles" with _ | roles
  · rfl
  have htech : (q.setUpdated date).techEmail = q.techEmail := rfl
  have hadmin : (q.setUpdated date).adminEmail = q.adminEmail := rfl
  have hregistrant : (q.setUpdated date).registrantEmail = q.registrantEmail := rfl
  dsimp only
  rw [htech, hadmin, hregistrant]
  by_cases h1 : ((roles.filterMap Json.asStr).contains "technical".toList &&
      q.techEmail.isNone) = true
  · rw [if_pos h1, if_pos h1]
    rfl
  rw [if_neg h1, if_neg h1]
  by_cases h2 : ((roles.filterMap Json.asStr).contains "abuse".toList &&
      q.adminEmail.isNone) = true
  · rw [if_pos h2, if_pos h2]
    rfl
  rw [if_neg h2, if_neg h2]
  by_cases h3 : q.registrantEmail.isNone = true
  · rw [if_pos h3, if_pos h3]
    rfl
  · rw [if_neg h3, if_neg h3]

theorem readEntity_fst {r r' : Reading} {date : Option Text} (h : r.1 = r'.1.setUpdated date)
    (entity : Json) : (readEntity r entity).1 = (readEntity r' entity).1.setUpdated date := by
  rw [readEntity, readEntity]
  rcases entity.get "vcardArray" with _ | vcard
  · exact h
  · exact readEntityEmail_fst (readEntityName_fst h vcard) entity vcard

theorem foldl_readEntity_fst (l : List Json) {r r' : Reading} {date : Option Text}
    (h : r.1 = r'.1.setUpdated date) :
    (l.foldl readEntity r).1 = (l.foldl readEntity r').1.setUpdated date := by
  induction l generalizing r r' with
  | nil => exact h
  | cons entity l ih => exact ih (readEntity_fst h entity)

theorem foldl_readEntity_analysis (l : List Json) (p : ParsedWhoisData) (a a' : List Text) :
    (l.foldl readEntity (p, a)).1 = (l.foldl readEntity (p, a')).1 := by
  have hself : ∀ b : List Text, (p, b).1 = (p, a').1.setUpdated p.updatedDate := fun _ => rfl
  exact (foldl_readEntity_fst l (hself a)).trans (foldl_readEntity_fst l (hself a')).symm

/-- The rest of an IP document, from a record with the dates of its events. -/
def finishIp (clock : Clock) (json : Json) (p : ParsedWhoisData) : ParsedWhoisData :=
  (((json.arr "entities").getD []).foldl readEntity (p.setExpiration none, [])).1.calculateAgeFields
    clock

theorem ipRecord_eq (clock : Clock) (json : Json) :
    ipRecord clock json = finishIp clock json
      ((((json.arr "events").getD []).map jsonEvent).foldl applyEvent (beforeEvents json).1) := by
  have hbefore : (beforeEvents json).1 = (beforeEvents json).1.setExpiration none := by
    rw [ParsedWhoisData.setExpiration, ← (dates_beforeEvents json).2]
  rw [finishIp, ← foldl_readEvent_fst ((json.arr "events").getD []) hbefore]
  exact congrArg (ParsedWhoisData.calculateAgeFields clock) (foldl_readEntity_analysis _ _ _ _)

theorem ipRecord_withEvents (clock : Clock) {json : Json} {events : List Json}
    (h : json.arr "events" = some events) (events' : List Json) :
    ipRecord clock (json.withEvents events') =
      finishIp clock json ((events'.map jsonEvent).foldl applyEvent (beforeEvents json).1) := by
  rw [ipRecord_eq, finishIp, finishIp, beforeEvents_withEvents, Json.arr_withEvents h,
    Json.arr_withEvents_of_ne _ _ (by decide)]
  rfl

theorem reads_finishIp (clock : Clock) (json : Json) :
    Reads clock fun events => finishIp clock json (events.foldl applyEvent (beforeEvents json).1) := by
  refine ⟨_, finishIp clock json, (dates_beforeEvents json).1, fun p date => ?_, fun _ => rfl⟩
  rw [finishIp, finishIp]
  have hset : ((p.setUpdated date).setExpiration none, ([] : List Text)).1 =
      (p.setExpiration none, ([] : List Text)).1.setUpdated date := rfl
  rw [foldl_readEntity_fst _ hset]
  rfl

/-! ## Documents -/

/-- **The order of the events decides the update only**: where the actions are distinct, every
permutation yields the same record but for the date of the update and its age, and that date is of
the first event that counts as one. The record is the same altogether exactly if the two actions do
not clash, and then the date of the last change is that of the record. -/
theorem eventOrder (clock : Clock) :
    (∀ (rdap : RdapDomainResponse) (l : List RdapEvent), rdap.events = some l → DistinctActions l →
      (∀ l', l.Perm l' → domainRecord clock { rdap with events := some l' } =
        (domainRecord clock rdap).withUpdated clock (l'.findSome? RdapEvent.updateDate)) ∧
      ((∀ l', l.Perm l' → domainRecord clock { rdap with events := some l' } =
        domainRecord clock rdap) ↔ ¬ Clash l) ∧
      (¬ Clash l → ∀ d, RdapEvent.mk (some "last changed") (some d) ∈ l →
        (domainRecord clock rdap).updatedDate = some d)) ∧
    (∀ (json : Json) (l : List Json), json.arr "events" = some l →
      DistinctActions (l.map jsonEvent) →
      (∀ l', l.Perm l' → ipRecord clock (json.withEvents l') =
        (ipRecord clock json).withUpdated clock
          ((l'.map jsonEvent).findSome? RdapEvent.updateDate)) ∧
      ((∀ l', l.Perm l' → ipRecord clock (json.withEvents l') = ipRecord clock json) ↔
        ¬ Clash (l.map jsonEvent)) ∧
      (¬ Clash (l.map jsonEvent) →
        ∀ d, RdapEvent.mk (some "last changed") (some d) ∈ l.map jsonEvent →
          (ipRecord clock json).updatedDate = some d)) := by
  constructor
  · intro rdap l hl hd
    have hreads := reads_domainRecord clock rdap
    have hself : rdap = { rdap with events := some l } := by rw [← hl]
    have hiff := hreads.perm_iff (f := id) (l := l) (by rwa [List.map_id])
    simp only [List.map_id] at hiff
    rw [hself]
    exact ⟨fun l' hp => hreads.perm hd hp, hiff, fun hc d hm => hreads.lastChanged hd hc hm⟩
  · intro json l hl hd
    have hreads := reads_finishIp clock json
    have hself := ipRecord_eq clock json
    rw [hl, Option.getD_some] at hself
    rw [hself]
    simp only [ipRecord_withEvents clock hl]
    exact ⟨fun l' hp => hreads.perm hd (hp.map jsonEvent), hreads.perm_iff hd,
      fun hc d hm => hreads.lastChanged hd hc hm⟩

/-- A domain document with nothing but events. -/
def eventful (events : List RdapEvent) : RdapDomainResponse := ⟨none, some events, none, none⟩

/-- An event of an IP document. -/
def eventJson (event : Text × Text) : Json :=
  .object [("eventAction", .string event.1), ("eventDate", .string event.2)]

/-- An IP document with nothing but events. -/
def eventfulJson (events : List (Text × Text)) : Json :=
  .object [("events", .array (events.map eventJson))]

/-- The update of the database overtakes the last change. -/
theorem eventOrder_databaseFirst :
    let changed : RdapEvent := ⟨some "last changed", some "2024-01-01"⟩
    let database : RdapEvent := ⟨some "last update of RDAP database", some "2025-01-01"⟩
    DistinctActions [changed, database] ∧ [changed, database].Perm [database, changed] ∧
      (domainRecord ⟨0, fun _ => none⟩ (eventful [changed, database])).updatedDate =
        some "2024-01-01".toList ∧
      (domainRecord ⟨0, fun _ => none⟩ (eventful [database, changed])).updatedDate =
        some "2025-01-01".toList :=
  ⟨by decide, List.Perm.swap _ _ _, by decide +kernel, by decide +kernel⟩

/-- Documents with a registration and a change, in both orders. -/
theorem eventOrder_swapped :
    (domainRecord ⟨0, fun _ => none⟩ (eventful [⟨some "last changed", some "2024-01-01"⟩,
        ⟨some "registration", some "1997-09-15"⟩])).updatedDate = some "2024-01-01".toList ∧
      ipRecord ⟨0, fun _ => none⟩ ((eventfulJson [("registration", "1997-09-15"),
          ("last changed", "2024-01-01")]).withEvents [eventJson ("last changed", "2024-01-01"),
          eventJson ("registration", "1997-09-15")]) =
        ipRecord ⟨0, fun _ => none⟩ (eventfulJson [("registration", "1997-09-15"),
          ("last changed", "2024-01-01")]) := by
  have hread : ∀ event, jsonEvent (eventJson event) = ⟨some event.1, some event.2⟩ := fun _ => rfl
  refine ⟨((eventOrder _).1 _ _ rfl (by decide)).2.2 ?_ _ List.mem_cons_self, ?_⟩
  · rintro ⟨d, d', -, -, hm⟩
    have hactions : some "last update of RDAP database".toList ∈
        [some "last changed".toList, some "registration".toList] :=
      List.mem_map_of_mem (f := RdapEvent.eventAction) hm
    exact absurd hactions (by decide)
  · refine (((eventOrder _).2 _ _ rfl (by decide +kernel)).2.1.mpr ?_) _ (List.Perm.swap _ _ _)
    rintro ⟨d, d', -, -, hm⟩
    simp only [List.map_cons, List.map_nil, hread] at hm
    have hactions : some "last update of RDAP database".toList ∈
        [some "registration".toList, some "last changed".toList] :=
      List.mem_map_of_mem (f := RdapEvent.eventAction) hm
    exact absurd hactions (by decide)

end RustWhois
