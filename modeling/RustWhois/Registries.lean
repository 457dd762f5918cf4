import Mathlib.Data.List.Pairwise
import RustWhois.Std.FirstMatch
import RustWhois.Ip

/-!
# The order of the allocations

`RirDatabase` is searched for the first range with an address. Ranges of different registries have no
address in common, so the order of the ranges does not matter.

* `IpRange.apart`, `Unambiguous`: ranges without a common address, and tables whose registries are
  apart;
* **`RirDatabase.consistent_rirDb`**: the table of the crate is;
* `RirDatabase.holders`: the registries of the ranges with an address;
* `detectRirIn`: `detect_rir` with a given table;
* **`detectRirIn_of_perm`**: what it finds in any order of the ranges.
-/

namespace RustWhois

open Rust

/-! ## Ranges without a common address -/

/-- One range ends before the other starts. -/
def IpRange.apart (r s : IpRange) : Bool := r.stop < s.start || s.stop < r.start

theorem IpRange.apart_comm (r s : IpRange) : r.apart s = s.apart r := Bool.or_comm _ _

theorem IpRange.not_contains_of_apart {r s : IpRange} (h : r.apart s = true) {ip : Nat}
    (hr : r.contains ip = true) : s.contains ip = false := by
  simp only [apart, contains, Bool.or_eq_true, Bool.and_eq_true, decide_eq_true_eq,
    Bool.and_eq_false_iff, decide_eq_false_iff_not] at *
  omega

/-- Two ranges of one registry, or without a common address. -/
def compatible (r s : IpRange × Rir) : Bool := decide (r.2 = s.2) || r.1.apart s.1

theorem compatible_comm (r s : IpRange × Rir) : compatible r s = compatible s r := by
  rw [compatible, compatible, IpRange.apart_comm]
  exact congrArg (· || _) (decide_eq_decide.mpr eq_comm)

/-- Any two ranges are compatible. -/
def Unambiguous (ranges : List (IpRange × Rir)) : Prop :=
  ranges.Pairwise fun r s => compatible r s = true

instance (ranges : List (IpRange × Rir)) : Decidable (Unambiguous ranges) := by
  unfold Unambiguous
  infer_instance

instance : Std.Symm fun r s : IpRange × Rir => compatible r s = true :=
  ⟨fun r s h => (compatible_comm s r).trans h⟩

/-- **All ranges with the address name one registry.** -/
theorem Unambiguous.eq_of_contains {ranges : List (IpRange × Rir)} (h : Unambiguous ranges)
    (ip : Nat) : ∀ r ∈ ranges, ∀ s ∈ ranges, r.1.contains ip = true → s.1.contains ip = true →
      r.2 = s.2 := by
  intro r hr s hs hrip hsip
  have hcompatible : compatible r s = true :=
    List.Pairwise.forall_of_forall (fun r _ => by simp [compatible]) h hr hs
  rcases Bool.or_eq_true_iff.mp hcompatible with heq | hapart
  · exact of_decide_eq_true heq
  · rw [IpRange.not_contains_of_apart hapart hrip] at hsip
    cases hsip

theorem Unambiguous.perm {ranges ranges' : List (IpRange × Rir)} (h : Unambiguous ranges)
    (hperm : ranges.Perm ranges') : Unambiguous ranges' :=
  (hperm.pairwise_iff fun {r s} hrs => (compatible_comm s r).trans hrs).mp h

namespace RirDatabase

/-- The ranges of both versions are unambiguous. -/
structure Consistent (db : RirDatabase) : Prop where
  ipv4 : Unambiguous db.ipv4Ranges
  ipv6 : Unambiguous db.ipv6Ranges

/-- The ranges of a table in another order. -/
structure Perm (db db' : RirDatabase) : Prop where
  ipv4 : db.ipv4Ranges.Perm db'.ipv4Ranges
  ipv6 : db.ipv6Ranges.Perm db'.ipv6Ranges

/-! ## The table of the crate -/

theorem unambiguous_ipv4Table :
    (ranges ipv4Range ipv4Table).all (fun l => decide (Unambiguous l)) = true := by
  rw [ranges_of_isAscii _ isAscii_ipv4Table]
  decide +kernel

theorem unambiguous_ipv6Table :
    (ranges ipv6Range ipv6Table).all (fun l => decide (Unambiguous l)) = true := by
  rw [ranges_of_isAscii _ isAscii_ipv6Table]
  decide +kernel

/-- A table that builds is consistent. -/
theorem consistent_of_new {db : RirDatabase} (h : new = some db) : db.Consistent := by
  unfold new at h
  obtain ⟨ipv4Ranges, h4, h⟩ := Option.bind_eq_some_iff.mp h
  obtain ⟨ipv6Ranges, h6, hdb⟩ := Option.map_eq_some_iff.mp h
  subst hdb
  have hall4 := unambiguous_ipv4Table
  have hall6 := unambiguous_ipv6Table
  rw [h4] at hall4
  rw [h6] at hall6
  exact ⟨of_decide_eq_true hall4, of_decide_eq_true hall6⟩

/-- **No two registries have an address in common.** -/
theorem consistent_rirDb : rirDb.Consistent := consistent_of_new (Option.some_get _).symm

/-! ## Any order of the ranges -/

section Order

variable {db db' : RirDatabase} {addr : IpAddr} {rir : Rir}

/-- The ranges of the address's version, and the address as a number. -/
def rangesFor (self : RirDatabase) : IpAddr → List (IpRange × Rir) × Nat
  | .v4 a => (self.ipv4Ranges, a.toNat)
  | .v6 a => (self.ipv6Ranges, a.toNat)

/-- The registries of the ranges with the address. -/
def holders (self : RirDatabase) (addr : IpAddr) : List Rir :=
  ((self.rangesFor addr).1.filter fun r => r.1.contains (self.rangesFor addr).2).map Prod.snd

theorem detectRir_eq_find (self : RirDatabase) (addr : IpAddr) :
    self.detectRir addr = find (self.rangesFor addr).1 (self.rangesFor addr).2 := by
  cases addr <;> rfl

theorem mem_holders : rir ∈ db.holders addr ↔ ∃ r ∈ (db.rangesFor addr).1,
    r.1.contains (db.rangesFor addr).2 = true ∧ r.2 = rir := by
  simp only [holders, List.mem_map, List.mem_filter, and_assoc]

theorem Perm.rangesFor (h : db.Perm db') (addr : IpAddr) :
    (db.rangesFor addr).1.Perm (db'.rangesFor addr).1 ∧
      (db.rangesFor addr).2 = (db'.rangesFor addr).2 := by
  cases addr with
  | v4 a => exact ⟨h.ipv4, rfl⟩
  | v6 a => exact ⟨h.ipv6, rfl⟩

theorem Consistent.rangesFor (h : db.Consistent) (addr : IpAddr) :
    Unambiguous (db.rangesFor addr).1 := by
  cases addr with
  | v4 a => exact h.ipv4
  | v6 a => exact h.ipv6

theorem Perm.consistent (h : db.Perm db') (hdb' : db'.Consistent) : db.Consistent :=
  ⟨hdb'.ipv4.perm h.ipv4.symm, hdb'.ipv6.perm h.ipv6.symm⟩

/-- **The registry that is found is that of every range with the address.** -/
theorem Consistent.detectRir_eq_some_iff (h : db.Consistent) :
    db.detectRir addr = some rir ↔ rir ∈ db.holders addr := by
  rw [detectRir_eq_find, mem_holders]
  exact find?_map_eq_some_iff ((h.rangesFor addr).eq_of_contains _)

/-- **The same registry is found in any order.** -/
theorem Perm.detectRir_eq (h : db.Perm db') (hdb' : db'.Consistent) (addr : IpAddr) :
    db.detectRir addr = db'.detectRir addr := by
  obtain ⟨hperm, hnum⟩ := h.rangesFor addr
  rw [detectRir_eq_find, detectRir_eq_find, hnum]
  exact find?_map_of_perm hperm (((h.consistent hdb').rangesFor addr).eq_of_contains _)

def reverse (self : RirDatabase) : RirDatabase :=
  ⟨self.ipv4Ranges.reverse, self.ipv6Ranges.reverse⟩

theorem reverse_perm (db : RirDatabase) : db.reverse.Perm db :=
  ⟨List.reverse_perm _, List.reverse_perm _⟩

end Order

end RirDatabase

/-- `detect_rir` with a given table. -/
def detectRirIn (db : RirDatabase) (ip : ValidatedIpAddress) : Except WhoisError Rir :=
  if isPrivateOrSpecial ip.addr then
    .error (.unsupportedIpAddress
      ("IP address ".toList ++ ip.normalized ++ " is in a private or special-use range".toList))
  else match db.detectRir ip.addr with
    | some rir => .ok rir
    | none => .ok .arin

theorem detectRirIn_rirDb (ip : ValidatedIpAddress) : detectRirIn rirDb ip = detectRir ip := rfl

theorem isError_detectRirIn (db : RirDatabase) (ip : ValidatedIpAddress) :
    (∃ e, detectRirIn db ip = .error e) ↔ isPrivateOrSpecial ip.addr = true := by
  rw [detectRirIn]
  split_ifs with h
  · simp [h]
  · cases db.detectRir ip.addr <;> simp [h]

theorem detectRirIn_of_public {db : RirDatabase} (hdb : db.Consistent) {ip : ValidatedIpAddress}
    (hpublic : isPrivateOrSpecial ip.addr = false) :
    (∀ rir ∈ db.holders ip.addr, detectRirIn db ip = .ok rir) ∧
      (detectRirIn db ip = .ok .arin ↔ ∀ rir ∈ db.holders ip.addr, rir = .arin) := by
  have hholder : ∀ rir ∈ db.holders ip.addr, detectRirIn db ip = .ok rir := by
    intro rir hrir
    rw [detectRirIn, hpublic, if_neg Bool.false_ne_true, hdb.detectRir_eq_some_iff.mpr hrir]
  refine ⟨hholder, ?_⟩
  constructor
  · intro harin rir hrir
    exact Except.ok.inj ((hholder rir hrir).symm.trans harin)
  · intro hall
    cases hfind : db.detectRir ip.addr with
    | none => rw [detectRirIn, hpublic, if_neg Bool.false_ne_true, hfind]
    | some rir =>
      have hrir := hdb.detectRir_eq_some_iff.mp hfind
      rw [hholder rir hrir, hall rir hrir]

/-- **The order of the ranges does not matter**: in every order the same is detected, namely the
registry that all ranges with the address name, and ARIN if no other one names it. -/
theorem detectRirIn_of_perm (ip : ValidatedIpAddress) (db : RirDatabase) (h : db.Perm rirDb) :
    detectRirIn db ip = detectRir ip ∧
    ((∃ e, detectRirIn db ip = .error e) ↔ isPrivateOrSpecial ip.addr = true) ∧
    (∀ rir ∈ db.holders ip.addr, ∀ rir' ∈ db.holders ip.addr, rir = rir') ∧
    (isPrivateOrSpecial ip.addr = false →
      (∀ rir ∈ db.holders ip.addr, detectRirIn db ip = .ok rir) ∧
      (detectRirIn db ip = .ok .arin ↔ ∀ rir ∈ db.holders ip.addr, rir = .arin)) := by
  have hdb := h.consistent RirDatabase.consistent_rirDb
  refine ⟨?_, isError_detectRirIn db ip, ?_, detectRirIn_of_public hdb⟩
  · rw [← detectRirIn_rirDb, detectRirIn, detectRirIn,
      h.detectRir_eq RirDatabase.consistent_rirDb]
  · intro rir hrir rir' hrir'
    have hfind := hdb.detectRir_eq_some_iff.mpr hrir
    exact Option.some.inj (hfind.symm.trans (hdb.detectRir_eq_some_iff.mpr hrir'))

/-- A public address in the reversed table. -/
theorem detectRirIn_reverse :
    detectRirIn rirDb.reverse (.ofAddr (.v4 ⟨8, 8, 8, 8⟩)) =
        detectRir (.ofAddr (.v4 ⟨8, 8, 8, 8⟩)) ∧
      ∀ rir ∈ rirDb.reverse.holders (.v4 ⟨8, 8, 8, 8⟩),
        detectRirIn rirDb.reverse (.ofAddr (.v4 ⟨8, 8, 8, 8⟩)) = .ok rir :=
  have h := detectRirIn_of_perm (.ofAddr (.v4 ⟨8, 8, 8, 8⟩)) rirDb.reverse rirDb.reverse_perm
  ⟨h.1, (h.2.2.2 (by decide)).1⟩

end RustWhois
