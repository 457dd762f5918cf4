import RustWhois.Data

/-!
# The configuration

`Config::validate`: the settings that may not be zero.

* `Config.checked`: these settings, in the order of the checks;
* **`Config.validate_eq_ok_iff`**, **`Config.validate_eq_error`**: what passes, and what is reported.
-/

namespace RustWhois

open Rust

/-- `v == 0` is rejected. -/
def nonZero (field : Text × Nat) : Except Text Unit :=
  if field.2 = 0 then .error (field.1 ++ " cannot be 0".toList) else .ok ()

theorem nonZero_of_pos {field : Text × Nat} (h : 0 < field.2) : nonZero field = .ok () :=
  if_neg (Nat.ne_of_gt h)

theorem nonZero_of_eq_zero {field : Text × Nat} (h : field.2 = 0) :
    nonZero field = .error (field.1 ++ " cannot be 0".toList) := if_pos h

namespace Config

/-- The settings that are checked, in the order of the checks. -/
def checked (self : Config) : List (Text × Nat) :=
  [("port", self.port), ("whois_timeout_seconds", self.whoisTimeoutSeconds),
    ("buffer_size", self.bufferSize), ("buffer_pool_size", self.bufferPoolSize),
    ("max_response_size", self.maxResponseSize),
    ("concurrent_whois_queries", self.concurrentWhoisQueries)]

/-- `Config::validate`, with the text of the error. -/
def validate (self : Config) : Except Text Unit := forM self.checked nonZero

/-- The integer types of the fields, for a `usize` of so many bits. -/
structure InRange (self : Config) (bits : Nat) : Prop where
  port : self.port < 2 ^ 16
  whoisTimeoutSeconds : self.whoisTimeoutSeconds < 2 ^ 64
  maxResponseSize : self.maxResponseSize < 2 ^ bits
  cacheTtlSeconds : self.cacheTtlSeconds < 2 ^ 64
  negativeCacheTtlSeconds : self.negativeCacheTtlSeconds < 2 ^ 64
  cacheMaxEntries : self.cacheMaxEntries < 2 ^ 64
  maxReferrals : self.maxReferrals < 2 ^ bits
  discoveryTimeoutSeconds : self.discoveryTimeoutSeconds < 2 ^ 64
  concurrentWhoisQueries : self.concurrentWhoisQueries < 2 ^ bits
  bufferPoolSize : self.bufferPoolSize < 2 ^ bits
  bufferSize : self.bufferSize < 2 ^ bits

theorem forM_nonZero (fields : List (Text × Nat)) :
    (∀ field ∈ fields, 0 < field.2) ∧ forM fields nonZero = .ok () ∨
      ∃ pre field post, fields = pre ++ field :: post ∧ (∀ f ∈ pre, 0 < f.2) ∧ field.2 = 0 ∧
        forM fields nonZero = .error (field.1 ++ " cannot be 0".toList) := by
  induction fields with
  | nil => exact .inl ⟨by simp, rfl⟩
  | cons field fields ih =>
    rw [List.forM_cons]
    by_cases hzero : field.2 = 0
    · rw [nonZero_of_eq_zero hzero]
      exact .inr ⟨[], field, fields, rfl, by simp, hzero, rfl⟩
    have hpos : 0 < field.2 := Nat.pos_of_ne_zero hzero
    rw [nonZero_of_pos hpos]
    rcases ih with ⟨hall, hok⟩ | ⟨pre, f, post, rfl, hpre, hf, herr⟩
    · exact .inl ⟨List.forall_mem_cons.mpr ⟨hpos, hall⟩, hok⟩
    · exact .inr ⟨field :: pre, f, post, rfl, List.forall_mem_cons.mpr ⟨hpos, hpre⟩, hf, herr⟩

/-- **A configuration passes if no checked setting is zero.** -/
theorem validate_eq_ok_iff {config : Config} :
    config.validate = .ok () ↔ ∀ field ∈ config.checked, 0 < field.2 := by
  rcases forM_nonZero config.checked with ⟨hall, hok⟩ | ⟨pre, f, post, heq, -, hf, herr⟩
  · exact iff_of_true hok hall
  · refine iff_of_false (fun h => ?_) fun h => ?_
    · rw [validate, herr] at h
      cases h
    · exact Nat.lt_irrefl 0 (hf ▸ h f (by simp [heq]))

/-- **An error names the first setting that is zero.** -/
theorem validate_eq_error {config : Config} {msg : Text} (h : config.validate = .error msg) :
    ∃ pre field post, config.checked = pre ++ field :: post ∧ (∀ f ∈ pre, 0 < f.2) ∧
      field.2 = 0 ∧ msg = field.1 ++ " cannot be 0".toList := by
  rcases forM_nonZero config.checked with ⟨-, hok⟩ | ⟨pre, f, post, heq, hpre, hf, herr⟩
  · rw [validate, hok] at h
    cases h
  · rw [validate, herr] at h
    cases h
    exact ⟨pre, f, post, heq, hpre, hf, rfl⟩

end Config

end RustWhois
