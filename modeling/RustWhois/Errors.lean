import RustWhois.Data

/-!
# Errors as HTTP responses

`errors.rs`: the response of the HTTP service to an error, and the copies of one error for several
callers.

* `WhoisError.intoResponse`: the status code and the text of the body;
* `WhoisError.duplicate`: a copy; some errors degrade to their message;
* **`intoResponse_duplicate_iff`**: the copies that are answered like the error itself.
-/

namespace RustWhois

open Rust

/-- The response to an error: the status code, which the body repeats, and the text in the body. -/
structure ErrorResponse where
  status : Nat
  error : Text
  deriving DecidableEq

namespace WhoisError

/-- `into_response`. -/
def intoResponse (self : WhoisError) : ErrorResponse :=
  match self with
  | invalidDomain _ => ⟨400, self.toText⟩
  | invalidIpAddress _ => ⟨400, self.toText⟩
  | unsupportedIpAddress _ => ⟨400, self.toText⟩
  | unsupportedTld _ => ⟨400, self.toText⟩
  | timeout => ⟨408, self.toText⟩
  | rateLimited _ =>
    ⟨503, "Upstream WHOIS/RDAP server is rate limiting queries, retry later"⟩
  | responseTooLarge => ⟨413, self.toText⟩
  | invalidUtf8 => ⟨502, "Upstream server returned invalid response"⟩
  | ioError _ => ⟨500, "Internal server error"⟩
  | httpError _ => ⟨502, "Failed to reach upstream server"⟩
  | configError _ => ⟨500, "Internal server error"⟩
  | internal _ => ⟨500, "Internal server error"⟩

/-- `duplicate`. -/
def duplicate (self : WhoisError) : WhoisError :=
  match self with
  | invalidDomain s => invalidDomain s
  | invalidIpAddress s => invalidIpAddress s
  | unsupportedIpAddress s => unsupportedIpAddress s
  | unsupportedTld s => unsupportedTld s
  | timeout => timeout
  | rateLimited s => rateLimited s
  | responseTooLarge => responseTooLarge
  | invalidUtf8 => invalidUtf8
  | internal s => internal s
  | other => internal other.toText

theorem duplicate_duplicate (e : WhoisError) : e.duplicate.duplicate = e.duplicate := by
  cases e <;> rfl

/-- **A copy is answered like the error itself, unless that is an HTTP error.** -/
theorem intoResponse_duplicate_iff {e : WhoisError} :
    e.duplicate.intoResponse = e.intoResponse ↔ ∀ msg, e ≠ httpError msg := by
  cases e with
  | httpError msg => exact iff_of_false (by simp [duplicate, intoResponse]) fun h => h msg rfl
  | _ => exact iff_of_true rfl fun msg h => by cases h

end WhoisError

end RustWhois
