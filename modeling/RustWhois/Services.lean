import RustWhois.Std.Fault
import RustWhois.Config
import RustWhois.Whois.Net

/-!
# The services and their arithmetic

The constructors of the two services, and the queries with the arithmetic that `Whois/Net` leaves out:
the total timeout of a read.

* `WhoisService.new`, `RdapService.new`: the semaphores of a service;
* `readWhoisResponseFaulty`, `executeWhoisQueryFaulty`, `referralWhoisQueryFaulty`: the queries;
* **`executeWhoisQueryFaulty_eq`**, **`referralWhoisQueryFaulty_eq`**: where the total timeout does not
  overflow, they are those of `Whois/Net`;
* `Faultless`: neither the constructors nor any query fails in its arithmetic;
* **`faultless_iff`**: the validated configurations that are faultless.
-/

namespace RustWhois

open Rust

/-- How a step fails: in its arithmetic, or with an error. -/
inductive Failure
  | fault (f : Fault)
  | error (e : WhoisError)
  deriving DecidableEq

/-! ## The constructors -/

/-- The semaphores of a service, for queries and for discoveries. -/
structure Semaphores (bits : Nat) where
  query : Semaphore bits
  discovery : Semaphore bits

/-- `Semaphore::new` of the permits for queries, and of twice as many for discoveries. -/
def Semaphores.new (bits concurrentWhoisQueries : Nat) : Except Fault (Semaphores bits) := do
  let query ← Semaphore.new bits concurrentWhoisQueries
  let permits ← mul bits concurrentWhoisQueries 2
  let discovery ← Semaphore.new bits permits
  pure ⟨query, discovery⟩

/-- `config.validate()?`. -/
def validated (config : Config) : Except Failure Unit :=
  config.validate.mapError fun msg => .error (.configError msg)

structure WhoisService (bits : Nat) where
  config : Config
  semaphores : Semaphores bits
  bufferPool : BufferPool

/-- `WhoisService::new`. -/
def WhoisService.new (bits : Nat) (config : Config) : Except Failure (WhoisService bits) := do
  validated config
  let semaphores ← (Semaphores.new bits config.concurrentWhoisQueries).mapError .fault
  pure ⟨config, semaphores, ⟨[], config.bufferPoolSize⟩⟩

structure RdapService (bits : Nat) where
  config : Config
  semaphores : Semaphores bits

/-- `RdapService::new`, with the outcome of building the HTTP client. -/
def RdapService.new (bits : Nat) (config : Config) (client : Except WhoisError Unit) :
    Except Failure (RdapService bits) := do
  validated config
  client.mapError .error
  let semaphores ← (Semaphores.new bits config.concurrentWhoisQueries).mapError .fault
  pure ⟨config, semaphores⟩

theorem Semaphores.new_of_le {bits n : Nat} (h : n * 2 ≤ maxPermits bits) :
    Semaphores.new bits n = .ok ⟨⟨n, by omega⟩, ⟨n * 2, h⟩⟩ := by
  have hn : n ≤ maxPermits bits := by omega
  rw [Semaphores.new, Semaphore.new_of_le hn, mul_of_lt (lt_of_le_maxPermits h)]
  show (do
    let discovery ← Semaphore.new bits (n * 2)
    pure (⟨⟨n, hn⟩, discovery⟩ : Semaphores bits)) = _
  rw [Semaphore.new_of_le h]
  rfl

/-- **The semaphores fail exactly if there are too many permits for discoveries.** -/
theorem Semaphores.new_of_lt {bits n : Nat} (h : maxPermits bits < n * 2) :
    ∃ f, Semaphores.new bits n = .error f := by
  unfold Semaphores.new
  by_cases hn : n ≤ maxPermits bits
  · rw [Semaphore.new_of_le hn]
    by_cases hlt : n * 2 < 2 ^ bits
    · rw [mul_of_lt hlt]
      refine ⟨.tooManyPermits, ?_⟩
      show (do
        let discovery ← Semaphore.new bits (n * 2)
        pure (⟨⟨n, hn⟩, discovery⟩ : Semaphores bits)) = _
      rw [Semaphore.new_of_lt h]
      rfl
    · rw [mul_of_le (Nat.le_of_not_lt hlt)]
      exact ⟨.overflow, rfl⟩
  · rw [Semaphore.new_of_lt (Nat.lt_of_not_le hn)]
    exact ⟨.tooManyPermits, rfl⟩

/-! ## The queries -/

/-- `TOTAL_TIMEOUT_MULTIPLIER`. -/
def totalTimeoutMultiplier : Nat := 2

/-- The seconds of the total read timeout, a `u64`. -/
def totalTimeout (config : Config) : Except Fault Nat :=
  mul 64 config.whoisTimeoutSeconds totalTimeoutMultiplier

section Env

variable (env : Env)

/-- A computation without arithmetic. -/
def plain {α : Type} (x : Whois α) : Eff World Failure α := x.mapError .error

theorem plain_of_ok {α : Type} {x : Whois α} {w w' : World} {a : α} (h : x w = (.ok a, w')) :
    plain x w = (.ok a, w') := Eff.mapError_of_ok h

theorem plain_of_error {α : Type} {x : Whois α} {w w' : World} {e : WhoisError}
    (h : x w = (.error e, w')) : plain x w = (.error (.error e), w') := Eff.mapError_of_error h

theorem plain_congr {α : Type} {x y : Whois α} {w w' : World} (h : x w = y w') :
    plain x w = plain y w' := by
  rw [plain, plain, Eff.mapError, Eff.mapError, h]

theorem plain_bind {α β : Type} (x : Whois α) (f : α → Whois β) :
    plain (x >>= f) = plain x >>= fun a => plain (f a) := Eff.mapError_bind x f

theorem plain_ne_fault {α : Type} (x : Whois α) (w : World) (f : Fault) :
    (plain x w).1 ≠ .error (.fault f) := by
  rcases hx : x w with ⟨e | a, w₁⟩
  · rw [plain_of_error hx]
    intro h
    cases h
  · rw [plain_of_ok hx]
    intro h
    cases h

/-- `read_whois_response`, which computes the total timeout first. -/
def readWhoisResponseFaulty : Eff World Failure Text :=
  match totalTimeout env.config with
  | .ok _ => plain (readWhoisResponse env)
  | .error f => Eff.throw (.fault f)

/-- One attempt. -/
def exchangeFaulty (connect : Whois Unit) (query : Text) : Eff World Failure Text := do
  plain connect
  plain (sendQuery env query)
  readWhoisResponseFaulty env

/-- A fault ends the attempts. -/
def Failure.isTransient : Failure → Bool
  | error e => RustWhois.isTransient e
  | fault _ => false

/-- `execute_whois_query`. -/
def executeWhoisQueryFaulty (kind : QueryKind) (server query : Text) : Eff World Failure Text := do
  let answer ← Eff.retry (exchangeFaulty env (connectToWhoisServer env server) query)
    Failure.isTransient maxRetryAttempts
  plain (record (.answered kind server query answer))
  pure answer

/-- `timeout(budget, x).await?`: a fault is not held back by the budget. -/
def withBudgetFaulty {α : Type} (x : Eff World Failure α) : Eff World Failure α := do
  match ← Eff.attempt x with
  | .error (.fault f) => Eff.throw (.fault f)
  | .error (.error e) => plain (withBudget env (Eff.throw e))
  | .ok a => plain (withBudget env (pure a))

/-- `referral_whois_query`. -/
def referralWhoisQueryFaulty (server query : Text) : Eff World Failure Text := do
  plain (record (.referralQuery server query))
  let answer ← withBudgetFaulty env
    (exchangeFaulty env (connectToReferralServer env server) query)
  plain (record (.answered .referral server query answer))
  pure answer

/-! ### Without overflow -/

variable {env} {seconds : Nat} (h : totalTimeout env.config = .ok seconds)

include h

theorem exchangeFaulty_eq (connect : Whois Unit) (query : Text) :
    exchangeFaulty env connect query = plain (exchange env connect query) := by
  have hread : readWhoisResponseFaulty env = plain (readWhoisResponse env) := by
    rw [readWhoisResponseFaulty, h]
  unfold exchangeFaulty exchange
  rw [hread, plain_bind]
  exact congrArg (_ >>= ·) (funext fun _ => (plain_bind _ _).symm)

/-- **A registry query has no fault of its own.** -/
theorem executeWhoisQueryFaulty_eq (kind : QueryKind) (server query : Text) :
    executeWhoisQueryFaulty env kind server query =
      plain (executeWhoisQuery env kind server query) := by
  have hretry : Eff.retry (exchangeFaulty env (connectToWhoisServer env server) query)
        Failure.isTransient maxRetryAttempts =
      plain (Eff.retry (exchange env (connectToWhoisServer env server) query) isTransient
        maxRetryAttempts) := by
    rw [exchangeFaulty_eq h]
    exact (Eff.mapError_retry (fun _ => rfl) _).symm
  unfold executeWhoisQueryFaulty executeWhoisQuery
  rw [hretry, plain_bind]
  exact congrArg (_ >>= ·)
    (funext fun answer => (plain_bind (record _) fun _ => pure answer).symm)

omit h in
/-- The budget does not look into what it waits for. -/
theorem withBudget_congr {α : Type} {x y : Whois α} {w w' : World} (hxy : x w = y w') :
    withBudget env x w = withBudget env y w' := by
  have hx : Eff.attempt x w = (.ok (y w').1, (y w').2) := Eff.attempt_eq_ok.mpr hxy
  rw [withBudget, withBudget, Eff.bind_of_ok hx, Eff.bind_of_ok (Eff.attempt_apply y w')]

omit h in
theorem withBudgetFaulty_eq {α : Type} (x : Whois α) :
    withBudgetFaulty env (plain x) = plain (withBudget env x) := by
  funext w
  unfold withBudgetFaulty
  rcases hx : x w with ⟨e | a, w₁⟩
  · rw [Eff.bind_of_ok (Eff.attempt_eq_ok.mpr (plain_of_error hx))]
    exact plain_congr (withBudget_congr hx.symm)
  · rw [Eff.bind_of_ok (Eff.attempt_eq_ok.mpr (plain_of_ok hx))]
    exact plain_congr (withBudget_congr hx.symm)

/-- **Nor has a referral query.** -/
theorem referralWhoisQueryFaulty_eq (server query : Text) :
    referralWhoisQueryFaulty env server query =
      plain (referralWhoisQuery env server query) := by
  unfold referralWhoisQueryFaulty referralWhoisQuery
  rw [exchangeFaulty_eq h, withBudgetFaulty_eq, plain_bind]
  refine congrArg (_ >>= ·) (funext fun _ => ?_)
  rw [plain_bind]
  exact congrArg (_ >>= ·)
    (funext fun answer => (plain_bind (record _) fun _ => pure answer).symm)

end Env

/-- **A query that gets to read its answer overflows.** -/
theorem executeWhoisQueryFaulty_of_overflow {env : Env} {f : Fault}
    (h : totalTimeout env.config = .error f) {server query : Text} {w w₁ w₂ : World}
    (hconnect : connectToWhoisServer env server w = (.ok (), w₁))
    (hsend : sendQuery env query w₁ = (.ok (), w₂)) (kind : QueryKind) :
    executeWhoisQueryFaulty env kind server query w = (.error (.fault f), w₂) := by
  have hexchange : exchangeFaulty env (connectToWhoisServer env server) query w =
      (.error (.fault f), w₂) := by
    unfold exchangeFaulty
    rw [Eff.bind_of_ok (plain_of_ok hconnect), Eff.bind_of_ok (plain_of_ok hsend),
      readWhoisResponseFaulty, h]
    rfl
  unfold executeWhoisQueryFaulty
  exact Eff.bind_of_error (Eff.retry_of_error hexchange)

/-! ## Configurations without faults -/

/-- Neither the constructors nor a query fails in its arithmetic. -/
structure Faultless (bits : Nat) (config : Config) : Prop where
  whois : ∀ f, WhoisService.new bits config ≠ .error (.fault f)
  rdap : ∀ client f, RdapService.new bits config client ≠ .error (.fault f)
  query : ∀ (env : Env) (w : World), env.config = config → ∀ kind server query f,
    (executeWhoisQueryFaulty env kind server query w).1 ≠ .error (.fault f)
  referral : ∀ (env : Env) (w : World), env.config = config → ∀ server query f,
    (referralWhoisQueryFaulty env server query w).1 ≠ .error (.fault f)

theorem Faultless.timeout_lt {bits : Nat} {config : Config} (h : Faultless bits config) :
    config.whoisTimeoutSeconds < 2 ^ 63 := by
  by_contra hge
  have htimeout : totalTimeout config = .error .overflow := by
    refine mul_of_le ?_
    rw [totalTimeoutMultiplier]
    omega
  exact h.query { Env.playing [] with config } (World.knowing []) rfl .raw "whois.a" "a"
    .overflow (congrArg Prod.fst (executeWhoisQueryFaulty_of_overflow htimeout rfl rfl .raw))

theorem validated_of_ok {config : Config} (hvalid : config.validate = .ok ()) :
    validated config = .ok () := by
  rw [validated, hvalid]
  rfl

theorem Faultless.permits_le {bits : Nat} {config : Config} (h : Faultless bits config)
    (hvalid : config.validate = .ok ()) :
    config.concurrentWhoisQueries ≤ maxPermits bits / 2 := by
  by_contra hgt
  have hlt : maxPermits bits < config.concurrentWhoisQueries * 2 := by omega
  obtain ⟨f, hf⟩ := Semaphores.new_of_lt hlt
  refine h.whois f ?_
  rw [WhoisService.new, validated_of_ok hvalid, hf]
  rfl

/-- **A validated configuration is faultless exactly if neither its timeout nor its number of
queries is too large to be doubled.** -/
theorem faultless_iff (bits : Nat) (config : Config) (hvalid : config.validate = .ok ()) :
    Faultless bits config ↔ config.whoisTimeoutSeconds < 2 ^ 63 ∧
      config.concurrentWhoisQueries ≤ maxPermits bits / 2 := by
  refine ⟨fun h => ⟨h.timeout_lt, h.permits_le hvalid⟩, fun ⟨htimeout, hpermits⟩ => ?_⟩
  have hle : config.concurrentWhoisQueries * 2 ≤ maxPermits bits := by omega
  have hsemaphores := Semaphores.new_of_le hle
  have hseconds : ∀ env : Env, env.config = config →
      totalTimeout env.config = .ok (config.whoisTimeoutSeconds * totalTimeoutMultiplier) := by
    rintro env rfl
    refine mul_of_lt ?_
    rw [totalTimeoutMultiplier]
    omega
  constructor
  · intro f
    rw [WhoisService.new, validated_of_ok hvalid, hsemaphores]
    intro h
    cases h
  · intro client f
    rw [RdapService.new, validated_of_ok hvalid, hsemaphores]
    cases client with
    | ok _ =>
      intro h
      cases h
    | error e =>
      intro h
      cases h
  · intro env w henv kind server query f
    rw [executeWhoisQueryFaulty_eq (hseconds env henv)]
    exact plain_ne_fault _ w f
  · intro env w henv server query f
    rw [referralWhoisQueryFaulty_eq (hseconds env henv)]
    exact plain_ne_fault _ w f

theorem faultless_small : Faultless 64 Config.small :=
  (faultless_iff 64 Config.small rfl).mpr ⟨by decide, by decide⟩

/-- The shortest timeout that overflows. -/
def Config.patient : Config := { Config.small with whoisTimeoutSeconds := 2 ^ 63 }

/-- The least number of queries with too many permits. -/
def Config.eager : Config := { Config.small with concurrentWhoisQueries := 2 ^ 60 }

/-- Both are validated. -/
theorem not_faultless_patient_eager :
    (Config.patient.InRange 64 ∧ Config.patient.validate = .ok () ∧
      ¬ Faultless 64 Config.patient) ∧
    (Config.eager.InRange 64 ∧ Config.eager.validate = .ok () ∧ ¬ Faultless 64 Config.eager) := by
  refine ⟨⟨?_, rfl, fun h => ?_⟩, ⟨?_, rfl, fun h => ?_⟩⟩
  · constructor <;> decide
  · exact absurd h.timeout_lt (by decide)
  · constructor <;> decide
  · exact absurd (h.permits_le rfl) (by decide)

end RustWhois
