import RustWhois.Rdap.Service
import RustWhois.Whois.Net

/-!
# The size limit

`max_response_size` on the answers of both protocols.

* `Limited`: a result that carries at most `max_response_size` bytes;
* **`limited_readWhoisResponse`**: every answer read from a WHOIS server is;
* `lastReply`: the HTTP reply that an RDAP query ends with, after the transient ones;
* `OversizedNotFound`: the kind of reply whose body is taken over unchecked;
* **`limited_iff`**: the answers of both protocols are limited exactly if the last reply is not of
  that kind.
-/

namespace RustWhois

open Rust

/-- A result that carries at most `max_response_size` bytes, if it is one. -/
def Limited (config : Config) (r : Except WhoisError Text) : Prop :=
  ∀ rawData, r = .ok rawData → rawData.len ≤ config.maxResponseSize

theorem limited_error (config : Config) (e : WhoisError) : Limited config (.error e) := by
  intro rawData h
  cases h

theorem limited_ok {config : Config} {rawData : Text} :
    Limited config (.ok rawData) ↔ rawData.len ≤ config.maxResponseSize := by
  constructor
  · intro h
    exact h rawData rfl
  · intro h r hr
    cases hr
    exact h

instance (config : Config) (r : Except WhoisError Text) : Decidable (Limited config r) :=
  match r with
  | .error e => .isTrue (limited_error config e)
  | .ok _ => decidable_of_iff _ limited_ok.symm

/-! ## WHOIS -/

theorem length_readLoop (env : Env) : ∀ (n : Nat) (buffer : Buffer) (response : List UInt8)
    {w w' : World} {out : List UInt8} {b : Buffer},
    response.length ≤ env.config.maxResponseSize →
    readLoop env n buffer response w = (.ok (.ok out, b), w') →
    out.length ≤ env.config.maxResponseSize := by
  intro n
  induction n with
  | zero =>
    intro buffer response w w' out b hle h
    cases h
  | succ n ih =>
    intro buffer response w w' out b hle h
    rw [readLoop] at h
    obtain ⟨t, w₁, -, h⟩ := Eff.bind_eq_ok.mp h
    by_cases helapsed : env.net.elapsed t
    · rw [if_pos helapsed] at h
      cases h
    rw [if_neg helapsed] at h
    obtain ⟨t', w₂, -, h⟩ := Eff.bind_eq_ok.mp h
    cases hread : env.net.read t' buffer.bytes.length with
    | pending => rw [hread] at h; cases h
    | failed msg => rw [hread] at h; cases h
    | ready bytes =>
      rw [hread] at h
      dsimp only at h
      by_cases hempty : (bytes.take buffer.bytes.length).isEmpty
      · -- the end of the stream: what was read so far is the response
        rw [if_pos hempty] at h
        cases h
        exact hle
      rw [if_neg hempty] at h
      split_ifs at h with hlarge
      · cases h
      · exact ih _ _ (Nat.le_of_not_lt hlarge) h

theorem limited_decodeResponse {config : Config} {response : List UInt8}
    (h : response.length ≤ config.maxResponseSize) : Limited config (decodeResponse response) := by
  intro rawData hdec
  unfold decodeResponse at hdec
  cases hutf : fromUtf8 response with
  | none => rw [hutf] at hdec; cases hdec
  | some s =>
    rw [hutf] at hdec
    cases hdec
    rw [← length_asBytes, asBytes_of_fromUtf8 hutf]
    exact h

/-- **Every answer read from a WHOIS server is within the limit.** -/
theorem limited_readWhoisResponse (env : Env) (w : World) :
    Limited env.config (readWhoisResponse env w).1 := by
  intro rawData h
  obtain ⟨pool, w₁, -, h⟩ := Eff.bind_eq_ok.mp (Eff.run_of_fst h)
  obtain ⟨-, w₂, -, h⟩ := Eff.bind_eq_ok.mp h
  obtain ⟨⟨response, b⟩, w₃, hloop, h⟩ := Eff.bind_eq_ok.mp h
  obtain ⟨-, w₄, -, h⟩ := Eff.bind_eq_ok.mp h
  obtain ⟨hr, -⟩ := Eff.lift_eq_ok.mp h
  cases response with
  | error e => cases hr
  | ok out =>
    have hlen := length_readLoop env _ _ _ (Nat.zero_le _) hloop
    exact limited_decodeResponse hlen rawData hr

/-! ## RDAP -/

namespace RdapService

variable (env : RdapEnv)

/-- The reply that ends a query: the first that is not followed by another attempt. -/
def lastReply (url : Url) (resourceType : Text) : Nat → Nat → HttpReply
  | 0, t => env.http t url
  | n + 1, t => match readReply env resourceType (env.http t url) with
    | .ok _ => env.http t url
    | .error e => if isTransient e then lastReply url resourceType n (t + 1) else env.http t url

/-- A status 404 with a body above the limit. -/
def OversizedNotFound (config : Config) : HttpReply → Prop
  | .answered status _ (.ok body) => status.code = 404 ∧ config.maxResponseSize < body.len
  | .answered _ _ (.error _) | .failed _ => False

theorem request_apply (url : Url) (resourceType : Text) (w : RdapWorld) :
    request env url resourceType w =
      (readReply env resourceType (env.http w.tick url), { w with tick := w.tick + 1 }) := rfl

theorem retry_request_fst (url : Url) (resourceType : Text) (n : Nat) : ∀ w : RdapWorld,
    (Eff.retry (request env url resourceType) isTransient n w).1 =
      readReply env resourceType (lastReply env url resourceType n w.tick) := by
  induction n with
  | zero => intro w; rfl
  | succ n ih =>
    intro w
    have hreq := request_apply env url resourceType w
    rw [lastReply]
    cases hreply : readReply env resourceType (env.http w.tick url) with
    | ok p =>
      rw [hreply] at hreq
      rw [Eff.retry_of_ok hreq]
      exact hreply.symm
    | error e =>
      rw [hreply] at hreq
      rw [Eff.retry_of_error hreq]
      by_cases he : isTransient e
      · simp only [he, if_true]
        exact ih _
      · simp only [he]
        exact hreply.symm

theorem queryRdapResource_fst (server resourceType query : Text) (w : RdapWorld) :
    (queryRdapResource env server resourceType query w).1 =
      (rdapUrl env server resourceType query).bind fun url =>
        readReply env resourceType (lastReply env url resourceType maxRetryAttempts w.tick) := by
  unfold queryRdapResource
  cases hurl : rdapUrl env server resourceType query with
  | error e => rfl
  | ok url =>
    rw [Eff.bind_of_ok (Eff.lift_eq_ok.mpr ⟨rfl, rfl⟩)]
    have hfst := retry_request_fst env url resourceType maxRetryAttempts w
    rcases hrun : Eff.retry (request env url resourceType) isTransient maxRetryAttempts w with
      ⟨e | p, w₁⟩
    · rw [Eff.bind_of_error hrun]
      exact (congrArg Prod.fst hrun).symm.trans hfst
    · rw [Eff.bind_of_ok hrun]
      exact (congrArg Prod.fst hrun).symm.trans hfst

/-- Only the body of a "not found" passes unchecked. -/
theorem limited_readReply_iff (resourceType : Text) (reply : HttpReply) :
    Limited env.config ((readReply env resourceType reply).map Prod.fst) ↔
      ¬ OversizedNotFound env.config reply := by
  cases reply with
  | failed msg => exact iff_of_true (limited_error _ _) id
  | answered status contentLength body =>
    rw [readReply]
    by_cases h404 : status.code = 404
    · rw [if_pos h404]
      cases body with
      | error msg => exact iff_of_true (limited_ok.mpr (Nat.zero_le _)) id
      | ok s => simp [OversizedNotFound, h404, Except.map, Except.toOption, limited_ok]
    rw [if_neg h404]
    have hno : ¬ OversizedNotFound env.config (.answered status contentLength body) := by
      cases body with
      | error msg => exact id
      | ok s => exact fun h => h404 h.1
    refine iff_of_true ?_ hno
    split_ifs
    · exact limited_error _ _
    · exact limited_error _ _
    · exact limited_error _ _
    · cases body with
      | error msg => exact limited_error _ _
      | ok s =>
        show Limited env.config (Except.map Prod.fst (if env.config.maxResponseSize < s.len then
          .error .responseTooLarge else .ok (s, LookupStatus.found)))
        by_cases hlarge : env.config.maxResponseSize < s.len
        · rw [if_pos hlarge]
          exact limited_error _ _
        · rw [if_neg hlarge]
          exact limited_ok.mpr (Nat.le_of_not_lt hlarge)

/-- **The answers of both protocols are within the limit exactly if the last HTTP reply is no
oversized "not found"**: that branch returns before the check. -/
theorem limited_iff (whois : Env) (server resourceType query : Text) (v : World) (w : RdapWorld) :
    (Limited whois.config (readWhoisResponse whois v).1 ∧
      Limited env.config ((queryRdapResource env server resourceType query w).1.map Prod.fst)) ↔
    ∀ url, rdapUrl env server resourceType query = .ok url →
      ¬ OversizedNotFound env.config
        (lastReply env url resourceType maxRetryAttempts w.tick) := by
  rw [and_iff_right (limited_readWhoisResponse whois v), queryRdapResource_fst]
  cases hurl : rdapUrl env server resourceType query with
  | error e => exact iff_of_true (limited_error _ _) (fun _ h => nomatch h)
  | ok url =>
    have h := limited_readReply_iff env resourceType
      (lastReply env url resourceType maxRetryAttempts w.tick)
    constructor
    · intro hlim u hu
      cases hu
      exact h.mp hlim
    · intro hlast
      exact h.mpr (hlast url rfl)

/-! ## A server that answers 404 -/

/-- An RDAP service limited to 8 bytes, with a server that has no record and says so at length. -/
def verbose : RdapEnv where
  config := { Config.small with maxResponseSize := 8 }
  clock := (Env.playing []).clock
  suffix _ := none
  http _ _ := .answered ⟨404, "Not Found"⟩ (some 9) (.ok "not found")
  waits _ := ⟨0, 0, 0, 0⟩
  serde := { domainResponse := fun s => .error s, value := fun s => .error s }
  bootstrapFromStr s := .error s
  parseUrl s := .ok ⟨s, [[]], [], false⟩
  pushSegment := Url.append
  bootstrapUrl := ⟨"https://data.iana.org", ["rdap", "dns.json"], [], false⟩

/-- Its answer exceeds the limit. -/
theorem limited_verbose : ¬ Limited verbose.config
    ((queryRdapResource verbose "https://rdap.a" "domain" "example.com" ⟨.empty, 0, 0, []⟩).1.map
      Prod.fst) := by decide +kernel

end RdapService

end RustWhois
