import RustWhois.Client
import RustWhois.Std.Spends

/-!
# What a lookup costs upstream

Connections, query lines and HTTP sends, counted over a whole lookup, whatever the servers do. A send is
one call of the HTTP client, which follows redirects within it.

* `Tariff`: a measure of the trace with a price for a connection and one for a line;
* `spends_lookup`, `spends_lookupIp`: the price of a WHOIS lookup;
* `sends_lookup`, `sends_lookupIp`: the sends of an RDAP lookup;
* **`fetchResponse_budget`**: the cost of a lookup of the client.
-/

namespace RustWhois

open Rust

open Eff (Spends)

/-! ## WHOIS -/

/-- A measure that only the trace changes, with what a connection and what a line adds to it. -/
structure Tariff (μ : World → Nat) (connection line : Nat) : Prop where
  trace : ∀ w w' : World, w'.trace = w.trace → μ w' = μ w
  connected : ∀ host addr, Spends μ connection (record (.connected host addr))
  sent : ∀ bytes, Spends μ line (record (.sent bytes))
  quiet : ∀ e, e.isWire = false → Spends μ 0 (record e)

section Env

variable {μ : World → Nat} {c l : Nat} (h : Tariff μ c l) {env : Env}

include h

theorem spends_nextTick : Spends μ 0 nextTick := fun w => Nat.le_of_eq (h.trace w _ rfl)

theorem spends_modify {g : World → World} (hg : ∀ w, (g w).trace = w.trace) :
    Spends μ 0 (Eff.modify g : Whois Unit) :=
  Spends.modify fun w => Nat.le_of_eq (h.trace w _ (hg w))

theorem spends_connectAny (host : Text) : ∀ (lastErr : Text) (addrs : List IpAddr),
    Spends μ c (connectAny env host lastErr addrs)
  | _, [] => (Spends.pure _).mono (Nat.zero_le _)
  | lastErr, addr :: addrs => by
    rw [connectAny]
    refine ((spends_nextTick h).bind (n := c) fun t => ?_).mono (by omega)
    cases env.net.connect t addr with
    | ready _ => exact (h.connected host addr).bind (n := 0) fun _ => Spends.pure _
    | failed msg => exact spends_connectAny host msg addrs
    | pending => exact (Spends.pure _).mono (Nat.zero_le _)

theorem spends_connectHost (server : Text) : Spends μ c (connectHost env server) := by
  refine ((spends_nextTick h).bind (n := c) fun t => ?_).mono (by omega)
  cases env.net.lookupHost t server with
  | ready addrs => exact spends_connectAny h server _ addrs
  | failed msg => exact (Spends.pure _).mono (Nat.zero_le _)
  | pending => exact (Spends.pure _).mono (Nat.zero_le _)

theorem spends_testWhoisServer (server : Text) : Spends μ c (testWhoisServer env server) := by
  refine (spends_connectHost h server).bind (n := 0) fun r => ?_
  cases r <;> exact Spends.pure _

theorem spends_connectToWhoisServer (server : Text) :
    Spends μ c (connectToWhoisServer env server) :=
  (spends_connectHost h server).bind (n := 0) fun _ => Spends.lift _

theorem spends_connectToReferralServer (server : Text) :
    Spends μ c (connectToReferralServer env server) := by
  refine ((spends_nextTick h).bind (n := 0 + c) fun t => ?_).mono (by omega)
  refine (Spends.lift _).bind (n := c) fun resolved => ?_
  split_ifs
  · exact (Spends.throw _).mono (Nat.zero_le _)
  · exact (spends_connectAny h server _ _).bind (n := 0) fun _ => Spends.lift _

theorem spends_sendQuery (query : Text) : Spends μ l (sendQuery env query) := by
  refine (h.sent _).bind (n := 0) fun _ => (spends_nextTick h).bind (n := 0) fun t => ?_
  cases env.net.write t (queryLine query) with
  | ok _ => exact Spends.pure _
  | error msg => exact Spends.throw _

theorem spends_readLoop : ∀ (n : Nat) (buffer : Buffer) (response : List UInt8),
    Spends μ 0 (readLoop env n buffer response)
  | 0, _, _ => Spends.pure _
  | n + 1, buffer, response => by
    rw [readLoop]
    refine (spends_nextTick h).bind (n := 0) fun t => ?_
    split_ifs
    · exact Spends.pure _
    refine (spends_nextTick h).bind (n := 0) fun t => ?_
    cases env.net.read t buffer.bytes.length with
    | ready bytes =>
      dsimp only
      split_ifs
      · exact Spends.pure _
      · exact Spends.pure _
      · exact spends_readLoop n _ _
    | failed msg => exact Spends.pure _
    | pending => exact Spends.pure _

theorem spends_readWhoisResponse : Spends μ 0 (readWhoisResponse env) := by
  have hpool : ∀ f : World → BufferPool,
      Spends μ 0 (Eff.modify fun w => { w with pool := f w } : Whois Unit) :=
    fun f => spends_modify h fun _ => rfl
  refine (Spends.reads _).bind (n := 0) fun pool => (hpool _).bind (n := 0) fun _ => ?_
  exact (spends_readLoop h _ _ _).bind (n := 0) fun r =>
    (hpool _).bind (n := 0) fun _ => Spends.lift _

theorem spends_exchange {connect : Whois Unit} (hconnect : Spends μ c connect) (query : Text) :
    Spends μ (c + l) (exchange env connect query) :=
  hconnect.bind (n := l + 0) fun _ =>
    (spends_sendQuery h query).bind (n := 0) fun _ => spends_readWhoisResponse h

/-- **A registry query costs four attempts.** -/
theorem spends_executeWhoisQuery (kind : QueryKind) (server query : Text) :
    Spends μ (4 * (c + l)) (executeWhoisQuery env kind server query) := by
  refine Spends.bind (n := 0) ?_ fun answer => ?_
  · exact (spends_exchange h (spends_connectToWhoisServer h server) query).retry _ maxRetryAttempts
  · exact (h.quiet _ rfl).bind (n := 0) fun _ => Spends.pure _

/-- **A referral query costs one.** -/
theorem spends_referralWhoisQuery (server query : Text) :
    Spends μ (c + l) (referralWhoisQuery env server query) := by
  refine ((h.quiet _ rfl).bind (n := c + l + 0) fun _ => ?_).mono (by omega)
  refine Spends.bind (n := 0) ?_ fun answer => (h.quiet _ rfl).bind (n := 0) fun _ => Spends.pure _
  have hexchange : Spends μ (c + l)
      (exchange env (connectToReferralServer env server) query) :=
    spends_exchange h (spends_connectToReferralServer h server) query
  refine hexchange.attempt.bind (n := 0) fun r => (spends_nextTick h).bind (n := 0) fun t => ?_
  split_ifs
  · exact Spends.throw _
  · exact Spends.lift _

theorem spends_queryRoots (tld : Text) : ∀ roots : List Text,
    Spends μ (roots.length * (4 * (c + l))) (queryRoots env tld roots)
  | [] => (Spends.pure _).mono (Nat.zero_le _)
  | root :: roots => by
    have hquery : Spends μ (4 * (c + l)) (executeWhoisQuery env .discovery root tld) :=
      spends_executeWhoisQuery h .discovery root tld
    have hroot := hquery.attempt
    have hrest := spends_queryRoots tld roots
    rw [List.length_cons, Nat.succ_mul, Nat.add_comm]
    refine hroot.bind fun r => hrest.bind (n := 0) fun results => ?_
    cases r <;> exact Spends.pure _

theorem spends_firstReachable : ∀ patterns : List Text,
    Spends μ (patterns.length * c) (firstReachable env patterns)
  | [] => (Spends.pure _).mono (Nat.zero_le _)
  | pattern :: patterns => by
    rw [List.length_cons, Nat.succ_mul, Nat.add_comm]
    refine (spends_testWhoisServer h pattern).bind fun reached => ?_
    cases reached
    · exact spends_firstReachable patterns
    · exact (Spends.pure _).mono (Nat.zero_le _)

omit h in
theorem length_generateWhoisPatterns_le (tld : Text) : (generateWhoisPatterns tld).length ≤ 5 := by
  rw [generateWhoisPatterns]
  split_ifs <;> simp

theorem spends_discover (tld : Text) :
    Spends μ (4 * (c + l) + 6 * c) (discoverWhoisServerDynamic env tld) := by
  have hroot : Spends μ (4 * (c + l)) (queryRootServersForTld env tld) :=
    ((spends_queryRoots h tld rootWhoisServers).bind (n := 0) fun _ => Spends.pure _).mono
      (by simp [rootWhoisServers])
  have hpatterns : Spends μ (5 * c) (firstReachable env (generateWhoisPatterns tld)) :=
    (spends_firstReachable h _).mono (Nat.mul_le_mul_right c (length_generateWhoisPatterns_le tld))
  refine hroot.bind fun found => ?_
  cases found with
  | none => exact hpatterns.mono (by omega)
  | some server =>
    refine ((spends_testWhoisServer h server).bind (n := 5 * c) fun reached => ?_).mono (by omega)
    cases reached
    · exact hpatterns
    · exact (Spends.pure _).mono (Nat.zero_le _)

theorem spends_findWhoisServer (tld : Text) :
    Spends μ (4 * (c + l) + 6 * c) (findWhoisServer env tld) := by
  refine ((Spends.reads _).bind (n := 4 * (c + l) + 6 * c) fun known => ?_).mono (by omega)
  cases known with
  | some server => exact (Spends.pure _).mono (Nat.zero_le _)
  | none =>
    refine (spends_discover h tld).bind (n := 0) fun found => ?_
    cases found with
    | none => exact Spends.throw _
    | some server =>
      refine (spends_modify h fun w => ?_).bind (n := 0) fun _ => Spends.pure _
      split_ifs <;> rfl

theorem spends_rediscoverAndRetry (tld failedServer domain : Text) (e : WhoisError) :
    Spends μ (8 * (c + l) + 6 * c) (rediscoverAndRetry env tld failedServer domain e) := by
  have hservers : ∀ f : World → Text → Option Text,
      Spends μ 0 (Eff.modify fun w => { w with tldServers := f w } : Whois Unit) :=
    fun f => spends_modify h fun _ => rfl
  refine ((hservers _).bind (n := 8 * (c + l) + 6 * c) fun _ => ?_).mono (by omega)
  refine ((spends_discover h tld).bind (n := 4 * (c + l)) fun found => ?_).mono (by omega)
  cases found with
  | none => exact (Spends.throw _).mono (Nat.zero_le _)
  | some server =>
    dsimp only
    split_ifs
    · refine (spends_executeWhoisQuery h .raw server domain).bind (n := 0) fun data => ?_
      exact (hservers _).bind (n := 0) fun _ => Spends.pure _
    · exact (Spends.throw _).mono (Nat.zero_le _)

theorem spends_followLoop (domain : Text) : ∀ (n : Nat) (server data : Text) (visited : List Text),
    Spends μ (n * (c + l)) (followLoop env domain n server data visited)
  | 0, _, _, _ => (Spends.pure _).mono (Nat.zero_le _)
  | n + 1, server, data, visited => by
    rw [followLoop, Nat.succ_mul, Nat.add_comm]
    split
    · exact (Spends.pure _).mono (Nat.zero_le _)
    split_ifs
    · exact (Spends.pure _).mono (Nat.zero_le _)
    refine (spends_referralWhoisQuery h _ domain).attempt.bind fun r => ?_
    cases r with
    | ok newData => exact spends_followLoop domain n _ newData _
    | error e => exact (Spends.pure _).mono (Nat.zero_le _)

theorem spends_followReferrals (server data domain : Text) :
    Spends μ (env.config.maxReferrals * (c + l)) (followReferrals env server data domain) :=
  spends_followLoop h domain _ server data [server]

/-- **A lookup costs four queries, twelve connections and the referrals.** -/
theorem spends_lookup (domain : Text) :
    Spends μ (16 * (c + l) + 12 * c + env.config.maxReferrals * (c + l)) (lookup env domain) := by
  have hregistry : ∀ tld, Spends μ (16 * (c + l) + 12 * c) (queryRegistry env tld domain) := by
    intro tld
    refine ((spends_findWhoisServer h tld).bind (n := 12 * (c + l) + 6 * c) fun server => ?_).mono
      (by omega)
    refine ((spends_executeWhoisQuery h .raw server domain).attempt.bind
      (n := 8 * (c + l) + 6 * c) fun r => ?_).mono (by omega)
    cases r with
    | ok data => exact (Spends.pure _).mono (Nat.zero_le _)
    | error e => exact spends_rediscoverAndRetry h tld server domain e
  refine ((Spends.lift _).bind (n := 16 * (c + l) + 12 * c +
    env.config.maxReferrals * (c + l)) fun tld => ?_).mono (by omega)
  refine (hregistry tld).bind fun first => ?_
  exact (spends_followReferrals h first.1 first.2 domain).bind (n := 0) fun _ => Spends.pure _

/-- **A lookup of an address costs one query and the referrals.** -/
theorem spends_lookupIp (ipAddr : Text) :
    Spends μ (4 * (c + l) + env.config.maxReferrals * (c + l)) (lookupIp env ipAddr) := by
  refine ((Spends.lift _).bind (n := 4 * (c + l) + env.config.maxReferrals * (c + l))
    fun ip => ?_).mono (by omega)
  refine ((Spends.lift _).bind (n := 4 * (c + l) + env.config.maxReferrals * (c + l))
    fun rir => ?_).mono (by omega)
  refine (spends_executeWhoisQuery h .raw rir.whoisServer ipAddr).bind fun rawData => ?_
  exact (spends_followReferrals h _ rawData ipAddr).bind (n := 0) fun _ => Spends.pure _

end Env

/-! ## RDAP -/

namespace RdapService

theorem sends_nextTick : Spends RdapWorld.tick 1 nextTick := fun _ => Nat.le_refl _

theorem sends_findRdapServer (env : RdapEnv) (tld : Text) :
    Spends RdapWorld.tick 1 (findRdapServer env tld) := by
  refine sends_nextTick.bind (n := 0) fun t => (Spends.reads id).bind (n := 0) fun w => ?_
  dsimp only
  refine Spends.bind (μ := RdapWorld.tick) (m := 0) (n := 0)
    (Spends.modify fun _ => Nat.le_refl _) fun _ => ?_
  split
  · exact Spends.lift _
  · exact Spends.throw _
  · exact Spends.throw _

theorem sends_queryRdapResource (env : RdapEnv) (server resourceType query : Text) :
    Spends RdapWorld.tick 4 (queryRdapResource env server resourceType query) := by
  have hrequest : ∀ url, Spends RdapWorld.tick 1 (request env url resourceType) := fun url =>
    sends_nextTick.bind (n := 0) fun _ => Spends.lift _
  refine ((Spends.lift _).bind (n := 4) fun url => ?_).mono (by omega)
  refine Spends.bind (n := 0) ((hrequest url).retry isTransient maxRetryAttempts) fun p => ?_
  refine Spends.bind (m := 0) (n := 0) ?_ fun _ => Spends.pure _
  exact Spends.modify fun _ => Nat.le_refl _

theorem sends_lookup (env : RdapEnv) (domain : Text) :
    Spends RdapWorld.tick 5 (lookup env domain) := by
  refine ((Spends.lift _).bind (n := 5) fun tld => ?_).mono (by omega)
  refine (sends_findRdapServer env tld).bind (n := 4) fun server => ?_
  exact (sends_queryRdapResource env server "domain" domain).bind (n := 0) fun _ => Spends.pure _

theorem sends_lookupIp (env : RdapEnv) (ipAddr : Text) :
    Spends RdapWorld.tick 4 (lookupIp env ipAddr) := by
  refine ((Spends.lift _).bind (n := 4) fun ip => ?_).mono (by omega)
  refine ((Spends.lift _).bind (n := 4) fun rir => ?_).mono (by omega)
  exact (sends_queryRdapResource env _ "ip" ipAddr).bind (n := 0) fun _ => Spends.pure _

end RdapService

/-! ## The client -/

/-- An event of the trace that is a connection. -/
def Event.isConnected : Event → Bool
  | connected _ _ => true
  | _ => false

/-- An event of the trace that is a sent line. -/
def Event.isSent : Event → Bool
  | sent _ => true
  | _ => false

/-- The connections opened so far. -/
def World.connections (w : World) : Nat := w.trace.countP Event.isConnected

/-- The lines sent so far. -/
def World.lines (w : World) : Nat := w.trace.countP Event.isSent

theorem spends_record {p : Event → Bool} (e : Event) :
    Spends (fun w : World => w.trace.countP p) (if p e then 1 else 0) (record e) :=
  fun w => Nat.le_of_eq (countP_concat p w.trace e)

theorem tariff_connections : Tariff World.connections 1 0 where
  trace w w' h := by rw [World.connections, World.connections, h]
  connected host addr := spends_record (p := Event.isConnected) (.connected host addr)
  sent bytes := spends_record (p := Event.isConnected) (.sent bytes)
  quiet e he := by
    cases e with
    | referralQuery _ _ => exact spends_record (p := Event.isConnected) _
    | answered _ _ _ _ => exact spends_record (p := Event.isConnected) _
    | _ => cases he

theorem tariff_lines : Tariff World.lines 0 1 where
  trace w w' h := by rw [World.lines, World.lines, h]
  connected host addr := spends_record (p := Event.isSent) (.connected host addr)
  sent bytes := spends_record (p := Event.isSent) (.sent bytes)
  quiet e he := by
    cases e with
    | referralQuery _ _ => exact spends_record (p := Event.isSent) _
    | answered _ _ _ _ => exact spends_record (p := Event.isSent) _
    | _ => cases he

namespace WhoisClient

/-- What a lookup of the client may cost. -/
structure Budget where
  connections : Nat
  lines : Nat
  /-- Calls of the HTTP client, each with the redirects that it follows. -/
  sends : Nat

/-- The budget of a query. -/
def budget (config : Config) (isIp : Bool) : Budget :=
  if isIp then ⟨4 + config.maxReferrals, 4 + config.maxReferrals, 4⟩
  else ⟨28 + config.maxReferrals, 16 + config.maxReferrals, 5⟩

theorem spends_fetchResponse {μ : ClientWorld → Nat} {m n : Nat} {env : ClientEnv} {query : Text}
    {isIp : Bool}
    (hrdap : Spends μ m (onRdap
      (if isIp then RdapService.lookupIp env.rdap query else RdapService.lookup env.rdap query)))
    (hwhois : Spends μ n (onWhois
      (if isIp then lookupIp env.whois query else lookup env.whois query))) (queryTimeMs : Nat) :
    Spends μ (m + n) (fetchResponse env query isIp queryTimeMs) := by
  refine Spends.bind (n := 0) (hrdap.attempt.bind fun r => ?_) fun _ => Spends.pure _
  cases r with
  | ok result => exact (Spends.pure _).mono (Nat.zero_le _)
  | error e => exact hwhois.bind (n := 0) fun _ => Spends.pure _

/-- The price of a WHOIS lookup. -/
def price (config : Config) (isIp : Bool) (c l : Nat) : Nat :=
  (if isIp then 4 * (c + l) else 16 * (c + l) + 12 * c) + config.maxReferrals * (c + l)

theorem spends_whois {μ : World → Nat} {c l : Nat} (h : Tariff μ c l) (env : ClientEnv)
    (query : Text) (isIp : Bool) (queryTimeMs : Nat) :
    Spends (fun w : ClientWorld => μ w.whois) (price env.whois.config isIp c l)
      (fetchResponse env query isIp queryTimeMs) := by
  rw [← Nat.zero_add (price env.whois.config isIp c l)]
  refine spends_fetchResponse (m := 0) (fun w => Nat.le_refl _) ?_ queryTimeMs
  refine Spends.within (μ := μ) ?_ fun w whois hle => hle
  cases isIp with
  | false => exact spends_lookup h query
  | true => exact spends_lookupIp h query

theorem sends_fetchResponse (env : ClientEnv) (query : Text) (isIp : Bool) (queryTimeMs : Nat) :
    Spends (fun w : ClientWorld => w.rdap.tick) (if isIp then 4 else 5)
      (fetchResponse env query isIp queryTimeMs) := by
  refine spends_fetchResponse (n := 0) ?_ (fun w => Nat.le_refl _) queryTimeMs
  refine Spends.within (μ := RdapWorld.tick) ?_ fun w rdap hle => hle
  cases isIp with
  | false => exact RdapService.sends_lookup env.rdap query
  | true => exact RdapService.sends_lookupIp env.rdap query

/-- **Whatever the servers do, a lookup keeps within its budget**, and so does one that fails. -/
theorem fetchResponse_budget (env : ClientEnv) (query : Text) (isIp : Bool) (queryTimeMs : Nat)
    (w : ClientWorld) :
    (fetchResponse env query isIp queryTimeMs w).2.whois.connections ≤
        w.whois.connections + (budget env.whois.config isIp).connections ∧
      (fetchResponse env query isIp queryTimeMs w).2.whois.lines ≤
        w.whois.lines + (budget env.whois.config isIp).lines ∧
      (fetchResponse env query isIp queryTimeMs w).2.rdap.tick ≤
        w.rdap.tick + (budget env.whois.config isIp).sends := by
  have hconnections := spends_whois tariff_connections env query isIp queryTimeMs w
  have hlines := spends_whois tariff_lines env query isIp queryTimeMs w
  have hsends := sends_fetchResponse env query isIp queryTimeMs w
  cases isIp <;> simp only [price, budget, if_true, if_false, Bool.false_eq_true] at * <;> omega

end WhoisClient

end RustWhois
