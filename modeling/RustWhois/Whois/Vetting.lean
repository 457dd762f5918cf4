import RustWhois.Whois.Lookup
import RustWhois.Whois.Outbound

/-!
# Whom a lookup connects to

Where the host of every connection comes from, and which connections go to vetted addresses.

* `ByQueries`: the relations that the steps of a query keep, but for its connection;
* `Connects`: only connections of a kind were made;
* `Route`: the root server, a pattern, or a name that a root server answered with;
* **`accounted_queryRegistry`**: before the referrals, every connection has such a route;
* **`vetted_followLoop`**: every connection of the referral loop goes to a public address;
* **`dialled_of_lookup`**: every connection of a lookup.
-/

namespace RustWhois

open Rust

open Eff (Keeps)

/-! ## Queries but for their connection -/

/-- The relation is kept by what a query does over a connection. -/
structure ByQueries (R : World → World → Prop) : Prop where
  tick : Keeps R nextTick
  sent : ∀ bytes, Keeps R (record (.sent bytes))
  answered : ∀ kind server query answer, Keeps R (record (.answered kind server query answer))
  pool : ∀ f : World → BufferPool, Keeps R (Eff.modify fun w => { w with pool := f w } : Whois Unit)

namespace ByQueries

variable {R : World → World → Prop} [Std.Refl R] [IsTrans World R] {env : Env} {server : Text}

theorem sendQuery (h : ByQueries R) (query : Text) : Keeps R (sendQuery env query) := by
  refine (h.sent _).bind fun _ => h.tick.bind fun t => ?_
  cases env.net.write t (queryLine query) with
  | ok _ => exact Keeps.pure _
  | error msg => exact Keeps.throw _

theorem readLoop (h : ByQueries R) : ∀ (n : Nat) (buffer : Buffer) (response : List UInt8),
    Keeps R (readLoop env n buffer response)
  | 0, _, _ => Keeps.pure _
  | n + 1, buffer, response => by
    rw [RustWhois.readLoop]
    refine h.tick.bind fun t => ?_
    split_ifs
    · exact Keeps.pure _
    refine h.tick.bind fun t => ?_
    cases env.net.read t buffer.bytes.length with
    | ready bytes =>
      dsimp only
      split_ifs
      · exact Keeps.pure _
      · exact Keeps.pure _
      · exact readLoop h n _ _
    | failed msg => exact Keeps.pure _
    | pending => exact Keeps.pure _

theorem exchange (h : ByQueries R) {connect : Whois Unit} (hc : Keeps R connect) (query : Text) :
    Keeps R (exchange env connect query) := by
  have hread : Keeps R (readWhoisResponse env) :=
    (Keeps.reads _).bind fun _ => (h.pool _).bind fun _ => (h.readLoop _ _ _).bind fun _ =>
      (h.pool _).bind fun _ => Keeps.lift _
  exact hc.bind fun _ => (h.sendQuery query).bind fun _ => hread

theorem withBudget (h : ByQueries R) {α : Type} {x : Whois α} (hx : Keeps R x) :
    Keeps R (withBudget env x) := by
  refine hx.attempt.bind fun r => h.tick.bind fun t => ?_
  split_ifs
  · exact Keeps.throw _
  · exact Keeps.lift _

theorem executeWhoisQuery (h : ByQueries R) (hc : Keeps R (connectHost env server))
    (kind : QueryKind) (query : Text) : Keeps R (executeWhoisQuery env kind server query) := by
  have hconnect : Keeps R (connectToWhoisServer env server) := hc.bind fun _ => Keeps.lift _
  exact ((h.exchange hconnect query).retry _ _).bind fun _ =>
    (h.answered _ _ _ _).bind fun _ => Keeps.pure _

end ByQueries

theorem keeps_testWhoisServer {R : World → World → Prop} [Std.Refl R] [IsTrans World R] {env : Env}
    {server : Text} (hc : Keeps R (connectHost env server)) :
    Keeps R (testWhoisServer env server) := by
  refine hc.bind fun r => ?_
  cases r <;> exact Keeps.pure _

/-! ## Connections of a kind -/

/-- No referral was asked for, and the connections made satisfy `P`. -/
def Connects (P : Text → IpAddr → Prop) (w w' : World) : Prop :=
  w'.tldServers = w.tldServers ∧ ∃ t, w'.trace = w.trace ++ t ∧ issued t = [] ∧
    ∀ host addr, .connected host addr ∈ t → P host addr

/-- A DNS answer for the host holds the address, and the address takes connections. -/
def Reachable (env : Env) (host : Text) (addr : IpAddr) : Prop :=
  (∃ k addrs, env.net.lookupHost k host = .ready addrs ∧ addr ∈ addrs) ∧
    ∃ k, env.net.connect k addr = .ready ()

namespace Connects

variable {P : Text → IpAddr → Prop} {env : Env}

instance : Std.Refl (Connects P) :=
  ⟨fun _ => ⟨rfl, [], (List.append_nil _).symm, rfl, by simp⟩⟩

instance : IsTrans World (Connects P) := ⟨by
  rintro w₁ w₂ w₃ ⟨hs, t, htr, hi, hp⟩ ⟨hs', t', htr', hi', hp'⟩
  refine ⟨hs'.trans hs, t ++ t', by rw [htr', htr, List.append_assoc],
    by rw [issued_append, hi, hi']; rfl, ?_⟩
  intro host addr hm
  rcases List.mem_append.mp hm with hm | hm
  · exact hp host addr hm
  · exact hp' host addr hm⟩

theorem byQueries : ByQueries (Connects P) where
  tick _ := ⟨rfl, [], (List.append_nil _).symm, rfl, by simp⟩
  sent bytes := Keeps.modify fun _ => ⟨rfl, [.sent bytes], rfl, rfl, by simp⟩
  answered kind server query answer :=
    Keeps.modify fun _ => ⟨rfl, [.answered kind server query answer], rfl, rfl, by simp⟩
  pool _ := Keeps.modify fun _ => ⟨rfl, [], (List.append_nil _).symm, rfl, by simp⟩

theorem connectAny (host : Text) : ∀ (lastErr : Text) (addrs : List IpAddr),
    (∀ addr ∈ addrs, (∃ k, env.net.connect k addr = .ready ()) → P host addr) →
    Keeps (Connects P) (connectAny env host lastErr addrs)
  | _, [], _ => Keeps.pure _
  | lastErr, addr :: addrs, h => by
    rw [RustWhois.connectAny]
    refine byQueries.tick.bind fun t => ?_
    rcases hc : env.net.connect t addr with _ | msg | _
    · have hp : P host addr := h addr List.mem_cons_self ⟨t, hc⟩
      have hrecord : Keeps (Connects P) (record (.connected host addr)) :=
        Keeps.modify fun _ => ⟨rfl, [.connected host addr], rfl, rfl, by simpa using hp⟩
      exact hrecord.bind fun _ => Keeps.pure _
    · exact connectAny host msg addrs fun a ha => h a (List.mem_cons_of_mem _ ha)
    · exact Keeps.pure _

theorem connectHost (server : Text) (h : ∀ addr, Reachable env server addr → P server addr) :
    Keeps (Connects P) (connectHost env server) := by
  refine byQueries.tick.bind fun t => ?_
  rcases hl : env.net.lookupHost t server with addrs | msg | _
  · exact connectAny server _ addrs fun addr ha hk => h addr ⟨⟨t, addrs, hl, ha⟩, hk⟩
  · exact Keeps.pure _
  · exact Keeps.pure _

theorem connectToReferralServer (server : Text)
    (h : ∀ addr, isPrivateOrSpecial addr = false → P server addr) :
    Keeps (Connects P) (connectToReferralServer env server) := by
  refine byQueries.tick.bind fun t => (Keeps.lift _).bind fun resolved => ?_
  split_ifs
  · exact Keeps.throw _
  · have hany : Keeps (Connects P) (RustWhois.connectAny env server
        "could not resolve to any address" (publicAddrs resolved)) :=
      connectAny server _ _ fun addr ha _ => h addr (mem_publicAddrs.mp ha).2
    exact hany.bind fun _ => Keeps.lift _

end Connects

/-! ## Routes -/

/-- A root server answered with the host. -/
def RootNamed (past : List Event) (host : Text) : Prop :=
  ∃ server query answer, .answered .discovery server query answer ∈ past ∧
    parseRootServerResponse answer = some host

/-- How a search for the server of a TLD comes to a host. -/
inductive Route (tld : Text) (past : List Event) (host : Text) : Prop
  | root (h : host ∈ rootWhoisServers)
  | pattern (h : host ∈ generateWhoisPatterns tld)
  | named (h : RootNamed past host)

theorem Route.append {tld host : Text} {past : List Event} (h : Route tld past host)
    (t : List Event) : Route tld (past ++ t) host := by
  cases h with
  | root h => exact .root h
  | pattern h => exact .pattern h
  | named h =>
    obtain ⟨server, query, answer, hm, hp⟩ := h
    exact .named ⟨server, query, answer, List.mem_append_left t hm, hp⟩

/-- The cached servers have routes. -/
def Traceable (w : World) : Prop :=
  ∀ tld server, w.tldServers tld = some server → Route tld w.trace server

/-- The cache is as before, and the trace has grown. -/
def Grows (w w' : World) : Prop :=
  w'.tldServers = w.tldServers ∧ ∃ t, w'.trace = w.trace ++ t

instance : Std.Refl Grows := ⟨fun _ => ⟨rfl, [], (List.append_nil _).symm⟩⟩

instance : IsTrans World Grows := ⟨by
  rintro w₁ w₂ w₃ ⟨hs, t, htr⟩ ⟨hs', t', htr'⟩
  exact ⟨hs'.trans hs, t ++ t', by rw [htr', htr, List.append_assoc]⟩⟩

theorem Traceable.grows {w w' : World} (hw : Traceable w) (h : Grows w w') : Traceable w' := by
  obtain ⟨hs, t, htr⟩ := h
  intro tld server hc
  rw [hs] at hc
  rw [htr]
  exact (hw tld server hc).append t

/-- No referral was asked for, and every connection has a route. -/
def Accounted (env : Env) (tld : Text) (w w' : World) : Prop :=
  ∃ t, w'.trace = w.trace ++ t ∧ issued t = [] ∧ ∀ pre host addr post,
    t = pre ++ .connected host addr :: post →
      Route tld (w.trace ++ pre) host ∧ Reachable env host addr

theorem split_append {α : Type} {t t' pre post : List α} {e : α}
    (h : t ++ t' = pre ++ e :: post) :
    (∃ post', t = pre ++ e :: post') ∨ ∃ pre', pre = t ++ pre' ∧ t' = pre' ++ e :: post := by
  rcases List.append_eq_append_iff.mp h with ⟨pre', hpre, ht'⟩ | ⟨mid, ht, hmid⟩
  · exact .inr ⟨pre', hpre, ht'⟩
  · rcases List.cons_eq_append_iff.mp hmid with ⟨rfl, ht'⟩ | ⟨post', rfl, -⟩
    · exact .inr ⟨[], by rw [ht, List.append_nil, List.append_nil], ht'⟩
    · exact .inl ⟨post', ht⟩

namespace Accounted

variable {env : Env} {tld : Text} {w w' : World}

instance : Std.Refl (Accounted env tld) :=
  ⟨fun _ => ⟨[], (List.append_nil _).symm, rfl, by simp⟩⟩

instance : IsTrans World (Accounted env tld) := ⟨by
  rintro w₁ w₂ w₃ ⟨t, htr, hi, hp⟩ ⟨t', htr', hi', hp'⟩
  refine ⟨t ++ t', by rw [htr', htr, List.append_assoc],
    by rw [issued_append, hi, hi']; rfl, ?_⟩
  intro pre host addr post heq
  rcases split_append heq with ⟨post', ht⟩ | ⟨pre', rfl, ht'⟩
  · exact hp pre host addr post' ht
  · have h := hp' pre' host addr post ht'
    rwa [htr, List.append_assoc] at h⟩

theorem of_connects {server : Text} (hr : Route tld w.trace server)
    (h : Connects (fun host addr => host = server ∧ Reachable env host addr) w w') :
    Accounted env tld w w' := by
  obtain ⟨-, t, htr, hi, hp⟩ := h
  refine ⟨t, htr, hi, ?_⟩
  intro pre host addr post heq
  obtain ⟨rfl, hreach⟩ := hp host addr (by rw [heq]; simp)
  exact ⟨hr.append pre, hreach⟩

theorem of_trace_eq (h : w'.trace = w.trace) : Accounted env tld w w' :=
  ⟨[], by rw [h, List.append_nil], rfl, by simp⟩

theorem grows (h : Accounted env tld w w') (hcache : w'.tldServers = w.tldServers) :
    Grows w w' := ⟨hcache, h.imp fun _ h => h.1⟩

theorem route {host : Text} (h : Accounted env tld w w') {tld' : Text}
    (hr : Route tld' w.trace host) : Route tld' w'.trace host := by
  obtain ⟨t, htr, -⟩ := h
  rw [htr]
  exact hr.append t

end Accounted

/-! ## The search for a server -/

section Search

variable {env : Env} {tld : Text} {w w' : World}

theorem keeps_connectHost (server : Text) :
    Keeps (Connects fun host addr => host = server ∧ Reachable env host addr)
      (connectHost env server) :=
  Connects.connectHost server fun _ h => ⟨rfl, h⟩

theorem accounted_executeWhoisQuery {kind : QueryKind} {server query : Text}
    {r : Except WhoisError Text} (hr : Route tld w.trace server)
    (h : executeWhoisQuery env kind server query w = (r, w')) :
    Accounted env tld w w' ∧ w'.tldServers = w.tldServers := by
  have hc := (Connects.byQueries.executeWhoisQuery (keeps_connectHost server) kind query).of_eq h
  exact ⟨.of_connects hr hc, hc.1⟩

theorem accounted_testWhoisServer {server : Text} {r : Except WhoisError Bool}
    (hr : Route tld w.trace server) (h : testWhoisServer env server w = (r, w')) :
    Accounted env tld w w' ∧ w'.tldServers = w.tldServers := by
  have hc := (keeps_testWhoisServer (keeps_connectHost server)).of_eq h
  exact ⟨.of_connects hr hc, hc.1⟩

/-- What a search does and finds: its connections have routes, the cache is as before, and a found
server has a route. -/
structure Searched (env : Env) (tld : Text) (w w' : World) (r : Except WhoisError (Option Text)) :
    Prop where
  accounted : Accounted env tld w w'
  cache : w'.tldServers = w.tldServers
  route : ∀ server, r = .ok (some server) → Route tld w'.trace server

theorem Searched.after {w₁ : World} {r : Except WhoisError (Option Text)}
    (h : Accounted env tld w w₁ ∧ w₁.tldServers = w.tldServers) (h' : Searched env tld w₁ w' r) :
    Searched env tld w w' r :=
  ⟨trans_of _ h.1 h'.accounted, h'.cache.trans h.2, h'.route⟩

theorem searched_firstReachable : ∀ {patterns : List Text} {w : World}
    {r : Except WhoisError (Option Text)},
    (∀ pattern ∈ patterns, pattern ∈ generateWhoisPatterns tld) →
    firstReachable env patterns w = (r, w') → Searched env tld w w' r
  | [], w, r, _, h => by
    cases h
    exact ⟨refl_of _ _, rfl, by simp⟩
  | pattern :: patterns, w, r, hp, h => by
    have hpattern : Route tld w.trace pattern := .pattern (hp pattern List.mem_cons_self)
    rw [firstReachable] at h
    rcases ht : testWhoisServer env pattern w with ⟨e | b, w₁⟩
    · rw [Eff.bind_of_error ht] at h
      cases h
      obtain ⟨hacc, hcache⟩ := accounted_testWhoisServer hpattern ht
      exact ⟨hacc, hcache, by simp⟩
    · rw [Eff.bind_of_ok ht] at h
      have h₁ := accounted_testWhoisServer hpattern ht
      cases b with
      | true =>
        cases h
        refine ⟨h₁.1, h₁.2, fun server hs => ?_⟩
        cases hs
        exact h₁.1.route hpattern
      | false =>
        exact .after h₁ (searched_firstReachable (fun q hq => hp q (List.mem_cons_of_mem _ hq)) h)

theorem searched_queryRoots : ∀ {roots : List Text} {w w' : World}
    {r : Except WhoisError (List (Option Text))}, (∀ root ∈ roots, root ∈ rootWhoisServers) →
    queryRoots env tld roots w = (r, w') →
    (Accounted env tld w w' ∧ w'.tldServers = w.tldServers) ∧
      ∀ results, r = .ok results → ∀ server, some server ∈ results → Route tld w'.trace server
  | [], w, w', r, _, h => by
    cases h
    refine ⟨⟨refl_of _ _, rfl⟩, fun results hr => ?_⟩
    cases hr
    simp
  | root :: roots, w, w', r, hroots, h => by
    rw [queryRoots] at h
    rcases hq : discoveryWhoisQuery env root tld w with ⟨answer, w₁⟩
    have hatt : Eff.attempt (discoveryWhoisQuery env root tld) w = (.ok answer, w₁) :=
      Eff.attempt_eq_ok.mpr hq
    rw [Eff.bind_of_ok hatt] at h
    have hroot : Route tld w.trace root := .root (hroots root List.mem_cons_self)
    have h₁ := accounted_executeWhoisQuery hroot hq
    rcases hrest : queryRoots env tld roots w₁ with ⟨e | results, w₂⟩
    · rw [Eff.bind_of_error hrest] at h
      obtain ⟨h₂, -⟩ := searched_queryRoots (fun q hq => hroots q (List.mem_cons_of_mem _ hq)) hrest
      cases h
      exact ⟨⟨trans_of _ h₁.1 h₂.1, h₂.2.trans h₁.2⟩, by simp⟩
    · rw [Eff.bind_of_ok hrest] at h
      obtain ⟨h₂, hnames⟩ :=
        searched_queryRoots (fun q hq => hroots q (List.mem_cons_of_mem _ hq)) hrest
      have h₁₂ := And.intro (trans_of _ h₁.1 h₂.1) (h₂.2.trans h₁.2)
      cases answer with
      | error e =>
        cases h
        refine ⟨h₁₂, fun results' hr server hs => ?_⟩
        cases hr
        exact hnames results rfl server (by simpa using hs)
      | ok response =>
        cases h
        refine ⟨h₁₂, fun results' hr server hs => ?_⟩
        cases hr
        rcases List.mem_cons.mp hs with hs | hs
        · -- the name was read out of the answer that the query just recorded
          obtain ⟨-, t, -, htr⟩ := executeWhoisQuery_spec hq
          have hm : Event.answered .discovery root tld response ∈ w₁.trace := by
            rw [htr]
            simp [answerEvent]
          exact h₂.1.route (.named ⟨root, tld, response, hm, hs.symm⟩)
        · exact hnames results rfl server hs

theorem searched_discover {r : Except WhoisError (Option Text)}
    (h : discoverWhoisServerDynamic env tld w = (r, w')) : Searched env tld w w' r := by
  rw [discoverWhoisServerDynamic] at h
  rcases hq : queryRootServersForTld env tld w with ⟨e | found, w₁⟩
  · rw [Eff.bind_of_error hq] at h
    cases h
    rw [queryRootServersForTld] at hq
    rcases hr : queryRoots env tld rootWhoisServers w with ⟨e' | results, w₂⟩
    · rw [Eff.bind_of_error hr] at hq
      cases hq
      obtain ⟨⟨hacc, hcache⟩, -⟩ := searched_queryRoots (fun _ h => h) hr
      exact ⟨hacc, hcache, by simp⟩
    · rw [Eff.bind_of_ok hr] at hq
      cases hq
  · rw [Eff.bind_of_ok hq] at h
    obtain ⟨results, w₂, hr, hpure⟩ := Eff.bind_eq_ok.mp hq
    obtain ⟨h₁, hnames⟩ := searched_queryRoots (fun _ h => h) hr
    cases hpure
    rcases hfound : results.findSome? id with _ | server
    · rw [hfound] at h
      exact .after h₁ (searched_firstReachable (fun _ h => h) h)
    · rw [hfound] at h
      dsimp only at h
      obtain ⟨x, hx, hid⟩ := List.exists_of_findSome?_eq_some hfound
      have hroute : Route tld w₁.trace server := by
        cases hid
        exact hnames results rfl server hx
      rcases ht : testWhoisServer env server w₁ with ⟨e | b, w₂⟩
      · rw [Eff.bind_of_error ht] at h
        cases h
        obtain ⟨hacc, hcache⟩ := accounted_testWhoisServer hroute ht
        exact .after h₁ ⟨hacc, hcache, by simp⟩
      · rw [Eff.bind_of_ok ht] at h
        have h₂ := accounted_testWhoisServer hroute ht
        refine .after h₁ ?_
        cases b with
        | true =>
          cases h
          refine ⟨h₂.1, h₂.2, fun server' hs => ?_⟩
          cases hs
          exact h₂.1.route hroute
        | false => exact .after h₂ (searched_firstReachable (fun _ h => h) h)

theorem Traceable.update (hw : Traceable w) {server : Option Text}
    (hs : ∀ s, server = some s → Route tld w.trace s) :
    Traceable { w with tldServers := Function.update w.tldServers tld server } := by
  intro tld' s h
  dsimp only at h ⊢
  by_cases ht : tld' = tld
  · subst ht
    rw [Function.update_self] at h
    exact hs s h
  · rw [Function.update_of_ne ht] at h
    exact hw tld' s h

theorem accounted_findWhoisServer (hw : Traceable w) {r : Except WhoisError Text}
    (h : findWhoisServer env tld w = (r, w')) :
    Accounted env tld w w' ∧ Traceable w' ∧ ∀ server, r = .ok server → Route tld w'.trace server := by
  have hreads : (Eff.reads fun w => w.tldServers tld : Whois (Option Text)) w =
      (.ok (w.tldServers tld), w) := rfl
  rw [findWhoisServer, Eff.bind_of_ok hreads] at h
  rcases hcached : w.tldServers tld with _ | server
  · rw [hcached] at h
    dsimp only at h
    rcases hd : discoverWhoisServerDynamic env tld w with ⟨e | found, w₁⟩
    · have hs := searched_discover hd
      rw [Eff.bind_of_error hd] at h
      cases h
      exact ⟨hs.accounted, hw.grows (hs.accounted.grows hs.cache), by simp⟩
    · have hs := searched_discover hd
      have hw₁ := hw.grows (hs.accounted.grows hs.cache)
      rw [Eff.bind_of_ok hd] at h
      rcases found with _ | server
      · cases h
        exact ⟨hs.accounted, hw₁, by simp⟩
      · have hroute := hs.route server rfl
        cases h
        dsimp only
        split_ifs
        · refine ⟨hs.accounted, hw₁, fun server' hr => ?_⟩
          cases hr
          exact hroute
        · refine ⟨trans_of _ hs.accounted (.of_trace_eq rfl), hw₁.update ?_, fun server' hr => ?_⟩
          · intro s heq
            cases heq
            exact hroute
          · cases hr
            exact hroute
  · rw [hcached] at h
    cases h
    refine ⟨refl_of _ _, hw, fun server' hr => ?_⟩
    cases hr
    exact hw tld server hcached

theorem accounted_rediscoverAndRetry {failedServer domain : Text} {e : WhoisError}
    {r : Except WhoisError (Text × Text)} (hw : Traceable w)
    (h : rediscoverAndRetry env tld failedServer domain e w = (r, w')) :
    Accounted env tld w w' ∧ Traceable w' := by
  rw [rediscoverAndRetry] at h
  have hpurge : (Eff.modify fun w => { w with tldServers := Function.update w.tldServers tld none } :
      Whois Unit) w = (.ok (), { w with tldServers := Function.update w.tldServers tld none }) := rfl
  rw [Eff.bind_of_ok hpurge] at h
  have hw₀ : Traceable { w with tldServers := Function.update w.tldServers tld none } :=
    hw.update (by simp)
  refine And.imp_left (trans_of _ (.of_trace_eq rfl :
    Accounted env tld w { w with tldServers := Function.update w.tldServers tld none })) ?_
  rcases hd : discoverWhoisServerDynamic env tld
    { w with tldServers := Function.update w.tldServers tld none } with ⟨e' | found, w₁⟩
  · have hs := searched_discover hd
    rw [Eff.bind_of_error hd] at h
    cases h
    exact ⟨hs.accounted, hw₀.grows (hs.accounted.grows hs.cache)⟩
  · have hs := searched_discover hd
    have hw₁ := hw₀.grows (hs.accounted.grows hs.cache)
    rw [Eff.bind_of_ok hd] at h
    rcases found with _ | server
    · cases h
      exact ⟨hs.accounted, hw₁⟩
    · have hroute := hs.route server rfl
      dsimp only at h
      split_ifs at h
      · rcases hq : rawWhoisQuery env server domain w₁ with ⟨e' | data, w₂⟩
        · obtain ⟨hacc, hcache⟩ := accounted_executeWhoisQuery hroute hq
          rw [Eff.bind_of_error hq] at h
          cases h
          exact ⟨trans_of _ hs.accounted hacc, hw₁.grows (hacc.grows hcache)⟩
        · obtain ⟨hacc, hcache⟩ := accounted_executeWhoisQuery hroute hq
          rw [Eff.bind_of_ok hq] at h
          cases h
          refine ⟨trans_of _ hs.accounted (trans_of _ hacc (.of_trace_eq rfl)),
            (hw₁.grows (hacc.grows hcache)).update fun s heq => ?_⟩
          cases heq
          exact hacc.route hroute
      · cases h
        exact ⟨hs.accounted, hw₁⟩

/-- **Before the referrals every connection goes to a host that has a route.** -/
theorem accounted_queryRegistry {domain : Text} {r : Except WhoisError (Text × Text)}
    (hw : Traceable w) (h : queryRegistry env tld domain w = (r, w')) :
    Accounted env tld w w' ∧ Traceable w' := by
  rw [queryRegistry] at h
  rcases hf : findWhoisServer env tld w with ⟨e | server, w₁⟩
  · obtain ⟨hacc, hw₁, -⟩ := accounted_findWhoisServer hw hf
    rw [Eff.bind_of_error hf] at h
    cases h
    exact ⟨hacc, hw₁⟩
  · obtain ⟨hacc, hw₁, hroute⟩ := accounted_findWhoisServer hw hf
    rw [Eff.bind_of_ok hf] at h
    rcases hq : rawWhoisQuery env server domain w₁ with ⟨answer, w₂⟩
    have hatt : Eff.attempt (rawWhoisQuery env server domain) w₁ = (.ok answer, w₂) :=
      Eff.attempt_eq_ok.mpr hq
    obtain ⟨hacc', hcache⟩ := accounted_executeWhoisQuery (hroute server rfl) hq
    have hacc₂ := trans_of (Accounted env tld) hacc hacc'
    have hw₂ := hw₁.grows (hacc'.grows hcache)
    rw [Eff.bind_of_ok hatt] at h
    cases answer with
    | ok data =>
      cases h
      exact ⟨hacc₂, hw₂⟩
    | error e => exact (accounted_rediscoverAndRetry hw₂ h).imp_left (trans_of _ hacc₂)

end Search

/-! ## The referrals -/

/-- Every connection goes to a public address of a server asked as a referral before. -/
def Vetted (w w' : World) : Prop :=
  w'.tldServers = w.tldServers ∧ ∃ t, w'.trace = w.trace ++ t ∧ ∀ pre host addr post,
    t = pre ++ .connected host addr :: post →
      host ∈ issued pre ∧ isPrivateOrSpecial addr = false

namespace Vetted

instance : Std.Refl Vetted := ⟨fun _ => ⟨rfl, [], (List.append_nil _).symm, by simp⟩⟩

instance : IsTrans World Vetted := ⟨by
  rintro w₁ w₂ w₃ ⟨hs, t, htr, hp⟩ ⟨hs', t', htr', hp'⟩
  refine ⟨hs'.trans hs, t ++ t', by rw [htr', htr, List.append_assoc], ?_⟩
  intro pre host addr post heq
  rcases split_append heq with ⟨post', ht⟩ | ⟨pre', rfl, ht'⟩
  · exact hp pre host addr post' ht
  · obtain ⟨hm, hpublic⟩ := hp' pre' host addr post ht'
    exact ⟨by rw [issued_append]; exact List.mem_append_right _ hm, hpublic⟩⟩

variable {env : Env}

theorem referralWhoisQuery (server query : Text) :
    Keeps Vetted (referralWhoisQuery env server query) := by
  intro w
  rw [RustWhois.referralWhoisQuery, bind_record]
  have hconnect : Keeps (Connects fun host addr => host = server ∧ isPrivateOrSpecial addr = false)
      (connectToReferralServer env server) :=
    Connects.connectToReferralServer server fun _ h => ⟨rfl, h⟩
  have hquery : Keeps _ (withBudget env (exchange env (connectToReferralServer env server) query)) :=
    Connects.byQueries.withBudget (Connects.byQueries.exchange hconnect query)
  have hall := hquery.bind fun answer =>
    (Connects.byQueries.answered .referral server query answer).bind fun _ => Keeps.pure answer
  obtain ⟨hs, t, htr, -, hp⟩ := hall { w with trace := w.trace ++ [.referralQuery server query] }
  refine ⟨hs, .referralQuery server query :: t, by rw [htr, List.append_assoc]; rfl, ?_⟩
  intro pre host addr post heq
  rcases List.cons_eq_append_iff.mp heq with ⟨-, heq⟩ | ⟨pre', rfl, ht⟩
  · cases heq
  · obtain ⟨rfl, hpublic⟩ := hp host addr (by rw [ht]; simp)
    exact ⟨List.mem_cons_self, hpublic⟩

end Vetted

/-- **The referral loop connects to public addresses only.** -/
theorem vetted_followLoop (env : Env) (domain : Text) : ∀ (n : Nat) (server data : Text)
    (visited : List Text), Keeps Vetted (followLoop env domain n server data visited)
  | 0, _, _, _ => Keeps.pure _
  | n + 1, server, data, visited => by
    rw [followLoop]
    rcases extractWhoisServer data with _ | referral
    · exact Keeps.pure _
    dsimp only
    split_ifs
    · exact Keeps.pure _
    refine (Vetted.referralWhoisQuery referral domain).attempt.bind fun r => ?_
    cases r with
    | ok newData => exact vetted_followLoop env domain n _ _ _
    | error _ => exact Keeps.pure _

/-! ## Whole lookups -/

/-- No private address that a DNS answer for the host holds takes connections. -/
def Unexposed (env : Env) (host : Text) : Prop :=
  ∀ addr, Reachable env host addr → isPrivateOrSpecial addr = false

section Lookup

variable {env : Env} {w w' : World}

theorem Vetted.grows (h : Vetted w w') : Grows w w' := ⟨h.1, h.2.imp fun _ h => h.1⟩

theorem Connects.grows {P : Text → IpAddr → Prop} (h : Connects P w w') : Grows w w' :=
  ⟨h.1, h.2.imp fun _ h => h.1⟩

theorem lookup_parts {domain : Text} {r : Except WhoisError LookupResult} (hw : Traceable w)
    (h : lookup env domain w = (r, w')) : w' = w ∨ ∃ tld w₁,
      extractTld env.suffix domain = .ok tld ∧ Accounted env tld w w₁ ∧ Traceable w₁ ∧
        Vetted w₁ w' := by
  rw [lookup] at h
  rcases htld : extractTld env.suffix domain with e | tld
  · have hlift : (Eff.lift (extractTld env.suffix domain) : Whois Text) w = (.error e, w) := by
      rw [Eff.lift_apply, htld]
    rw [Eff.bind_of_error hlift] at h
    cases h
    exact .inl rfl
  · have hlift : (Eff.lift (extractTld env.suffix domain) : Whois Text) w = (.ok tld, w) := by
      rw [Eff.lift_apply, htld]
    rw [Eff.bind_of_ok hlift] at h
    right
    rcases hq : queryRegistry env tld domain w with ⟨e | first, w₁⟩
    · obtain ⟨hacc, hw₁⟩ := accounted_queryRegistry hw hq
      rw [Eff.bind_of_error hq] at h
      cases h
      exact ⟨tld, _, rfl, hacc, hw₁, refl_of _ _⟩
    · obtain ⟨hacc, hw₁⟩ := accounted_queryRegistry hw hq
      rw [Eff.bind_of_ok hq] at h
      refine ⟨tld, w₁, rfl, hacc, hw₁, ?_⟩
      have hfollow : Keeps Vetted (followReferrals env first.1 first.2 domain >>= fun last =>
          pure (domainResult env.clock first.1 first.2 last.1 last.2)) :=
        (vetted_followLoop env domain _ _ _ _).bind fun _ => Keeps.pure _
      exact hfollow.of_eq h

theorem traceable_lookup {domain : Text} {r : Except WhoisError LookupResult} (hw : Traceable w)
    (h : lookup env domain w = (r, w')) : Traceable w' := by
  rcases lookup_parts hw h with rfl | ⟨tld, w₁, -, -, hw₁, hvetted⟩
  · exact hw
  · exact hw₁.grows hvetted.grows

theorem grows_lookupIp (ipAddr : Text) : Keeps Grows (lookupIp env ipAddr) := by
  refine (Keeps.lift _).bind fun ip => (Keeps.lift _).bind fun rir => ?_
  have hraw : Keeps Grows (rawWhoisQuery env rir.whoisServer ipAddr) := fun w =>
    (Connects.byQueries.executeWhoisQuery (keeps_connectHost rir.whoisServer) .raw ipAddr w).grows
  refine hraw.bind fun rawData => ?_
  have hfollow : Keeps Grows (followReferrals env rir.whoisServer rawData ipAddr) := fun w =>
    (vetted_followLoop env ipAddr _ _ _ _ w).grows
  exact hfollow.bind fun _ => Keeps.pure _

/-- A state that lookups lead to, from a service that has cached and done nothing. -/
inductive Reached : World → Prop
  | new {w : World} (hs : ∀ tld, w.tldServers tld = none) (ht : w.trace = []) : Reached w
  | lookup {w : World} (env : Env) (domain : Text) (h : Reached w) :
    Reached (RustWhois.lookup env domain w).2
  | lookupIp {w : World} (env : Env) (ipAddr : Text) (h : Reached w) :
    Reached (RustWhois.lookupIp env ipAddr w).2

theorem Reached.traceable (h : Reached w) : Traceable w := by
  induction h with
  | new hs ht =>
    intro tld server hc
    rw [hs] at hc
    cases hc
  | lookup env domain h ih => exact traceable_lookup ih (Prod.ext rfl rfl)
  | lookupIp env ipAddr h ih => exact ih.grows (grows_lookupIp ipAddr _)

/-- **Every connection of a lookup is vetted, or goes to a host that has a route.** A connection for
a referral goes to a public address; the others do as far as the DNS exposes no private host under
their names. -/
theorem dialled_of_lookup (env : Env) (domain : Text) (w w' : World)
    (r : Except WhoisError LookupResult) (hw : Reached w) (h : lookup env domain w = (r, w')) :
    ∃ t, w'.trace = w.trace ++ t ∧ ∀ pre host addr post, t = pre ++ .connected host addr :: post →
      (host ∈ issued pre → isPrivateOrSpecial addr = false) ∧
      (host ∉ issued pre → ∃ tld, extractTld env.suffix domain = .ok tld ∧
        Route tld (w.trace ++ pre) host ∧
        (Unexposed env host → isPrivateOrSpecial addr = false)) := by
  rcases lookup_parts hw.traceable h with rfl | ⟨tld, w₁, htld, hacc, -, hvetted⟩
  · exact ⟨[], (List.append_nil _).symm, by simp⟩
  obtain ⟨t, htr, hi, hroutes⟩ := hacc
  obtain ⟨-, t', htr', hpublic⟩ := hvetted
  refine ⟨t ++ t', by rw [htr', htr, List.append_assoc], ?_⟩
  intro pre host addr post heq
  rcases split_append heq with ⟨post', ht⟩ | ⟨pre', rfl, ht'⟩
  · -- before the referrals none was asked for
    obtain ⟨hroute, hreach⟩ := hroutes pre host addr post' ht
    have hnone : issued pre = [] := by
      rw [ht, issued_append] at hi
      exact (List.append_eq_nil_iff.mp hi).1
    refine ⟨fun hm => ?_, fun _ => ⟨tld, htld, hroute, fun hdns => hdns addr hreach⟩⟩
    rw [hnone] at hm
    cases hm
  · obtain ⟨hm, hp⟩ := hpublic pre' host addr post ht'
    refine ⟨fun _ => hp, fun hn => absurd ?_ hn⟩
    rw [issued_append]
    exact List.mem_append_right _ hm

end Lookup

/-- The root server answers with the address of an internal host, and that address is its own DNS
answer. -/
def steering : Env :=
  { Env.playing [(4, "refer: 10.0.0.1")] with
    net := { Network.playing [(4, "refer: 10.0.0.1")] with
      lookupHost := fun _ host =>
        .ready [if host = "10.0.0.1".toList then .v4 ⟨10, 0, 0, 1⟩ else .v4 ⟨8, 8, 8, 8⟩] } }

/-- The internal host is connected to, because the root server named it. -/
theorem lookup_steered : ∃ pre post,
    (lookup steering "example.com" (.knowing [])).2.trace =
      pre ++ .connected "10.0.0.1" (.v4 ⟨10, 0, 0, 1⟩) :: post ∧
    RootNamed pre "10.0.0.1" ∧ isPrivateOrSpecial (.v4 ⟨10, 0, 0, 1⟩) = true :=
  ⟨[.connected "whois.iana.org" (.v4 ⟨8, 8, 8, 8⟩), .sent (queryLine "com"),
      .answered .discovery "whois.iana.org" "com" "refer: 10.0.0.1"],
    (lookup steering "example.com" (.knowing [])).2.trace.drop 4, by decide +kernel,
    ⟨"whois.iana.org", "com", "refer: 10.0.0.1", by simp, by decide +kernel⟩, by decide⟩

/-- The run of `lookup_steered` is covered. -/
theorem dialled_of_lookup_steered : ∃ t,
    (lookup steering "example.com" (.knowing [])).2.trace = (World.knowing []).trace ++ t ∧
      ∀ pre host addr post, t = pre ++ .connected host addr :: post →
        (host ∈ issued pre → isPrivateOrSpecial addr = false) ∧
        (host ∉ issued pre → ∃ tld, extractTld steering.suffix "example.com" = .ok tld ∧
          Route tld ((World.knowing []).trace ++ pre) host ∧
          (Unexposed steering host → isPrivateOrSpecial addr = false)) :=
  dialled_of_lookup steering "example.com" (.knowing []) _ _ (.new (fun _ => rfl) rfl)
    (Eff.run_of_fst rfl)

end RustWhois
