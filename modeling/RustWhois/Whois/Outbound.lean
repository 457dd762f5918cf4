import RustWhois.Std.IpDisplay
import RustWhois.Std.Lowercase
import RustWhois.Whois.Net

/-!
# What leaves the service

The line a query is sent as, and the addresses a referral may reach.

* **`sendQuery_isQueryLine_iff`**: an accepted query is sent as one protocol line exactly when it is
  an address or its trimmed text holds no line break;
* **`mapped_iff`**: an IPv4-mapped address is told private exactly like the IPv4 address it denotes
  when that one is public.
-/

namespace RustWhois

open Rust

/-! ## The query line -/

/-- One line of the protocol: one CR and one LF, at the end. -/
def IsQueryLine (bytes : List UInt8) : Prop :=
  bytes.count 0x0d = 1 ∧ bytes.count 0x0a = 1 ∧ [0x0d, 0x0a] <:+ bytes

instance (bytes : List UInt8) : Decidable (IsQueryLine bytes) := by
  unfold IsQueryLine; infer_instance

theorem isQueryLine_queryLine {query : Text} :
    IsQueryLine (queryLine query) ↔ '\r' ∉ query ∧ '\n' ∉ query := by
  have hcr : (queryLine query).count 0x0d = query.count '\r' + 1 := by
    rw [queryLine, show (0x0d : UInt8) = UInt8.ofNat '\r'.toNat from rfl, count_asBytes (by decide),
      List.count_append]
    rfl
  have hlf : (queryLine query).count 0x0a = query.count '\n' + 1 := by
    rw [queryLine, show (0x0a : UInt8) = UInt8.ofNat '\n'.toNat from rfl, count_asBytes (by decide),
      List.count_append]
    rfl
  have hend : [0x0d, 0x0a] <:+ queryLine query :=
    ⟨asBytes query, by rw [queryLine, asBytes_append]; rfl⟩
  rw [IsQueryLine, hcr, hlf, Nat.add_eq_right, Nat.add_eq_right, List.count_eq_zero,
    List.count_eq_zero]
  simp only [hend, and_true]

theorem trace_sendQuery (env : Env) (query : Text) (w : World) :
    (sendQuery env query w).2.trace = w.trace ++ [.sent (queryLine query)] := by
  rw [sendQuery, bind_record, bind_nextTick]
  cases env.net.write w.tick (queryLine query) <;> rfl

theorem mem_normalizeName {c : Char} (hc : c.toNat < 0x2a) {s : Text} :
    c ∈ normalizeName s ↔ c ∈ s.trim := by
  have hdot : c ≠ '.' := fun h => by subst h; revert hc; decide
  rw [normalizeName, mem_toLowercase_iff (by omega), Text.mem_trimEndMatches hdot]

/-- **An accepted query is one protocol line exactly when it is an address or has no line break
inside.** -/
theorem sendQuery_isQueryLine_iff (parseDnsName : DnsNameParser) (s : Text) (q : ValidatedQuery)
    (h : ValidatedQuery.new parseDnsName s = .ok q) (env : Env) (w : World) :
    ∃ bytes, (sendQuery env q.asStr w).2.trace = w.trace ++ [.sent bytes] ∧
      (IsQueryLine bytes ↔ (IpAddr.parse s.trim).isSome ∨ ('\r' ∉ s.trim ∧ '\n' ∉ s.trim)) := by
  refine ⟨_, trace_sendQuery env q.asStr w, ?_⟩
  rw [isQueryLine_queryLine]
  rcases ValidatedQuery.asStr_of_new h with ⟨a, ha, hq⟩ | ⟨hnone, hq⟩
  · have hcr : '\r' ∉ a.toText := fun hm => absurd (IpAddr.bounds_of_mem_toText hm).1 (by decide)
    have hlf : '\n' ∉ a.toText := fun hm => absurd (IpAddr.bounds_of_mem_toText hm).1 (by decide)
    simp [hq, ha, hcr, hlf]
  · rw [hq, hnone, mem_normalizeName (by decide), mem_normalizeName (by decide)]
    simp

/-- What the `addr` crate checks of a name: no empty label, no label above 63 bytes, no more than
253 bytes in all. -/
def lengthLimits : DnsNameParser := fun name =>
  if (name.split '.').any (fun label => label.isEmpty || 63 < label.len) || 253 < name.len then
    .error "invalid name"
  else .ok ()

theorem sendQuery_isQueryLine_exampleCom :
    ∃ bytes, (sendQuery (.playing []) "example.com" (.knowing [])).2.trace = [] ++ [.sent bytes] ∧
      (IsQueryLine bytes ↔ (IpAddr.parse (Text.trim " Example.com.")).isSome ∨
        ('\r' ∉ Text.trim " Example.com." ∧ '\n' ∉ Text.trim " Example.com.")) :=
  sendQuery_isQueryLine_iff lengthLimits " Example.com." ⟨.domain ⟨"example.com"⟩⟩
    (by decide +kernel) (.playing []) (.knowing [])

/-- A name with a line break inside is accepted and sent as two lines. -/
theorem sendQuery_lineBreak :
    ValidatedQuery.new lengthLimits "a\r\nb.com" = .ok ⟨.domain ⟨"a\r\nb.com"⟩⟩ ∧
      ∃ bytes, (sendQuery (.playing []) "a\r\nb.com" (.knowing [])).2.trace = [.sent bytes] ∧
        ¬ IsQueryLine bytes :=
  ⟨by decide +kernel, queryLine "a\r\nb.com", rfl, by decide +kernel⟩

/-! ## Private addresses -/

/-- The address is, or denotes, a private or special IPv4 address. -/
def DenotesSpecial (addr : IpAddr) : Prop :=
  ∃ a, Special a ∧ (addr = .v4 a ∨ addr = .v6 a.toIpv6Mapped)

theorem mem_publicAddrs {addr : IpAddr} {resolved : List IpAddr} :
    addr ∈ publicAddrs resolved ↔ addr ∈ resolved ∧ isPrivateOrSpecial addr = false := by
  simp [publicAddrs]

/-- A DNS answer is kept free of private hosts unless it has one in mapped form. -/
theorem publicAddrs_iff (resolved : List IpAddr) :
    (∀ addr ∈ publicAddrs resolved, ¬ DenotesSpecial addr) ↔
      ∀ a : Ipv4Addr, Special a → .v6 a.toIpv6Mapped ∉ resolved := by
  constructor
  · intro h a ha hmem
    exact h _ (mem_publicAddrs.mpr ⟨hmem, isPrivateOrSpecial_toIpv6Mapped a⟩) ⟨a, ha, .inr rfl⟩
  · rintro h addr hmem ⟨a, ha, rfl | rfl⟩
    · have := (mem_publicAddrs.mp hmem).2
      rw [(isPrivateOrSpecial_v4_iff a).mpr ha] at this
      cases this
    · exact h a ha (mem_publicAddrs.mp hmem).1

/-- **The mapped form of an IPv4 address is told apart exactly when the address is public.** -/
theorem mapped_iff (a : Ipv4Addr) (resolved : List IpAddr) :
    (isPrivateOrSpecial (.v6 a.toIpv6Mapped) = isPrivateOrSpecial (.v4 a) ↔ ¬ Special a) ∧
    ((∀ addr ∈ publicAddrs resolved, ¬ DenotesSpecial addr) ↔
      ∀ b : Ipv4Addr, Special b → .v6 b.toIpv6Mapped ∉ resolved) ∧
    (((∃ e, detectRir (.ofAddr (.v6 a.toIpv6Mapped)) = .error e) ↔
      ∃ e, detectRir (.ofAddr (.v4 a)) = .error e) ↔ ¬ Special a) := by
  refine ⟨?_, publicAddrs_iff resolved, ?_⟩
  · rw [isPrivateOrSpecial_toIpv6Mapped, ← isPrivateOrSpecial_v4_iff]
    cases isPrivateOrSpecial (.v4 a) <;> simp
  · rw [isError_detectRir, isError_detectRir]
    change (isPrivateOrSpecial (.v6 a.toIpv6Mapped) = true ↔ isPrivateOrSpecial (.v4 a) = true) ↔ _
    rw [isPrivateOrSpecial_toIpv6Mapped, isPrivateOrSpecial_v4_iff]
    simp

/-- The mapped loopback address is not told private, is kept for a referral and is not rejected. -/
theorem mapped_loopback :
    isPrivateOrSpecial (.v6 (Ipv4Addr.toIpv6Mapped ⟨127, 0, 0, 1⟩)) ≠
        isPrivateOrSpecial (.v4 ⟨127, 0, 0, 1⟩) ∧
      .v6 (Ipv4Addr.toIpv6Mapped ⟨127, 0, 0, 1⟩) ∈
        publicAddrs [.v6 (Ipv4Addr.toIpv6Mapped ⟨127, 0, 0, 1⟩)] ∧
      (¬ ∃ e, detectRir (.ofAddr (.v6 (Ipv4Addr.toIpv6Mapped ⟨127, 0, 0, 1⟩))) = .error e) ∧
      ∃ e, detectRir (.ofAddr (.v4 ⟨127, 0, 0, 1⟩)) = .error e :=
  ⟨by decide, by decide, by rw [isError_detectRir]; decide, by rw [isError_detectRir]; decide⟩

end RustWhois
