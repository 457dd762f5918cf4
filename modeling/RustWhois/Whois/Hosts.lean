import Mathlib.Data.List.Nodup
import RustWhois.Whois.Referral

/-!
# The hosts behind the names

The loop that follows referrals tells servers apart by their names as they are spelled. DNS does
not: letter case and one trailing dot make no difference.

* `dnsName`: equal for the names of one host;
* `Uniform`: no answer refers to a server that was asked before in another spelling;
* **`askedOnce_iff`**: exactly then no host is asked twice.
-/

namespace RustWhois

open Rust

/-- The name without a trailing dot and without regard to ASCII case. -/
def dnsName (server : Text) : Text := ((server.stripSuffix ".").getD server).map toAsciiLowercase

/-- The servers are pairwise different hosts. -/
def Distinct (servers : List Text) : Prop := (servers.map dnsName).Nodup

instance (servers : List Text) : Decidable (Distinct servers) := by
  unfold Distinct
  infer_instance

theorem Distinct.eq_of_dnsName {servers : List Text} (h : Distinct servers) {s s' : Text}
    (hs : s ∈ servers) (hs' : s' ∈ servers) (hsame : dnsName s = dnsName s') : s = s' :=
  List.inj_on_of_nodup_map h hs hs' hsame

theorem distinct_cons {servers : List Text} {s : Text} :
    Distinct (s :: servers) ↔ (∀ s' ∈ servers, dnsName s' ≠ dnsName s) ∧ Distinct servers := by
  simp [Distinct, List.nodup_cons]

theorem distinct_middle {visited asked : List Text} {s : Text} :
    Distinct (visited ++ s :: asked) ↔ Distinct (s :: visited ++ asked) := by
  simp only [Distinct, List.map_append, List.map_cons, List.nodup_middle, List.cons_append]

theorem Distinct.left {visited asked : List Text} (h : Distinct (visited ++ asked)) :
    Distinct visited := by
  rw [Distinct, List.map_append] at h
  exact h.of_append_left

/-- The referral in the answer `data` is to no visited server in another spelling. -/
def SpelledAlike (visited : List Text) (data : Text) : Prop :=
  ∀ referral, extractWhoisServer data = some referral →
    ∀ s ∈ visited, dnsName s = dnsName referral → s = referral

/-- The referrals in the answers `pairs` that a loop reads, if it may still follow `n` and has
asked the servers `visited` before them. -/
def Uniform : Nat → List Text → List (Text × Text) → Prop
  | n + 1, visited, (server, data) :: rest =>
    SpelledAlike (server :: visited) data ∧ Uniform n (server :: visited) rest
  | 0, _, _ => True
  | _, _, [] => True

theorem uniform_nil (n : Nat) (visited : List Text) : Uniform n visited [] := by
  cases n <;> trivial

theorem spelledAlike_of_none {data : Text} (hx : extractWhoisServer data = none)
    (visited : List Text) : SpelledAlike visited data := by
  intro referral hr
  rw [hx] at hr
  cases hr

theorem Distinct.spelledAlike {visited : List Text} {data referral : Text} (hv : Distinct visited)
    (hx : extractWhoisServer data = some referral) (hold : referral ∈ visited) :
    SpelledAlike visited data := by
  intro r hr s hs hsame
  rw [hx] at hr
  cases hr
  exact hv.eq_of_dnsName hs hold hsame

/-- A new server is a new host exactly if the referral to it is spelled like no visited one. -/
theorem distinct_cons_iff_spelledAlike {visited : List Text} {data referral : Text}
    (hx : extractWhoisServer data = some referral) (hv : Distinct visited)
    (hnew : referral ∉ visited) : Distinct (referral :: visited) ↔ SpelledAlike visited data := by
  rw [distinct_cons, and_iff_left hv]
  constructor
  · intro h r hr s hs hsame
    rw [hx] at hr
    cases hr
    exact absurd hsame (h s hs)
  · intro h s hs hsame
    exact hnew (h referral hx s hs hsame ▸ hs)

theorem distinct_stop {server data : Text} {before : List Text} (hv : Distinct (server :: before))
    (h : SpelledAlike (server :: before) data) (n : Nat) :
    Distinct (server :: before ++ issued []) ↔
      Uniform (n + 1) before ((server, data) :: answers .referral []) := by
  refine iff_of_true ?_ ⟨h, uniform_nil _ _⟩
  rwa [show issued [] = [] from rfl, List.append_nil]

/-- **The run of the loop and the hosts**: the induction is on the referrals left, and the servers
visited are distinct as long as all answers so far were spelled alike. -/
theorem followLoop_distinct (env : Env) (domain : Text) (n : Nat) : ∀ (server data : Text)
    (before : List Text) (w : World), Distinct (server :: before) → ∃ last w' t,
      followLoop env domain n server data (server :: before) w = (.ok last, w') ∧
      w'.trace = w.trace ++ t ∧
      (Distinct (server :: before ++ issued t) ↔
        Uniform n before ((server, data) :: answers .referral t)) := by
  induction n with
  | zero =>
    intro server data before w hv
    refine ⟨(server, data), w, [], rfl, (List.append_nil _).symm, iff_of_true ?_ trivial⟩
    rwa [show issued [] = [] from rfl, List.append_nil]
  | succ n ih =>
    intro server data before w hv
    rw [followLoop]
    cases hx : extractWhoisServer data with
    | none =>
      exact ⟨(server, data), w, [], rfl, (List.append_nil _).symm,
        distinct_stop hv (spelledAlike_of_none hx _) n⟩
    | some referral =>
      dsimp only
      by_cases hold : referral ∈ server :: before
      · rw [if_pos (by simpa using hold)]
        exact ⟨(server, data), w, [], rfl, (List.append_nil _).symm,
          distinct_stop hv (hv.spelledAlike hx hold) n⟩
      rw [if_neg (by simpa using hold)]
      have hiff := distinct_cons_iff_spelledAlike hx hv hold
      rcases hq : referralWhoisQuery env referral domain w with ⟨r, w₁⟩
      obtain ⟨-, t, ht, htr⟩ := referralWhoisQuery_spec hq
      rw [Eff.bind_of_ok (Eff.attempt_eq_ok.mpr hq)]
      cases r with
      | error e =>
        refine ⟨(server, data), w₁, _, rfl, by simpa [answerEvent] using htr, ?_⟩
        rw [issued_failed referral domain ht, answers_failed referral domain ht, distinct_middle,
          List.append_nil, hiff]
        exact (and_iff_left (uniform_nil _ _)).symm
      | ok answer =>
        have htr₂ : ∀ t', w₁.trace ++ t' = w.trace ++ .referralQuery referral domain ::
            (t ++ .answered .referral referral domain answer :: t') := fun t' => by
          rw [htr]
          simp [answerEvent]
        by_cases hd : Distinct (referral :: server :: before)
        · obtain ⟨last, w', t', hrun, htr', hloop⟩ := ih referral answer (server :: before) w₁ hd
          refine ⟨last, w', _, hrun, htr'.trans (htr₂ t'), ?_⟩
          rw [issued_step referral domain answer t' ht, answers_step referral domain answer t' ht,
            distinct_middle, hloop]
          exact (and_iff_right (hiff.mp hd)).symm
        · -- asked twice already, whatever comes after it
          obtain ⟨last, w', t', hrun, -, htr', -⟩ :=
            followLoop_chain env domain n referral answer (referral :: server :: before) w₁
          refine ⟨last, w', _, hrun, htr'.trans (htr₂ t'), ?_⟩
          rw [issued_step referral domain answer t' ht, answers_step referral domain answer t' ht,
            distinct_middle]
          exact iff_of_false (fun h => hd h.left) fun h => hd (hiff.mpr h.1)

/-- **No host is asked twice exactly if no answer refers to a server that was asked before in
another spelling**, in every run of the loop. -/
theorem askedOnce_iff (env : Env) (initialServer initialData domain : Text) (w : World) :
    ∃ last w' t, followReferrals env initialServer initialData domain w = (.ok last, w') ∧
      w'.trace = w.trace ++ t ∧
      (((initialServer :: issued t).map dnsName).Nodup ↔
        Uniform env.config.maxReferrals []
          ((initialServer, initialData) :: answers .referral t)) :=
  followLoop_distinct env domain env.config.maxReferrals initialServer initialData [] w
    (List.nodup_singleton _)

/-! ## A referral back -/

/-- `whois.b` refers back to the registry, in capitals. -/
def shouting : Env := Env.playing [(4, "Whois Server: WHOIS.A")]

/-- The registry is asked again. -/
theorem askedOnce_shouting :
    issued (followReferrals shouting "whois.a" "refer: whois.b" "example.com" (.knowing [])).2.trace
      = ["whois.b".toList, "WHOIS.A"] ∧
    ¬ (["whois.a".toList, "whois.b", "WHOIS.A"].map dnsName).Nodup := by
  decide +kernel

end RustWhois
