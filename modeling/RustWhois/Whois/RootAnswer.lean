import RustWhois.Whois.Discovery
import RustWhois.Whois.Sanitizer

/-!
# Answers of root servers

`parse_root_server_response` reads an answer twice: first with a reader of its own, which takes what
stands between the first two colons of a line, then as `extract_whois_server` does.

* `Referred`: the second reader finds the host in some line;
* `Names`: the first reader takes a text out of a line;
* **`referred_iff`**: when the two agree on the host that is returned.
-/

namespace RustWhois

open Rust

/-- Some line has the form `key: value`, and the sanitizer makes the host of the value. -/
def Referred (response host : Text) : Prop :=
  ∃ line ∈ response.lines, ∃ key value, line.trim.splitOnce ':' = some (key, value) ∧
    sanitizeReferralValue value.trim = some host

theorem lineReferral_eq_some {line host : Text} (h : lineReferral line = some host) :
    ∃ key value, line.trim.splitOnce ':' = some (key, value) ∧
      sanitizeReferralValue value.trim = some host := by
  rw [lineReferral] at h
  split at h
  case h_1 key value hsplit =>
    split_ifs at h
    exact ⟨key, value, hsplit, h⟩
  case h_2 => cases h

theorem referred_of_extract {response host : Text} (h : extractWhoisServer response = some host) :
    Referred response host := by
  obtain ⟨line, hline, h⟩ := List.exists_of_findSome?_eq_some h
  exact ⟨line, hline, lineReferral_eq_some h⟩

/-- The line is one of those in which the first reader looks for a server. -/
def Announces (line : Text) : Prop :=
  (toLowercase line).startsWith "whois:" = true ∨ (toLowercase line).startsWith "refer:" = true ∨
    (toLowercase line).contains "whois server:" = true

/-- The first reader finds the text `piece` in the line: it stands between the first two colons, or
behind the only one, and is not blank. -/
def Names (line piece : Text) : Prop :=
  Announces line.trim ∧ (line.trim.split ':')[1]? = some piece ∧ piece.trim ≠ []

theorem extractServerFromLine_eq_some_iff {line host : Text} :
    extractServerFromLine line.trim = some host ↔ ∃ piece, Names line piece ∧ host = piece.trim := by
  have hannounces : ((toLowercase line.trim).startsWith "whois:" ||
      (toLowercase line.trim).startsWith "refer:" ||
      (toLowercase line.trim).contains "whois server:") = true ↔ Announces line.trim := by
    rw [Bool.or_eq_true, Bool.or_eq_true, or_assoc]
    rfl
  unfold extractServerFromLine
  dsimp only
  by_cases ha : Announces line.trim
  · rw [if_pos (hannounces.mpr ha)]
    cases hpiece : (line.trim.split ':')[1]? with
    | none => simp [extractServerAfterColon, Names, hpiece]
    | some piece =>
      simp only [extractServerAfterColon, hpiece, Names, ha, true_and, Option.some.injEq]
      by_cases hblank : piece.trim = []
      · simp [hblank]
      · rw [if_neg (by simpa using hblank), Option.some.injEq]
        constructor
        · rintro rfl
          exact ⟨piece, ⟨rfl, hblank⟩, rfl⟩
        · rintro ⟨_, ⟨rfl, -⟩, rfl⟩
          rfl
  · rw [if_neg fun h => ha (hannounces.mp h)]
    exact iff_of_false (fun h => nomatch h) fun ⟨_, h, _⟩ => ha h.1

theorem extractServerFromLine_eq_none_iff {line : Text} :
    extractServerFromLine line.trim = none ↔ ∀ piece, ¬ Names line piece := by
  rw [Option.eq_none_iff_forall_ne_some]
  constructor
  · exact fun h piece hp => h _ (extractServerFromLine_eq_some_iff.mpr ⟨piece, hp, rfl⟩)
  · intro h host hs
    obtain ⟨piece, hp, -⟩ := extractServerFromLine_eq_some_iff.mp hs
    exact h piece hp

theorem Names.bare {line piece : Text} (h : Names line piece) (hslash : '/' ∉ piece.trim)
    (hblank : ' ' ∉ piece.trim) : Bare piece.trim := by
  have hcolon : ':' ∉ piece.trim := fun hm =>
    Text.notMem_of_mem_split (List.mem_of_getElem? h.2.1) ((Text.trim_sublist piece).subset hm)
  refine ⟨h.2.2, fun c hc => ⟨?_, ?_, ?_⟩⟩
  · rintro rfl
    exact hcolon hc
  · rintro rfl
    exact hslash hc
  · rintro rfl
    exact hblank hc

theorem findSome?_extractServerFromLine {response host : Text} :
    (response.lines.findSome? fun line => extractServerFromLine line.trim) = some host ↔
      ∃ pre line post piece, response.lines = pre ++ line :: post ∧
        (∀ l ∈ pre, ∀ piece, ¬ Names l piece) ∧ Names line piece ∧ host = piece.trim := by
  simp only [List.findSome?_eq_some_iff, extractServerFromLine_eq_some_iff,
    extractServerFromLine_eq_none_iff]
  constructor
  · rintro ⟨pre, line, post, hlines, ⟨piece, hp, hhost⟩, hpre⟩
    exact ⟨pre, line, post, piece, hlines, hpre, hp, hhost⟩
  · rintro ⟨pre, line, post, piece, hlines, hpre, hp, hhost⟩
    exact ⟨pre, line, post, hlines, ⟨piece, hp, hhost⟩, hpre⟩

/-- **Root answers are read as referrals are exactly if what the first reader finds first is the
whole value of some line**, up to scheme, port and slash, without a slash or a blank in it. -/
theorem referred_iff (response : Text) :
    (∀ host, parseRootServerResponse response = some host → Referred response host) ↔
      ∀ pre line post piece, response.lines = pre ++ line :: post →
        (∀ l ∈ pre, ∀ piece, ¬ Names l piece) → Names line piece →
        '/' ∉ piece.trim ∧ ' ' ∉ piece.trim ∧
          ∃ line' ∈ response.lines, ∃ key value, line'.trim.splitOnce ':' = some (key, value) ∧
            Spelled piece.trim value.trim := by
  constructor
  · intro h pre line post piece hlines hpre hp
    have hfirst := findSome?_extractServerFromLine.mpr
      ⟨pre, line, post, piece, hlines, hpre, hp, rfl⟩
    obtain ⟨line', hline', key, value, hsplit, hs⟩ :=
      h piece.trim (by rw [parseRootServerResponse, hfirst, Option.some_or])
    obtain ⟨hb, hspelled⟩ := sanitizeReferralValue_eq_some_iff.mp hs
    exact ⟨hb.notMem.2.1, hb.notMem.2.2, line', hline', key, value, hsplit, hspelled⟩
  · intro h host hhost
    rw [parseRootServerResponse, Option.or_eq_some_iff] at hhost
    rcases hhost with hfirst | ⟨-, hsecond⟩
    · obtain ⟨pre, line, post, piece, hlines, hpre, hp, rfl⟩ :=
        findSome?_extractServerFromLine.mp hfirst
      obtain ⟨hslash, hblank, line', hline', key, value, hsplit, hspelled⟩ :=
        h pre line post piece hlines hpre hp
      exact ⟨line', hline', key, value, hsplit,
        sanitizeReferralValue_eq_some_iff.mpr ⟨hp.bare hslash hblank, hspelled⟩⟩
    · exact referred_of_extract hsecond

/-- Of a URL the first reader returns the scheme. -/
theorem referred_url : parseRootServerResponse "refer: whois://whois.nic.fr" = some "whois".toList ∧
    ¬ Referred "refer: whois://whois.nic.fr" "whois" ∧
    extractWhoisServer "refer: whois://whois.nic.fr" = some "whois.nic.fr".toList := by
  refine ⟨by decide +kernel, ?_, by decide +kernel⟩
  rintro ⟨line, hline, key, value, hsplit, hs⟩
  have hlines : Text.lines "refer: whois://whois.nic.fr" = ["refer: whois://whois.nic.fr".toList] := by
    decide +kernel
  rw [hlines, List.mem_singleton] at hline
  subst hline
  have hpair : Text.splitOnce (Text.trim "refer: whois://whois.nic.fr") ':' =
      some ("refer".toList, " whois://whois.nic.fr".toList) := by decide +kernel
  rw [hpair] at hsplit
  cases hsplit
  exact absurd hs (by decide +kernel)

end RustWhois
