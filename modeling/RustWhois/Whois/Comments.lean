import RustWhois.Std.Lines
import RustWhois.Parser
import RustWhois.Whois.Referral

/-!
# Comment lines

Lines that start with `%` or `#`, and what the scanners of a response make of them.

* `isComment`, `withoutComments`: the comment lines, and a response without them;
* **`substantive_withoutComments`**: the parsers read the same lines;
* `RefersTo`: a line that names a referral host; `extract_whois_server` looks at comments, too;
* `CommentsHarmless`: the first line that names a host is no comment, or the comments do not matter;
* **`commentsInert_iff`**: the comment lines can be deleted exactly if they are harmless.
-/

namespace RustWhois

open Rust WhoisParser

/-- The line starts, after trimming, with one of the comment marks. -/
def isComment (line : Text) : Bool := line.trim.startsWith "%" || line.trim.startsWith "#"

def withoutComments (data : Text) : Text := data.retainLines fun line => !isComment line

theorem lines_withoutComments (data : Text) :
    (withoutComments data).lines = data.lines.filter fun line => !isComment line :=
  Text.lines_retainLines data _

/-! ## The parsers -/

/-- **The parsers read the same lines.** -/
theorem substantive_withoutComments {marks : List Text} (hpercent : ("%" : Text) ∈ marks)
    (hhash : ("#" : Text) ∈ marks) (data : Text) :
    substantive marks (withoutComments data) = substantive marks data := by
  simp only [substantive, lines_withoutComments, List.filter_map, List.filter_filter]
  congr 1
  refine List.filter_congr fun line _ => ?_
  by_cases hc : isComment line = true
  · -- a comment line starts with a mark
    have hmark : marks.any line.trim.startsWith = true := by
      rcases Bool.or_eq_true_iff.mp hc with h | h
      · exact List.any_eq_true.mpr ⟨_, hpercent, h⟩
      · exact List.any_eq_true.mpr ⟨_, hhash, h⟩
    simp [Function.comp, hmark]
  · simp [Function.comp, hc]

theorem parseWhoisData_withoutComments (clock : Clock) (data : Text) :
    parseWhoisData clock (withoutComments data) = parseWhoisData clock data := by
  unfold parseWhoisData
  rw [substantive_withoutComments List.mem_cons_self (List.mem_cons_of_mem _ List.mem_cons_self)]

theorem parseIpLines_withoutComments (data : Text) :
    parseIpLines (withoutComments data) = parseIpLines data := by
  unfold parseIpLines
  rw [substantive_withoutComments List.mem_cons_self (List.mem_cons_of_mem _ List.mem_cons_self)]

theorem parseIpWhoisDataWithAnalysis_withoutComments (clock : Clock) (data : Text) :
    parseIpWhoisDataWithAnalysis clock (withoutComments data) =
      parseIpWhoisDataWithAnalysis clock data := by
  simp only [parseIpWhoisDataWithAnalysis, parseIpWhoisData, parseIpLines_withoutComments]

/-! ## The referral host -/

/-- The line names the referral host: its key announces a referral, and its value is usable. -/
def RefersTo (line host : Text) : Prop :=
  ∃ key value, line.trim.splitOnce ':' = some (key, value) ∧
    isReferralKey (toLowercase key.trim) = true ∧ sanitizeReferralValue value.trim = some host

theorem lineReferral_eq_some_iff {line host : Text} :
    lineReferral line = some host ↔ RefersTo line host := by
  unfold lineReferral RefersTo
  cases line.trim.splitOnce ':' with
  | none => simp
  | some kv =>
    obtain ⟨key, value⟩ := kv
    by_cases hkey : isReferralKey (toLowercase key.trim) = true
    · simp [hkey]
    · simp [hkey]

/-- The first of the lines that names a referral host is `line`, and it names `host`. -/
def FirstReferral (lines : List Text) (line host : Text) : Prop :=
  ∃ pre post, lines = pre ++ line :: post ∧ RefersTo line host ∧ ∀ l ∈ pre, ∀ h, ¬ RefersTo l h

theorem findSome?_lineReferral_iff {lines : List Text} {host : Text} :
    lines.findSome? lineReferral = some host ↔ ∃ line, FirstReferral lines line host := by
  rw [List.findSome?_eq_some_iff]
  have hnone : ∀ l : Text, lineReferral l = none ↔ ∀ h, ¬ RefersTo l h := by
    intro l
    simp only [← lineReferral_eq_some_iff, Option.eq_none_iff_forall_ne_some, ne_eq]
  simp only [FirstReferral, lineReferral_eq_some_iff, hnone]
  constructor
  · rintro ⟨pre, line, post, h⟩
    exact ⟨line, pre, post, h⟩
  · rintro ⟨line, pre, post, h⟩
    exact ⟨pre, line, post, h⟩

/-- If the first line that names a referral host is a comment, the first line that names one and is
no comment names the same host. -/
def CommentsHarmless (data : Text) : Prop :=
  ∀ line host, FirstReferral data.lines line host → isComment line = true →
    ∃ line', FirstReferral (data.lines.filter fun l => !isComment l) line' host

theorem FirstReferral.filter {lines : List Text} {line host : Text}
    (h : FirstReferral lines line host) {p : Text → Bool} (hp : p line = true) :
    FirstReferral (lines.filter p) line host := by
  obtain ⟨pre, post, rfl, href, hpre⟩ := h
  refine ⟨pre.filter p, post.filter p, ?_, href, fun l hl => hpre l (List.mem_filter.mp hl).1⟩
  rw [List.filter_append, List.filter_cons_of_pos hp]

theorem extractWhoisServer_withoutComments_iff (data : Text) :
    extractWhoisServer (withoutComments data) = extractWhoisServer data ↔
      CommentsHarmless data := by
  unfold extractWhoisServer
  rw [lines_withoutComments]
  constructor
  · intro heq line host hfirst _
    have h := findSome?_lineReferral_iff.mpr ⟨line, hfirst⟩
    exact findSome?_lineReferral_iff.mp (heq.trans h)
  · intro hharmless
    cases hall : data.lines.findSome? lineReferral with
    | none =>
      rw [List.findSome?_eq_none_iff] at hall ⊢
      exact fun l hl => hall l (List.mem_filter.mp hl).1
    | some host =>
      obtain ⟨line, hfirst⟩ := findSome?_lineReferral_iff.mp hall
      refine findSome?_lineReferral_iff.mpr ?_
      by_cases hc : isComment line = true
      · exact hharmless line host hfirst hc
      · exact ⟨line, hfirst.filter (by simpa using hc)⟩

/-- Deleting the comment lines changes neither the record of a parser nor the referral host. -/
def CommentsInert (clock : Clock) (data : Text) : Prop :=
  parseWhoisData clock (withoutComments data) = parseWhoisData clock data ∧
    (parseIpWhoisDataWithAnalysis clock (withoutComments data)).1 =
      (parseIpWhoisDataWithAnalysis clock data).1 ∧
    extractWhoisServer (withoutComments data) = extractWhoisServer data

/-- **Comment lines are inert exactly if they are harmless.** The parsers skip them, the search for a
referral does not. -/
theorem commentsInert_iff (clock : Clock) (data : Text) :
    CommentsInert clock data ↔ CommentsHarmless data := by
  unfold CommentsInert
  rw [parseWhoisData_withoutComments, parseIpWhoisDataWithAnalysis_withoutComments,
    extractWhoisServer_withoutComments_iff]
  simp

/-- A commented-out server is followed. -/
theorem not_commentsInert_example : ¬ CommentsInert (Env.playing []).clock
    "% Whois server: old.example\nWhois server: new.example" := by
  rintro ⟨-, -, h⟩
  revert h
  decide +kernel

end RustWhois
