import RustWhois.Limit
import RustWhois.Std.Slices

/-!
# The URL of an RDAP query

The bases of the registries in `ip.rs` end without a slash, those of the bootstrap data with one;
`query_rdap_resource` pushes the two segments of the query behind either.

* `BaseText`: the text of a base, by its parts;
* `UrlCrate`: what the `url` crate makes of a segment that is pushed, and of a slash behind a base;
* `Url.resource`: the segments of the base without a trailing empty one, then the two of the query;
* `Tidy`: both segments are kept as they are, and none is left empty before them;
* **`requested_iff`**: which bases the URL of the query is right for, and when a trailing slash
  makes no difference.
-/

namespace RustWhois

open Rust

/-! ## Segments -/

/-- The segments of a path without a trailing empty one. -/
def stem (segments : List Text) : List Text :=
  if segments.getLast? = some [] then segments.dropLast else segments

theorem stem_eq_self_iff {segments : List Text} :
    stem segments = segments ↔ segments.getLast? ≠ some [] := by
  unfold stem
  split_ifs with h
  · refine iff_of_false (fun heq => ?_) (not_not.mpr h)
    obtain ⟨front, rfl⟩ := List.getLast?_eq_some_iff.mp h
    simpa using congrArg List.length heq
  · exact iff_of_true rfl h

theorem length_le_stem (segments : List Text) : segments.length ≤ (stem segments).length + 1 := by
  unfold stem
  split_ifs
  · rw [List.length_dropLast]
    omega
  · exact Nat.le_succ _

/-- A dot segment. -/
def IsDot (segment : Text) : Prop := segment = "." ∨ segment = ".."

instance (segment : Text) : Decidable (IsDot segment) := by unfold IsDot; infer_instance

theorem not_isDot_nil : ¬ IsDot [] := by decide

/-- A tab or a line break, which is no part of a URL. -/
def isBreak (c : Char) : Bool := c = '\t' || c = '\n' || c = '\r'

/-- A segment without its tabs and line breaks. -/
def unbroken (segment : Text) : Text := segment.filter fun c => !isBreak c

/-- A segment that is pushed as it is. -/
def Plain (segment : Text) : Prop := ¬ IsDot segment ∧ unbroken segment = segment

instance (segment : Text) : Decidable (Plain segment) := by unfold Plain; infer_instance

/-- The only segment of `/`, or none. -/
def IsRoot (segments : List Text) : Prop := segments = [] ∨ segments = [[]]

instance (segments : List Text) : Decidable (IsRoot segments) := by unfold IsRoot; infer_instance

/-- Both segments are kept as they are, and none is left empty before them. -/
structure Tidy (segments : List Text) (resourceType query : Text) : Prop where
  kept : Plain resourceType ∧ Plain query
  /-- The base ends in no slash, but for the one of the root. -/
  flush : segments = [[]] ∨ segments.getLast? ≠ some []
  /-- An empty segment pushed on a root is lost. -/
  below : resourceType = [] → ¬ IsRoot segments

/-! ## Texts of bases -/

/-- A segment with its `%2e` as dots. -/
def dotsOf : Text → Text
  | '%' :: '2' :: 'e' :: s => '.' :: dotsOf s
  | '%' :: '2' :: 'E' :: s => '.' :: dotsOf s
  | c :: s => c :: dotsOf s
  | [] => []

/-- A character that ends no part of a base, and that a URL may hold at its ends. -/
def isBaseChar (c : Char) : Bool := ' ' < c && c ≠ '/' && c ≠ '\\' && c ≠ '?' && c ≠ '#'

/-- The text of a base without a query, by its parts. -/
structure BaseText where
  scheme : Text
  authority : Text
  segments : List Text
  web : scheme = "https" ∨ scheme = "http"
  named : authority ≠ []
  clean : ∀ part ∈ authority :: segments, part.all isBaseChar

namespace BaseText

def toText (self : BaseText) : Text :=
  self.scheme ++ "://".toList ++ self.authority ++ self.segments.flatMap ('/' :: ·)

/-- The last segment is resolved as a dot segment. -/
def EndsInDot (self : BaseText) : Prop := ∃ segment ∈ self.segments.getLast?, IsDot (dotsOf segment)

/-- The base with a slash behind it. -/
def slashed (self : BaseText) : BaseText :=
  { self with
    segments := self.segments ++ [[]]
    clean := by
      intro part hpart
      rw [← List.cons_append, List.mem_append, List.mem_singleton] at hpart
      rcases hpart with hpart | rfl
      · exact self.clean part hpart
      · rfl }

theorem toText_slashed (self : BaseText) : self.slashed.toText = self.toText ++ "/" := by
  simp [toText, slashed]

end BaseText

/-! ## Pushed segments -/

namespace Url

variable {base base' : Url} {segment : Text}

theorem getLast?_append (base : Url) (segment : Text) :
    (base.append segment).segments.getLast? = some segment := List.getLast?_concat

theorem append_of_ne (h : base.segments ≠ [[]]) (segment : Text) :
    base.append segment = { base with segments := base.segments ++ [segment] } := by
  rw [append, if_neg h]

theorem append_of_isRoot (h : IsRoot base.segments) (segment : Text) :
    base.append segment = { base with segments := [segment] } := by
  rw [append]
  rcases h with h | h <;> simp [h]

theorem append_append_of_isRoot (h : IsRoot base.segments) (first second : Text) :
    (base.append first).append second =
      { base with segments := if first = [] then [second] else [first, second] } := by
  rw [append_of_isRoot h, append]
  by_cases hfirst : first = [] <;> simp [hfirst]

theorem append_append_of_not_isRoot (h : ¬ IsRoot base.segments) (first second : Text) :
    (base.append first).append second =
      { base with segments := base.segments ++ [first, second] } := by
  rw [IsRoot, not_or] at h
  have hne : base.segments ++ [first] ≠ [[]] := fun he => h.1 (by
    simpa using congrArg List.length he)
  rw [append_of_ne h.2, append_of_ne hne, List.append_assoc, List.cons_append, List.nil_append]

/-- The same base with a slash at its end. -/
def slashed (self : Url) : Url := { self with segments := self.segments ++ [[]] }

/-- The URL of a resource below a base, whether or not the base ends in a slash. -/
def resource (encode : Text → Text → Text) (self : Url) (resourceType query : Text) : Url :=
  { self with
    segments := stem self.segments ++ [encode self.origin resourceType, encode self.origin query] }

theorem resource_ne_self (encode : Text → Text → Text) (base : Url) (resourceType query : Text) :
    base.resource encode resourceType query ≠ base := by
  intro heq
  have hlen := congrArg (fun url : Url => url.segments.length) heq
  have hstem := length_le_stem base.segments
  simp only [resource, List.length_append, List.length_cons, List.length_nil] at hlen
  omega

/-- The two are one base: equal, or with the two ways to have a root for a path. -/
def Same (self other : Url) : Prop :=
  other = self ∨ IsRoot self.segments ∧ IsRoot other.segments ∧
    other = { self with segments := other.segments }

end Url

/-- What the `url` crate makes of the texts of bases and of pushed segments. How a segment is
percent-encoded depends on the scheme. -/
structure UrlCrate (parseUrl : Text → Except Text Url) (pushSegment : Url → Text → Url)
    (encode : Text → Text → Text) : Prop where
  ignored : ∀ url segment, IsDot segment → pushSegment url segment = url
  /-- A segment is appended without its tabs and line breaks, percent-encoded. -/
  appended : ∀ url segment, ¬ IsDot (unbroken segment) →
    pushSegment url segment = url.append (encode url.origin (unbroken segment))
  /-- One that is a dot segment without them is resolved: the path ends in a slash. -/
  resolved : ∀ url segment, ¬ IsDot segment → IsDot (unbroken segment) →
    ∃ segments, pushSegment url segment = { url with segments } ∧ segments.getLast? = some []
  encode_injective : ∀ origin, Function.Injective (encode origin)
  encode_nil : ∀ origin, encode origin [] = []
  /-- A base without a path has the path `/`. -/
  bare : ∀ t : BaseText, t.segments = [] → ∀ base, parseUrl t.toText = .ok base →
    parseUrl (t.toText ++ "/") = .ok base
  /-- A dot segment at the end has its slash already. -/
  dotted : ∀ t : BaseText, t.EndsInDot → ∀ base, parseUrl t.toText = .ok base →
    parseUrl (t.toText ++ "/") = .ok base
  /-- Behind any other segment the slash is an empty one. -/
  slashed : ∀ t : BaseText, t.segments ≠ [] → ¬ t.EndsInDot → ∀ base,
    parseUrl t.toText = .ok base → base.segments ≠ [] ∧ parseUrl (t.toText ++ "/") = .ok base.slashed

namespace UrlCrate

variable {parseUrl : Text → Except Text Url} {push : Url → Text → Url} {encode : Text → Text → Text}
  (h : UrlCrate parseUrl push encode) {base base' : Url} {segment resourceType query : Text}

include h

theorem push_of_plain (hs : Plain segment) : push base segment =
    base.append (encode base.origin segment) := by
  rw [h.appended base segment (by rw [hs.2]; exact hs.1), hs.2]

theorem encode_eq_nil_iff {origin : Text} : encode origin segment = [] ↔ segment = [] :=
  ⟨fun he => h.encode_injective origin (he.trans (h.encode_nil origin).symm),
    fun he => by rw [he, h.encode_nil]⟩

theorem origin_push (base : Url) (segment : Text) : (push base segment).origin = base.origin := by
  by_cases hdot : IsDot segment
  · rw [h.ignored base segment hdot]
  by_cases hbroken : IsDot (unbroken segment)
  · obtain ⟨segments, hpush, -⟩ := h.resolved base segment hdot hbroken
    rw [hpush]
  · rw [h.appended base segment hbroken]
    rfl

/-- **Only a segment that is pushed as it is ends the path.** -/
theorem plain_of_getLast? (hdot : ¬ IsDot segment) (hlast : (push base segment).segments.getLast? =
    some (encode base.origin segment)) : Plain segment := by
  by_cases hbroken : IsDot (unbroken segment)
  · obtain ⟨segments, hpush, hend⟩ := h.resolved base segment hdot hbroken
    rw [hpush] at hlast
    obtain rfl : segment = [] :=
      h.encode_eq_nil_iff.mp (Option.some.inj (hlast.symm.trans hend))
    exact absurd hbroken not_isDot_nil
  · rw [h.appended base segment hbroken, Url.getLast?_append] at hlast
    exact ⟨hdot, h.encode_injective base.origin (Option.some.inj hlast)⟩

theorem push_push_of_isRoot (hr : Plain resourceType) (hq : Plain query)
    (hroot : IsRoot base.segments) : push (push base resourceType) query =
      { base with
        segments := if resourceType = [] then [encode base.origin query]
          else [encode base.origin resourceType, encode base.origin query] } := by
  rw [h.push_of_plain hr, h.push_of_plain hq, Url.append_append_of_isRoot hroot]
  by_cases he : resourceType = []
  · rw [if_pos (h.encode_eq_nil_iff.mpr he), if_pos he]
    rfl
  · rw [if_neg (fun hnil => he (h.encode_eq_nil_iff.mp hnil)), if_neg he]
    rfl

theorem push_push_of_not_isRoot (hr : Plain resourceType) (hq : Plain query)
    (hroot : ¬ IsRoot base.segments) : push (push base resourceType) query =
      { base with
        segments := base.segments ++ [encode base.origin resourceType, encode base.origin query] } := by
  rw [h.push_of_plain hr, h.push_of_plain hq, Url.append_append_of_not_isRoot hroot]
  rfl

/-- A query that is not kept does not end the path. -/
theorem plain_query_of_eq
    (heq : push (push base resourceType) query = base.resource encode resourceType query) :
    Plain query := by
  have hlast : (push (push base resourceType) query).segments.getLast? =
      some (encode base.origin query) := by
    rw [heq, Url.resource, List.append_cons, List.getLast?_concat]
  rw [← h.origin_push base resourceType] at hlast
  by_cases hdot : IsDot query
  · -- then the resource type ends the path, or nothing was pushed
    rw [h.ignored _ query hdot] at hlast heq
    by_cases hdot' : IsDot resourceType
    · rw [h.ignored base resourceType hdot'] at heq
      exact absurd heq.symm (Url.resource_ne_self encode base resourceType query)
    by_cases hbroken : IsDot (unbroken resourceType)
    · obtain ⟨segments, hpush, hend⟩ := h.resolved base resourceType hdot' hbroken
      rw [hpush] at hlast
      have hnil := h.encode_eq_nil_iff.mp (Option.some.inj (hlast.symm.trans hend))
      exact absurd (hnil ▸ hdot) not_isDot_nil
    · rw [h.appended base resourceType hbroken, Url.getLast?_append] at hlast
      have hsame : unbroken resourceType = query :=
        h.encode_injective base.origin (Option.some.inj hlast)
      exact absurd (hsame ▸ hdot) hbroken
  · exact h.plain_of_getLast? hdot hlast

theorem plain_type_of_eq (hq : Plain query)
    (heq : push (push base resourceType) query = base.resource encode resourceType query) :
    Plain resourceType := by
  rw [h.push_of_plain hq] at heq
  have hsegments := congrArg Url.segments heq
  by_cases hroot : (push base resourceType).segments = [[]]
  · have hlen := congrArg List.length hsegments
    simp [Url.append, hroot, Url.resource] at hlen
  rw [Url.append_of_ne hroot, h.origin_push] at hsegments
  have hfront : (push base resourceType).segments =
      stem base.segments ++ [encode base.origin resourceType] := by
    rw [Url.resource, List.append_cons (stem _)] at hsegments
    exact List.append_cancel_right hsegments
  by_cases hdot : IsDot resourceType
  · -- the base itself would end in the ignored segment
    rw [h.ignored base resourceType hdot] at hfront
    have hstem : stem base.segments = base.segments := by
      refine stem_eq_self_iff.mpr fun he => not_isDot_nil ?_
      rw [hfront, List.getLast?_concat] at he
      exact h.encode_eq_nil_iff.mp (Option.some.inj he) ▸ hdot
    rw [hstem] at hfront
    simpa using congrArg List.length hfront
  · exact h.plain_of_getLast? hdot (by rw [hfront, List.getLast?_concat])

/-- **The two segments of a query behind a base.** -/
theorem push_push_eq_resource_iff :
    push (push base resourceType) query = base.resource encode resourceType query ↔
      Tidy base.segments resourceType query := by
  by_cases hkept : Plain resourceType ∧ Plain query
  swap
  · refine iff_of_false (fun heq => hkept ?_) fun htidy => hkept htidy.kept
    have hq := h.plain_query_of_eq heq
    exact ⟨h.plain_type_of_eq hq heq, hq⟩
  obtain ⟨hr, hq⟩ := hkept
  by_cases hroot : IsRoot base.segments
  · have hstem : stem base.segments = [] := by rcases hroot with h | h <;> rw [h] <;> rfl
    have hflush : base.segments = [[]] ∨ base.segments.getLast? ≠ some [] := by
      rcases hroot with h | h <;> simp [h]
    have htidy : Tidy base.segments resourceType query ↔ resourceType ≠ [] :=
      ⟨fun h he => h.below he hroot, fun h => ⟨⟨hr, hq⟩, hflush, fun he => (h he).elim⟩⟩
    rw [h.push_push_of_isRoot hr hq hroot, htidy, Url.resource, hstem]
    by_cases he : resourceType = [] <;> simp [he]
  · have htidy : Tidy base.segments resourceType query ↔ base.segments.getLast? ≠ some [] :=
      ⟨fun h => h.flush.resolve_left fun he => hroot (.inr he),
        fun h => ⟨⟨hr, hq⟩, .inr h, fun _ => hroot⟩⟩
    rw [h.push_push_of_not_isRoot hr hq hroot, htidy, ← stem_eq_self_iff, Url.resource]
    simp [eq_comm]

/-- The length of the URL of a query tells whether the base is a root. -/
theorem isRoot_iff_length (hr : Plain resourceType) (hq : Plain query) : IsRoot base.segments ↔
    (push (push base resourceType) query).segments.length ≤ 2 := by
  by_cases hroot : IsRoot base.segments
  · refine iff_of_true hroot ?_
    rw [h.push_push_of_isRoot hr hq hroot]
    split_ifs <;> simp
  · refine iff_of_false hroot ?_
    have hpos := List.length_pos_iff.mpr fun he => hroot (.inl he)
    rw [h.push_push_of_not_isRoot hr hq hroot, List.length_append, List.length_cons,
      List.length_cons, List.length_nil]
    omega

/-- **Two bases have one URL for a query only if they are one base.** -/
theorem push_push_eq_iff (hr : Plain resourceType) (hq : Plain query) :
    push (push base' resourceType) query = push (push base resourceType) query ↔
      base.Same base' := by
  constructor
  · intro heq
    have horigin : base'.origin = base.origin := by
      have ho := congrArg Url.origin heq
      rwa [h.origin_push, h.origin_push, h.origin_push, h.origin_push] at ho
    have hroots : IsRoot base'.segments ↔ IsRoot base.segments := by
      rw [h.isRoot_iff_length hr hq, h.isRoot_iff_length hr hq, heq]
    by_cases hroot : IsRoot base.segments
    · rw [h.push_push_of_isRoot hr hq hroot, h.push_push_of_isRoot hr hq (hroots.mpr hroot)] at heq
      obtain ⟨-, -, htail, hbase⟩ := Url.mk.injEq .. ▸ heq
      exact .inr ⟨hroot, hroots.mpr hroot, by rw [← horigin, ← htail, ← hbase]⟩
    · have hroot' : ¬ IsRoot base'.segments := fun hroot' => hroot (hroots.mp hroot')
      rw [h.push_push_of_not_isRoot hr hq hroot, h.push_push_of_not_isRoot hr hq hroot'] at heq
      obtain ⟨-, hsegments, htail, hbase⟩ := Url.mk.injEq .. ▸ heq
      rw [horigin] at hsegments
      refine .inl (Url.mk.injEq .. ▸ ⟨horigin, List.append_cancel_right hsegments, htail, hbase⟩)
  · rintro (rfl | ⟨hroot, hroot', hsame⟩)
    · rfl
    · rw [h.push_push_of_isRoot hr hq hroot, h.push_push_of_isRoot hr hq hroot', hsame]

/-- **A slash behind a base makes another base of it**, unless it comes behind the authority or a dot
segment. -/
theorem same_iff_of_text (t : BaseText) (hparse : parseUrl t.toText = .ok base)
    (hslash : parseUrl (t.toText ++ "/") = .ok base') :
    base.Same base' ↔ t.segments = [] ∨ t.EndsInDot := by
  by_cases hbare : t.segments = []
  · have hsame := h.bare t hbare base hparse
    exact iff_of_true (.inl (Except.ok.inj (hslash.symm.trans hsame))) (.inl hbare)
  by_cases hdot : t.EndsInDot
  · have hsame := h.dotted t hdot base hparse
    exact iff_of_true (.inl (Except.ok.inj (hslash.symm.trans hsame))) (.inr hdot)
  obtain ⟨hne, hslashed⟩ := h.slashed t hbare hdot base hparse
  obtain rfl : base' = base.slashed := Except.ok.inj (hslash.symm.trans hslashed)
  refine iff_of_false ?_ (not_or.mpr ⟨hbare, hdot⟩)
  rintro (hsame | ⟨-, hroot, -⟩)
  · simpa [Url.slashed] using congrArg Url.segments hsame
  · rcases hroot with hroot | hroot <;> simp [Url.slashed, hne] at hroot

theorem parse_slash (t : BaseText) (hparse : parseUrl t.toText = .ok base)
    (hbase : base.cannotBeABase = false) :
    ∃ base', parseUrl (t.toText ++ "/") = .ok base' ∧ base'.cannotBeABase = false := by
  by_cases hbare : t.segments = []
  · exact ⟨base, h.bare t hbare base hparse, hbase⟩
  by_cases hdot : t.EndsInDot
  · exact ⟨base, h.dotted t hdot base hparse, hbase⟩
  · exact ⟨base.slashed, (h.slashed t hbare hdot base hparse).2, hbase⟩

end UrlCrate

/-! ## The query -/

namespace RdapService

variable (env : RdapEnv)

/-- The attempts of a query at a URL. -/
def fetch (url : Url) (resourceType : Text) : Rdap (Text × LookupStatus) := do
  let (rawData, status) ← Eff.retry (request env url resourceType) isTransient maxRetryAttempts
  record ⟨status, rawData⟩
  pure (rawData, status)

/-- A query at a server is a query at the URL. -/
def Requests (server resourceType query : Text) (url : Url) : Prop :=
  rdapUrl env server resourceType query = .ok url ∧
    queryRdapResource env server resourceType query = fetch env url resourceType

theorem requests_of_parse {server : Text} {base : Url} (hparse : env.parseUrl server = .ok base)
    (hbase : base.cannotBeABase = false) (resourceType query : Text) :
    Requests env server resourceType query
      (env.pushSegment (env.pushSegment base resourceType) query) := by
  have hurl : rdapUrl env server resourceType query =
      .ok (env.pushSegment (env.pushSegment base resourceType) query) := by
    rw [rdapUrl, hparse]
    simp [hbase]
  refine ⟨hurl, ?_⟩
  unfold queryRdapResource
  rw [hurl]
  rfl

/-- **A query asks for the resource below its base exactly if both segments are kept and the base ends
in no slash**, but for the root. Two bases have one URL exactly if they are one base, and a slash behind
a base makes no difference exactly behind the authority or a dot segment. -/
theorem requested_iff {encode : Text → Text → Text}
    (h : UrlCrate env.parseUrl env.pushSegment encode) {server : Text} {base : Url}
    (resourceType query : Text) (hparse : env.parseUrl server = .ok base)
    (hbase : base.cannotBeABase = false) :
    ∃ url, Requests env server resourceType query url ∧
      (url = base.resource encode resourceType query ↔ Tidy base.segments resourceType query) ∧
      (Plain resourceType → Plain query →
        (∀ server' base', env.parseUrl server' = .ok base' → base'.cannotBeABase = false →
          ∃ url', Requests env server' resourceType query url' ∧ (url' = url ↔ base.Same base')) ∧
        ∀ t : BaseText, t.toText = server →
          ∃ url', Requests env (server ++ "/") resourceType query url' ∧
            (url' = url ↔ t.segments = [] ∨ t.EndsInDot)) := by
  refine ⟨_, requests_of_parse env hparse hbase resourceType query, h.push_push_eq_resource_iff, ?_⟩
  intro hr hq
  constructor
  · intro server' base' hparse' hbase'
    exact ⟨_, requests_of_parse env hparse' hbase' resourceType query, h.push_push_eq_iff hr hq⟩
  · rintro t rfl
    obtain ⟨base', hparse', hbase'⟩ := h.parse_slash t hparse hbase
    exact ⟨_, requests_of_parse env hparse' hbase' resourceType query,
      (h.push_push_eq_iff hr hq).trans (h.same_iff_of_text t hparse hparse')⟩

/-! ## Two bases -/

/-- `Url::parse` on an `https` URL of a host and a path without dot segments. -/
def parseHttps (s : Text) : Except Text Url :=
  if s.startsWith "https://" then
    match Text.split (s.drop 8) '/' with
    | host :: segments =>
      if ∃ segment ∈ segments, IsDot (dotsOf segment) then .error "dot segment"
      else .ok ⟨"https://".toList ++ host, if segments = [] then [[]] else segments, [], false⟩
    | [] => .error "empty host"
  else .error "relative URL without a base"

/-- `PathSegmentsMut::push` of segments that need no percent-encoding. -/
def pushUnescaped (url : Url) (segment : Text) : Url :=
  if IsDot segment then url
  else if unbroken segment = "." then url.append []
  else if unbroken segment = ".." then { url with segments := url.segments.dropLast ++ [[]] }
  else url.append (unbroken segment)

theorem split_parts {authority : Text} {segments : List Text}
    (hclean : ∀ part ∈ authority :: segments, part.all isBaseChar) :
    Text.split (authority ++ segments.flatMap ('/' :: ·)) '/' = authority :: segments := by
  have hslash : ∀ {part : Text}, part.all isBaseChar = true → '/' ∉ part := by
    intro part hpart hmem
    exact absurd (List.all_eq_true.mp hpart '/' hmem) (by decide)
  induction segments generalizing authority with
  | nil =>
    rw [List.flatMap_nil, List.append_nil]
    exact Text.split_of_notMem (hslash (hclean authority List.mem_cons_self))
  | cons segment segments ih =>
    rw [List.flatMap_cons, List.cons_append,
      Text.split_append_cons (hslash (hclean authority List.mem_cons_self)),
      ih fun part hpart => hclean part (List.mem_cons_of_mem _ hpart)]

theorem parseHttps_toText (t : BaseText) : parseHttps t.toText =
    if t.scheme = "https" then
      if ∃ segment ∈ t.segments, IsDot (dotsOf segment) then .error "dot segment"
      else .ok ⟨"https://".toList ++ t.authority,
        if t.segments = [] then [[]] else t.segments, [], false⟩
    else .error "relative URL without a base" := by
  obtain ⟨scheme, authority, segments, hweb, hnamed, hclean⟩ := t
  rcases hweb with rfl | rfl
  · have htext : BaseText.toText ⟨"https", authority, segments, .inl rfl, hnamed, hclean⟩ =
        "https://".toList ++ (authority ++ segments.flatMap ('/' :: ·)) := by
      simp [BaseText.toText]
    have hprefix : Text.startsWith
        ("https://".toList ++ (authority ++ segments.flatMap ('/' :: ·))) "https://" = true :=
      Text.startsWith_iff.mpr (List.prefix_append _ _)
    have hrest : ("https://".toList ++ (authority ++ segments.flatMap ('/' :: ·))).drop 8 =
        authority ++ segments.flatMap ('/' :: ·) := rfl
    rw [htext, parseHttps, if_pos hprefix, hrest, split_parts hclean]
    rfl
  · rfl

theorem parseHttps_eq_ok_iff (t : BaseText) (base : Url) : parseHttps t.toText = .ok base ↔
    t.scheme = "https" ∧ (∀ segment ∈ t.segments, ¬ IsDot (dotsOf segment)) ∧
      base = ⟨"https://".toList ++ t.authority,
        if t.segments = [] then [[]] else t.segments, [], false⟩ := by
  rw [parseHttps_toText]
  by_cases hs : t.scheme = "https"
  swap
  · rw [if_neg hs]
    exact iff_of_false (by rintro ⟨⟩) fun h => hs h.1
  rw [if_pos hs]
  by_cases hdot : ∃ segment ∈ t.segments, IsDot (dotsOf segment)
  · rw [if_pos hdot]
    obtain ⟨segment, hmem, hsegment⟩ := hdot
    exact iff_of_false (by rintro ⟨⟩) fun h => h.2.1 segment hmem hsegment
  · rw [if_neg hdot]
    constructor
    · intro h
      exact ⟨hs, fun segment hmem hsegment => hdot ⟨segment, hmem, hsegment⟩, (Except.ok.inj h).symm⟩
    · rintro ⟨-, -, rfl⟩
      rfl

/-- A base and the base with a slash behind it. -/
theorem parseHttps_slash (t : BaseText) : parseHttps (t.toText ++ "/") = parseHttps t.slashed.toText := by
  rw [t.toText_slashed]

/-- An RDAP service that reads such URLs. -/
def secure : RdapEnv := { verbose with parseUrl := parseHttps, pushSegment := pushUnescaped }

theorem urlCrate_secure : UrlCrate secure.parseUrl secure.pushSegment fun _ segment => segment where
  ignored url segment h := if_pos h
  appended url segment h := by
    have hdot : ¬ IsDot segment := by
      rintro (rfl | rfl) <;> exact h (by decide)
    rw [IsDot, not_or] at h
    show pushUnescaped url segment = _
    rw [pushUnescaped, if_neg hdot, if_neg h.1, if_neg h.2]
  resolved url segment hdot h := by
    show ∃ segments, pushUnescaped url segment = _ ∧ _
    rw [pushUnescaped, if_neg hdot]
    split_ifs with hone htwo
    · exact ⟨_, rfl, List.getLast?_concat⟩
    · exact ⟨_, rfl, List.getLast?_concat⟩
    · exact absurd h (not_or.mpr ⟨hone, htwo⟩)
  encode_injective _ := Function.injective_id
  encode_nil _ := rfl
  bare t hbare base hparse := by
    obtain ⟨hs, -, rfl⟩ := (parseHttps_eq_ok_iff t base).mp hparse
    refine (parseHttps_slash t).trans ((parseHttps_eq_ok_iff _ _).mpr ⟨hs, ?_, ?_⟩)
    · simp [BaseText.slashed, hbare, dotsOf, not_isDot_nil]
    · simp [BaseText.slashed, hbare]
  dotted t hdot base hparse := by
    obtain ⟨segment, hlast, hsegment⟩ := hdot
    exact absurd hsegment
      (((parseHttps_eq_ok_iff t base).mp hparse).2.1 segment (List.mem_of_getLast? hlast))
  slashed t hne _ base hparse := by
    obtain ⟨hs, hdots, rfl⟩ := (parseHttps_eq_ok_iff t base).mp hparse
    refine ⟨by simp [hne], (parseHttps_slash t).trans ((parseHttps_eq_ok_iff _ _).mpr ⟨hs, ?_, ?_⟩)⟩
    · intro segment hmem
      rcases List.mem_append.mp hmem with hmem | hmem
      · exact hdots segment hmem
      · rw [List.mem_singleton.mp hmem]
        decide
    · simp [BaseText.slashed, Url.slashed, hne]

/-- The base of `com` in the bootstrap data ends in a slash, which leaves an empty segment before
those of the query. -/
theorem requested_verisign :
    let base : Url := ⟨"https://rdap.verisign.com", ["com".toList, "v1", ""], [], false⟩
    let url : Url :=
      ⟨"https://rdap.verisign.com", ["com".toList, "v1", "", "domain", "example.com"], [], false⟩
    secure.parseUrl "https://rdap.verisign.com/com/v1/" = .ok base ∧
      rdapUrl secure "https://rdap.verisign.com/com/v1/" "domain" "example.com" = .ok url ∧
      url ≠ base.resource (fun _ segment => segment) "domain" "example.com" ∧
      rdapUrl secure "https://rdap.verisign.com/com/v1" "domain" "example.com" =
        .ok (base.resource (fun _ segment => segment) "domain" "example.com") := by
  decide +kernel

/-- The base of ARIN. -/
def arinBase : BaseText where
  scheme := "https"
  authority := "rdap.arin.net"
  segments := ["registry".toList]
  web := .inl rfl
  named := by decide
  clean := by decide

/-- It does not, and would have another URL if it did. -/
theorem requested_arin :
    let base : Url := ⟨"https://rdap.arin.net", ["registry".toList], [], false⟩
    Requests secure Rir.arin.rdapServer "ip" "8.8.8.8"
        (base.resource (fun _ segment => segment) "ip" "8.8.8.8") ∧
      ∃ url, Requests secure (Rir.arin.rdapServer ++ "/") "ip" "8.8.8.8" url ∧
        url ≠ base.resource (fun _ segment => segment) "ip" "8.8.8.8" := by
  have hparse : secure.parseUrl Rir.arin.rdapServer =
      .ok ⟨"https://rdap.arin.net", ["registry".toList], [], false⟩ := by decide +kernel
  obtain ⟨url, hrun, hurl, htexts⟩ :=
    requested_iff secure urlCrate_secure "ip" "8.8.8.8" hparse rfl
  obtain rfl := hurl.mpr ⟨by decide, .inr (by decide), by decide⟩
  obtain ⟨url', hrun', hurl'⟩ := (htexts (by decide) (by decide)).2 arinBase (by decide +kernel)
  refine ⟨hrun, url', hrun', fun heq => ?_⟩
  rcases hurl'.mp heq with hbare | ⟨segment, hlast, hdot⟩
  · cases hbare
  · cases hlast
    revert hdot
    decide

end RdapService

end RustWhois
