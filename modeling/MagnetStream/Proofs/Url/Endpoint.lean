import MagnetStream.Proofs.Url.Parts

/-!
# What is put behind a base URL

Requests go to a base URL with a path of the service put at its end. An accepted base URL keeps its
scheme and authority then, but the path lands in the last part that the URL has: a query or a
fragment of the base takes it in (`Absolute.split_behind`). So the endpoints are addressed just
under the base URLs that have neither (`endpoint_addressed_iff`).
-/

namespace MagnetStream.Url

open Text

/-- A path of the service: it starts with a slash, and every character of it counts and stays in a
path. -/
structure IsEndpoint (path : List Char) : Prop where
  rooted : path.head? = some '/'
  is_path : IsPath path
  kept : ∀ c ∈ path, isDropped c = false

/-- The parts that can stand at the end of a URL. -/
inductive LastPart where
  | path
  | query
  | fragment
deriving DecidableEq, Repr

/-- The last part of a text with a path: a number sign opens a fragment, and without one a question
mark opens a query. -/
def lastPart (text : List Char) : LastPart :=
  if '#' ∈ text then .fragment else if '?' ∈ text then .query else .path

/-- A URL that goes on with one of its parts. -/
def Parts.prolonged (parts : Parts) (text : List Char) : LastPart → Parts
  | .path => { parts with path := parts.path ++ text }
  | .query => { parts with query := parts.query ++ text }
  | .fragment => { parts with fragment := parts.fragment ++ text }

theorem lastPart_eq_path_iff {text : List Char} :
    lastPart text = .path ↔ '?' ∉ text ∧ '#' ∉ text := by
  unfold lastPart
  split
  · next h => simp [h]
  · split <;> simp_all

theorem prolonged_path {parts : Parts} {text : List Char} {last : LastPart} (hne : text ≠ [])
    (h : (parts.prolonged text last).path = parts.path ++ text) : last = .path := by
  cases last with
  | path => rfl
  | query => simp [Parts.prolonged, hne] at h
  | fragment => simp [Parts.prolonged, hne] at h

namespace EndpointLemmas

/-- A character that is never skipped counts wherever it stands. -/
theorem mem_cleaned_iff {c : Char} (h : isLeading c = false) {text : List Char} :
    c ∈ cleaned text ↔ c ∈ text := by
  refine ⟨mem_of_mem_cleaned, fun hm => ?_⟩
  have hkept : isDropped c = false := by
    rw [Bool.eq_false_iff]
    exact fun hd => absurd (isLeading_of_isDropped hd) (by simp [h])
  refine List.mem_filter.mpr ⟨?_, by simp [hkept]⟩
  rw [← List.takeWhile_append_dropWhile (p := isLeading) (l := text)] at hm
  rcases List.mem_append.mp hm with hm | hm
  · exact absurd (List.mem_takeWhile_imp hm) (by simp [h])
  · exact hm

theorem mem_dropEndSlashes_iff {c : Char} (h : c ≠ '/') {url : String} :
    c ∈ (dropEndSlashes url).toList ↔ c ∈ url.toList := by
  refine ⟨mem_of_mem_dropEndSlashes, fun hm => ?_⟩
  obtain ⟨slashes, hurl, hslash⟩ := dropEndWhile_append (· == '/') url.toList
  rw [hurl] at hm
  rcases List.mem_append.mp hm with hm | hm
  · simpa [dropEndSlashes, dropEndChar] using hm
  · exact absurd (eq_of_beq (hslash c hm)) h

variable {left text : List Char}

/-- What follows an authority goes on with its last part. -/
theorem rest_prolonged (scheme authority : List Char) (h : IsPath text) :
    (⟨scheme, authority, pathOf (left ++ text), queryOf (left ++ text),
        fragmentOf (left ++ text)⟩ : Parts) =
      Parts.prolonged ⟨scheme, authority, pathOf left, queryOf left, fragmentOf left⟩ text
        (lastPart left) := by
  unfold lastPart pathOf queryOf fragmentOf
  by_cases hfragment : '#' ∈ left
  · obtain ⟨front, fragment, hleft, hall⟩ := splitAtChar_append_right hfragment
    rw [if_pos hfragment, hall, hleft]
    rfl
  · have hleft := splitAtChar_of_not_mem hfragment
    have hall : splitAtChar '#' (left ++ text) = (left ++ text, none) :=
      splitAtChar_of_not_mem (by simp [hfragment, h.no_fragment])
    rw [if_neg hfragment, hall, hleft]
    by_cases hquery : '?' ∈ left
    · obtain ⟨path, query, hpath, hbehind⟩ := splitAtChar_append_right hquery
      rw [if_pos hquery, hbehind, hpath]
      rfl
    · have hpath : splitAtChar '?' (left ++ text) = (left ++ text, none) :=
        splitAtChar_of_not_mem (by simp [hquery, h.no_query])
      rw [if_neg hquery, hpath, splitAtChar_of_not_mem hquery]
      rfl

end EndpointLemmas

open EndpointLemmas

namespace Absolute

variable {url scheme authority left path : List Char}

/-- A query and a fragment stand behind the authority. -/
theorem lastPart_eq (h : Absolute url scheme authority left) : lastPart url = lastPart left := by
  have hmem : ∀ c, isLeading c = false → isSchemeChar c = false → endsAuthority c = true →
      c ≠ ':' → c ≠ '/' → (c ∈ url ↔ c ∈ left) := by
    intro c hlead hscheme hends hcolon hslash
    have hauthority : c ∉ authority := fun hm => by
      rw [h.authority_plain c hm] at hends
      cases hends
    rw [← mem_cleaned_iff hlead, h.cleaned_eq]
    simp [not_mem_scheme hscheme h.scheme_ok, hauthority, hcolon, hslash]
  unfold lastPart
  simp only [hmem '#' (by decide) (by decide) (by decide) (by decide) (by decide),
    hmem '?' (by decide) (by decide) (by decide) (by decide) (by decide)]

/-- A URL with a path of the service at its end goes on with its last part. -/
theorem split_behind (h : Absolute url scheme authority left) (hp : IsEndpoint path) :
    split (url ++ path) = .ok (Parts.prolonged
      ⟨lower scheme, authority, pathOf left, queryOf left, fragmentOf left⟩ path
        (lastPart url)) := by
  have hkept : (path.filter fun c => !isDropped c) = path :=
    List.filter_eq_self.mpr fun c hc => by simp [hp.kept c hc]
  have hpast : PastAuthority path := by
    intro c hc
    rw [hkept, hp.rooted] at hc
    exact .inl (Option.some.inj hc).symm
  rw [(h.append hpast).split_eq, hkept, h.lastPart_eq, rest_prolonged _ _ hp.is_path]

end Absolute

/-- Under an accepted base URL, a path of the service keeps scheme and authority of the base and is
put at the end of its last part. So the endpoint is addressed, with the path behind that of the base
and nothing else, if, and only if, the base has neither a query nor a fragment. -/
theorem endpoint_addressed_iff {base normal : String} (h : validateBase base = .ok normal)
    {path : List Char} (hpath : IsEndpoint path) :
    ∃ whole home sent, split base.toList = .ok whole ∧ split normal.toList = .ok home ∧
      split (normal.toList ++ path) = .ok sent ∧
      home.scheme = whole.scheme ∧ home.authority = whole.authority ∧
      sent = home.prolonged path (lastPart base.toList) ∧
      (sent = ⟨home.scheme, home.authority, home.path ++ path, [], []⟩ ↔
        '?' ∉ base.toList ∧ '#' ∉ base.toList) := by
  obtain ⟨whole, scheme, left, hwhole, hscheme, habs⟩ := absolute_of_validateBase h
  have hlast : lastPart normal.toList = lastPart base.toList := by
    rw [(validateBase_eq_ok h).1]
    unfold lastPart
    simp only [mem_dropEndSlashes_iff (show '#' ≠ '/' by decide),
      mem_dropEndSlashes_iff (show '?' ≠ '/' by decide)]
  refine ⟨whole, _, _, hwhole, habs.split_eq, habs.split_behind hpath, hscheme.symm, rfl,
    by rw [hlast], ?_⟩
  rw [← lastPart_eq_path_iff, ← hlast]
  constructor
  · intro hsent
    have hne : path ≠ [] := fun hnil => by simpa [hnil] using hpath.rooted
    exact prolonged_path hne (congrArg Parts.path hsent)
  · intro hpart
    have hplain : IsPath left := by
      rw [habs.lastPart_eq] at hpart
      exact ⟨(lastPart_eq_path_iff.mp hpart).1, (lastPart_eq_path_iff.mp hpart).2⟩
    rw [hpart, hplain.queryOf_eq, hplain.fragmentOf_eq]
    rfl

theorem isEndpoint_users : IsEndpoint "/rest/1.0/user".toList := by
  have hkept : ("/rest/1.0/user".toList.all fun c => !isDropped c) = true := by decide +kernel
  exact ⟨by decide +kernel, ⟨by decide +kernel, by decide +kernel⟩,
    fun c hc => by simpa using List.all_eq_true.mp hkept c hc⟩

/-- Behind a base URL with a path and a slash at its end, the endpoint for users is addressed. -/
theorem endpoint_addressed_iff_users :
    validateBase "https://proxy.example/rd/" = .ok "https://proxy.example/rd" ∧
      IsEndpoint "/rest/1.0/user".toList ∧
      split "https://proxy.example/rd/rest/1.0/user".toList = .ok ⟨"https".toList,
        "proxy.example".toList, "/rd".toList ++ "/rest/1.0/user".toList, [], []⟩ := by
  have hbase : validateBase "https://proxy.example/rd/" = .ok "https://proxy.example/rd" := by
    decide +kernel
  refine ⟨hbase, isEndpoint_users, ?_⟩
  obtain ⟨whole, home, sent, _, hhome, hsent, _, _, _, hiff⟩ :=
    endpoint_addressed_iff hbase isEndpoint_users
  have hparts : split "https://proxy.example/rd".toList =
      .ok ⟨"https".toList, "proxy.example".toList, "/rd".toList, [], []⟩ := by decide +kernel
  cases hparts.symm.trans hhome
  rw [← hiff.mpr ⟨by decide +kernel, by decide +kernel⟩, ← hsent]
  rfl

/-- A base URL with a query is accepted, and takes the endpoint into its query. -/
theorem query_takes_endpoint_in :
    validateBase "https://example.com?x=1" = .ok "https://example.com?x=1" ∧
      IsEndpoint "/rest/1.0/user".toList ∧
      split ("https://example.com?x=1".toList ++ "/rest/1.0/user".toList) = .ok ⟨"https".toList,
        "example.com".toList, [], "x=1/rest/1.0/user".toList, []⟩ :=
  ⟨by decide +kernel, isEndpoint_users, by decide +kernel⟩

end MagnetStream.Url
