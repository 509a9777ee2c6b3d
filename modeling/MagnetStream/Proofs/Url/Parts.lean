import MagnetStream.Proofs.Url.Origin

/-!
# The parts of a URL under a base

A base URL without a question mark and a number sign is followed by paths, queries and fragments as
they are: the path of the base goes before the path of what is put behind it, and query and fragment
are those of what is put behind it (`split_under_base`). So a URL that is moved under such a base
keeps everything but its scheme and authority (`moved_url_keeps_path_and_query`).
-/

namespace MagnetStream.Url

open Text

/-- A text without a question mark and a number sign has neither query nor fragment. -/
structure IsPath (text : List Char) : Prop where
  no_query : '?' ∉ text
  no_fragment : '#' ∉ text

namespace IsPath

variable {front : List Char}

theorem pathOf_append (h : IsPath front) (rest : List Char) :
    pathOf (front ++ rest) = front ++ pathOf rest := by
  rw [pathOf, splitAtChar_append_left h.no_fragment, splitAtChar_append_left h.no_query, pathOf]

theorem queryOf_append (h : IsPath front) (rest : List Char) :
    queryOf (front ++ rest) = queryOf rest := by
  rw [queryOf, splitAtChar_append_left h.no_fragment, splitAtChar_append_left h.no_query, queryOf]

theorem fragmentOf_append (h : IsPath front) (rest : List Char) :
    fragmentOf (front ++ rest) = fragmentOf rest := by
  rw [fragmentOf, splitAtChar_append_left h.no_fragment, fragmentOf]

theorem pathOf_eq (h : IsPath front) : pathOf front = front := by
  have hall := h.pathOf_append []
  rwa [List.append_nil, show pathOf [] = [] from rfl, List.append_nil] at hall

theorem queryOf_eq (h : IsPath front) : queryOf front = [] := by
  have hall := h.queryOf_append []
  rwa [List.append_nil] at hall

theorem fragmentOf_eq (h : IsPath front) : fragmentOf front = [] := by
  have hall := h.fragmentOf_append []
  rwa [List.append_nil] at hall

end IsPath

/-- A path holds neither a question mark nor a number sign. -/
theorem mem_of_mem_pathOf {c : Char} {rest : List Char} (h : c ∈ pathOf rest) :
    c ∈ rest ∧ c ≠ '?' ∧ c ≠ '#' := by
  obtain ⟨hfront, hquery⟩ := mem_of_mem_splitAtChar h
  obtain ⟨hrest, hfragment⟩ := mem_of_mem_splitAtChar hfront
  exact ⟨hrest, hquery, hfragment⟩

/-- What counts of a text is found in it. -/
theorem mem_of_mem_cleaned {c : Char} {text : List Char} (h : c ∈ cleaned text) : c ∈ text :=
  (List.dropWhile_sublist _).mem (List.mem_of_mem_filter h)

theorem mem_of_mem_dropEndSlashes {c : Char} {url : String} (h : c ∈ (dropEndSlashes url).toList) :
    c ∈ url.toList := by
  obtain ⟨slashes, hurl, _⟩ := dropEndWhile_append (· == '/') url.toList
  rw [hurl]
  exact List.mem_append_left _ (by simpa [dropEndSlashes, dropEndChar] using h)

/-- Behind an accepted base URL without query and fragment, a text that does not go on with the
authority brings its own path, behind that of the base, and its own query and fragment. -/
theorem split_under_base {base normal : String} (h : validateBase base = .ok normal)
    (hbase : IsPath base.toList) :
    ∃ whole home, split base.toList = .ok whole ∧ split normal.toList = .ok home ∧
      home.scheme = whole.scheme ∧ home.authority = whole.authority ∧
      home.query = [] ∧ home.fragment = [] ∧
      ∀ text rest : List Char, (text.filter fun c => !isDropped c) = rest →
        StartsWith endsAuthority rest →
          split (normal.toList ++ text) = .ok ⟨home.scheme, home.authority,
            home.path ++ pathOf rest, queryOf rest, fragmentOf rest⟩ := by
  obtain ⟨whole, scheme, left, hwhole, hlower, habs⟩ := absolute_of_validateBase h
  have hleft : IsPath left := by
    have hmem : ∀ c ∈ left, c ∈ base.toList := by
      intro c hc
      have hcleaned : c ∈ cleaned normal.toList := by
        rw [habs.cleaned_eq]
        simp [hc]
      have hnormal := mem_of_mem_cleaned hcleaned
      rw [(validateBase_eq_ok h).1] at hnormal
      exact mem_of_mem_dropEndSlashes hnormal
    exact ⟨fun hc => hbase.no_query (hmem _ hc), fun hc => hbase.no_fragment (hmem _ hc)⟩
  refine ⟨whole, _, hwhole, habs.split_eq, hlower.symm, rfl, hleft.queryOf_eq, hleft.fragmentOf_eq,
    ?_⟩
  rintro text rest rfl hpast
  rw [(habs.append (pastAuthority_iff.mpr hpast)).split_eq, hleft.pathOf_append,
    hleft.queryOf_append, hleft.fragmentOf_append, hleft.pathOf_eq]

/-- A URL that is moved under a base URL without query and fragment is cut into the scheme and the
authority of the base, the path of the base followed by its own path, and its own query and
fragment. -/
theorem moved_url_keeps_path_and_query {base normal url moved : String}
    (hbase : validateBase base = .ok normal) (hquery : '?' ∉ base.toList)
    (hfragment : '#' ∉ base.toList) (h : moveUnder base url = .ok moved) :
    ∃ whole home parts, split base.toList = .ok whole ∧
      split (dropEndSlashes base).toList = .ok home ∧ split url.toList = .ok parts ∧
      split moved.toList = .ok ⟨whole.scheme, whole.authority, home.path ++ parts.path, parts.query,
        parts.fragment⟩ := by
  obtain ⟨whole, home, hwhole, hhome, hscheme, hauthority, _, _, hunder⟩ :=
    split_under_base hbase ⟨hquery, hfragment⟩
  obtain ⟨scheme, authority, rest, text, habs, rfl, hrest⟩ := moveUnder_eq_ok h
  have hnormal := (validateBase_eq_ok hbase).1
  refine ⟨whole, home, _, hwhole, hnormal ▸ hhome, habs.split_eq, ?_⟩
  rw [String.toList_append, String.toList_ofList, ← hnormal, hunder text rest hrest habs.rest_past,
    hscheme, hauthority]

/-- A URL with a port, and a scheme in capitals, under a base with a path and a slash at its end. -/
theorem moved_url_keeps_path_and_query_example :
    validateBase "https://proxy.example/rd/" = .ok "https://proxy.example/rd" ∧
      moveUnder "https://proxy.example/rd/" "HTTP://internal.example:80/x?y=1#z" =
        .ok "https://proxy.example/rd/x?y=1#z" ∧
      ∃ whole home parts, split "https://proxy.example/rd/".toList = .ok whole ∧
        split (dropEndSlashes "https://proxy.example/rd/").toList = .ok home ∧
        split "HTTP://internal.example:80/x?y=1#z".toList = .ok parts ∧
        split "https://proxy.example/rd/x?y=1#z".toList = .ok ⟨whole.scheme, whole.authority,
          home.path ++ parts.path, parts.query, parts.fragment⟩ := by
  have hbase : validateBase "https://proxy.example/rd/" = .ok "https://proxy.example/rd" := by
    decide +kernel
  have hmoved : moveUnder "https://proxy.example/rd/" "HTTP://internal.example:80/x?y=1#z" =
      .ok "https://proxy.example/rd/x?y=1#z" := by decide +kernel
  exact ⟨hbase, hmoved,
    moved_url_keeps_path_and_query hbase (by decide +kernel) (by decide +kernel) hmoved⟩

end MagnetStream.Url
