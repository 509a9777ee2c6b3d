import MagnetStream.Proofs.Text.Cutting
import MagnetStream.Url.Base

/-!
# Where a URL leads

`Absolute url scheme authority rest` writes out a URL with scheme and authority, once everything is
dropped that does not count. The cut of a URL and this form say the same (`Absolute.of_split`,
`Absolute.split_eq`), and a text that does not go on with the authority (`PastAuthority`) can be put
behind it without moving the cut (`Absolute.append`). So a base URL keeps its scheme and authority
whatever path is put behind it (`split_behind_base`), and a URL moved under a base is the base with
such a text behind it (`moveUnder_behind`).
-/

namespace MagnetStream.Url

open Text

/-- What follows an authority: a text that is empty or starts with a slash, a question mark or a
number sign, tabs and line ends left out of account. -/
def PastAuthority (text : List Char) : Prop :=
  ∀ c, (text.filter fun c => !isDropped c).head? = some c → c = '/' ∨ c = '?' ∨ c = '#'

theorem pastAuthority_iff {text : List Char} :
    PastAuthority text ↔ StartsWith endsAuthority (text.filter fun c => !isDropped c) := by
  simp [PastAuthority, StartsWith, endsAuthority, or_assoc]

theorem pastAuthority_slash (text : List Char) : PastAuthority ('/' :: text) := by
  intro c hc
  rw [List.filter_cons_of_pos (by decide)] at hc
  exact .inl (by simpa using hc.symm)

def pathOf (rest : List Char) : List Char := (splitAtChar '?' (splitAtChar '#' rest).1).1

def queryOf (rest : List Char) : List Char := (splitAtChar '?' (splitAtChar '#' rest).1).2.getD []

def fragmentOf (rest : List Char) : List Char := (splitAtChar '#' rest).2.getD []

/-- A URL with scheme and authority, once everything is dropped that does not count. -/
structure Absolute (url scheme authority rest : List Char) : Prop where
  scheme_ok : isScheme scheme = true
  cleaned_eq : cleaned url = scheme ++ ':' :: '/' :: '/' :: (authority ++ rest)
  authority_plain : ∀ c ∈ authority, endsAuthority c = false
  rest_past : StartsWith endsAuthority rest
  brackets_ok : checkBrackets authority = .ok ()
  forms_ok : checkForms authority = .ok ()

/-- Only letters, digits and a few marks stand in a scheme. -/
theorem not_mem_scheme {c : Char} {scheme : List Char} (hc : isSchemeChar c = false)
    (h : isScheme scheme = true) : c ∉ scheme := by
  intro hm
  cases scheme with
  | nil => cases hm
  | cons first rest =>
    have hall := (Bool.and_eq_true_iff.mp h).2
    have hchar := List.all_eq_true.mp hall _ hm
    rw [hc] at hchar
    cases hchar

/-- Either a scheme and its colon are cut off, or nothing is. -/
theorem takeScheme_cases {url scheme rest : List Char} (h : takeScheme url = (scheme, rest)) :
    (scheme = [] ∧ rest = url) ∨
      ∃ written, isScheme written = true ∧ scheme = lower written ∧
        url = written ++ ':' :: rest := by
  unfold takeScheme at h
  split at h
  · next written after hsplit =>
    split at h
    · next hw =>
      cases h
      exact .inr ⟨written, hw, rfl, splitAtChar_join hsplit⟩
    · cases h
      exact .inl ⟨rfl, rfl⟩
  · cases h
    exact .inl ⟨rfl, rfl⟩

theorem takeScheme_append {scheme : List Char} (h : isScheme scheme = true) (rest : List Char) :
    takeScheme (scheme ++ ':' :: rest) = (lower scheme, rest) := by
  have hcolon : ':' ∉ scheme := not_mem_scheme (by decide) h
  simp [takeScheme, splitAtChar_append hcolon, h]

theorem takeAuthority_ne_nil {url authority rest : List Char}
    (h : takeAuthority url = (authority, rest)) (ha : authority ≠ []) :
    url = '/' :: '/' :: (authority ++ rest) ∧ (∀ c ∈ authority, endsAuthority c = false) ∧
      StartsWith endsAuthority rest := by
  unfold takeAuthority at h
  split at h
  · exact ⟨by rw [splitBefore_join h], splitBefore_front h, splitBefore_back h⟩
  · cases h
    exact absurd rfl ha

theorem isLeading_of_isLetter {c : Char} (h : isLetter c = true) : isLeading c = false := by
  simp only [isLetter, Bool.or_eq_true, Bool.and_eq_true, decide_eq_true_eq, Char.le_def,
    UInt32.le_iff_toNat_le] at h
  have hn : c.toNat = c.val.toNat := rfl
  simp only [isLeading, decide_eq_false_iff_not, hn]
  rcases h with h | h
  · exact fun hle => absurd (Nat.le_trans h.1 hle) (by decide)
  · exact fun hle => absurd (Nat.le_trans h.1 hle) (by decide)

theorem cleaned_append {front : List Char} (h : ∃ c ∈ front, isLeading c = false)
    (back : List Char) :
    cleaned (front ++ back) = cleaned front ++ back.filter fun c => !isDropped c := by
  obtain ⟨c, hc, hlead⟩ := h
  have hne : (front.dropWhile isLeading).isEmpty = false := by
    rw [List.isEmpty_eq_false_iff]
    intro hnil
    have := List.dropWhile_eq_nil_iff.mp hnil c hc
    simp [hlead] at this
  unfold cleaned
  rw [List.dropWhile_append, hne]
  simp

/-- A final run of slashes lies wholly behind a part that does not end in one. -/
theorem behind_of_append_eq {front slashes part rest : List Char}
    (h : front ++ slashes = part ++ rest) (hslash : ∀ c ∈ slashes, c = '/')
    (hlast : ∀ c, part.getLast? = some c → c ≠ '/') :
    ∃ left, front = part ++ left ∧ rest = left ++ slashes := by
  rcases List.append_eq_append_iff.mp h with ⟨extra, hpart, hextra⟩ | ⟨left, hfront, hrest⟩
  · cases extra using List.reverseRecOn with
    | nil => exact ⟨[], by simpa using hpart.symm, hextra.symm⟩
    | append_singleton others c _ =>
      refine absurd (hslash c (by simp [hextra])) (hlast c ?_)
      rw [hpart, ← List.append_assoc]
      simp
  · exact ⟨left, hfront, hrest⟩

namespace Absolute

variable {url scheme authority rest : List Char}

/-- A cut with scheme and authority comes from a URL of this form. -/
theorem of_split {parts : Parts} (h : split url = .ok parts) (hs : parts.scheme ≠ [])
    (ha : parts.authority ≠ []) :
    ∃ scheme rest, Absolute url scheme parts.authority rest ∧ parts.scheme = lower scheme := by
  unfold split at h
  cases hscheme : takeScheme (cleaned url) with | mk scheme afterScheme =>
  cases hauthority : takeAuthority afterScheme with | mk authority rest =>
  rw [hscheme] at h
  simp only [hauthority] at h
  cases hb : checkBrackets authority with
  | error fault =>
    rw [hb] at h
    cases h
  | ok _ =>
    cases hf : checkForms authority with
    | error fault =>
      rw [hb, hf] at h
      cases h
    | ok _ =>
      rw [hb, hf] at h
      cases h
      obtain ⟨written, hw, rfl, hclean⟩ :=
        (takeScheme_cases hscheme).resolve_left fun hnone => hs hnone.1
      obtain ⟨rfl, hplain, hpast⟩ := takeAuthority_ne_nil hauthority ha
      exact ⟨written, rest, ⟨hw, hclean, hplain, hpast, hb, hf⟩, rfl⟩

/-- A URL of this form is cut at its scheme and its authority, and the rest behind them. -/
theorem split_eq (h : Absolute url scheme authority rest) :
    split url = .ok ⟨lower scheme, authority, pathOf rest, queryOf rest, fragmentOf rest⟩ := by
  have hauthority : takeAuthority ('/' :: '/' :: (authority ++ rest)) = (authority, rest) :=
    splitBefore_append h.authority_plain h.rest_past
  unfold split
  rw [h.cleaned_eq, takeScheme_append h.scheme_ok]
  simp only [hauthority, h.brackets_ok, h.forms_ok]
  rfl

/-- The first letter of the scheme is a character of the URL that is never skipped. -/
theorem exists_mem (h : Absolute url scheme authority rest) :
    ∃ c ∈ url, isLeading c = false ∧ c ≠ '/' := by
  cases hs : scheme with
  | nil => exact absurd h.scheme_ok (by simp [hs, isScheme])
  | cons first others =>
    have hok := h.scheme_ok
    rw [hs] at hok
    have hletter : isLetter first = true := (Bool.and_eq_true_iff.mp hok).1
    have hm : first ∈ cleaned url := by
      rw [h.cleaned_eq, hs]
      exact List.mem_append_left _ List.mem_cons_self
    refine ⟨first, (List.dropWhile_sublist _).mem (List.mem_of_mem_filter hm),
      isLeading_of_isLetter hletter, ?_⟩
    rintro rfl
    exact absurd hletter (by decide)

/-- Slashes at the end lie behind the authority, which has none, and can be taken away. -/
theorem bare {front slashes : List Char} (h : Absolute (front ++ slashes) scheme authority rest)
    (ha : authority ≠ []) (hslash : ∀ c ∈ slashes, c = '/') :
    ∃ left, Absolute front scheme authority left := by
  obtain ⟨c, hc, hlead, hne⟩ := h.exists_mem
  have hfront : ∃ c ∈ front, isLeading c = false := by
    rcases List.mem_append.mp hc with hc | hc
    · exact ⟨c, hc, hlead⟩
    · exact absurd (hslash c hc) hne
  have hkeep : slashes.filter (fun c => !isDropped c) = slashes := by
    refine List.filter_eq_self.mpr fun c hc => ?_
    rw [hslash c hc]
    decide
  have heq := h.cleaned_eq
  rw [cleaned_append hfront, hkeep] at heq
  have hlast : ∀ c, (scheme ++ ':' :: '/' :: '/' :: authority).getLast? = some c → c ≠ '/' := by
    intro c hc
    have hsome : authority.getLast? = some (authority.getLast ha) :=
      List.getLast?_eq_getLast_of_ne_nil ha
    have hm : c ∈ authority := by
      simp [List.getLast?_cons, hsome] at hc
      exact hc ▸ List.getLast_mem ha
    rintro rfl
    exact absurd (h.authority_plain _ hm) (by decide)
  obtain ⟨left, hleft, rfl⟩ := behind_of_append_eq (by simpa using heq) hslash hlast
  refine ⟨left, h.scheme_ok, by simpa using hleft, h.authority_plain, ?_, h.brackets_ok,
    h.forms_ok⟩
  cases left with
  | nil => exact fun c hc => nomatch hc
  | cons c others => exact startsWith_cons.mpr (startsWith_cons.mp h.rest_past)

/-- What counts of a text that does not go on with the authority is put behind all the rest. -/
theorem append (h : Absolute url scheme authority rest) {text : List Char}
    (hp : PastAuthority text) :
    Absolute (url ++ text) scheme authority (rest ++ text.filter fun c => !isDropped c) := by
  obtain ⟨c, hc, hlead, _⟩ := h.exists_mem
  refine ⟨h.scheme_ok, ?_, h.authority_plain, ?_, h.brackets_ok, h.forms_ok⟩
  · rw [cleaned_append ⟨c, hc, hlead⟩, h.cleaned_eq]
    simp
  · cases hrest : rest with
    | nil => exact pastAuthority_iff.mp hp
    | cons c others =>
      have hpast := h.rest_past
      rw [hrest] at hpast
      exact startsWith_cons.mpr (startsWith_cons.mp hpast)

end Absolute

/-! ## Base URLs -/

theorem dropEndSlashes_idem (url : String) :
    dropEndSlashes (dropEndSlashes url) = dropEndSlashes url := by
  simp [dropEndSlashes, dropEndChar, dropEndWhile_idem]

theorem getLast?_dropEndSlashes (url : String) :
    (dropEndSlashes url).toList.getLast? ≠ some '/' := by
  intro h
  rw [dropEndSlashes, dropEndChar, String.toList_ofList] at h
  exact absurd (of_getLast?_dropEndWhile h) (by decide)

theorem validateBase_eq_ok {base normal : String} (h : validateBase base = .ok normal) :
    normal = dropEndSlashes base ∧ ∃ parts, split base.toList = .ok parts ∧
      isWebScheme parts.scheme = true ∧ parts.authority ≠ [] := by
  unfold validateBase at h
  split at h
  · cases h
  · split at h
    · cases h
    · next parts hsplit =>
      split at h
      · next hparts =>
        cases h
        obtain ⟨hweb, hauth⟩ := Bool.and_eq_true_iff.mp hparts
        exact ⟨rfl, parts, hsplit, hweb, by simpa using hauth⟩
      · cases h

theorem dropEndSlashes_of_validateBase {base normal : String}
    (h : validateBase base = .ok normal) : dropEndSlashes normal = normal := by
  rw [(validateBase_eq_ok h).1, dropEndSlashes_idem]

/-- An accepted base URL is absolute, with its slashes at the end and without them. -/
theorem absolute_of_validateBase {base normal : String} (h : validateBase base = .ok normal) :
    ∃ parts scheme left, split base.toList = .ok parts ∧ parts.scheme = lower scheme ∧
      Absolute normal.toList scheme parts.authority left := by
  obtain ⟨rfl, parts, hsplit, hweb, hauth⟩ := validateBase_eq_ok h
  have hscheme : parts.scheme ≠ [] := by
    rintro hnil
    rw [hnil] at hweb
    exact absurd hweb (by decide)
  obtain ⟨scheme, rest, habs, hlower⟩ := Absolute.of_split hsplit hscheme hauth
  obtain ⟨slashes, hbase, hslash⟩ := dropEndWhile_append (· == '/') base.toList
  rw [hbase] at habs
  obtain ⟨left, hbare⟩ := habs.bare hauth fun c hc => eq_of_beq (hslash c hc)
  refine ⟨parts, scheme, left, hsplit, hlower, ?_⟩
  simpa [dropEndSlashes, dropEndChar] using hbare

/-- Whatever is put behind an accepted base URL without going on with its authority, the URL has the
scheme and the authority of the base. -/
theorem split_behind_base {base normal : String} (h : validateBase base = .ok normal) :
    ∃ parts, split base.toList = .ok parts ∧ ∀ text : String, PastAuthority text.toList →
      ∃ moved, split (normal ++ text).toList = .ok moved ∧ moved.scheme = parts.scheme ∧
        moved.authority = parts.authority := by
  obtain ⟨parts, scheme, left, hsplit, hlower, habs⟩ := absolute_of_validateBase h
  refine ⟨parts, hsplit, fun text hpast => ?_⟩
  rw [String.toList_append]
  exact ⟨_, (habs.append hpast).split_eq, hlower.symm, rfl⟩

/-- An accepted base URL is accepted again as it is. -/
theorem validateBase_again {base normal : String} (h : validateBase base = .ok normal) :
    validateBase normal = .ok normal := by
  obtain ⟨hnormal, parts, hsplit, hweb, hauth⟩ := validateBase_eq_ok h
  obtain ⟨parts', hsplit', hbehind⟩ := split_behind_base h
  obtain rfl : parts = parts' := Except.ok.inj (hsplit.symm.trans hsplit')
  obtain ⟨moved, hmoved, hscheme, hmovedAuth⟩ := hbehind "" fun _ hc => nomatch hc
  rw [String.append_empty] at hmoved
  have hne : normal.isEmpty = false := by
    rw [Bool.eq_false_iff]
    intro hempty
    -- Nothing is split into nothing, which is no scheme of the web.
    have hnone : split [] = .ok moved := by rwa [String.isEmpty_iff.mp hempty] at hmoved
    cases hnone
    rw [← hscheme] at hweb
    exact absurd hweb (by decide)
  rw [validateBase, hne, if_neg Bool.false_ne_true, hmoved]
  dsimp only
  rw [hscheme, hmovedAuth, hweb, Bool.true_and, if_pos (by simpa using hauth), hnormal,
    dropEndSlashes_idem]

/-! ## Moved URLs -/

/-- Only capital letters are changed, and they become letters. -/
theorem lowerChar_cases (c : Char) :
    lowerChar c = c ∨ 65 ≤ c.toNat ∧ 97 ≤ (lowerChar c).toNat := by
  unfold lowerChar
  split
  · next hc =>
    have hlow : 65 ≤ c.toNat := UInt32.le_iff_toNat_le.mp (Char.le_def.mp hc.1)
    have hhigh : c.toNat ≤ 90 := UInt32.le_iff_toNat_le.mp (Char.le_def.mp hc.2)
    have hnat : (Char.ofNat (c.toNat + 32)).toNat = c.toNat + 32 := by
      rw [Char.ofNat, dif_pos (.inl (by omega))]
      rfl
    exact .inr ⟨hlow, by omega⟩
  · exact .inl rfl

theorem isLeading_lowerChar (c : Char) : isLeading (lowerChar c) = isLeading c := by
  rcases lowerChar_cases c with h | ⟨hlow, hhigh⟩
  · rw [h]
  · simp only [isLeading, decide_eq_decide]
    omega

theorem isLeading_of_isDropped {c : Char} (h : isDropped c = true) : isLeading c = true := by
  simp only [isDropped, Bool.or_eq_true, beq_iff_eq] at h
  rcases h with (rfl | rfl) | rfl <;> decide

theorem isDropped_lowerChar (c : Char) : isDropped (lowerChar c) = isDropped c := by
  rcases lowerChar_cases c with h | ⟨hlow, hhigh⟩
  · rw [h]
  · have hnone : ∀ x : Char, 65 ≤ x.toNat → isDropped x = false := by
      intro x hx
      rw [Bool.eq_false_iff]
      intro hd
      have hlead := isLeading_of_isDropped hd
      simp only [isLeading, decide_eq_true_eq] at hlead
      omega
    rw [hnone c hlow, hnone _ (by omega)]

theorem lowerChar_idem (c : Char) : lowerChar (lowerChar c) = lowerChar c := by
  rcases lowerChar_cases c with h | ⟨_, hhigh⟩
  · rw [h, h]
  · conv_lhs => unfold lowerChar
    refine if_neg fun hc => ?_
    have hle : (lowerChar c).toNat ≤ 90 := UInt32.le_iff_toNat_le.mp (Char.le_def.mp hc.2)
    omega

theorem lower_idem (text : List Char) : lower (lower text) = lower text := by
  simp [lower, lowerChar_idem]

/-- A text whose small letters are those of what counts of a URL counts as it is. -/
theorem cleaned_of_lower_eq {text url written rest : List Char} (h : lower text = lower written)
    (hc : cleaned url = written ++ rest)
    (hl : ∃ c others, written = c :: others ∧ isLetter c = true) :
    cleaned text = text ∧ ∃ c ∈ text, isLeading c = false := by
  have hkeep : text.filter (fun c => !isDropped c) = text := by
    refine List.filter_eq_self.mpr fun c hct => ?_
    have hm : lowerChar c ∈ lower written := h ▸ List.mem_map_of_mem hct
    obtain ⟨d, hd, hdc⟩ := List.mem_map.mp hm
    have hdm : d ∈ cleaned url := by
      rw [hc]
      exact List.mem_append_left _ hd
    rw [← isDropped_lowerChar, ← hdc, isDropped_lowerChar]
    exact (List.mem_filter.mp hdm).2
  obtain ⟨d, others, rfl, hletter⟩ := hl
  cases text with
  | nil => simp [lower] at h
  | cons c after =>
    simp only [lower, List.map_cons, List.cons.injEq] at h
    have hlead : isLeading c = false := by
      rw [← isLeading_lowerChar, h.1, isLeading_lowerChar]
      exact isLeading_of_isLetter hletter
    refine ⟨?_, c, List.mem_cons_self, hlead⟩
    rw [cleaned, List.dropWhile_cons_of_neg (by simp [hlead]), hkeep]

/-- If scheme and authority of a URL stand at its start as they are, what is left of it goes on
behind them, once everything is dropped that does not count. -/
theorem rest_of_lower_eq {url scheme rest : List Char} {parts : Parts}
    (h : Absolute url scheme parts.authority rest) (hlower : parts.scheme = lower scheme)
    (hfront : lower (url.take (origin parts).length) = lower (origin parts)) :
    ((url.drop (origin parts).length).filter fun c => !isDropped c) = rest := by
  have hwritten : lower (origin parts) =
      lower (scheme ++ ':' :: '/' :: '/' :: parts.authority) := by
    simp only [origin, hlower, lower_append, lower_idem]
    simp [lower]
  have hclean : cleaned url = (scheme ++ ':' :: '/' :: '/' :: parts.authority) ++ rest := by
    simp [h.cleaned_eq]
  have hletter : ∃ c others, scheme ++ ':' :: '/' :: '/' :: parts.authority = c :: others ∧
      isLetter c = true := by
    have hok := h.scheme_ok
    cases hsc : scheme with
    | nil => simp [hsc, isScheme] at hok
    | cons c others =>
      rw [hsc] at hok
      exact ⟨c, _, rfl, (Bool.and_eq_true_iff.mp hok).1⟩
  -- The front of the URL counts as it is, so it is as long as the scheme and authority found in it.
  have heq := hfront.trans hwritten
  obtain ⟨hself, hnot⟩ := cleaned_of_lower_eq heq hclean hletter
  have hcut := hclean
  rw [← List.take_append_drop (origin parts).length url, cleaned_append hnot, hself] at hcut
  have hlen := congrArg List.length heq
  simp only [length_lower] at hlen
  exact (List.append_inj hcut hlen).2

/-- A URL is moved only if it is absolute, and what follows its authority, with everything that does
not count, is put behind the base. -/
theorem moveUnder_eq_ok {base url moved : String} (h : moveUnder base url = .ok moved) :
    ∃ scheme authority rest text, Absolute url.toList scheme authority rest ∧
      moved = dropEndSlashes base ++ String.ofList text ∧
        (text.filter fun c => !isDropped c) = rest := by
  unfold moveUnder at h
  split at h
  · cases h
  · next parts hsplit =>
    split at h
    · cases h
    · next hparts =>
      simp only [Bool.or_eq_true, List.isEmpty_iff, not_or] at hparts
      dsimp only at h
      split at h
      · next hfront =>
        cases h
        obtain ⟨scheme, rest, habs, hlower⟩ := Absolute.of_split hsplit hparts.1 hparts.2
        exact ⟨scheme, parts.authority, rest, _, habs, rfl,
          rest_of_lower_eq habs hlower (eq_of_beq hfront)⟩
      · cases h

/-- A URL moved under a base is the base with a text behind it that does not go on with the
authority. -/
theorem moveUnder_behind {base url moved : String} (h : moveUnder base url = .ok moved) :
    ∃ text : String, moved = dropEndSlashes base ++ text ∧ PastAuthority text.toList := by
  obtain ⟨scheme, authority, rest, text, habs, hmoved, hrest⟩ := moveUnder_eq_ok h
  refine ⟨_, hmoved, ?_⟩
  rw [String.toList_ofList, pastAuthority_iff, hrest]
  exact habs.rest_past

end MagnetStream.Url
