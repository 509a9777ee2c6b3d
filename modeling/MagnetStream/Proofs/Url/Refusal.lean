import MagnetStream.Proofs.Url.Origin

/-!
# URLs that are not cut

`Writes url authority` finds the authority that a URL writes out, and `Refused` says what is wrong
with one. A URL is not cut just when it writes out an authority that is refused (`split_fails_iff`).
-/

namespace MagnetStream.Url

open Text

/-- A URL writes out an authority: once everything is dropped that does not count, it stands behind
two slashes, with nothing or a scheme in front of them, and ends where a path, a query or a fragment
begins. -/
def Writes (url authority : List Char) : Prop :=
  ∃ front rest, (front = [] ∨ ∃ scheme, isScheme scheme = true ∧ front = scheme ++ [':']) ∧
    cleaned url = front ++ '/' :: '/' :: (authority ++ rest) ∧
    (∀ c ∈ authority, endsAuthority c = false) ∧ StartsWith endsAuthority rest

/-- What is wrong with an authority: it has one of the two brackets without the other, or brackets
around what is no address, or a character that stands for a delimiter in another form. -/
inductive Refused (authority : List Char) : Prop where
  | unclosed (opened : '[' ∈ authority) (unclosed : ']' ∉ authority)
  | unopened (unopened : '[' ∉ authority) (closed : ']' ∈ authority)
  | noAddress (opened : '[' ∈ authority) (closed : ']' ∈ authority) (fault : SplitFault)
      (unfit : checkBracketed authority = .error fault)
  | hidden (c : Char) (mem : c ∈ authority) (delimits : c.toNat ∈ hiddenDelimiters)

/-- The authority of a URL, empty if it has none. -/
def authorityOf (url : List Char) : List Char :=
  (takeAuthority (takeScheme (cleaned url)).2).1

namespace RefusalLemmas

variable {url authority : List Char}

theorem checkForms_fails_iff :
    (∃ fault, checkForms authority = .error fault) ↔
      ∃ c ∈ authority, c.toNat ∈ hiddenDelimiters := by
  unfold checkForms
  split
  · next hany => exact iff_of_true ⟨_, rfl⟩ (by simpa using hany)
  · next hany => exact iff_of_false (by simp) (by simpa using hany)

/-- Brackets and hidden delimiters are looked for one after the other. -/
theorem refused_iff :
    Refused authority ↔ (∃ fault, checkBrackets authority = .error fault) ∨
      ∃ fault, checkForms authority = .error fault := by
  rw [checkForms_fails_iff]
  unfold checkBrackets
  constructor
  · intro h
    cases h with
    | unclosed opened unclosed => exact .inl ⟨.brackets, by simp [opened, unclosed]⟩
    | unopened unopened closed => exact .inl ⟨.brackets, by simp [unopened, closed]⟩
    | noAddress opened closed fault unfit => exact .inl ⟨fault, by simp [opened, closed, unfit]⟩
    | hidden c mem delimits => exact .inr ⟨c, mem, delimits⟩
  · rintro (⟨fault, hfails⟩ | ⟨c, mem, delimits⟩)
    · by_cases opened : '[' ∈ authority
      · by_cases closed : ']' ∈ authority
        · exact .noAddress opened closed fault (by simpa [opened, closed] using hfails)
        · exact .unclosed opened closed
      · by_cases closed : ']' ∈ authority
        · exact .unopened opened closed
        · simp [opened, closed] at hfails
    · exact .hidden c mem delimits

theorem not_refused_nil : ¬ Refused [] := by
  intro h
  cases h with
  | unclosed opened _ => cases opened
  | unopened _ closed => cases closed
  | noAddress opened _ _ _ => cases opened
  | hidden _ mem _ => cases mem

/-- A URL is cut if its authority passes both checks, and nothing else can fail. -/
theorem split_fails_iff_refused :
    (∃ fault, split url = .error fault) ↔ Refused (authorityOf url) := by
  rw [refused_iff]
  unfold split authorityOf
  cases takeScheme (cleaned url) with | mk scheme behind =>
  cases hauthority : takeAuthority behind with | mk authority rest =>
  simp only [hauthority]
  cases hb : checkBrackets authority with
  | error fault => exact iff_of_true ⟨fault, rfl⟩ (.inl ⟨fault, rfl⟩)
  | ok _ =>
    cases hf : checkForms authority with
    | error fault => exact iff_of_true ⟨fault, rfl⟩ (.inr ⟨fault, rfl⟩)
    | ok _ => exact iff_of_false nofun (by simp)

/-- A text that starts with a slash has no scheme. -/
theorem takeScheme_slash (rest : List Char) : takeScheme ('/' :: rest) = ([], '/' :: rest) := by
  unfold takeScheme
  split
  · next written after hsplit =>
    have hjoin := splitAtChar_join hsplit
    cases written with
    | nil => cases hjoin
    | cons first others =>
      cases hjoin
      rfl
  · rfl

theorem authorityOf_of_writes (h : Writes url authority) : authorityOf url = authority := by
  obtain ⟨front, rest, hfront, hclean, hplain, hpast⟩ := h
  have hauthority : takeAuthority ('/' :: '/' :: (authority ++ rest)) = (authority, rest) :=
    splitBefore_append hplain hpast
  unfold authorityOf
  rw [hclean]
  rcases hfront with rfl | ⟨scheme, hscheme, rfl⟩
  · rw [List.nil_append, takeScheme_slash, hauthority]
  · rw [List.append_assoc, List.singleton_append, takeScheme_append hscheme, hauthority]

theorem writes_authorityOf (h : authorityOf url ≠ []) : Writes url (authorityOf url) := by
  unfold authorityOf at h ⊢
  cases hscheme : takeScheme (cleaned url) with | mk scheme behind =>
  cases hauthority : takeAuthority behind with | mk authority rest =>
  rw [hscheme] at h
  simp only [hauthority] at h ⊢
  obtain ⟨rfl, hplain, hpast⟩ := takeAuthority_ne_nil hauthority h
  rcases takeScheme_cases hscheme with ⟨_, hclean⟩ | ⟨written, hw, _, hclean⟩
  · exact ⟨[], rest, .inl rfl, hclean.symm, hplain, hpast⟩
  · exact ⟨written ++ [':'], rest, .inr ⟨written, hw, rfl⟩, by simpa using hclean, hplain, hpast⟩

end RefusalLemmas

open RefusalLemmas

/-- A URL is not cut just when it writes out an authority that is refused. -/
theorem split_fails_iff {url : List Char} :
    (∃ fault, split url = .error fault) ↔
      ∃ authority, Writes url authority ∧ Refused authority := by
  rw [split_fails_iff_refused]
  constructor
  · intro hrefused
    have hne : authorityOf url ≠ [] := fun hnil => not_refused_nil (hnil ▸ hrefused)
    exact ⟨authorityOf url, writes_authorityOf hne, hrefused⟩
  · rintro ⟨authority, hwrites, hrefused⟩
    rwa [authorityOf_of_writes hwrites]

end MagnetStream.Url
