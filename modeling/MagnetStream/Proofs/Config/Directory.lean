import MagnetStream.Config.Directory
import MagnetStream.Proofs.Result
import MagnetStream.Proofs.Text.Cutting

/-!
# Directories written and read again

The shortest text for a directory writes that directory (`Directory.ofText_toText`). So a text that
was brought into its shortest form stays as it is, unless a tilde has come to its front again: then
it is read as another one. None does as long as no home directory leads to another one
(`Homes.Settled.readOnce`), and none of those does that are written from the root on
(`Homes.settled_of_rooted`).
-/

namespace MagnetStream.Config

namespace Directory

/-- A directory as texts write them: no part is empty or a single point, and none has a slash. -/
structure Proper (directory : Directory) : Prop where
  root : directory.root ∈ ["", "/", "//"]
  counts : ∀ part ∈ directory.parts, Directory.counts part.toList = true
  slash : ∀ part ∈ directory.parts, '/' ∉ part.toList

theorem rootOf_mem (text : List Char) : rootOf text ∈ ["", "/", "//"] := by
  unfold rootOf
  split <;> decide

theorem proper_ofText (text : String) : (ofText text).Proper := by
  have hparts : ∀ part ∈ (ofText text).parts, Directory.counts part.toList = true ∧
      '/' ∉ part.toList := by
    intro part hm
    obtain ⟨chars, hchars, rfl⟩ := List.mem_map.mp hm
    obtain ⟨hsplit, hcounts⟩ := List.mem_filter.mp hchars
    rw [String.toList_ofList]
    exact ⟨hcounts, Text.not_mem_of_mem_splitOnChar hsplit⟩
  exact ⟨rootOf_mem _, fun part hm => (hparts part hm).1, fun part hm => (hparts part hm).2⟩

/-- Two directories one behind the other. -/
theorem Proper.append {front back : Directory} (hfront : front.Proper) (hback : back.Proper)
    {rest : List String} (hrest : rest ⊆ back.parts) :
    Proper ⟨front.root, front.parts ++ rest⟩ := by
  refine ⟨hfront.root, fun part hm => ?_, fun part hm => ?_⟩
  · rcases List.mem_append.mp hm with hm | hm
    · exact hfront.counts part hm
    · exact hback.counts part (hrest hm)
  · rcases List.mem_append.mp hm with hm | hm
    · exact hfront.slash part hm
    · exact hback.slash part (hrest hm)

section Writing

variable {directory : Directory}

/-- The characters of the parts with slashes between them. -/
def body (directory : Directory) : List Char :=
  ['/'].intercalate (directory.parts.map String.toList)

theorem filter_splitOnChar_body (h : directory.Proper) :
    (Text.splitOnChar '/' directory.body).filter Directory.counts =
      directory.parts.map String.toList := by
  rw [body]
  cases hparts : directory.parts with
  | nil => rfl
  | cons first rest =>
    rw [← hparts, Text.splitOnChar_intercalate (by simp [hparts])]
    · refine List.filter_eq_self.mpr fun chars hm => ?_
      obtain ⟨part, hpart, rfl⟩ := List.mem_map.mp hm
      exact h.counts part hpart
    · intro chars hm
      obtain ⟨part, hpart, rfl⟩ := List.mem_map.mp hm
      exact h.slash part hpart

theorem head?_body (h : directory.Proper) : directory.body.head? ≠ some '/' := by
  rw [body]
  cases hparts : directory.parts with
  | nil => exact nofun
  | cons first rest =>
    have hfirst : first ∈ directory.parts := hparts ▸ List.mem_cons_self
    have hslash := h.slash first hfirst
    cases hchars : first.toList with
    | nil =>
      have hcounts := h.counts first hfirst
      rw [hchars] at hcounts
      cases hcounts
    | cons c others =>
      rw [hchars] at hslash
      have hhead : (['/'].intercalate ((first :: rest).map String.toList)).head? = some c := by
        rw [List.map_cons, hchars]
        cases rest.map String.toList <;> simp [List.intercalate]
      rw [hhead]
      rintro ⟨⟩
      exact hslash List.mem_cons_self

theorem rootOf_append {root : String} (hroot : root ∈ ["", "/", "//"]) {text : List Char}
    (h : text.head? ≠ some '/') : rootOf (root.toList ++ text) = root := by
  have hcases : root = "" ∨ root = "/" ∨ root = "//" := by simpa using hroot
  cases text with
  | nil => rcases hcases with rfl | rfl | rfl <;> rfl
  | cons c rest =>
    have hc : c ≠ '/' := fun heq => h (congrArg some heq)
    rcases hcases with rfl | rfl | rfl <;> simp [rootOf, hc]

/-- The shortest text for a directory writes it. -/
theorem ofText_toText (h : directory.Proper) : ofText directory.toText = directory := by
  by_cases hempty : (directory.root.isEmpty && directory.parts.isEmpty) = true
  · obtain ⟨hroot, hparts⟩ := Bool.and_eq_true_iff.mp hempty
    obtain ⟨root, parts⟩ := directory
    obtain rfl : root = "" := String.isEmpty_iff.mp hroot
    obtain rfl : parts = [] := List.isEmpty_iff.mp hparts
    rfl
  · have htext : directory.toText.toList = directory.root.toList ++ directory.body := by
      rw [toText, if_neg hempty, String.toList_append, String.toList_intercalate]
      rfl
    have hsplit : (Text.splitOnChar '/' (directory.root.toList ++ directory.body)).filter
        Directory.counts = directory.parts.map String.toList := by
      rw [← filter_splitOnChar_body h]
      have hcases : directory.root = "" ∨ directory.root = "/" ∨ directory.root = "//" := by
        simpa using h.root
      -- A slash in front only adds an empty part, which does not count.
      have hslash : ∀ text, (Text.splitOnChar '/' ('/' :: text)).filter Directory.counts =
          (Text.splitOnChar '/' text).filter Directory.counts := by
        intro text
        rw [Text.splitOnChar_cons_self]
        rfl
      rcases hcases with hroot | hroot | hroot
      · rw [hroot]
        rfl
      · rw [hroot]
        exact hslash _
      · rw [hroot]
        exact (hslash _).trans (hslash _)
    rw [ofText, htext, rootOf_append h.root (head?_body h), hsplit, List.map_map]
    have hsame : directory.parts.map (String.ofList ∘ String.toList) = directory.parts := by
      simp [Function.comp_def]
    rw [hsame]

end Writing

/-! ## Directories without a tilde in front -/

/-- No tilde stands in front of a directory, nor would one if something were appended. -/
def Settled (directory : Directory) : Prop :=
  directory.root ≠ "" ∨
    ∃ first rest, directory.parts = first :: rest ∧ first.toList.head? ≠ some '~'

theorem Settled.expand {homes : Homes} {directory : Directory} (h : directory.Settled) :
    directory.expand homes = .ok directory := by
  obtain ⟨root, parts⟩ := directory
  rcases h with hroot | ⟨first, rest, hparts, hfirst⟩
  · have hnone : root.isEmpty = false := by
      rw [Bool.eq_false_iff]
      exact fun hempty => hroot (String.isEmpty_iff.mp hempty)
    simp only [Directory.expand, hnone]
  · dsimp only at hparts
    subst hparts
    unfold Directory.expand
    split
    · next heq =>
      obtain ⟨rfl, rfl⟩ := List.cons.inj heq
      split
      · next htilde => exact absurd (by rw [htilde]; rfl) hfirst
      · rfl
    · rfl

theorem Settled.append {directory : Directory} (h : directory.Settled) (rest : List String) :
    Settled ⟨directory.root, directory.parts ++ rest⟩ := by
  rcases h with hroot | ⟨first, others, hparts, hfirst⟩
  · exact .inl hroot
  · exact .inr ⟨first, others ++ rest, by rw [hparts, List.cons_append], hfirst⟩

end Directory

/-- No home directory is written with a tilde in front, or as the place where the program runs. -/
def Homes.Settled (homes : Homes) : Prop :=
  ∀ user home directory, homes.find? user = some home → Directory.ofHome home = .ok directory →
    directory.Settled

theorem Directory.rootOf_of_slash (text : List Char) : rootOf ('/' :: text) ≠ "" := by
  unfold rootOf
  split
  · decide
  · decide
  · decide
  · next hslash => exact absurd rfl (hslash text)

/-- Home directories that are written from the root on are settled. -/
theorem Homes.settled_of_rooted {homes : Homes}
    (h : ∀ user home, homes.find? user = some home → home.toList.head? = some '/') :
    homes.Settled := by
  intro user home directory hhome hdirectory
  refine .inl ?_
  obtain ⟨slashes, htext, _⟩ := Text.dropEndWhile_append (· == '/') home.toList
  have hhead := h user home hhome
  simp only [Directory.ofHome, Text.dropEndChar, String.toList_ofList] at hdirectory
  generalize Text.dropEndWhile (· == '/') home.toList = chars at htext hdirectory
  cases chars with
  | nil =>
    cases hdirectory
    decide
  | cons c rest =>
    obtain rfl : c = '/' := by simpa [htext] using hhead
    obtain rfl := Except.ok.inj hdirectory
    rw [Directory.ofText, String.toList_ofList]
    exact Directory.rootOf_of_slash rest

namespace Directory

theorem proper_of_ofHome {home : String} {directory : Directory} (h : ofHome home = .ok directory) :
    directory.Proper := by
  unfold ofHome at h
  split at h
  · obtain rfl := Except.ok.inj h
    exact proper_ofText _
  · cases h
  · obtain rfl := Except.ok.inj h
    exact proper_ofText _

/-- A directory is left as it is, or a home with some of its parts comes in its place. -/
theorem expand_eq_ok {homes : Homes} {directory result : Directory}
    (h : directory.expand homes = .ok result) :
    result = directory ∨
      ∃ user home homeDirectory rest, homes.find? user = some home ∧
        ofHome home = .ok homeDirectory ∧ rest ⊆ directory.parts ∧
        result = ⟨homeDirectory.root, homeDirectory.parts ++ rest⟩ := by
  unfold Directory.expand at h
  split at h
  · next first rest hroot hparts =>
    split at h
    · next user hfirst =>
      split at h
      · cases h
      · split at h
        · next home hhome =>
          obtain ⟨homeDirectory, hdirectory, rfl⟩ := Except.map_eq_ok.mp h
          exact .inr ⟨_, home, homeDirectory, rest, hhome, hdirectory,
            hparts ▸ List.subset_cons_self .., rfl⟩
        · cases h
    · exact .inl (Except.ok.inj h).symm
  · exact .inl (Except.ok.inj h).symm

theorem proper_expand {homes : Homes} {directory result : Directory} (hproper : directory.Proper)
    (h : directory.expand homes = .ok result) : result.Proper := by
  rcases expand_eq_ok h with rfl | ⟨user, home, homeDirectory, rest, -, hdirectory, hrest, rfl⟩
  · exact hproper
  · exact (proper_of_ofHome hdirectory).append hproper hrest

/-- Once a home was put in place of a tilde, there is nothing left to be replaced. -/
theorem expand_again {homes : Homes} (hhomes : homes.Settled) {directory result : Directory}
    (h : directory.expand homes = .ok result) : result.expand homes = .ok result := by
  rcases expand_eq_ok h with rfl | ⟨user, home, homeDirectory, rest, hhome, hdirectory, -, rfl⟩
  · exact h
  · exact ((hhomes user home homeDirectory hhome hdirectory).append rest).expand

/-- A directory whose text has no tilde in front is left as it is. -/
theorem expand_of_no_tilde {homes : Homes} {directory : Directory}
    (h : directory.toText.toList.head? ≠ some '~') : directory.expand homes = .ok directory := by
  obtain ⟨root, parts⟩ := directory
  by_cases hroot : root = ""
  · subst hroot
    cases parts with
    | nil => rfl
    | cons first rest =>
      refine Settled.expand (.inr ⟨first, rest, rfl, fun hfirst => h ?_⟩)
      obtain ⟨user, huser⟩ := List.head?_eq_some_iff.mp hfirst
      cases rest <;> simp [toText, String.toList_intercalate, List.intercalate, huser]
  · exact Settled.expand (.inl hroot)

end Directory

theorem normalPath_eq_ok {homes : Homes} {text path : String} :
    normalPath homes text = .ok path ↔
      ∃ directory, (Directory.ofText text).expand homes = .ok directory ∧
        directory.toText = path :=
  Except.map_eq_ok

namespace Homes

variable {homes : Homes} {text : String}

/-- What a text is read as is read as it is. -/
def ReadOnce (homes : Homes) (text : String) : Prop :=
  ∀ path, normalPath homes text = .ok path → normalPath homes path = .ok path

/-- A text is read once if there is nothing left to be replaced in the directory that is read. -/
theorem readOnce_of_expand
    (h : ∀ directory, (Directory.ofText text).expand homes = .ok directory →
      directory.expand homes = .ok directory) : homes.ReadOnce text := by
  intro path hpath
  obtain ⟨directory, hexpand, rfl⟩ := normalPath_eq_ok.mp hpath
  have hproper := Directory.proper_expand (Directory.proper_ofText text) hexpand
  have hagain := h directory hexpand
  exact normalPath_eq_ok.mpr ⟨directory, by rw [Directory.ofText_toText hproper, hagain], rfl⟩

theorem Settled.readOnce (hhomes : homes.Settled) (text : String) : homes.ReadOnce text :=
  readOnce_of_expand fun _ => Directory.expand_again hhomes

/-- A text is read once if no tilde stands in front of what it is read as. -/
theorem readOnce_of_no_tilde
    (h : ∀ path, normalPath homes text = .ok path → path.toList.head? ≠ some '~') :
    homes.ReadOnce text := by
  refine readOnce_of_expand fun directory hexpand => Directory.expand_of_no_tilde ?_
  exact h _ (normalPath_eq_ok.mpr ⟨directory, hexpand, rfl⟩)

end Homes
end MagnetStream.Config
