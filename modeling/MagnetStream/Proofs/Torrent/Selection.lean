import MagnetStream.Proofs.Torrent.Listing

/-!
# The file that is chosen

`Chooses entries id` says which file of a listing is to be fetched, without going through it in
order: the first of the largest files, if its size and its id are above zero. The scan of a listing
keeps the first of the largest files that it has seen (`pickLargest_cases`), so that it chooses just
this one (`selectFile_iff_chooses`). What has no size never changes the choice (`Chooses.among`).
-/

namespace MagnetStream.Torrent

def IsObject (entry : Json) : Prop := ∃ members, entry = .obj members

/-- An entry of a listing is an object that describes a file. -/
def IsFile (entry : Json) (file : File) : Prop :=
  ∃ members, entry = .obj members ∧
    ((Entries.get? members "id").getD .null).toWhole = .ok file.id ∧
    ((Entries.get? members "bytes").getD .null).toWhole = .ok file.size

/-- The file with this id is the one of a listing to be fetched: its size and its id are above zero,
every file before it is smaller, and no file behind it is larger. -/
def Chooses (entries : List Json) (id : Int) : Prop :=
  ∃ before entry after size, entries = before ++ entry :: after ∧ IsFile entry ⟨id, size⟩ ∧
    0 < size ∧ 0 < id ∧ (∀ other ∈ before, ∀ file, IsFile other file → file.size < size) ∧
      ∀ other ∈ after, ∀ file, IsFile other file → file.size ≤ size

/-- An entry on which no choice depends: it is no object, or has a size of zero or less. -/
def Negligible (entry : Json) : Prop := ∀ file, IsFile entry file → file.size ≤ 0

/-- The entries of a listing. What is no list has none. -/
def entriesOf : Json → List Json
  | .arr entries => entries
  | _ => []

/-- The file that an entry describes, if it describes one. -/
def fileOf? (entry : Json) : Option File := (File.ofEntry? entry).toOption.join

/-- Negligible entries in front of a listing and behind it leave the choice as it is. -/
theorem Chooses.among {entries before after : List Json} {id : Int} (h : Chooses entries id)
    (hbefore : ∀ entry ∈ before, Negligible entry) (hafter : ∀ entry ∈ after, Negligible entry) :
    Chooses (before ++ entries ++ after) id := by
  obtain ⟨front, entry, back, size, rfl, hfile, hsize, hid, hfront, hback⟩ := h
  refine ⟨before ++ front, entry, back ++ after, size, by simp, hfile, hsize, hid, ?_, ?_⟩
  · intro other hm file hother
    rcases List.mem_append.mp hm with hm | hm
    · exact Int.lt_of_le_of_lt (hbefore other hm file hother) hsize
    · exact hfront other hm file hother
  · intro other hm file hother
    rcases List.mem_append.mp hm with hm | hm
    · exact hback other hm file hother
    · exact Int.le_of_lt (Int.lt_of_le_of_lt (hafter other hm file hother) hsize)

namespace SelectionLemmas

/-! ## The scan -/

/-- A file is the first of the largest files of a list. -/
def FirstLargest (files : List File) (pick : File) : Prop :=
  ∃ before after, files = before ++ pick :: after ∧
    (∀ other ∈ before, other.size < pick.size) ∧ ∀ other ∈ after, other.size ≤ pick.size

variable {start pick : File} {files : List File} {id : Int}

/-- A pick that no file beats stays. -/
theorem pickLargest_of_le (h : ∀ file ∈ files, file.size ≤ start.size) :
    pickLargest start files = start := by
  induction files with
  | nil => rfl
  | cons file rest ih =>
    obtain ⟨hfile, hrest⟩ := List.forall_mem_cons.mp h
    rw [pickLargest, if_neg (Int.not_lt.mpr hfile), ih hrest]

/-- A file that beats the pick and all files before it is the pick when it is reached. -/
theorem pickLargest_reaches {before after : List File} (hstart : start.size < pick.size)
    (hbefore : ∀ other ∈ before, other.size < pick.size) :
    pickLargest start (before ++ pick :: after) = pickLargest pick after := by
  induction before generalizing start with
  | nil => rw [List.nil_append, pickLargest, if_pos hstart]
  | cons other rest ih =>
    obtain ⟨hother, hrest⟩ := List.forall_mem_cons.mp hbefore
    rw [List.cons_append, pickLargest]
    split
    · exact ih hother hrest
    · exact ih hstart hrest

theorem pickLargest_of_firstLargest (h : FirstLargest files pick)
    (hstart : start.size < pick.size) : pickLargest start files = pick := by
  obtain ⟨before, after, rfl, hbefore, hafter⟩ := h
  rw [pickLargest_reaches hstart hbefore, pickLargest_of_le hafter]

/-- Either no file beats the pick that a scan starts with, or the first of the largest files does.
-/
theorem pickLargest_cases (start : File) (files : List File) :
    (∀ file ∈ files, file.size ≤ start.size) ∨
      ∃ pick, start.size < pick.size ∧ FirstLargest files pick := by
  induction files generalizing start with
  | nil => exact .inl fun _ hm => nomatch hm
  | cons first rest ih =>
    by_cases hfirst : start.size < first.size
    -- The first file is the one to beat from here on.
    · rcases ih first with hrest | ⟨pick, hlt, before, after, rfl, hbefore, hafter⟩
      · exact .inr ⟨first, hfirst, [], rest, rfl, nofun, hrest⟩
      · exact .inr ⟨pick, Int.lt_trans hfirst hlt, first :: before, after, rfl,
          List.forall_mem_cons.mpr ⟨hlt, hbefore⟩, hafter⟩
    · have hle : first.size ≤ start.size := Int.not_lt.mp hfirst
      rcases ih start with hrest | ⟨pick, hlt, before, after, rfl, hbefore, hafter⟩
      · exact .inl (List.forall_mem_cons.mpr ⟨hle, hrest⟩)
      · exact .inr ⟨pick, hlt, first :: before, after, rfl,
          List.forall_mem_cons.mpr ⟨Int.lt_of_le_of_lt hle hlt, hbefore⟩, hafter⟩

theorem selectFile_eq_ok :
    selectFile files = .ok id ↔
      ∃ pick, FirstLargest files pick ∧ 0 < pick.size ∧ 0 < pick.id ∧ pick.id = id := by
  unfold selectFile
  constructor
  · intro h
    split at h
    · cases h
    · rcases pickLargest_cases ⟨0, 0⟩ files with hnone | ⟨pick, hsize, hfirst⟩
      · rw [pickLargest_of_le hnone] at h
        cases h
      · rw [pickLargest_of_firstLargest hfirst hsize] at h
        dsimp only at h
        split at h
        · cases h
        · next hid =>
          cases h
          exact ⟨pick, hfirst, hsize, Int.not_le.mp hid, rfl⟩
  · rintro ⟨pick, hfirst, hsize, hid, rfl⟩
    have hne : files.isEmpty = false := by
      obtain ⟨before, after, rfl, _⟩ := hfirst
      simp
    rw [pickLargest_of_firstLargest hfirst hsize, if_neg (by simp [hne])]
    exact if_neg (Int.not_le.mpr hid)

/-- If there are files, but none to choose, it is because no id is found. -/
theorem selectFile_eq_error (hne : files ≠ []) (h : ∀ id, selectFile files ≠ .ok id) :
    selectFile files = .error .noFileId := by
  revert h
  unfold selectFile
  rw [if_neg (by simpa using hne)]
  dsimp only
  split
  · exact fun _ => rfl
  · exact fun h => absurd rfl (h _)

/-! ## From a listing to its files -/

variable {entry : Json} {entries : List Json} {file : File}

theorem ofEntry?_eq_some : File.ofEntry? entry = .ok (some file) ↔ IsFile entry file := by
  unfold IsFile
  cases entry with
  | obj members =>
    simp only [File.ofEntry?, Except.bind_eq_ok, Json.obj.injEq]
    constructor
    · rintro ⟨id, hid, size, hsize, ⟨⟩⟩
      exact ⟨members, rfl, hid, hsize⟩
    · rintro ⟨_, rfl, hid, hsize⟩
      exact ⟨file.id, hid, file.size, hsize, rfl⟩
  | _ => simp [File.ofEntry?]

theorem fileOf?_eq_some : fileOf? entry = some file ↔ IsFile entry file := by
  rw [← ofEntry?_eq_some, fileOf?]
  cases File.ofEntry? entry with
  | error fault => simp [Except.toOption]
  | ok found => simp [Except.toOption]

theorem ofEntry?_of_readable (h : ¬ NamesBoundless entry) :
    File.ofEntry? entry = .ok (fileOf? entry) := by
  rw [← ofEntry?_fails_iff] at h
  unfold fileOf?
  cases hentry : File.ofEntry? entry with
  | error fault => exact absurd ⟨fault, hentry⟩ h
  | ok found => simp [Except.toOption]

/-- Of an entry that can be read, an object describes a file. -/
theorem isObject_iff (h : ¬ NamesBoundless entry) : IsObject entry ↔ ∃ file, IsFile entry file := by
  constructor
  · rintro ⟨members, rfl⟩
    obtain ⟨found, hfound⟩ : ∃ found, File.ofEntry? (.obj members) = .ok found :=
      ⟨_, ofEntry?_of_readable h⟩
    obtain ⟨id, hid, hrest⟩ := Except.bind_eq_ok.mp hfound
    obtain ⟨size, hsize, _⟩ := Except.bind_eq_ok.mp hrest
    exact ⟨⟨id, size⟩, members, rfl, hid, hsize⟩
  · rintro ⟨_, members, rfl, _⟩
    exact ⟨members, rfl⟩

theorem listsBoundless_iff {listing : Json} :
    ListsBoundless listing ↔ ∃ entry ∈ entriesOf listing, NamesBoundless entry := by
  unfold ListsBoundless
  cases listing with
  | arr entries => simp [entriesOf]
  | _ => simp [entriesOf]

/-- A listing whose entries can all be read has the files of its entries. -/
theorem ofListing_of_readable {listing : Json} (h : ¬ ListsBoundless listing) :
    File.ofListing listing = .ok ((entriesOf listing).filterMap fileOf?) := by
  rw [listsBoundless_iff] at h
  cases listing with
  | arr entries =>
    have hread : entries.mapM File.ofEntry? = .ok (entries.map fileOf?) := by
      induction entries with
      | nil => rfl
      | cons entry rest ih =>
        have hentry : ¬ NamesBoundless entry := fun hb => h ⟨entry, List.mem_cons_self, hb⟩
        have hrest := ih fun ⟨other, hm, hb⟩ => h ⟨other, List.mem_cons_of_mem _ hm, hb⟩
        rw [List.mapM_cons, ofEntry?_of_readable hentry, hrest]
        rfl
    rw [File.ofListing, hread]
    exact congrArg Except.ok List.filterMap_map
  | _ => rfl

/-- Such a listing has no files just when it has no objects. -/
theorem files_eq_nil_iff {listing : Json} (h : ¬ ListsBoundless listing) :
    (entriesOf listing).filterMap fileOf? = [] ↔ ∀ entry ∈ entriesOf listing, ¬ IsObject entry := by
  rw [List.filterMap_eq_nil_iff]
  refine forall₂_congr fun entry hm => ?_
  have hreadable : ¬ NamesBoundless entry := fun hb => h (listsBoundless_iff.mpr ⟨entry, hm, hb⟩)
  rw [isObject_iff hreadable, Option.eq_none_iff_forall_ne_some]
  simp [fileOf?_eq_some]

/-- The choice of a listing is the first of the largest of its files. -/
theorem chooses_iff :
    Chooses entries id ↔ ∃ pick, FirstLargest (entries.filterMap fileOf?) pick ∧ 0 < pick.size ∧
      0 < pick.id ∧ pick.id = id := by
  constructor
  · rintro ⟨before, entry, after, size, rfl, hfile, hsize, hid, hbefore, hafter⟩
    refine ⟨⟨id, size⟩, ⟨before.filterMap fileOf?, after.filterMap fileOf?, ?_, ?_, ?_⟩, hsize, hid,
      rfl⟩
    · rw [List.filterMap_append, List.filterMap_cons_some (fileOf?_eq_some.mpr hfile)]
    · intro file hm
      obtain ⟨other, hother, hof⟩ := List.mem_filterMap.mp hm
      exact hbefore other hother file (fileOf?_eq_some.mp hof)
    · intro file hm
      obtain ⟨other, hother, hof⟩ := List.mem_filterMap.mp hm
      exact hafter other hother file (fileOf?_eq_some.mp hof)
  · rintro ⟨pick, ⟨before, after, hfiles, hbefore, hafter⟩, hsize, hid, rfl⟩
    obtain ⟨front, others, rfl, rfl, hothers⟩ := List.filterMap_eq_append_iff.mp hfiles
    obtain ⟨skipped, entry, back, rfl, hskipped, hentry, rfl⟩ :=
      List.filterMap_eq_cons_iff.mp hothers
    refine ⟨front ++ skipped, entry, back, pick.size, by simp, fileOf?_eq_some.mp hentry, hsize,
      hid, ?_, ?_⟩
    · intro other hm file hfile
      have hof := fileOf?_eq_some.mpr hfile
      rcases List.mem_append.mp hm with hm | hm
      · exact hbefore file (List.mem_filterMap.mpr ⟨other, hm, hof⟩)
      · rw [hskipped other hm] at hof
        cases hof
    · intro other hm file hfile
      exact hafter file (List.mem_filterMap.mpr ⟨other, hm, fileOf?_eq_some.mpr hfile⟩)

end SelectionLemmas

open SelectionLemmas

/-- The scan of the files of a listing chooses just the file to be fetched. -/
theorem selectFile_iff_chooses {entries : List Json} {id : Int} :
    selectFile (entries.filterMap fileOf?) = .ok id ↔ Chooses entries id :=
  selectFile_eq_ok.trans chooses_iff.symm

end MagnetStream.Torrent
