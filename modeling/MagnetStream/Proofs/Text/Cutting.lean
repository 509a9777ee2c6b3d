import Mathlib.Data.List.DropRight
import Mathlib.Data.List.TakeDrop
import MagnetStream.Text.Blank

/-!
# Cutting texts

What the cuts of `Text` leave: nothing is lost, the first part holds no place to cut, and the second
starts with one. `StartsWith p text` says that a text is empty or starts with a character of `p`; a
text that starts so may be appended without moving the cut (`splitBefore_append`). Trimming finds
the one core of a text (`trimBy_eq_iff`).
-/

namespace MagnetStream.Text

/-- A text is empty or starts with a character that satisfies `p`. -/
def StartsWith (p : Char → Bool) (text : List Char) : Prop := ∀ c, text.head? = some c → p c = true

theorem startsWith_cons {p : Char → Bool} {c : Char} {text : List Char} :
    StartsWith p (c :: text) ↔ p c = true := by
  simp [StartsWith]

theorem splitBefore_eq (p : Char → Bool) (text : List Char) :
    splitBefore p text = (text.takeWhile fun c => !p c, text.dropWhile fun c => !p c) :=
  List.span_eq_takeWhile_dropWhile ..

theorem splitBefore_join {p : Char → Bool} {text front back : List Char}
    (h : splitBefore p text = (front, back)) : text = front ++ back := by
  rw [splitBefore_eq, Prod.mk.injEq] at h
  rw [← h.1, ← h.2, List.takeWhile_append_dropWhile]

theorem splitBefore_front {p : Char → Bool} {text front back : List Char}
    (h : splitBefore p text = (front, back)) : ∀ c ∈ front, p c = false := by
  rw [splitBefore_eq, Prod.mk.injEq] at h
  intro c hc
  rw [← h.1] at hc
  simpa using List.mem_takeWhile_imp hc

theorem splitBefore_back {p : Char → Bool} {text front back : List Char}
    (h : splitBefore p text = (front, back)) : StartsWith p back := by
  rw [splitBefore_eq, Prod.mk.injEq] at h
  intro c hc
  rw [← h.2] at hc
  have hhead := List.head?_dropWhile_not (fun c => !p c) text
  rw [hc] at hhead
  simpa using hhead

/-- A text is cut where its second part starts. -/
theorem splitBefore_append {p : Char → Bool} {front back : List Char}
    (hf : ∀ c ∈ front, p c = false) (hb : StartsWith p back) :
    splitBefore p (front ++ back) = (front, back) := by
  have hp : ∀ c ∈ front, (!p c) = true := fun c hc => by simp [hf c hc]
  rw [splitBefore_eq, List.takeWhile_append_of_pos hp, List.dropWhile_append_of_pos hp]
  cases back with
  | nil => simp
  | cons c rest => simp [startsWith_cons.mp hb]

theorem splitAtChar_join {c : Char} {text front back : List Char}
    (h : splitAtChar c text = (front, some back)) : text = front ++ c :: back := by
  unfold splitAtChar at h
  split at h
  · next before x after hs =>
    cases h
    have hx := startsWith_cons.mp (splitBefore_back hs)
    rw [splitBefore_join hs, eq_of_beq hx]
  · cases h

theorem splitAtChar_append {c : Char} {front : List Char} (h : c ∉ front) (back : List Char) :
    splitAtChar c (front ++ c :: back) = (front, some back) := by
  have hf : ∀ x ∈ front, (x == c) = false := fun x hx => by
    simpa using fun (he : x = c) => h (he ▸ hx)
  simp [splitAtChar, splitBefore_append hf (startsWith_cons.mpr (beq_self_eq_true c))]

/-- A front without the character where a text is cut belongs to the first part. -/
theorem splitAtChar_append_left {c : Char} {front : List Char} (h : c ∉ front)
    (back : List Char) :
    splitAtChar c (front ++ back) =
      (front ++ (splitAtChar c back).1, (splitAtChar c back).2) := by
  have hfront : ∀ x ∈ front, (!(x == c)) = true := fun x hx => by
    simpa using fun (he : x = c) => h (he ▸ hx)
  unfold splitAtChar
  rw [splitBefore_eq, splitBefore_eq, List.takeWhile_append_of_pos hfront,
    List.dropWhile_append_of_pos hfront]
  cases List.dropWhile (fun x => !(x == c)) back <;> rfl

theorem splitAtChar_of_not_mem {c : Char} {text : List Char} (h : c ∉ text) :
    splitAtChar c text = (text, none) := by
  have hall := splitAtChar_append_left h []
  rwa [List.append_nil, show splitAtChar c [] = ([], none) from rfl, List.append_nil] at hall

/-- A text that is cut is cut at the same place whatever is put behind it. -/
theorem splitAtChar_append_right {c : Char} {front : List Char} (h : c ∈ front) :
    ∃ first second, splitAtChar c front = (first, some second) ∧
      ∀ back, splitAtChar c (front ++ back) = (first, some (second ++ back)) := by
  obtain ⟨first, second, rfl, hfirst⟩ := List.eq_append_cons_of_mem h
  refine ⟨first, second, splitAtChar_append hfirst second, fun back => ?_⟩
  rw [List.append_assoc, List.cons_append, splitAtChar_append hfirst]

theorem splitAtChar_fst (c : Char) (text : List Char) :
    (splitAtChar c text).1 = text.takeWhile fun x => !(x == c) := by
  unfold splitAtChar
  rw [splitBefore_eq]
  cases List.dropWhile (fun x => !(x == c)) text <;> rfl

/-- The first part holds characters of the text, and not the one where it is cut. -/
theorem mem_of_mem_splitAtChar {c x : Char} {text : List Char} (h : x ∈ (splitAtChar c text).1) :
    x ∈ text ∧ x ≠ c := by
  rw [splitAtChar_fst] at h
  exact ⟨(List.takeWhile_sublist _).mem h, by simpa using List.mem_takeWhile_imp h⟩

/-! ## Texts in many parts -/

theorem splitOnChar_eq_splitOn (c : Char) (text : List Char) :
    splitOnChar c text = text.splitOn c := by
  induction text with
  | nil => rfl
  | cons x rest ih =>
    obtain ⟨part, parts, hrest⟩ := List.exists_cons_of_ne_nil (List.splitOn_ne_nil c rest)
    rw [splitOnChar, ih, List.splitOn_cons_eq_if_modifyHead, hrest]
    rfl

theorem splitOnChar_cons_self (c : Char) (rest : List Char) :
    splitOnChar c (c :: rest) = [] :: splitOnChar c rest := by
  rw [splitOnChar_eq_splitOn, splitOnChar_eq_splitOn, List.splitOn_cons_eq_if_modifyHead,
    if_pos (beq_self_eq_true c)]

/-- Parts that are written with the character between them are cut where they were put together. -/
theorem splitOnChar_intercalate {c : Char} {parts : List (List Char)} (hne : parts ≠ [])
    (h : ∀ part ∈ parts, c ∉ part) : splitOnChar c ([c].intercalate parts) = parts := by
  rw [splitOnChar_eq_splitOn]
  exact List.splitOn_intercalate c h hne

/-- What is written with the character between it holds nothing else. -/
theorem eq_or_mem_of_mem_intercalate {c x : Char} {parts : List (List Char)}
    (h : x ∈ [c].intercalate parts) : x = c ∨ ∃ part ∈ parts, x ∈ part := by
  induction parts with
  | nil => cases h
  | cons part rest ih =>
    cases rest with
    | nil => exact .inr ⟨part, List.mem_cons_self, by simpa [List.intercalate] using h⟩
    | cons next others =>
      rw [List.intercalate_cons_cons, List.append_assoc, List.mem_append, List.mem_append,
        List.mem_singleton] at h
      rcases h with h | h | h
      · exact .inr ⟨part, List.mem_cons_self, h⟩
      · exact .inl h
      · refine (ih h).imp_right ?_
        rintro ⟨other, hother, hx⟩
        exact ⟨other, List.mem_cons_of_mem _ hother, hx⟩

/-- Whatever is written with the character between it is cut there and inside. -/
theorem splitOnChar_intercalate_eq_flatMap {c : Char} {parts : List (List Char)}
    (hne : parts ≠ []) :
    splitOnChar c ([c].intercalate parts) = parts.flatMap (splitOnChar c) := by
  induction parts with
  | nil => exact absurd rfl hne
  | cons part rest ih =>
    cases rest with
    | nil => simp [List.intercalate]
    | cons next others =>
      rw [List.intercalate_cons_cons, List.append_assoc, List.singleton_append,
        splitOnChar_eq_splitOn, List.splitOn_append_cons_self, ← splitOnChar_eq_splitOn,
        ← splitOnChar_eq_splitOn, ih (List.cons_ne_nil _ _)]
      exact List.flatMap_cons.symm

/-- What is cut can be put together again. -/
theorem intercalate_splitOnChar (c : Char) (text : List Char) :
    [c].intercalate (splitOnChar c text) = text := by
  rw [splitOnChar_eq_splitOn]
  exact List.intercalate_splitOn c

/-- A part holds characters of the text, and not the one where it is cut. -/
theorem mem_of_mem_splitOnChar {c x : Char} {text part : List Char}
    (h : part ∈ splitOnChar c text) (hx : x ∈ part) : x ∈ text ∧ x ≠ c := by
  induction text generalizing part with
  | nil =>
    cases List.mem_singleton.mp h
    cases hx
  | cons y rest ih =>
    rw [splitOnChar_eq_splitOn, List.splitOn_cons_eq_if_modifyHead,
      ← splitOnChar_eq_splitOn] at h
    have hlater : ∀ {other}, other ∈ splitOnChar c rest → x ∈ other → x ∈ y :: rest ∧ x ≠ c :=
      fun hm hx => (ih hm hx).imp_left (List.mem_cons_of_mem y)
    split at h
    · rcases List.mem_cons.mp h with rfl | h
      · cases hx
      · exact hlater h hx
    · next hy =>
      cases hparts : splitOnChar c rest with
      | nil =>
        rw [hparts] at h
        cases h
      | cons first others =>
        rw [hparts] at h hlater
        rcases List.mem_cons.mp h with rfl | h
        · rcases List.mem_cons.mp hx with rfl | hx
          · exact ⟨List.mem_cons_self, by simpa using hy⟩
          · exact hlater List.mem_cons_self hx
        · exact hlater (List.mem_cons_of_mem _ h) hx

theorem not_mem_of_mem_splitOnChar {c : Char} {text part : List Char}
    (h : part ∈ splitOnChar c text) : c ∉ part :=
  fun hm => (mem_of_mem_splitOnChar h hm).2 rfl

/-! ## Ends of texts -/

/-- What is dropped at the end consists of dropped characters only. -/
theorem dropEndWhile_append (p : Char → Bool) (text : List Char) :
    ∃ tail, text = dropEndWhile p text ++ tail ∧ ∀ c ∈ tail, p c = true :=
  ⟨text.rtakeWhile p, (List.rdropWhile_append_rtakeWhile ..).symm,
    fun _ hc => List.mem_rtakeWhile_imp hc⟩

theorem dropEndWhile_idem (p : Char → Bool) (text : List Char) :
    dropEndWhile p (dropEndWhile p text) = dropEndWhile p text :=
  List.rdropWhile_idempotent ..

/-- What is left does not end with a dropped character. -/
theorem of_getLast?_dropEndWhile {p : Char → Bool} {text : List Char} {c : Char}
    (h : (dropEndWhile p text).getLast? = some c) : p c = false := by
  change (text.rdropWhile p).getLast? = some c at h
  obtain ⟨hne, rfl⟩ := List.mem_getLast?_eq_getLast h
  simpa using List.rdropWhile_last_not p text hne

/-! ## Both ends of a text -/

/-- A text neither starts nor ends with a character that satisfies `p`. -/
structure Trimmed (p : Char → Bool) (text : List Char) : Prop where
  head : ∀ c, text.head? = some c → p c = false
  last : ∀ c, text.getLast? = some c → p c = false

/-- A text is a trimmed core with nothing but characters of `p` around it. -/
structure IsCore (p : Char → Bool) (core text : List Char) : Prop where
  trimmed : Trimmed p core
  around : ∃ front back, text = front ++ core ++ back ∧ (∀ c ∈ front, p c = true) ∧
    ∀ c ∈ back, p c = true

section Trimming

variable {p : Char → Bool} {core text : List Char}

theorem trimmed_nil : Trimmed p [] := ⟨nofun, nofun⟩

theorem dropWhile_of_head {text : List Char} (h : ∀ c, text.head? = some c → p c = false) :
    text.dropWhile p = text := by
  cases text with
  | nil => rfl
  | cons c rest => rw [List.dropWhile_cons_of_neg (by simp [h c rfl])]

theorem isCore_trimBy (p : Char → Bool) (text : List Char) : IsCore p (trimBy p text) text := by
  obtain ⟨tail, htail, hall⟩ := dropEndWhile_append p (text.dropWhile p)
  have hhead : ∀ c, (text.dropWhile p).head? = some c → p c = false := fun c hc => by
    simpa [hc] using List.head?_dropWhile_not p text
  refine ⟨⟨fun c hc => ?_, fun c hc => of_getLast?_dropEndWhile hc⟩,
    text.takeWhile p, tail, ?_, fun c hc => List.mem_takeWhile_imp hc, hall⟩
  · refine hhead c ?_
    change (dropEndWhile p (text.dropWhile p)).head? = some c at hc
    rw [htail, List.head?_append, hc, Option.some_or]
  · rw [List.append_assoc, trimBy, ← htail, List.takeWhile_append_dropWhile]

/-- A text has one core, and trimming finds it. -/
theorem trimBy_eq_iff : trimBy p text = core ↔ IsCore p core text := by
  constructor
  · rintro rfl
    exact isCore_trimBy p text
  · rintro ⟨⟨hhead, hlast⟩, front, back, rfl, hfront, hback⟩
    have hreverse : ∀ c, core.reverse.head? = some c → p c = false := fun c hc =>
      hlast c (by rwa [List.head?_reverse] at hc)
    rw [trimBy, List.append_assoc, List.dropWhile_append_of_pos hfront]
    cases core with
    | nil =>
      have hgone : back.dropWhile p = [] := List.dropWhile_eq_nil_iff.mpr hback
      rw [List.nil_append, hgone]
      rfl
    | cons c rest =>
      have hkept : (c :: rest ++ back).dropWhile p = c :: rest ++ back :=
        dropWhile_of_head fun x hx => hhead x hx
      rw [hkept, dropEndWhile, List.reverse_append,
        List.dropWhile_append_of_pos fun x hx => hback x (List.mem_reverse.mp hx),
        dropWhile_of_head hreverse, List.reverse_reverse]

/-- Nothing is left of a text just when all of it counts as ends. -/
theorem isCore_nil : IsCore p [] text ↔ ∀ c ∈ text, p c = true := by
  constructor
  · rintro ⟨_, front, back, rfl, hfront, hback⟩ c hc
    rw [List.append_nil, List.mem_append] at hc
    exact hc.elim (hfront c) (hback c)
  · intro h
    exact ⟨trimmed_nil, text, [], by simp, h, nofun⟩

theorem IsCore.unique {other : List Char} (h : IsCore p core text) (hother : IsCore p other text) :
    core = other :=
  (trimBy_eq_iff.mpr h).symm.trans (trimBy_eq_iff.mpr hother)

end Trimming
/-! ## Small letters -/

@[simp] theorem length_lower (text : List Char) : (lower text).length = text.length :=
  List.length_map ..

theorem lower_append (front back : List Char) : lower (front ++ back) = lower front ++ lower back :=
  List.map_append ..

end MagnetStream.Text
