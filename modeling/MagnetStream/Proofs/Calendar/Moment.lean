import MagnetStream.Calendar.IsoReader
import MagnetStream.Proofs.Calendar.Date

/-!
# Moments and their texts

The text of a moment of universal time is read back as that moment (`Moment.ofText_toText`). The
readers of a moment take numbers of a fixed width, and each of the numbers that are written has
exactly this width (`takeNumber?_padded`).
-/

namespace MagnetStream.Calendar

namespace Duration

theorem toList_padded (width n : Nat) :
    (padded width n).toList =
      List.replicate (width - (Nat.toDigits 10 n).length) '0' ++ Nat.toDigits 10 n := by
  simp [padded, Nat.repr_eq_ofList_toDigits]

theorem length_padded (width : Nat) {n : Nat} (hw : 0 < width) (h : n < 10 ^ width) :
    (padded width n).toList.length = width := by
  have hle := (Nat.length_toDigits_le_iff (by decide) hw).mpr h
  rw [toList_padded, List.length_append, List.length_replicate]
  omega

theorem isDigit_of_mem_padded {width n : Nat} {c : Char} (h : c ∈ (padded width n).toList) :
    c.isDigit = true := by
  rw [toList_padded] at h
  rcases List.mem_append.mp h with h | h
  · rw [(List.mem_replicate.mp h).2]
    rfl
  · exact Nat.isDigit_of_mem_toDigits (by decide) (by decide) h

theorem foldl_padded (width n : Nat) :
    (padded width n).toList.foldl (fun n c => n * 10 + (c.toNat - 48)) 0 = n := by
  have hfold : ∀ (text : List Char) (start : Nat),
      text.foldl (fun n c => n * 10 + (c.toNat - 48)) start = Nat.ofDigitChars 10 text start := by
    intro text start
    rw [Nat.ofDigitChars_eq_foldl]
    congr
    funext n c
    rw [Nat.mul_comm]
    rfl
  rw [hfold, toList_padded, Nat.ofDigitChars_append, Nat.ofDigitChars_replicate_zero, Nat.mul_zero,
    Nat.ofDigitChars_ten_toDigits]

end Duration

namespace IsoReader

open Duration

/-- A number is read from the digits that write it in full width. -/
theorem takeNumber?_padded {width n : Nat} (hw : 0 < width) (h : n < 10 ^ width)
    (rest : List Char) :
    takeNumber? width ((padded width n).toList ++ rest) = some (n, rest) := by
  have hlength := length_padded width hw h
  have htake : ((padded width n).toList ++ rest).take width = (padded width n).toList := by
    rw [List.take_append_of_le_length (by omega), List.take_of_length_le (by omega)]
  have hdrop : ((padded width n).toList ++ rest).drop width = rest := List.drop_left' hlength
  have hdigits : (padded width n).toList.all Char.isDigit = true :=
    List.all_eq_true.mpr fun c hc => isDigit_of_mem_padded hc
  unfold takeNumber?
  simp only [htake, hdrop, hlength, hdigits, foldl_padded, and_self, if_true]

/-- What is read as a time of day up to its whole seconds. -/
theorem readParts?_whole (hours minutes seconds : Nat) (hh : hours < 100) (hm : minutes < 100)
    (hs : seconds < 100) (rest : List Char) :
    readParts? [] true 3 8
        ((padded 2 hours).toList ++ ':' :: ((padded 2 minutes).toList ++ ':' ::
          ((padded 2 seconds).toList ++ rest))) =
      some ([hours, minutes, seconds], 0, rest.head?.getD '\x00' != '\x00') := by
  simp [readParts?, takeNumber?_padded, hh, hm, hs]

/-- What is read as a time of day with a fraction of a second. -/
theorem readParts?_fraction (hours minutes seconds : Nat) {part : Nat} (hh : hours < 100)
    (hm : minutes < 100) (hs : seconds < 100) (hp : part < 1000000) (rest : List Char) :
    readParts? [] true 3 15
        ((padded 2 hours).toList ++ ':' :: ((padded 2 minutes).toList ++ ':' ::
          ((padded 2 seconds).toList ++ '.' :: ((padded 6 part).toList ++ rest)))) =
      some ([hours, minutes, seconds], part,
        (rest.dropWhile Char.isDigit).head?.getD '\x00' != '\x00') := by
  simp [readParts?, readFraction?, takeNumber?_padded, hh, hm, hs, hp]

theorem startsOffset_of_isDigit {c : Char} (h : c.isDigit = true) : startsOffset c = false := by
  rw [Bool.eq_false_iff]
  intro hs
  simp only [startsOffset, Bool.or_eq_true, beq_iff_eq] at hs
  rcases hs with (rfl | rfl) | rfl <;> exact absurd h (by decide)

/-- Whether a clock shows a time of day. -/
def Clock.Valid (clock : Clock) : Prop :=
  clock.hours < 24 ∧ clock.minutes < 60 ∧ clock.seconds < 60 ∧ clock.microseconds < 1000000

theorem Clock.check_of_valid {clock : Clock} (h : clock.Valid) : clock.check = .ok () := by
  obtain ⟨hh, hm, hs, _⟩ := h
  rw [Clock.check, if_neg (by omega), if_neg (by omega), if_neg (by omega)]

/-- The characters of a time of day, with a fraction of the second unless it is zero. -/
def Clock.chars (clock : Clock) : List Char :=
  (padded 2 clock.hours).toList ++ ':' :: ((padded 2 clock.minutes).toList ++ ':' ::
    ((padded 2 clock.seconds).toList ++
      if clock.microseconds = 0 then [] else '.' :: (padded 6 clock.microseconds).toList))

theorem Clock.mem_chars {clock : Clock} {c : Char} (h : c ∈ clock.chars) :
    c.isDigit = true ∨ c = ':' ∨ c = '.' := by
  have hdigit : ∀ width n, c ∈ (padded width n).toList → c.isDigit = true :=
    fun _ _ => isDigit_of_mem_padded
  unfold chars at h
  split at h
  · simp only [List.mem_append, List.mem_cons, List.not_mem_nil, or_false] at h
    rcases h with h | rfl | h | rfl | h <;> first | exact .inl (hdigit _ _ h) | simp
  · simp only [List.mem_append, List.mem_cons] at h
    rcases h with h | rfl | h | rfl | h | rfl | h <;> first | exact .inl (hdigit _ _ h) | simp

theorem Clock.length_chars {clock : Clock} (h : clock.Valid) :
    clock.chars.length = if clock.microseconds = 0 then 8 else 15 := by
  obtain ⟨hh, hm, hs, hp⟩ := h
  have htwo : ∀ n, n < 100 → (padded 2 n).toList.length = 2 := fun n hn =>
    length_padded 2 (by decide) hn
  have hsix : (padded 6 clock.microseconds).toList.length = 6 := length_padded 6 (by decide) hp
  unfold chars
  split <;>
    simp [htwo clock.hours (by omega), htwo clock.minutes (by omega), htwo clock.seconds (by omega),
      hsix]

/-- A time of day is read back, and something is seen to follow it. -/
theorem readClock?_chars {clock : Clock} (h : clock.Valid) (rest : List Char) :
    readClock? clock.chars.length (clock.chars ++ '+' :: rest) = some (clock, true) := by
  rw [Clock.length_chars h]
  obtain ⟨hours, minutes, seconds, part⟩ := clock
  obtain ⟨hh, hm, hs, hp⟩ := h
  dsimp only at hh hm hs hp
  unfold readClock? Clock.chars
  dsimp only
  split
  · next hzero =>
    have hparts := readParts?_whole hours minutes seconds (by omega) (by omega) (by omega)
      ('+' :: rest)
    simp [hparts, hzero]
  · have hparts := readParts?_fraction hours minutes seconds (by omega) (by omega) (by omega) hp
      ('+' :: rest)
    have hstop : ('+' :: rest).dropWhile Char.isDigit = '+' :: rest :=
      List.dropWhile_cons_of_neg (by decide)
    rw [hstop] at hparts
    simp [hparts]

/-- A time of day is read back together with an offset of zero. -/
theorem readTime?_chars {clock : Clock} (h : clock.Valid) :
    readTime? (clock.chars ++ ['+', '0', '0', ':', '0', '0']) = some (clock, some ⟨0⟩) := by
  have hplain : ∀ c ∈ clock.chars, (!startsOffset c) = true := by
    intro c hc
    rcases Clock.mem_chars hc with hd | rfl | rfl
    · rw [startsOffset_of_isDigit hd]
      rfl
    · rfl
    · rfl
  have hleft : ((clock.chars ++ ['+', '0', '0', ':', '0', '0']).takeWhile
      fun c => !startsOffset c) = clock.chars := by
    rw [List.takeWhile_append_of_pos hplain, List.takeWhile_cons_of_neg (by decide),
      List.append_nil]
  unfold readTime?
  simp only [hleft, readClock?_chars h, List.drop_left]
  rfl

def dateChars (date : Date) : List Char :=
  (padded 4 date.year).toList ++ '-' :: ((padded 2 date.month).toList ++ '-' ::
    (padded 2 date.day).toList)

theorem ne_week_of_isDigit {c : Char} (h : c.isDigit = true) : c ≠ 'W' := by
  rintro rfl
  exact absurd h (by decide)

/-- The characters of a padded number, one by one. -/
theorem padded_two {n : Nat} (h : n < 100) :
    ∃ a b, (padded 2 n).toList = [a, b] ∧ a.isDigit = true := by
  have hlength := length_padded 2 (by decide) h
  match heq : (padded 2 n).toList, hlength with
  | [a, b], _ => exact ⟨a, b, rfl, isDigit_of_mem_padded (heq ▸ List.mem_cons_self)⟩

theorem dateLength?_chars {date : Date} (hy : date.year < 10000) (hm : date.month < 100)
    (hd : date.day < 100) (rest : List Char) :
    dateLength? (dateChars date ++ rest) = some 10 := by
  obtain ⟨a, b, c, d, hyear⟩ : ∃ a b c d, (padded 4 date.year).toList = [a, b, c, d] := by
    have hlength := length_padded 4 (by decide) hy
    match (padded 4 date.year).toList, hlength with
    | [a, b, c, d], _ => exact ⟨a, b, c, d, rfl⟩
  obtain ⟨e, f, hmonth, hdigit⟩ := padded_two hm
  obtain ⟨g, i, hday, _⟩ := padded_two hd
  have hweek := ne_week_of_isDigit hdigit
  unfold dateLength? dateChars
  simp [hyear, hmonth, hday, hweek]

theorem readDate?_chars {date : Date} (hy : date.year < 10000) (hm : date.month < 100)
    (hd : date.day < 100) (hc : date.check = .ok ()) (rest : List Char) :
    readDate? 10 (dateChars date ++ rest) = some (.ok date) := by
  obtain ⟨e, f, hmonth, hdigit⟩ := padded_two hm
  have hweek := ne_week_of_isDigit hdigit
  have hhead : ∀ tail, ((padded 2 date.month).toList ++ tail).head? = some e := by simp [hmonth]
  unfold readDate? dateChars
  simp only [List.append_assoc, List.cons_append]
  rw [takeNumber?_padded (by decide) hy]
  simp [hhead, hweek, takeNumber?_padded, hm, hd, hc, Except.map]

theorem length_dateChars {date : Date} (hy : date.year < 10000) (hm : date.month < 100)
    (hd : date.day < 100) : (dateChars date).length = 10 := by
  simp [dateChars, length_padded 4 (by decide) hy,
    length_padded 2 (by decide) hm, length_padded 2 (by decide) hd]

theorem mem_dateChars {date : Date} {c : Char} (h : c ∈ dateChars date) :
    c.isDigit = true ∨ c = '-' := by
  have hdigit : ∀ width n, c ∈ (padded width n).toList → c.isDigit = true :=
    fun _ _ => isDigit_of_mem_padded
  simp only [dateChars, List.mem_append, List.mem_cons] at h
  rcases h with h | rfl | h | rfl | h <;> first | exact .inl (hdigit _ _ h) | simp

theorem widened_of_ascii {text : List Char} (h : ∀ c ∈ text, c.toNat < 128) :
    widened text = text := by
  unfold widened
  induction text with
  | nil => rfl
  | cons c rest ih =>
    rw [List.flatMap_cons, if_pos (h c List.mem_cons_self),
      ih fun d hd => h d (List.mem_cons_of_mem _ hd)]
    rfl

theorem lt_of_isDigit {c : Char} (h : c.isDigit = true) : c.toNat < 128 := by
  simp only [Char.isDigit, Bool.and_eq_true, decide_eq_true_eq, UInt32.le_iff_toNat_le] at h
  exact Nat.lt_of_le_of_lt h.2 (by decide)

end IsoReader

namespace Moment

open IsoReader Duration

/-- What the wall clock of a moment shows of the time of day. -/
def clock (moment : Moment) : Clock :=
  let (hours, minutes, seconds, rest) := Duration.clock ⟨moment.wall⟩
  ⟨hours, minutes, seconds, rest⟩

/-- The wall clock shows a time of day, and with the day this makes up the whole. -/
theorem clock_spec {moment : Moment} (h : 0 ≤ moment.wall) :
    moment.clock.Valid ∧ (moment.wall / perDay).toNat * perDay + moment.clock.span.microseconds =
      moment.wall := by
  obtain ⟨wall, offset⟩ := moment
  obtain ⟨total, rfl⟩ := Int.eq_ofNat_of_zero_le h
  have hfdiv : Int.fdiv (total : Int) 86400000000 = ((total / 86400000000 : Nat) : Int) := by
    rw [Int.fdiv_eq_ediv_of_nonneg _ (by decide)]
    rfl
  have hrest : ((total : Int) - ((total / 86400000000 : Nat) : Int) * 86400000000).toNat =
      total % 86400000000 := by omega
  have hclock : (⟨(total : Int), offset⟩ : Moment).clock =
      ⟨total % 86400000000 / 1000000 / 3600, total % 86400000000 / 1000000 / 60 % 60,
        total % 86400000000 / 1000000 % 60, total % 86400000000 % 1000000⟩ := by
    unfold clock Duration.clock days perDay
    simp only [hfdiv, hrest]
  rw [hclock]
  refine ⟨⟨?_, ?_, ?_, ?_⟩, ?_⟩ <;> dsimp only [Clock.span, perDay, perSecond] <;> omega

theorem toList_toText {moment : Moment} (h : moment.offset = ⟨0⟩) :
    moment.toText.toList = dateChars moment.date ++
      'T' :: (moment.clock.chars ++ ['+', '0', '0', ':', '0', '0']) := by
  have hzero : (offsetText ⟨0⟩).toList = ['+', '0', '0', ':', '0', '0'] := by decide
  have hfraction : ∀ n, (if n = 0 then "" else "." ++ padded 6 n).toList =
      if n = 0 then [] else '.' :: (padded 6 n).toList := by
    intro n
    split
    · rfl
    · simp
  rw [toText, h, String.toList_append, hzero]
  simp [wallText, clock, dateChars, Clock.chars, hfraction]
  rfl

/-- The text of a moment of universal time is read back as that moment. -/
theorem ofText_toText {moment : Moment} (h : moment.InRange) (hu : moment.offset = ⟨0⟩) :
    ofText moment.toText = .ok moment := by
  obtain ⟨hpos, hend⟩ := h
  obtain ⟨hclock, hsum⟩ := clock_spec hpos
  have hday : (moment.wall / perDay).toNat < dayCount := by
    unfold wallEnd perDay at hend
    unfold perDay
    omega
  obtain ⟨_, hyear, hmonth, htwelve, hone, hlength⟩ := Date.ofDay_spec (moment.wall / perDay).toNat
  have hlast := Date.year_ofDay_le hday
  have hlength := Nat.le_trans hlength (daysInMonth_le ..)
  have hcheck : moment.date.check = .ok () := Date.check_ofDay hday
  have htoDay : moment.date.toDay = (moment.wall / perDay).toNat := Date.toDay_ofDay _
  have hy : moment.date.year < 10000 := Nat.lt_succ_of_le hlast
  have hm : moment.date.month < 100 := Nat.lt_of_le_of_lt htwelve (by decide)
  have hd : moment.date.day < 100 := Nat.lt_of_le_of_lt hlength (by decide)
  obtain ⟨chars, hchars⟩ : ∃ chars, chars = dateChars moment.date ++
    'T' :: (moment.clock.chars ++ ['+', '0', '0', ':', '0', '0']) := ⟨_, rfl⟩
  -- The reader sees the characters as they are, all of them ASCII.
  have hwidened : widened moment.toText.toList = chars := by
    rw [toList_toText hu, ← hchars]
    refine widened_of_ascii fun c hc => ?_
    rw [hchars, List.mem_append, List.mem_cons, List.mem_append] at hc
    rcases hc with hc | rfl | hc | hc
    · rcases mem_dateChars hc with hc | rfl
      · exact lt_of_isDigit hc
      · decide
    · decide
    · rcases Clock.mem_chars hc with hc | rfl | rfl
      · exact lt_of_isDigit hc
      · decide
      · decide
    · have hascii : ['+', '0', '0', ':', '0', '0'].all (fun c => c.toNat < 128) = true := by decide
      exact of_decide_eq_true (List.all_eq_true.mp hascii c hc)
  -- The date ends after ten characters, and the time of day begins behind the next one.
  have hlong : ¬ chars.length < 7 := by
    rw [hchars, List.length_append, length_dateChars hy hm hd]
    omega
  have hstop : dateLength? chars = some 10 := by
    rw [hchars]
    exact dateLength?_chars hy hm hd _
  have hdate : readDate? 10 chars = some (.ok moment.date) := by
    rw [hchars]
    exact readDate?_chars hy hm hd hcheck _
  have hdrop : chars.drop 10 = 'T' :: (moment.clock.chars ++ ['+', '0', '0', ':', '0', '0']) := by
    rw [hchars]
    exact List.drop_left' (length_dateChars hy hm hd)
  have hparsed : (⟨moment.date.toDay * perDay + moment.clock.span.microseconds, ⟨0⟩⟩ : Moment) =
      moment := by
    rw [htoDay, hsum, ← hu]
  have hoffset : ¬ perDay ≤ ((⟨0⟩ : Duration).microseconds.natAbs : Int) := by decide
  unfold ofText
  rw [hwidened]
  simp only [if_neg hlong, hstop, hdate, hdrop, Option.bind_eq_bind, Option.bind_some]
  rw [if_pos (by decide), readTime?_chars hclock]
  simp only [Option.bind_some, Option.getD_some, if_neg hoffset, Clock.check_of_valid hclock,
    hparsed]

end Moment
end MagnetStream.Calendar
