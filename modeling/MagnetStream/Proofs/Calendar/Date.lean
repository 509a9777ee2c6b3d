import Mathlib.Algebra.GroupWithZero.Nat
import MagnetStream.Calendar.Date

/-!
# Days and dates

Counting days and naming dates are inverse to each other on the calendar: the date of a day exists
(`Date.check_ofDay`), and its number is the day (`Date.toDay_ofDay`).
-/

namespace MagnetStream.Calendar

def yearLength (year : Nat) : Nat := if isLeap year then 366 else 365

theorem sum_monthLengths (year : Nat) : (monthLengths year).sum = yearLength year := by
  unfold monthLengths yearLength
  cases isLeap year <;> rfl

theorem daysInMonth_le (year month : Nat) : daysInMonth year month ≤ 31 := by
  unfold daysInMonth
  split
  · decide
  · have hall : ∀ length ∈ monthLengths year, length ≤ 31 := by
      unfold monthLengths
      cases isLeap year <;> decide
    rw [List.getD_eq_getElem?_getD]
    cases hlength : (monthLengths year)[month - 1]? with
    | none => decide
    | some length => exact hall length (List.mem_of_getElem? hlength)

/-- A year and the place of a day in it make up the day, and the place lies in the year. -/
theorem yearOfDay_spec (day : Nat) :
    daysBeforeYear (yearOfDay day).1 + (yearOfDay day).2 = day ∧
      (yearOfDay day).2 < yearLength (yearOfDay day).1 := by
  -- The four cycles of the calendar, each with what is left of the day.
  obtain ⟨n400, hn400⟩ : ∃ n, n = day / 146097 := ⟨_, rfl⟩
  obtain ⟨d400, hd400⟩ : ∃ d, d = day % 146097 := ⟨_, rfl⟩
  obtain ⟨n100, hn100⟩ : ∃ n, n = min (d400 / 36524) 3 := ⟨_, rfl⟩
  obtain ⟨d100, hd100⟩ : ∃ d, d = d400 - n100 * 36524 := ⟨_, rfl⟩
  obtain ⟨n4, hn4⟩ : ∃ n, n = d100 / 1461 := ⟨_, rfl⟩
  obtain ⟨d4, hd4⟩ : ∃ d, d = d100 - n4 * 1461 := ⟨_, rfl⟩
  obtain ⟨n1, hn1⟩ : ∃ n, n = min (d4 / 365) 3 := ⟨_, rfl⟩
  have hspec : yearOfDay day = (n400 * 400 + n100 * 100 + n4 * 4 + n1 + 1, d4 - n1 * 365) := by
    rw [hn1, hd4, hn4, hd100, hn100, hd400, hn400]
    rfl
  have hday : day = n400 * 146097 + d400 := by omega
  have hcentury : d400 = n100 * 36524 + d100 ∧ n100 ≤ 3 ∧ (n100 < 3 → d100 < 36524) ∧
      d100 ≤ 36524 := by omega
  have hfour : d100 = n4 * 1461 + d4 ∧ n4 ≤ 24 ∧ d4 < 1461 := by omega
  have hyear : n1 ≤ 3 ∧ n1 * 365 ≤ d4 ∧ (n1 < 3 → d4 - n1 * 365 < 365) ∧
      d4 - n1 * 365 ≤ 365 := by omega
  clear hn400 hd400 hn100 hd100 hn4 hd4 hn1
  rw [hspec]
  dsimp only
  have hquarter : (n400 * 400 + n100 * 100 + n4 * 4 + n1) / 4 = n400 * 100 + n100 * 25 + n4 := by
    omega
  have hhundred : (n400 * 400 + n100 * 100 + n4 * 4 + n1) / 100 = n400 * 4 + n100 := by omega
  have hcycle : (n400 * 400 + n100 * 100 + n4 * 4 + n1) / 400 = n400 := by omega
  constructor
  · unfold daysBeforeYear
    simp only [Nat.add_sub_cancel, hquarter, hhundred, hcycle]
    omega
  · by_cases hlast : d4 - n1 * 365 = 365
    · -- Only the last year of four has a 366th day, and of those the last one of a century
      -- only if the century is the last of four.
      have hleap : isLeap (n400 * 400 + n100 * 100 + n4 * 4 + n1 + 1) = true := by
        simp only [isLeap, Bool.and_eq_true, Bool.or_eq_true, bne_iff_ne, beq_iff_eq]
        omega
      simp [yearLength, hleap, hlast]
    · unfold yearLength
      split <;> omega

/-- Counting months on finds the month that holds a day, if there are enough of them. -/
theorem monthOfDay_spec (month day : Nat) {lengths : List Nat} (h : day < lengths.sum) :
    ∃ passed, (monthOfDay month day lengths).1 = month + passed ∧ passed < lengths.length ∧
      1 ≤ (monthOfDay month day lengths).2 ∧
      (monthOfDay month day lengths).2 ≤ lengths.getD passed 0 ∧
      (lengths.take passed).foldr (· + ·) 0 + ((monthOfDay month day lengths).2 - 1) = day := by
  induction lengths generalizing month day with
  | nil => simp at h
  | cons length rest ih =>
    unfold monthOfDay
    split
    · next hhere =>
      exact ⟨0, rfl, by simp, by simp, by simpa using Nat.succ_le_of_lt hhere, by simp⟩
    · next hlater =>
      rw [List.sum_cons] at h
      obtain ⟨passed, hmonth, hlength, hone, hle, hsum⟩ := ih (month + 1) (day - length) (by omega)
      refine ⟨passed + 1, by omega, by simpa using hlength, hone, by simpa using hle, ?_⟩
      simp only [List.take_succ_cons, List.foldr_cons]
      omega

namespace Date

/-- The date of a day in its parts. -/
theorem ofDay_spec (day : Nat) :
    (ofDay day).toDay = day ∧ 1 ≤ (ofDay day).year ∧ 1 ≤ (ofDay day).month ∧
      (ofDay day).month ≤ 12 ∧ 1 ≤ (ofDay day).day ∧
      (ofDay day).day ≤ daysInMonth (ofDay day).year (ofDay day).month := by
  obtain ⟨hyear, hplace⟩ := yearOfDay_spec day
  rw [← sum_monthLengths] at hplace
  obtain ⟨passed, hmonth, hlength, hone, hle, hsum⟩ := monthOfDay_spec 1 _ hplace
  have hofDay : ofDay day = ⟨(yearOfDay day).1,
      (monthOfDay 1 (yearOfDay day).2 (monthLengths (yearOfDay day).1)).1,
      (monthOfDay 1 (yearOfDay day).2 (monthLengths (yearOfDay day).1)).2⟩ := rfl
  have htwelve : (monthLengths (yearOfDay day).1).length = 12 := rfl
  have hpassed : 1 + passed - 1 = passed := by omega
  rw [hofDay]
  refine ⟨?_, ?_, by dsimp only; omega, by dsimp only; omega, hone, ?_⟩
  · unfold toDay daysBeforeMonth
    dsimp only
    rw [hmonth, hpassed]
    omega
  · dsimp only [yearOfDay]
    omega
  · unfold daysInMonth
    dsimp only
    rw [hmonth, if_neg (by omega), hpassed]
    exact hle

/-- The number of a day's date is the day. -/
theorem toDay_ofDay (day : Nat) : (ofDay day).toDay = day := (ofDay_spec day).1

/-- A day of the calendar has a year of the calendar. -/
theorem year_ofDay_le {day : Nat} (h : day < dayCount) : (ofDay day).year ≤ lastYear := by
  have hyear : (ofDay day).year = (yearOfDay day).1 := rfl
  have hspec := (yearOfDay_spec day).1
  have hcount : dayCount = 3652059 := by decide
  rw [hyear, lastYear]
  unfold daysBeforeYear at hspec
  dsimp only at hspec
  omega

/-- The date of a day of the calendar exists. -/
theorem check_ofDay {day : Nat} (h : day < dayCount) : (ofDay day).check = .ok () := by
  obtain ⟨_, hyear, hmonth, htwelve, hday, hlength⟩ := ofDay_spec day
  have hlast := year_ofDay_le h
  rw [check, if_neg (by omega), if_neg (by omega), if_neg (by omega)]

end Date
end MagnetStream.Calendar
