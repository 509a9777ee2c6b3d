import MagnetStream.Proofs.Config.Soundness

/-!
# Bounds of the service

Four settings of the service have a bound. A section is refused at one of them, with the complaint
about its bound, just when the number that is coerced from its value lies out of bounds; so the
settings of a service that is accepted keep to their bounds, with one exception: a number of seconds
that is no number is not at most zero, and passes (`service_keeps_bounds_but_for_nan`).
-/

namespace MagnetStream.Config

/-- The settings of the service that have a bound. -/
inductive Bound where
  | timeout
  | cacheAge
  | pollBudget
  | pollInterval
deriving DecidableEq

namespace Bound

/-- The name of a setting in the section of the service. -/
def name : Bound → String
  | timeout => "timeout_seconds"
  | cacheAge => "cache_age_seconds"
  | pollBudget => "poll_budget"
  | pollInterval => "poll_interval_seconds"

def complaint : Bound → String
  | timeout | pollInterval => "must be > 0"
  | cacheAge => "cache_age_seconds must be >= 0"
  | pollBudget => "poll_budget must be >= 1"

/-- The number that is coerced from a value compares as out of bounds. -/
def Exceeded (given : Json) : Bound → Prop
  | timeout | pollInterval => ∃ seconds, readFloat given = .ok seconds ∧ seconds.atMostZero = true
  | cacheAge => ∃ age, readInt given = .ok age ∧ age < 0
  | pollBudget => ∃ budget, readInt given = .ok budget ∧ budget < 1

/-- What is coerced from a value is no number, where any floating-point number may be given. -/
def Senseless (given : Json) : Bound → Prop
  | timeout | pollInterval => readFloat given = .ok .nan
  | cacheAge | pollBudget => False

/-- A setting of a service keeps to its bound. -/
def Kept (service : Service) : Bound → Prop
  | timeout => service.timeout.isPositive = true
  | cacheAge => 0 ≤ service.cacheAge
  | pollBudget => 1 ≤ service.pollBudget
  | pollInterval => service.pollInterval.isPositive = true

end Bound

namespace BoundsLemmas

/-! ## What readers report -/

section Readers

variable {given : Json} {reason : String}

theorem plainInt_ne_refused (text : List Char) : plainInt text ≠ .error (.refused reason) := by
  unfold plainInt
  dsimp only
  repeat' split
  all_goals exact nofun

theorem readInt_ne_refused (given : Json) : readInt given ≠ .error (.refused reason) := by
  cases given with
  | str text =>
    rw [readInt, intOfText]
    split
    · exact plainInt_ne_refused _
    · simp
  | float x =>
    rw [readInt, intOfFloat]
    split
    · simp
    · split
      · split <;> simp
      · simp
  | _ => simp [readInt]

theorem readFloat_ne_refused (given : Json) : readFloat given ≠ .error (.refused reason) := by
  cases given with
  | str text =>
    rw [readFloat, floatOfText]
    split
    · simp
    · split <;> simp
  | int n =>
    rw [readFloat]
    split <;> simp
  | _ => simp [readFloat]

/-- A number is refused for a reason just when it does not satisfy the condition. -/
theorem require_reports_refused {α : Type} {read : Json → Except Problem α}
    (h : ∀ reason, read given ≠ .error (.refused reason)) {condition : α → Bool}
    {complaint : String} :
    ((Checked.ofExcept (read given)).require condition complaint).Reports
        ⟨[], .refused complaint⟩ ↔
      ∃ value, read given = .ok value ∧ condition value = false := by
  rw [Checked.require_reports, Checked.ofExcept_reports]
  simp only [Checked.ofExcept_eq_valid, and_true, Issue.mk.injEq, true_and]
  constructor
  · rintro (⟨found, hfound, rfl⟩ | h)
    · exact absurd hfound (h complaint)
    · exact h
  · exact .inr

theorem whole_require {α : Type} (result : Except Problem α) (condition : α → Bool)
    (complaint : String) : ((Checked.ofExcept result).require condition complaint).Whole := by
  refine (Checked.whole_ofExcept result).bind fun value => ?_
  split
  · exact Checked.whole_valid value
  · exact Checked.whole_problem _

theorem whole_readSeconds (given : Json) : (readSeconds given).Whole := whole_require ..

theorem whole_readCacheAge (given : Json) : (readCacheAge given).Whole := whole_require ..

theorem whole_readPollBudget (given : Json) : (readPollBudget given).Whole := whole_require ..

theorem whole_readBaseUrl (given : Json) : (readBaseUrl given).Whole := by
  refine (Checked.whole_ofExcept _).bind fun text => ?_
  split
  · exact Checked.whole_valid _
  · exact Checked.whole_problem _

theorem whole_readItems (index : Nat) (items : List Json) : (readItems index items).Whole := by
  induction items generalizing index with
  | nil => exact Checked.whole_valid _
  | cons item rest ih => exact (((Checked.whole_ofExcept _).under _).map _).seq (ih _)

theorem whole_readExtraHeaders (given : Json) : (readExtraHeaders given).Whole := by
  have htexts : (readTexts given).Whole := by
    cases given with
    | arr items => exact whole_readItems 0 items
    | _ => exact Checked.whole_problem _
  refine htexts.bind fun texts => ?_
  split
  · exact Checked.whole_valid _
  · exact Checked.whole_problem _

end Readers

/-! ## What the section reports -/

section Section

variable {α : Type} {members : List (String × Json)} {name : String} {default : α}
  {read : Json → Checked α} {issue : Issue}

theorem whole_member (members : List (String × Json)) (name : String) (default : α)
    (h : ∀ given, (read given).Whole) : (member members name default read).Whole := by
  unfold member
  split
  · exact (h _).under _
  · exact Checked.whole_valid _

/-- A member reports what its reader does, at its name. -/
theorem member_reports : (member members name default read).Reports issue ↔
    ∃ given inner, Entries.get? members name = some given ∧ (read given).Reports inner ∧
      issue = ⟨.member name :: inner.path, inner.problem⟩ := by
  unfold member
  cases Entries.get? members name with
  | none => simp [Checked.Reports]
  | some given => simp [Checked.under_reports]

/-- What is reported at a name is reported by the member of that name. -/
theorem member_reports_at {other : String} {path : List Place} {found : Problem} :
    (member members name default read).Reports ⟨.member other :: path, found⟩ ↔
      other = name ∧ ∃ given, Entries.get? members name = some given ∧
        (read given).Reports ⟨path, found⟩ := by
  rw [member_reports]
  constructor
  · rintro ⟨given, inner, hgiven, hread, heq⟩
    cases heq
    exact ⟨rfl, given, hgiven, hread⟩
  · rintro ⟨rfl, given, hgiven, hread⟩
    exact ⟨given, ⟨path, found⟩, hgiven, hread, rfl⟩

/-- The section of the service reports what its members do. -/
theorem readService_reports : (readService members).Reports issue ↔
    (member members "base_url" defaultService.baseUrl readBaseUrl).Reports issue ∨
      (member members "timeout_seconds" defaultService.timeout readSeconds).Reports issue ∨
      (member members "cache_age_seconds" defaultService.cacheAge readCacheAge).Reports issue ∨
      (member members "extra_headers" defaultService.extraHeaders readExtraHeaders).Reports issue ∨
      (member members "poll_budget" defaultService.pollBudget readPollBudget).Reports issue ∨
      (member members "poll_interval_seconds" defaultService.pollInterval readSeconds).Reports
        issue := by
  have hurl := (whole_member members "base_url" defaultService.baseUrl
    whole_readBaseUrl).map Service.mk
  have htimeout := hurl.seq
    (whole_member members "timeout_seconds" defaultService.timeout whole_readSeconds)
  have hage := htimeout.seq
    (whole_member members "cache_age_seconds" defaultService.cacheAge whole_readCacheAge)
  have hheaders := hage.seq
    (whole_member members "extra_headers" defaultService.extraHeaders whole_readExtraHeaders)
  have hbudget := hheaders.seq
    (whole_member members "poll_budget" defaultService.pollBudget whole_readPollBudget)
  unfold readService
  dsimp only
  rw [Checked.seq_reports hbudget (whole_member _ _ _ whole_readSeconds),
    Checked.seq_reports hheaders (whole_member _ _ _ whole_readPollBudget),
    Checked.seq_reports hage (whole_member _ _ _ whole_readExtraHeaders),
    Checked.seq_reports htimeout (whole_member _ _ _ whole_readCacheAge),
    Checked.seq_reports hurl (whole_member _ _ _ whole_readSeconds), Checked.map_reports]
  simp only [or_assoc]

/-- The complaint about a bound is reported at its setting just when the bound is exceeded. -/
theorem readService_reports_bound (bound : Bound) :
    (readService members).Reports ⟨[.member bound.name], .refused bound.complaint⟩ ↔
      ∃ given, Entries.get? members bound.name = some given ∧ bound.Exceeded given := by
  have hseconds : ∀ given, (readSeconds given).Reports ⟨[], .refused "must be > 0"⟩ ↔
      ∃ seconds, readFloat given = .ok seconds ∧ seconds.atMostZero = true := fun given =>
    (require_reports_refused fun _ => readFloat_ne_refused given).trans (by simp)
  have hage : ∀ given,
      (readCacheAge given).Reports ⟨[], .refused "cache_age_seconds must be >= 0"⟩ ↔
        ∃ age, readInt given = .ok age ∧ age < 0 := fun given =>
    (require_reports_refused fun _ => readInt_ne_refused given).trans (by simp)
  have hbudget : ∀ given,
      (readPollBudget given).Reports ⟨[], .refused "poll_budget must be >= 1"⟩ ↔
        ∃ budget, readInt given = .ok budget ∧ budget < 1 := fun given =>
    (require_reports_refused fun _ => readInt_ne_refused given).trans (by simp)
  rw [readService_reports]
  -- Only the member of that name can report at it.
  cases bound with
  | timeout => simp [member_reports_at, Bound.name, Bound.complaint, Bound.Exceeded, hseconds]
  | cacheAge => simp [member_reports_at, Bound.name, Bound.complaint, Bound.Exceeded, hage]
  | pollBudget => simp [member_reports_at, Bound.name, Bound.complaint, Bound.Exceeded, hbudget]
  | pollInterval => simp [member_reports_at, Bound.name, Bound.complaint, Bound.Exceeded, hseconds]

end Section

/-! ## What an accepted service holds -/

section Accepted

variable {members : List (String × Json)} {name : String}

/-- Seconds that are not at most zero are positive unless they are no number. -/
theorem isPositive_iff_ne_nan {seconds : Binary64} (h : seconds.atMostZero = false) :
    seconds.isPositive = true ↔ seconds ≠ .nan := by
  cases seconds with
  | nan => simp [Binary64.isPositive]
  | _ => simpa [Binary64.atMostZero] using h

/-- The seconds of an accepted member are positive just when nothing stands there that reads as no
number. -/
theorem isPositive_iff_of_member {default seconds : Binary64}
    (h : member members name default readSeconds = .valid seconds)
    (hdefault : default.isPositive = true) :
    seconds.isPositive = true ↔
      ¬ ∃ given, Entries.get? members name = some given ∧ readFloat given = .ok .nan := by
  unfold member at h
  split at h
  · next given hgiven =>
    obtain ⟨hread, hcondition⟩ := Checked.require_eq_valid.mp (Checked.under_eq_valid.mp h)
    rw [Checked.ofExcept_eq_valid] at hread
    rw [isPositive_iff_ne_nan (by simpa using hcondition)]
    simp [hgiven, hread]
  · next hnone =>
    cases h
    simp [hdefault, hnone]

theorem kept_iff {service : Service} (h : readService members = .valid service) (bound : Bound) :
    bound.Kept service ↔
      ¬ ∃ given, Entries.get? members bound.name = some given ∧ bound.Senseless given := by
  have hparts := parts_of_readService h
  have hsound := sound_of_readService h
  cases bound with
  | timeout => exact isPositive_iff_of_member hparts.timeout (by decide +kernel)
  | cacheAge => simpa [Bound.Kept, Bound.Senseless] using hsound.cacheAge
  | pollBudget => simpa [Bound.Kept, Bound.Senseless] using hsound.pollBudget
  | pollInterval => exact isPositive_iff_of_member hparts.pollInterval (by decide +kernel)

end Accepted
end BoundsLemmas

open BoundsLemmas

/-- The settings of every accepted service keep to their bounds, unless seconds are given that are
no number; and every value that is out of bounds is reported at its setting. -/
theorem service_keeps_bounds_but_for_nan (value : Json) (bound : Bound) :
    (∀ service, readSection readService value = .valid service →
      (bound.Kept service ↔
        ¬ ∃ given, value.member? bound.name = some given ∧ bound.Senseless given)) ∧
      ((readSection readService value).Reports ⟨[.member bound.name], .refused bound.complaint⟩ ↔
        ∃ given, value.member? bound.name = some given ∧ bound.Exceeded given) := by
  cases value with
  | obj members => exact ⟨fun service h => kept_iff h bound, readService_reports_bound bound⟩
  | _ =>
    refine ⟨fun service h => ?_, ?_⟩
    · cases h
    · simp [readSection, Checked.Reports, Checked.problem, Json.member?]

/-- A section with seconds in letters, with blanks around them. -/
def writtenSeconds : Json := .obj [("timeout_seconds", .str " 25e-1 "), ("poll_budget", .bool true)]

/-- The service of `writtenSeconds`. -/
def quickService : Service :=
  { defaultService with timeout := .ofDecimal false 25 (-1), pollBudget := 1 }

/-- The seconds are positive. -/
theorem service_keeps_bounds_but_for_nan_in_letters :
    readSection readService writtenSeconds = .valid quickService ∧
      quickService.timeout.isPositive = true := by
  have hread : readSection readService writtenSeconds = .valid quickService := rfl
  refine ⟨hread, ((service_keeps_bounds_but_for_nan writtenSeconds .timeout).1 _ hread).mpr ?_⟩
  rintro ⟨given, hgiven, hnan⟩
  cases hgiven
  cases hnan

/-- Seconds that are no number are accepted, and they are not positive. -/
theorem nan_seconds_are_accepted :
    ∃ service,
      readSection readService
        (.obj [("timeout_seconds", .str "nan"), ("poll_interval_seconds", .str "nan")]) =
        .valid service ∧
      service.timeout.isPositive = false ∧ service.pollInterval.isPositive = false :=
  ⟨{ defaultService with timeout := .nan, pollInterval := .nan }, rfl, rfl, rfl⟩

end MagnetStream.Config
