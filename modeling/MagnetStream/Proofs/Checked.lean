import MagnetStream.Checked

/-!
# Checked values that are valid, and those that are not

A value that is put together from checked parts is valid just when all its parts are. These are the
inversions with which readers are taken apart. As long as no part breaks the reading off
(`Checked.Whole`), everything that is wrong with a part is reported for the whole, and nothing else
is (`Checked.seq_reports`).
-/

namespace MagnetStream.Checked

variable {α β : Type}

theorem map_eq_valid {f : α → β} {checked : Checked α} {value : β} :
    f <$> checked = .valid value ↔ ∃ part, checked = .valid part ∧ f part = value := by
  show map f checked = .valid value ↔ _
  cases checked <;> simp [map]

theorem seq_eq_valid {step : Checked (α → β)} {checked : Checked α} {value : β} :
    step <*> checked = .valid value ↔
      ∃ f part, step = .valid f ∧ checked = .valid part ∧ f part = value := by
  show both step checked = .valid value ↔ _
  cases step <;> cases checked <;> simp [both]

theorem bind_eq_valid {checked : Checked α} {next : α → Checked β} {value : β} :
    checked.bind next = .valid value ↔
      ∃ part, checked = .valid part ∧ next part = .valid value := by
  cases checked <;> simp [bind]

theorem under_eq_valid {place : Place} {checked : Checked α} {value : α} :
    checked.under place = .valid value ↔ checked = .valid value := by
  cases checked <;> simp [under]

theorem ofExcept_eq_valid {result : Except Problem α} {value : α} :
    ofExcept result = .valid value ↔ result = .ok value := by
  cases result <;> simp [ofExcept, problem]

theorem require_eq_valid {condition : α → Bool} {reason : String} {checked : Checked α}
    {value : α} :
    checked.require condition reason = .valid value ↔
      checked = .valid value ∧ condition value = true := by
  unfold require
  rw [bind_eq_valid]
  constructor
  · rintro ⟨part, hpart, hvalue⟩
    split at hvalue
    · next hcondition =>
      cases hvalue
      exact ⟨hpart, hcondition⟩
    · cases hvalue
  · rintro ⟨hvalue, hcondition⟩
    exact ⟨value, hvalue, if_pos hcondition⟩

/-! ## What is reported -/

/-- Reading came to its end: there is a value, or a report of what is wrong. -/
def Whole : Checked α → Prop
  | broken _ => False
  | _ => True

def Reports (checked : Checked α) (issue : Issue) : Prop :=
  ∃ issues, checked = invalid issues ∧ issue ∈ issues

section Reports

variable {checked : Checked α} {step : Checked (α → β)} {issue : Issue}

theorem whole_valid (value : α) : (valid value).Whole := trivial

theorem whole_problem (found : Problem) : (problem found : Checked α).Whole := trivial

theorem whole_ofExcept (result : Except Problem α) : (ofExcept result).Whole := by
  cases result <;> trivial

theorem Whole.map (h : checked.Whole) (f : α → β) : (f <$> checked).Whole := by
  cases checked with
  | broken failure => exact h.elim
  | _ => trivial

theorem Whole.seq (hstep : step.Whole) (h : checked.Whole) : (step <*> checked).Whole := by
  cases step with
  | broken failure => exact hstep.elim
  | _ =>
    cases checked with
    | broken failure => exact h.elim
    | _ => trivial

theorem Whole.bind {next : α → Checked β} (h : checked.Whole)
    (hnext : ∀ value, (next value).Whole) : (checked.bind next).Whole := by
  cases checked with
  | valid value => exact hnext value
  | invalid issues => trivial
  | broken failure => exact h.elim

theorem Whole.under (h : checked.Whole) (place : Place) : (checked.under place).Whole := by
  cases checked with
  | broken failure => exact h.elim
  | _ => trivial

theorem map_reports {f : α → β} : (f <$> checked).Reports issue ↔ checked.Reports issue := by
  show (Checked.map f checked).Reports issue ↔ _
  cases checked <;> simp [Reports, Checked.map]

/-- What is wrong with two parts is all reported, and nothing else is. -/
theorem seq_reports (hstep : step.Whole) (h : checked.Whole) :
    (step <*> checked).Reports issue ↔ step.Reports issue ∨ checked.Reports issue := by
  show (both step checked).Reports issue ↔ _
  cases step with
  | broken failure => exact hstep.elim
  | _ =>
    cases checked with
    | broken failure => exact h.elim
    | _ => simp [Reports, both]

theorem ofExcept_reports {result : Except Problem α} :
    (ofExcept result).Reports issue ↔ ∃ found, result = .error found ∧ issue = ⟨[], found⟩ := by
  cases result <;> simp [Reports, ofExcept, problem]

theorem under_reports {place : Place} :
    (checked.under place).Reports issue ↔
      ∃ inner, checked.Reports inner ∧ issue = ⟨place :: inner.path, inner.problem⟩ := by
  cases checked <;> simp [Reports, under, eq_comm]

theorem require_reports {condition : α → Bool} {reason : String} :
    (checked.require condition reason).Reports issue ↔ checked.Reports issue ∨
      ∃ value, checked = .valid value ∧ condition value = false ∧
        issue = ⟨[], .refused reason⟩ := by
  cases checked with
  | valid value => cases h : condition value <;> simp [Reports, require, bind, problem, h]
  | _ => simp [Reports, require, bind]

end Reports
end MagnetStream.Checked
