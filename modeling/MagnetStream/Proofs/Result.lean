/-!
# Results that went well

A chain of steps that may fail went well when each of its steps did. These are the inversions with
which chains are taken apart, and the ways in which they fail.
-/

namespace Except

variable {ε ε' α β : Type}

theorem bind_eq_ok {result : Except ε α} {next : α → Except ε β} {value : β} :
    result >>= next = .ok value ↔ ∃ first, result = .ok first ∧ next first = .ok value := by
  cases result with
  | error failure => exact ⟨(nomatch ·), fun ⟨_, h, _⟩ => (nomatch h)⟩
  | ok first =>
    constructor
    · exact fun h => ⟨first, rfl, h⟩
    · rintro ⟨_, ⟨⟩, h⟩
      exact h

theorem map_eq_ok {result : Except ε α} {change : α → β} {value : β} :
    result.map change = .ok value ↔ ∃ found, result = .ok found ∧ change found = value := by
  cases result with
  | error failure => simp [Except.map]
  | ok found => simp [Except.map]

theorem mapError_eq_ok {result : Except ε α} {describe : ε → ε'} {value : α} :
    result.mapError describe = .ok value ↔ result = .ok value := by
  cases result with
  | error failure => exact ⟨(nomatch ·), (nomatch ·)⟩
  | ok first => exact ⟨fun h => by cases h; rfl, fun h => by cases h; rfl⟩

/-- What comes of a result that went well can be compared even where failures cannot. -/
theorem toOption_eq_some {result : Except ε α} {value : α} :
    result.toOption = some value ↔ result = .ok value := by
  cases result with
  | error failure => exact ⟨(nomatch ·), (nomatch ·)⟩
  | ok first => exact ⟨fun h => by cases h; rfl, fun h => by cases h; rfl⟩

theorem bind_fails_iff {result : Except ε α} {next : α → Except ε β} :
    (∃ failure, result >>= next = .error failure) ↔
      (∃ failure, result = .error failure) ∨
        ∃ first, result = .ok first ∧ ∃ failure, next first = .error failure := by
  cases result with
  | error failure => exact ⟨fun _ => .inl ⟨failure, rfl⟩, fun _ => ⟨failure, rfl⟩⟩
  | ok first =>
    constructor
    · exact fun h => .inr ⟨first, rfl, h⟩
    · rintro (⟨_, ⟨⟩⟩ | ⟨_, ⟨⟩, h⟩)
      exact h

/-- A list of steps fails if one of them does. -/
theorem mapM_fails_iff {step : α → Except ε β} {items : List α} :
    (∃ failure, items.mapM step = .error failure) ↔
      ∃ item ∈ items, ∃ failure, step item = .error failure := by
  induction items with
  | nil => simp [pure, Except.pure]
  | cons item rest ih =>
    simp only [List.mapM_cons, bind_fails_iff, List.mem_cons, exists_eq_or_imp, ← ih]
    cases step item with
    | error failure => simp
    | ok first => simp [pure, Except.pure]

end Except
