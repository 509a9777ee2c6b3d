import MagnetStream.Json.Basic

/-!
# Values as text

A value that has something in it is never shown as an empty text (`Json.display_ne_empty`).
-/

namespace MagnetStream

namespace Binary64

theorem append_ne_empty {front back : String} (h : back ≠ "") : front ++ back ≠ "" := by
  intro heq
  rw [String.append_eq_empty_iff] at heq
  exact h heq.2

theorem positional_ne_empty (digits : List Char) (places : Int) :
    positional digits places true ≠ "" := by
  unfold positional
  dsimp only
  split
  · simp
  · split <;> simp

theorem scientific_ne_empty (digits : List Char) (power : Int) : scientific digits power ≠ "" := by
  unfold scientific
  simp

theorem toText_ne_empty (x : Binary64) : x.toText ≠ "" := by
  unfold toText
  split
  · decide
  · exact append_ne_empty (by decide)
  · refine append_ne_empty ?_
    split
    · decide
    · unfold Layout.write
      dsimp only
      split
      · exact positional_ne_empty _ _
      · exact scientific_ne_empty _ _

end Binary64

namespace Json

theorem display_ne_empty {value : Json} (h : value.isSomething = true) : value.display ≠ "" := by
  cases value with
  | null => cases h
  | bool b => cases b <;> decide
  | int n =>
    show toString n ≠ ""
    rw [Int.toString_eq_repr, Int.repr_eq_if]
    split
    · exact Nat.repr_ne_empty
    · exact Binary64.append_ne_empty Nat.repr_ne_empty
  | float x => exact x.toText_ne_empty
  | str text =>
    rintro rfl
    cases h
  | arr items => simp [display, literal]
  | obj members => simp [display, literal]

end Json
end MagnetStream
