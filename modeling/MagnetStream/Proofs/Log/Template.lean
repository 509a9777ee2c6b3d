import Mathlib.Data.List.TakeDrop
import MagnetStream.Log.Template

/-!
# What it takes to fill a template

Reading a template never ends for want of fuel (`readPieces?_of_length_le`). A row of values fills
it only if there are as many of them as its slots take (`length_eq_totalDemand`): one for each slot,
and one more for each width and each precision that is left to the values.
-/

namespace MagnetStream.Log

def Amount.demand (amount : Amount) : Nat := if amount = .nextValue then 1 else 0

/-- How many values of a row a piece takes. -/
def Piece.demand : Piece → Nat
  | .plain _ => 0
  | .slot taker => taker.width.demand + taker.precision.demand + 1

/-- How many values of a row the pieces of a template take together. -/
def totalDemand : List Piece → Nat
  | [] => 0
  | piece :: rest => piece.demand + totalDemand rest

namespace TemplateLemmas

/-! ## Reading -/

section Reading

variable {text rest : List Char}

theorem length_takeBracketed? {inner : Nat} {key : List Char}
    (h : takeBracketed? inner text = some (key, rest)) : rest.length ≤ text.length := by
  fun_induction takeBracketed? inner text generalizing key with
  | case1 => cases h
  | case2 after =>
    cases h
    simp
  | case3 =>
    rename_i ih
    obtain ⟨⟨found, behind⟩, hfound, heq⟩ := Option.map_eq_some_iff.mp h
    cases heq
    exact Nat.le_trans (ih hfound) (by simp)

theorem length_takeKey? {key : Option String} (h : takeKey? text = some (key, rest)) :
    rest.length ≤ text.length := by
  unfold takeKey? at h
  split at h
  · obtain ⟨⟨found, after⟩, hfound, heq⟩ := Option.map_eq_some_iff.mp h
    cases heq
    exact Nat.le_trans (length_takeBracketed? hfound) (by simp)
  · cases h
    exact Nat.le_refl _

theorem length_takeAmount (text : List Char) : (takeAmount text).2.length ≤ text.length := by
  unfold takeAmount
  split
  · simp
  · split
    · exact Nat.le_refl _
    · next hspan =>
      rw [Binary64.spanDigits, List.span_eq_takeWhile_dropWhile] at hspan
      rw [← (Prod.mk.inj hspan).2]
      exact (List.dropWhile_sublist _).length_le

theorem length_takePrecision (text : List Char) :
    (takePrecision text).2.length ≤ text.length := by
  unfold takePrecision
  split
  · next behind =>
    have hbehind := length_takeAmount behind
    split
    · next hamount =>
      rw [hamount] at hbehind
      exact Nat.le_trans hbehind (by simp)
    · exact Nat.le_trans hbehind (by simp)
  · exact Nat.le_refl _

theorem length_dropSize (text : List Char) : (dropSize text).length ≤ text.length := by
  unfold dropSize
  split
  · split <;> simp
  · exact Nat.le_refl _

/-- A slot has at least a letter. -/
theorem length_readSlot? {slot : Slot} (h : readSlot? text = some (slot, rest)) :
    rest.length < text.length := by
  obtain ⟨⟨key, behind⟩, hkey, h⟩ := Option.bind_eq_some_iff.mp h
  have hbehind := length_takeKey? hkey
  simp only [List.span_eq_takeWhile_dropWhile] at h
  set afterFlags := behind.dropWhile ['-', '+', ' ', '#', '0'].contains
  have hafter : afterFlags.length ≤ behind.length := (List.dropWhile_sublist _).length_le
  have hwidth := length_takeAmount afterFlags
  have hprecision := length_takePrecision (takeAmount afterFlags).2
  have hsize := length_dropSize (takePrecision (takeAmount afterFlags).2).2
  split at h
  · next letter after hletter =>
    cases h
    rw [hletter, List.length_cons] at hsize
    omega
  · cases h

theorem length_readPiece? {piece : Piece} (h : readPiece? text = some (piece, rest)) :
    rest.length < text.length := by
  unfold readPiece? at h
  split at h
  · cases h
  · cases h
    simp only [List.length_cons]
    omega
  · obtain ⟨⟨slot, after⟩, hslot, heq⟩ := Option.map_eq_some_iff.mp h
    cases heq
    exact Nat.lt_trans (length_readSlot? hslot) (by simp)
  · cases h
    simp

end Reading

/-! ## Filling -/

section Filling

variable {values : List Json} {supply : Supply}

/-- What is left of a row after some of its values were taken. -/
def Leaves (values : List Json) (count : Nat) (supply : Supply) : Prop :=
  ∃ rest, supply = .row rest ∧ values.length = count + rest.length

theorem leaves_settle? {amount : Amount} {most : Nat} {found : Option Int}
    (h : amount.settle? most (.row values) = some (found, supply)) :
    Leaves values amount.demand supply := by
  cases amount with
  | absent =>
    cases h
    exact ⟨values, rfl, by simp [Amount.demand]⟩
  | number n =>
    simp only [Amount.settle?] at h
    split at h
    · cases h
      exact ⟨values, rfl, by simp [Amount.demand]⟩
    · cases h
  | nextValue =>
    obtain ⟨⟨value, left⟩, htake, h⟩ := Option.bind_eq_some_iff.mp h
    obtain ⟨n, -, h⟩ := Option.bind_eq_some_iff.mp h
    cases values with
    | nil => cases htake
    | cons first rest =>
      cases htake
      split at h
      · cases h
        exact ⟨rest, rfl, by simp [Amount.demand, Nat.add_comm]⟩
      · cases h

theorem leaves_fill? [Json.Nesting] {slot : Slot} {filled : List Char}
    (h : slot.fill? (.row values) = some (filled, supply)) :
    Leaves values (Piece.slot slot).demand supply := by
  obtain ⟨start, hkey, h⟩ := Option.bind_eq_some_iff.mp h
  obtain rfl : start = .row values := by
    cases hname : slot.key with
    | none =>
      rw [hname] at hkey
      exact (Option.some.inj hkey).symm
    | some key =>
      rw [hname] at hkey
      cases hkey
  obtain ⟨⟨width, afterWidth⟩, hwidth, h⟩ := Option.bind_eq_some_iff.mp h
  obtain ⟨⟨precision, afterPrecision⟩, hprecision, h⟩ := Option.bind_eq_some_iff.mp h
  obtain ⟨⟨value, left⟩, htake, h⟩ := Option.bind_eq_some_iff.mp h
  obtain ⟨shown, -, h⟩ := Option.bind_eq_some_iff.mp h
  cases h
  obtain ⟨first, rfl, hfirst⟩ := leaves_settle? hwidth
  obtain ⟨second, rfl, hsecond⟩ := leaves_settle? hprecision
  cases second with
  | nil => cases htake
  | cons taken rest =>
    cases htake
    refine ⟨rest, rfl, ?_⟩
    rw [List.length_cons] at hsecond
    rw [Piece.demand]
    omega

theorem length_of_fillPieces? [Json.Nesting] {pieces : List Piece} {filled : List Char}
    (h : fillPieces? (.row values) pieces = some filled) :
    values.length = totalDemand pieces := by
  induction pieces generalizing values filled with
  | nil =>
    obtain ⟨hspent, -⟩ := Option.ite_none_right_eq_some.mp h
    exact List.length_eq_zero_iff.mpr (List.isEmpty_iff.mp hspent)
  | cons piece rest ih =>
    rw [totalDemand]
    cases piece with
    | plain c =>
      obtain ⟨more, hmore, -⟩ := Option.map_eq_some_iff.mp h
      rw [ih hmore, Piece.demand, Nat.zero_add]
    | slot slot =>
      obtain ⟨⟨shown, left⟩, hslot, h⟩ := Option.bind_eq_some_iff.mp h
      obtain ⟨more, hmore, -⟩ := Option.map_eq_some_iff.mp h
      obtain ⟨behind, rfl, hcount⟩ := leaves_fill? hslot
      rw [hcount, ih hmore]

end Filling
end TemplateLemmas

open TemplateLemmas

/-- With fuel for every character, more fuel changes nothing. -/
theorem readPieces?_of_length_le {fuel : Nat} {text : List Char} (h : text.length ≤ fuel) :
    readPieces? fuel text = readPieces? text.length text := by
  suffices hmore : ∀ (fuel more : Nat) (text : List Char), text.length ≤ fuel →
      text.length ≤ more → readPieces? fuel text = readPieces? more text from
    hmore fuel text.length text h (Nat.le_refl _)
  intro fuel
  induction fuel with
  | zero =>
    intro more text h _
    rw [List.length_eq_zero_iff.mp (Nat.le_zero.mp h)]
    cases more <;> rfl
  | succ fuel ih =>
    intro more text h hmore
    cases text with
    | nil => cases more <;> rfl
    | cons c rest =>
      cases more with
      | zero => simp at hmore
      | succ more =>
        refine Option.bind_congr fun (piece, after) hpiece => ?_
        have hshorter := length_readPiece? hpiece
        exact congrArg (Option.map (piece :: ·)) (ih more after (by omega) (by omega))

/-- Values that fill a template are none at all, or are given by their keys, or are as many as the
pieces of the template take. -/
theorem length_eq_totalDemand [Json.Nesting] {template text : String} {values : List Json}
    (h : fill? template values = some text) :
    values = [] ∨ (∃ member members, values = [.obj (member :: members)]) ∨
      ∃ pieces, readPieces? template.length template.toList = some pieces ∧
        values.length = totalDemand pieces := by
  unfold fill? at h
  split at h
  · next hempty => exact .inl (List.isEmpty_iff.mp hempty)
  · obtain ⟨pieces, hpieces, h⟩ := Option.bind_eq_some_iff.mp h
    obtain ⟨filled, hfilled, -⟩ := Option.map_eq_some_iff.mp h
    unfold Supply.ofValues at hfilled
    split at hfilled
    · exact .inr (.inl ⟨_, _, rfl⟩)
    · exact .inr (.inr ⟨pieces, hpieces, length_of_fillPieces? hfilled⟩)

end MagnetStream.Log
