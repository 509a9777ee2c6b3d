import Mathlib.Algebra.GroupWithZero.Nat
import MagnetStream.Binary64.Basic

/-!
# Whole numbers as floating-point numbers

A whole number of at most 53 bits is kept exactly: the number nearest to it is the number itself
(`toInt?_ofNat`).
-/

namespace MagnetStream.Binary64

/-- A number scaled up. -/
theorem scaled_natCast (num den shift : Nat) :
    scaled num den (shift : Int) = (num * 2 ^ shift, den) := by
  simp [scaled]

/-- A number scaled down. -/
theorem scaled_neg_natCast (num den shift : Nat) :
    scaled num den (-(shift : Int)) = (num, den * 2 ^ shift) := by
  cases shift with
  | zero => simp [scaled]
  | succ shift =>
    rw [scaled, if_neg (by omega), Int.neg_neg, Int.toNat_natCast]
    rfl

theorem roundHalfEven_one (num : Nat) : roundHalfEven num 1 = num := by
  simp [roundHalfEven, Nat.mod_one]

theorem floorLog2_one {n : Nat} (h : n ≠ 0) : floorLog2 n 1 = Nat.log2 n := by
  have hguess : (Nat.log2 n : Int) - Nat.log2 1 = Nat.log2 n := Int.sub_zero _
  unfold floorLog2
  dsimp only
  rw [hguess, scaled_neg_natCast]
  exact if_neg (by simpa using Nat.log2_self_le h)

/-- A whole number of at most 53 bits is shifted until its significand is full. -/
theorem ofNat_eq {n : Nat} (hzero : n ≠ 0) (h : n < 2 ^ precision) :
    ∃ shift : Nat, ofNat n = .finite false (n * 2 ^ shift) (-(shift : Int)) := by
  have hlog : Nat.log2 n < precision := (Nat.log2_lt hzero).mpr h
  obtain ⟨shift, hshift⟩ : ∃ shift, Nat.log2 n + shift = precision - 1 :=
    ⟨precision - 1 - Nat.log2 n, by omega⟩
  have hsmall : n * 2 ^ shift < 2 ^ precision := by
    calc n * 2 ^ shift < 2 ^ (Nat.log2 n + 1) * 2 ^ shift :=
          Nat.mul_lt_mul_of_pos_right Nat.lt_log2_self (Nat.two_pow_pos shift)
      _ = 2 ^ precision := by
          rw [← Nat.pow_add, show Nat.log2 n + 1 + shift = precision by omega]
  have hexponent : max (floorLog2 n 1 - (precision - 1 : Nat)) minExponent = -(shift : Int) := by
    rw [floorLog2_one hzero, ← hshift]
    simp only [precision, minExponent] at hshift ⊢
    omega
  refine ⟨shift, ?_⟩
  unfold ofNat ofRatio
  dsimp only
  rw [if_neg hzero, hexponent, Int.neg_neg, scaled_natCast]
  simp only [roundHalfEven_one]
  have hfull : ¬ n * 2 ^ shift = Nat.pow 2 precision := Nat.ne_of_lt hsmall
  rw [if_neg hfull]
  exact if_neg (by simp only [maxExponent]; omega)

/-- A whole number of at most 53 bits is the number nearest to itself. -/
theorem toInt?_ofNat {n : Nat} (h : n < 2 ^ precision) : (ofNat n).toInt? = some (n : Int) := by
  obtain ⟨shift, hshift⟩ : ∃ shift : Nat,
      ofNat n = .finite false (n * 2 ^ shift) (-(shift : Int)) := by
    by_cases hzero : n = 0
    · exact ⟨minExponent.natAbs, by rw [hzero, Nat.zero_mul]; rfl⟩
    · exact ofNat_eq hzero h
  rw [hshift, toInt?, ratio, scaled_neg_natCast, Nat.one_mul]
  dsimp only
  rw [if_pos (Nat.mul_mod_left ..), Nat.mul_div_cancel _ (Nat.two_pow_pos shift)]
  rfl

end MagnetStream.Binary64
