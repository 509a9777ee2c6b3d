import MagnetStream.Client.Basic
import MagnetStream.Proofs.Url.Refusal

/-!
# How the making of a client fails

A base URL is accepted in a form that is accepted as it is, or refused as a wrong setting. One way
out is left (`base_url_outcomes`): a base URL that cannot be cut, as it writes out an authority that
is refused, fails outside the families of failures, and so does the making of a client with it.
-/

namespace MagnetStream.Client

open Url (validateBase Writes Refused)

namespace CreationLemmas

/-- A base URL is refused as a wrong setting, unless it is not even cut. -/
theorem family_badBase (fault : Url.BaseFault) :
    (Failure.badBase fault).family? = some .invalidConfiguration ∧
        (¬ ∃ cause, fault = .split cause) ∨
      (Failure.badBase fault).family? = none ∧ ∃ cause, fault = .split cause := by
  cases fault with
  | empty => exact .inl ⟨rfl, nofun⟩
  | notWeb url => exact .inl ⟨rfl, nofun⟩
  | split cause => exact .inr ⟨rfl, cause, rfl⟩

theorem validateBase_split_iff {base : String} :
    (∃ cause, validateBase base = .error (.split cause)) ↔
      ∃ cause, Url.split base.toList = .error cause := by
  unfold validateBase
  split
  · next hempty =>
    -- Nothing is cut into nothing.
    rw [String.isEmpty_iff.mp hempty]
    exact iff_of_false nofun (by rintro ⟨_, ⟨⟩⟩)
  · cases Url.split base.toList with
    | error cause => simp
    | ok parts =>
      dsimp only
      split <;> simp

/-- With an allowed number of polls, only the base URL can be wrong with a client. -/
theorem create_eq (base : String) (policy : Availability.Policy) {budget : Int}
    (interval : Binary64) (h : 1 ≤ budget) :
    create base policy budget interval =
      ((validateBase base).mapError .badBase).map fun normal =>
        ⟨normal, policy, ⟨budget.toNat, interval⟩⟩ := by
  have hbudget : checkBudget budget = .ok budget.toNat := if_neg (by omega)
  unfold create
  rw [hbudget]
  cases hbase : validateBase base with
  | error fault => rfl
  | ok normal =>
    show Except.ok (under normal policy _) = _
    rw [under, Url.dropEndSlashes_of_validateBase hbase]
    rfl

end CreationLemmas

open CreationLemmas

/-- Whatever a base URL is, it is accepted without a slash at its end, and is accepted again as it
is then, or it is refused; a client is made with it in the first case, and in the second the making
fails with the same fault. The fault is a wrong setting, unless the base URL writes out an authority
that is refused: then it belongs to no family. -/
theorem base_url_outcomes (base : String) :
    (∀ normal, validateBase base = .ok normal →
      normal.toList.getLast? ≠ some '/' ∧ validateBase normal = .ok normal) ∧
    (∀ fault, validateBase base = .error fault →
      (Failure.badBase fault).family? = some .invalidConfiguration ∧
          (¬ ∃ authority, Writes base.toList authority ∧ Refused authority) ∨
        (Failure.badBase fault).family? = none ∧
          ∃ authority, Writes base.toList authority ∧ Refused authority) ∧
    ((∃ authority, Writes base.toList authority ∧ Refused authority) →
      ∃ fault, validateBase base = .error fault) ∧
    ∀ policy (budget : Int) interval, 1 ≤ budget →
      create base policy budget interval =
        ((validateBase base).mapError .badBase).map fun normal =>
          ⟨normal, policy, ⟨budget.toNat, interval⟩⟩ := by
  have hsplit : (∃ cause, validateBase base = .error (.split cause)) ↔
      ∃ authority, Writes base.toList authority ∧ Refused authority :=
    validateBase_split_iff.trans Url.split_fails_iff
  refine ⟨fun normal hnormal => ⟨?_, Url.validateBase_again hnormal⟩, fun fault hfault => ?_,
    fun hrefused => ?_, fun policy budget interval => create_eq base policy interval⟩
  · rw [(Url.validateBase_eq_ok hnormal).1]
    exact Url.getLast?_dropEndSlashes base
  · rw [← hsplit, hfault]
    simpa using family_badBase fault
  · obtain ⟨cause, hcause⟩ := hsplit.mpr hrefused
    exact ⟨_, hcause⟩

/-- A bracket alone is no authority, and a client with it fails outside the families. -/
theorem open_bracket_fails_outside_families :
    validateBase "http://[" = .error (.split .brackets) ∧
      create "http://[" ⟨⟨0⟩, 0⟩ 1 (.ofNat 0) = .error (.badBase (.split .brackets)) ∧
      (Failure.badBase (.split .brackets)).family? = none :=
  ⟨by decide +kernel, by decide +kernel, rfl⟩

end MagnetStream.Client
