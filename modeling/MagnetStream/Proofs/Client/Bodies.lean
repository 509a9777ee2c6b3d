import MagnetStream.Proofs.Client.StreamFailures
import MagnetStream.Proofs.Json.Limits

/-!
# How a body is read

Every body is read as an object or refused as a malformed response, unless its text meets a limit of
the reader (`body_outcomes`): then the reading fails outside the families. It takes a long row of
digits or a great many brackets to meet one, but a body may have either.
-/

namespace MagnetStream.Client

/-- The text of a body meets a limit of the reader. -/
def BodyMeetsLimit [Json.Nesting] (body : List UInt8) (limit : Json.Limit) : Prop :=
  ∃ text, Json.decode? body = some text ∧ Json.MeetsLimit text limit

namespace BodiesLemmas

variable [Json.Nesting] {purpose : String} {body : List UInt8} {limit : Json.Limit}

theorem readBytes_limit_iff :
    Json.readBytes body = .error (.fault (.limit limit)) ↔ BodyMeetsLimit body limit := by
  unfold Json.readBytes BodyMeetsLimit
  cases Json.decode? body with
  | none => simp
  | some text =>
    simp only [Option.some.injEq, exists_eq_left', ← Json.read_limit_iff]
    cases Json.read text <;> simp [Except.mapError]

theorem readObject_limit_iff :
    readObject purpose body = .error (.jsonLimit limit) ↔ BodyMeetsLimit body limit := by
  rw [← readBytes_limit_iff]
  unfold readObject
  split <;> simp_all

/-- Short of a limit, a body is refused as a malformed response. -/
theorem family_readObject {failure : Failure} (h : readObject purpose body = .error failure) :
    failure.family? = some .malformedResponse ∨ ∃ limit, failure = .jsonLimit limit := by
  unfold readObject at h
  split at h <;> cases h
  · exact .inl rfl
  · exact .inl rfl
  · exact .inl rfl
  · exact .inr ⟨_, rfl⟩

/-- A text with few brackets and short rows of digits meets no limit. -/
theorem not_meetsLimit {text : List Char} (hb : Json.Reader.brackets text ≤ Json.Nesting.reading)
    (hd : ∀ digits, digits <:+: text → (∀ c ∈ digits, c.isDigit = true) →
      digits.length ≤ Text.maxDigits) : ¬ Json.MeetsLimit text limit := by
  intro hmeets
  cases limit with
  | nesting container => exact Nat.not_lt_of_le hb (Json.brackets_of_meetsLimit hmeets)
  | digits count =>
    obtain ⟨hlong, digits, hinfix, rfl, hdigits⟩ := Json.digits_of_meetsLimit hmeets
    exact Nat.not_lt_of_le (hd digits hinfix hdigits) hlong

end BodiesLemmas

open BodiesLemmas

/-- A body that holds an object is read as that object. Any other is refused as a malformed
response, or, just if its text meets a limit of the reader, fails on that limit, which belongs to no
family. A text with few brackets and short rows of digits meets none. -/
theorem body_outcomes [Json.Nesting] (purpose : String) (body : List UInt8) :
    (∀ members, readObject purpose body = .ok members ↔
      Json.readBytes body = .ok (.obj members)) ∧
    (∀ failure, readObject purpose body = .error failure →
      failure.family? = some .malformedResponse ∧ (∀ limit, ¬ BodyMeetsLimit body limit) ∨
        failure.family? = none ∧
          ∃ limit, failure = .jsonLimit limit ∧ BodyMeetsLimit body limit) ∧
    (∀ limit, BodyMeetsLimit body limit →
      readObject purpose body = .error (.jsonLimit limit)) ∧
    ∀ text, Json.decode? body = some text → Json.Reader.brackets text ≤ Json.Nesting.reading →
      (∀ digits, digits <:+: text → (∀ c ∈ digits, c.isDigit = true) →
        digits.length ≤ Text.maxDigits) →
      Stream.InFamilies (readObject purpose body) := by
  refine ⟨fun members => readObject_eq_ok, fun failure hfails => ?_,
    fun limit => readObject_limit_iff.mpr, ?_⟩
  · rcases family_readObject hfails with hfamily | ⟨limit, rfl⟩
    · refine .inl ⟨hfamily, fun limit hlimit => ?_⟩
      rw [readObject_limit_iff.mpr hlimit] at hfails
      cases hfails
      cases hfamily
    · exact .inr ⟨rfl, limit, rfl, readObject_limit_iff.mp hfails⟩
  · intro text htext hbrackets hdigits
    cases hread : readObject purpose body with
    | ok members => trivial
    | error failure =>
      rcases family_readObject hread with hfamily | ⟨limit, rfl⟩
      · simp [Stream.InFamilies, hfamily]
      · obtain ⟨_, htext', hmeets⟩ := readObject_limit_iff.mp hread
        cases htext.symm.trans htext'
        exact absurd hmeets (not_meetsLimit hbrackets hdigits)

attribute [local instance] Json.Nesting.usual

/-- A body whose only member is a whole number of 4301 digits. -/
def longNumber : List UInt8 :=
  Text.encodeUtf8 "\x7b\"id\":" ++ List.replicate 4301 0x31 ++ Text.encodeUtf8 "\x7d"

/-- A number with too many digits is refused outside the families. -/
theorem long_number_fails_outside_families :
    ¬ Stream.InFamilies (readObject "Couldn't parse user info response" longNumber) := by
  decide +kernel

end MagnetStream.Client
