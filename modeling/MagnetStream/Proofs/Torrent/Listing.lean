import MagnetStream.Proofs.Result
import MagnetStream.Torrent.File

/-!
# Listings that cannot be read

A listing of files is read leniently, with one exception: an id or a size that is a floating-point
number without a whole part ends the reading of the whole listing (`ofListing_fails_iff`).
-/

namespace MagnetStream

/-- A floating-point number without a whole part: it is infinite, or no number at all. -/
def Json.IsBoundless (value : Json) : Prop :=
  value = .float .nan ∨ ∃ negative, value = .float (.infinity negative)

theorem Json.toWhole_fails_iff {value : Json} :
    (∃ fault, value.toWhole = .error fault) ↔ value.IsBoundless := by
  unfold Json.IsBoundless
  cases value with
  | float x => cases x <;> simp [Json.toWhole, Binary64.truncate]
  | _ => simp [Json.toWhole]

namespace Torrent

/-- An entry of a listing has an id or a size without a whole part. -/
def NamesBoundless (entry : Json) : Prop :=
  ∃ members name value, entry = .obj members ∧ (name = "id" ∨ name = "bytes") ∧
    Entries.get? members name = some value ∧ value.IsBoundless

/-- Some entry of a listing has an id or a size without a whole part. -/
def ListsBoundless (listing : Json) : Prop :=
  ∃ entries entry, listing = .arr entries ∧ entry ∈ entries ∧ NamesBoundless entry

/-- A member that is not there counts as zero, and so has a whole part. -/
theorem member_toWhole_fails_iff {members : List (String × Json)} {name : String} :
    (∃ fault, ((Entries.get? members name).getD .null).toWhole = .error fault) ↔
      ∃ value, Entries.get? members name = some value ∧ value.IsBoundless := by
  rw [Json.toWhole_fails_iff]
  cases Entries.get? members name with
  | none => simp [Json.IsBoundless]
  | some value => simp

theorem ofEntry?_fails_iff {entry : Json} :
    (∃ fault, File.ofEntry? entry = .error fault) ↔ NamesBoundless entry := by
  unfold NamesBoundless
  cases entry with
  | obj members =>
    simp only [File.ofEntry?, Except.bind_fails_iff, member_toWhole_fails_iff]
    constructor
    · rintro (⟨value, hid⟩ | ⟨_, _, ⟨value, hbytes⟩ | ⟨_, _, _, ⟨⟩⟩⟩)
      · exact ⟨members, "id", value, rfl, .inl rfl, hid⟩
      · exact ⟨members, "bytes", value, rfl, .inr rfl, hbytes⟩
    · rintro ⟨_, _, value, ⟨⟩, rfl | rfl, hvalue⟩
      · exact .inl ⟨value, hvalue⟩
      -- The size is looked at only if the id can be read.
      · cases hid : ((Entries.get? members "id").getD .null).toWhole with
        | error fault => exact .inl (member_toWhole_fails_iff.mp ⟨fault, hid⟩)
        | ok id => exact .inr ⟨id, rfl, .inl ⟨value, hvalue⟩⟩
  | _ => simp [File.ofEntry?]

/-- Reading a listing fails just when an entry has an id or a size without a whole part. -/
theorem ofListing_fails_iff {listing : Json} :
    (∃ fault, File.ofListing listing = .error fault) ↔ ListsBoundless listing := by
  unfold ListsBoundless
  cases listing with
  | arr entries =>
    rw [File.ofListing, Except.bind_fails_iff, Except.mapM_fails_iff]
    simp [ofEntry?_fails_iff]
  | _ => simp [File.ofListing]

end Torrent
end MagnetStream
