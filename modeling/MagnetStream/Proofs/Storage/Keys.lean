import MagnetStream.Proofs.Dialogue
import MagnetStream.Proofs.Log.Masking
import MagnetStream.Storage.Medium

/-!
# Storages do not care for keys

A lookup asks the medium once and notes one event that names the key, and so does keeping an entry
(`get_eq`, `set_eq`). On two media that have the same entries under different keys, they come to the
same and leave the same marks, but for the keys (`get_mirrors`, `set_mirrors`).
-/

namespace MagnetStream.Storage

def lookupEvent (backend : Backend) (key : String) (found : Option Json) : Log.Event :=
  match backend, found with
  | .disk, _ =>
    ⟨.debug, "cache_get", [("key", .str key), ("hit", .bool (found.getD .null != .null))]⟩
  | .redis, none => ⟨.debug, "cache_miss", [("key", .str key)]⟩
  | .redis, some _ => ⟨.debug, "cache_hit", [("key", .str key)]⟩

theorem lookupEvent_names_key (backend : Backend) (key : String) (found : Option Json) :
    ("key", .str key) ∈ (lookupEvent backend key found).masked.fields := by
  cases backend with
  | disk => exact List.mem_cons_self
  | redis => cases found <;> exact List.mem_cons_self

/-- A lookup in an open storage asks the medium once. -/
theorem get_eq (storage : Storage) (key : String) :
    storage.get true key = .ask (.read key) fun
      | .error trouble => .fail trouble.failure
      | .ok found => .note (lookupEvent storage.backend key found) (pure (found.getD .null)) := by
  obtain ⟨backend, place, ttl⟩ := storage
  show Dialogue.ask _ _ = Dialogue.ask _ _
  congr 1
  funext answer
  cases answer with
  | error trouble => rfl
  | ok found =>
    cases backend with
    | disk => rfl
    | redis => cases found <;> rfl

/-- So does keeping an entry. -/
theorem set_eq (storage : Storage) (key : String) (entry : Json) (ttl : Int) :
    storage.set true key entry (some ttl) =
      .ask (.write key entry (if ttl = 0 then none else some ttl)) fun
        | .error trouble => .fail trouble.failure
        | .ok () =>
          .note ⟨.debug, "cache_set", [("key", .str key), ("ttl", .int ttl)]⟩ (pure ()) := by
  show Dialogue.ask _ _ = Dialogue.ask _ _
  congr 1
  funext answer
  cases answer with
  | error trouble => rfl
  | ok _ => rfl

namespace Medium

def Mark.rekey (change : String → String) : Mark → Mark
  | .commanded (.read key) => .commanded (.read (change key))
  | .commanded (.write key entry ttl) => .commanded (.write (change key) entry ttl)
  | .commanded command => .commanded command
  | .logged event => .logged (event.rekey change)

/-- What one medium has under a key, the other one has under the other key. -/
structure Mirrors (change : String → String) (now : Int) (medium other : Medium) : Prop where
  expires : other.expires = medium.expires
  find : ∀ key, other.find? now (change key) = medium.find? now key

variable {change : String → String} {now : Int} {medium other : Medium}

/-- What is left of a kept entry at a moment. -/
def present (expires : Bool) (now : Int) : Json × Option Int → Option Json
  | (entry, none) => some entry
  | (entry, some theEnd) => if expires && theEnd ≤ now then none else some entry

theorem find?_eq (medium : Medium) (now : Int) (key : String) :
    medium.find? now key = (medium.entries.get? key).bind (present medium.expires now) := by
  unfold find?
  cases medium.entries.get? key with
  | none => rfl
  | some kept =>
    obtain ⟨entry, theEnd⟩ := kept
    cases theEnd <;> rfl

/-- Writing under the other key goes along with writing under the key. -/
theorem write_mirrors (hchange : Function.Injective change) (h : Mirrors change now medium other)
    (key : String) (entry : Json) (ttl : Option Int) :
    (answer now (.write (change key) entry ttl) other).1 =
        (answer now (.write key entry ttl) medium).1 ∧
      Mirrors change now (answer now (.write key entry ttl) medium).2
        (answer now (.write (change key) entry ttl) other).2 := by
  have hendless : other.isEndless ttl = medium.isEndless ttl := by
    rw [isEndless, isEndless, h.expires]
  have hkept : other.kept entry = medium.kept entry := by
    unfold kept
    rw [h.expires]
  simp only [answer, hendless, hkept]
  split
  · exact ⟨rfl, h⟩
  · refine ⟨rfl, h.expires, fun name => ?_⟩
    simp only [find?_eq, h.expires]
    by_cases hname : name = key
    · rw [hname, Entries.get?_insert_self, Entries.get?_insert_self]
    · have hother : change name ≠ change key := fun heq => hname (hchange heq)
      have hfind := h.find name
      rw [find?_eq, find?_eq, h.expires] at hfind
      rw [Entries.get?_insert_of_ne hother, Entries.get?_insert_of_ne hname, hfind]

end Medium

section Running

variable {change : String → String} {now : Int} {medium other : Medium}
  (h : medium.Mirrors change now other) (storage : Storage)
include h

theorem get_mirrors (key : String) :
    Run.Mirrors (Medium.Mirrors change now) (Medium.Mark.rekey change)
      ((storage.get true key).run (Medium.responder now) medium)
      ((storage.get true (change key)).run (Medium.responder now) other) := by
  have hevent : ∀ found, lookupEvent storage.backend (change key) found =
      (lookupEvent storage.backend key found).rekey change := by
    intro found
    cases storage.backend with
    | disk => rfl
    | redis => cases found <;> rfl
  have hfind := h.find key
  rw [get_eq, get_eq]
  refine ⟨?_, h, ?_⟩
  · exact congrArg (fun found => Except.ok (Option.getD found Json.null)) hfind
  · show [Medium.Mark.commanded (.read (change key)), .logged (lookupEvent storage.backend
        (change key) (other.find? now (change key)))] =
      [.commanded (.read (change key)), .logged
        ((lookupEvent storage.backend key (medium.find? now key)).rekey change)]
    rw [hfind, hevent]

theorem set_mirrors (hchange : Function.Injective change) (key : String) (entry : Json)
    (ttl : Int) :
    Run.Mirrors (Medium.Mirrors change now) (Medium.Mark.rekey change)
      ((storage.set true key entry (some ttl)).run (Medium.responder now) medium)
      ((storage.set true (change key) entry (some ttl)).run (Medium.responder now) other) := by
  obtain ⟨hresult, hmedium⟩ :=
    Medium.write_mirrors hchange h key entry (if ttl = 0 then none else some ttl)
  rw [set_eq, set_eq, Dialogue.run_ask, Dialogue.run_ask]
  dsimp only [Medium.responder]
  rw [hresult]
  cases (Medium.answer now (.write key entry (if ttl = 0 then none else some ttl)) medium).1 with
  | error trouble => exact ⟨rfl, hmedium, rfl⟩
  | ok _ => exact ⟨rfl, hmedium, rfl⟩

end Running
end MagnetStream.Storage
