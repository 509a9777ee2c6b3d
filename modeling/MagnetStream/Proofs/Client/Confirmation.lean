import MagnetStream.Proofs.Calendar.Moment
import MagnetStream.Proofs.Client.World

/-!
# Reading and writing confirmations

What a world answers when a confirmation is looked up (`World.lookUp`), and the world that is left
when something is confirmed (`World.stamp`). Confirming changes one entry of the cache or none, and
the entries of different keys never meet (`cacheKey_inj`). Tokens and hashes are looked up alike,
but for the events that are noted: both are a `Confirmations.consult`, which gives just what the
world trusts (`consult_yields`).
-/

namespace MagnetStream.Client

/-- Reading a response as an object succeeds on objects only. -/
theorem readObject_eq_ok [Json.Nesting] {purpose : String} {body : List UInt8}
    {members : List (String × Json)} :
    readObject purpose body = .ok members ↔ Json.readBytes body = .ok (.obj members) := by
  unfold readObject
  constructor
  · intro h
    split at h <;> cases h
    assumption
  · intro h
    rw [h]

namespace Confirmations

/-- Keys of one store meet only if they are the same. -/
theorem cacheKey_inj {store : Confirmations} {key other : String} :
    store.cacheKey key = store.cacheKey other ↔ key = other := by
  simp [cacheKey, String.append_right_inj]

/-- What is written is read back as the same instant. -/
theorem decode_encode {moment : Calendar.Moment} {text : String} (h : encode moment = .ok text) :
    decode (.str text) = .ok ⟨moment.instant, ⟨0⟩⟩ := by
  unfold encode Calendar.Moment.toUniversal? Calendar.Moment.checked? at h
  by_cases hrange : (⟨moment.instant, ⟨0⟩⟩ : Calendar.Moment).InRange
  · rw [if_pos hrange] at h
    simp only [Except.ok.injEq] at h
    rw [decode, ← h, Calendar.Moment.ofText_toText hrange rfl]
    rfl
  · rw [if_neg hrange] at h
    cases h

end Confirmations

namespace World

/-- Writing works, and the clock shows a moment that can be written. -/
def Writes (world : World) : Prop :=
  world.writeFailure = none ∧ ∃ moment, world.clock.toUniversal? = some moment

/-- What a look at a confirmation gives. -/
def lookUp (world : World) (store : Confirmations) (key : String) :
    Except Failure (Option Calendar.Moment) :=
  match world.readFailure with
  | some failure => .error failure
  | none =>
    match (world.entries.get? (store.cacheKey key)).getD .null with
    | .null => .ok none
    | entry => (Confirmations.decode entry).map some

/-- Whether something was confirmed, as far as the world can be read, and not longer than `age` ago.
-/
def trusts (world : World) (store : Confirmations) (age : Calendar.Duration) (key : String) :
    Bool :=
  match world.lookUp store key with
  | .ok (some confirmed) => !decide (age < world.clock.since confirmed)
  | _ => false

/-- The text that is written when something is confirmed, if it can be written. -/
def stampText? (world : World) : Option String :=
  match world.writeFailure with
  | some _ => none
  | none => (Confirmations.encode world.clock).toOption

/-- The world that is left when something is confirmed. -/
def stamp (world : World) (store : Confirmations) (key : String) : World :=
  match world.stampText? with
  | some text => { world with entries := world.entries.insert (store.cacheKey key) (.str text) }
  | none => world

theorem writes_iff {world : World} : world.Writes ↔ ∃ text, world.stampText? = some text := by
  unfold Writes stampText? Confirmations.encode
  cases world.writeFailure with
  | some failure => simp
  | none => cases world.clock.toUniversal? <;> simp [Except.toOption]

theorem encode_of_stampText? {world : World} {text : String} (h : world.stampText? = some text) :
    Confirmations.encode world.clock = .ok text := by
  unfold stampText? at h
  split at h
  · cases h
  · cases hentry : Confirmations.encode world.clock with
    | error failure =>
      rw [hentry] at h
      cases h
    | ok written =>
      rw [hentry] at h
      cases h
      rfl

variable (world : World) (store : Confirmations) (key : String)

@[simp] theorem clock_stamp : (world.stamp store key).clock = world.clock := by
  unfold stamp
  split <;> rfl

@[simp] theorem writeFailure_stamp : (world.stamp store key).writeFailure = world.writeFailure := by
  unfold stamp
  split <;> rfl

@[simp] theorem stampText?_stamp : (world.stamp store key).stampText? = world.stampText? := by
  simp [stampText?]

/-- Confirming writes the entry of what is confirmed, if it can be written. -/
theorem get?_stamp_self :
    (world.stamp store key).entries.get? (store.cacheKey key) =
      (world.stampText?.map Json.str).or (world.entries.get? (store.cacheKey key)) := by
  unfold stamp
  cases world.stampText? with
  | some text => exact Entries.get?_insert_self ..
  | none => rfl

/-- Confirming leaves every other entry. -/
theorem get?_stamp_of_ne {other : String} (h : other ≠ store.cacheKey key) :
    (world.stamp store key).entries.get? other = world.entries.get? other := by
  unfold stamp
  split
  · exact Entries.get?_insert_of_ne h ..
  · rfl

end World

namespace Confirmations

open Session (Yields)

@[simp] theorem runIn_find (store : Confirmations) (key : String) (world : World) :
    (store.find key).runIn world =
      ⟨world.lookUp store key, world, [.recalled (store.cacheKey key)]⟩ := by
  unfold find World.lookUp Session.runIn
  simp only [Dialogue.run_ask, World.responder, World.answer]
  cases world.readFailure with
  | some failure => rfl
  | none => cases (world.entries.get? (store.cacheKey key)).getD .null <;> rfl

/-- A look at a confirmation that is ready for failure. -/
theorem find_yields (store : Confirmations) (key : String) (world : World) (start : Nat) :
    Session.Yields (store.find key).attempt world start (.ok (world.lookUp store key)) [] :=
  ⟨[.recalled (store.cacheKey key)], by rw [Session.runIn_attempt, runIn_find]; rfl, rfl⟩

/-- The events that are noted when the cache is asked about a confirmation. -/
structure Notes where
  unread : Failure → Log.Event
  missed : Log.Event
  expired : Calendar.Duration → Log.Event
  hit : Log.Event

/-- Asks the cache whether something was confirmed not longer than `age` ago. -/
def consult (store : Confirmations) (age : Calendar.Duration) (notes : Notes) (key : String) :
    Session Bool := do
  match ← (store.find key).attempt with
  | .error failure => .note (notes.unread failure) (pure false)
  | .ok none => .note notes.missed (pure false)
  | .ok (some confirmed) =>
    let span := (← Session.now).since confirmed
    if age < span then .note (notes.expired (span - age)) (pure false)
    else .note notes.hit (pure true)

/-- The cache says just what the world trusts. -/
theorem consult_yields (store : Confirmations) (age : Calendar.Duration) (notes : Notes)
    (key : String) (world : World) :
    (store.consult age notes key).Yields world 0 (.ok (world.trusts store age key)) [] := by
  unfold consult World.trusts
  refine Yields.bind_ok (find_yields ..) ?_
  cases world.lookUp store key with
  | error failure => exact .note _ (.pure false)
  | ok found =>
    cases found with
    | none => exact .note _ (.pure false)
    | some confirmed =>
      refine Yields.bind_ok .now ?_
      dsimp only
      split
      · next hold => simpa [hold] using Yields.note _ (.pure false)
      · next hfresh => simpa [hfresh] using Yields.note _ (.pure true)

/-- Confirming leaves the stamped world, whether it fails or not, and sends no request. -/
theorem confirm_ends (store : Confirmations) (key : String) (world : World) :
    ∃ result, (store.confirm key).Ends world result (world.stamp store key) [] := by
  have hstamp : world.stamp store key =
      match world.stampText? with
      | some text => { world with entries := world.entries.insert (store.cacheKey key) (.str text) }
      | none => world := rfl
  have hnow : Session.now.Ends world (.ok world.clock) world [] := ⟨[], rfl, rfl⟩
  -- Confirming may fail at the text and at the writing, and both leave the world as it is.
  cases hentry : encode world.clock with
  | error failure =>
    have htext : world.stampText? = none := by
      unfold World.stampText?
      split
      · rfl
      · rw [hentry]
        rfl
    rw [htext] at hstamp
    have hlift : Session.Ends (.lift (encode world.clock)) world (.error failure) world [] :=
      ⟨[], by rw [hentry]; rfl, rfl⟩
    rw [hstamp]
    exact ⟨.error failure, hnow.bind_last hlift.bind_error⟩
  | ok text =>
    have hlift : Session.Ends (.lift (encode world.clock)) world (.ok text) world [] :=
      ⟨[], by rw [hentry]; rfl, rfl⟩
    cases hwrite : world.writeFailure with
    | some failure =>
      have htext : world.stampText? = none := by simp [World.stampText?, hwrite]
      have hrecord : Session.Ends (.ask (.record (store.cacheKey key) (.str text) store.ttl) .lift)
          world (.error failure) world [] :=
        ⟨_, Session.runIn_record_fails hwrite .., rfl⟩
      rw [htext] at hstamp
      rw [hstamp]
      exact ⟨.error failure, hnow.bind_last (hlift.bind_last hrecord.bind_error)⟩
    | none =>
      have htext : world.stampText? = some text := by
        simp [World.stampText?, hwrite, hentry, Except.toOption]
      have hrecord : Session.Ends (.ask (.record (store.cacheKey key) (.str text) store.ttl) .lift)
          world (.ok ())
          { world with entries := world.entries.insert (store.cacheKey key) (.str text) } [] :=
        ⟨_, Session.runIn_record_ok hwrite .., rfl⟩
      rw [htext] at hstamp
      rw [hstamp]
      exact ⟨.ok (), hnow.bind_last (hlift.bind_last (hrecord.bind_last (.log ..)))⟩

end Confirmations
end MagnetStream.Client
