import MagnetStream.Proofs.Client.Availability
import MagnetStream.Proofs.Client.Token

/-!
# How old confirmations are

The text that is kept for a moment tells its instant and nothing else (`encode_eq_ok`): it is read
as that instant of universal time, and no other instant has it. So what was confirmed at some moment
is found with just that instant for as long as its entry stays (`Kept.lookUp`), and the age that a
token or a hash is held to is the time that has really passed (`confirmed_instant_is_found`).
-/

namespace MagnetStream.Client

namespace Confirmations

variable {moment other : Calendar.Moment} {text otherText : String} {store : Confirmations}
  {key : String}

/-- A moment has a text just when its instant lies in the calendar: that of universal time. -/
theorem encode_eq_ok : encode moment = .ok text ↔
    (0 ≤ moment.instant ∧ moment.instant < Calendar.Moment.wallEnd) ∧
      Calendar.Moment.toText ⟨moment.instant, ⟨0⟩⟩ = text := by
  unfold encode Calendar.Moment.toUniversal? Calendar.Moment.checked?
  by_cases hrange : (⟨moment.instant, ⟨0⟩⟩ : Calendar.Moment).InRange
  · rw [if_pos hrange]
    exact (Except.ok.injEq ..).to_iff.trans (and_iff_right hrange).symm
  · rw [if_neg hrange]
    exact ⟨nofun, fun h => absurd h.1 hrange⟩

/-- Only the instant of a moment is written. -/
theorem encode_congr (h : other.instant = moment.instant) : encode other = encode moment := by
  rw [encode, encode, Calendar.Moment.toUniversal?, Calendar.Moment.toUniversal?, h]

/-- The same text stands for the same instant only. -/
theorem text_eq_iff (h : encode moment = .ok text) (hother : encode other = .ok otherText) :
    otherText = text ↔ other.instant = moment.instant := by
  constructor
  · rintro rfl
    have hread := (decode_encode hother).symm.trans (decode_encode h)
    exact congrArg Calendar.Moment.wall (Except.ok.inj hread)
  · intro hinstant
    rw [encode_congr hinstant, h] at hother
    exact (Except.ok.inj hother).symm

/-- Confirming writes the text of the clock, if there is one and writing works. -/
theorem runIn_confirm {world : World} (hwrite : world.writeFailure = none)
    (h : encode world.clock = .ok text) :
    (store.confirm key).runIn world =
      ⟨.ok (), { world with entries := world.entries.insert (store.cacheKey key) (.str text) },
        [.recorded (store.cacheKey key) (.str text) store.ttl,
          .logged ⟨.debug, "timestamp_saved",
            [("namespace", .str store.namespaceName), ("ttl", .int store.ttl)]⟩]⟩ := by
  have hnow : Session.now.runIn world = ⟨.ok world.clock, world, []⟩ := rfl
  unfold confirm
  simp only [Session.runIn_bind, hnow, Run.andThen_ok, h, Session.runIn_lift,
    Session.runIn_record_ok hwrite]
  rfl

/-- Asking the cache about something that it holds compares the time that has passed. -/
theorem runIn_consult {world : World} {confirmed : Calendar.Moment}
    (h : world.lookUp store key = .ok (some confirmed)) (age : Calendar.Duration) (notes : Notes) :
    (store.consult age notes key).runIn world =
      ⟨.ok (!decide (age < world.clock.since confirmed)), world,
        [.recalled (store.cacheKey key),
          .logged (if age < world.clock.since confirmed then
            notes.expired (world.clock.since confirmed - age) else notes.hit)]⟩ := by
  have hnow : Session.now.runIn world = ⟨.ok world.clock, world, []⟩ := rfl
  unfold consult
  simp only [Session.runIn_bind, Session.runIn_attempt, runIn_find, h, Run.andThen_ok, hnow,
    List.nil_append]
  split
  · next hold =>
    rw [decide_eq_true hold]
    rfl
  · next hfresh =>
    rw [decide_eq_false hfresh]
    rfl

/-! ## As long as the entry stays -/

/-- Something was confirmed when the clock showed a moment, and since then its entry has stayed as
it was left; the cache can be read. -/
structure Kept (store : Confirmations) (key : String) (moment : Calendar.Moment) (later : World) :
    Prop where
  reads : later.readFailure = none
  stays : ∃ world : World, world.clock = moment ∧ world.writeFailure = none ∧
    later.entries.get? (store.cacheKey key) =
      ((store.confirm key).runIn world).state.entries.get? (store.cacheKey key)

theorem Kept.lookUp {later : World} (hkept : Kept store key moment later)
    (h : encode moment = .ok text) : later.lookUp store key = .ok (some ⟨moment.instant, ⟨0⟩⟩) := by
  obtain ⟨hreads, world, rfl, hwrite, hstays⟩ := hkept
  rw [runIn_confirm hwrite h, Entries.get?_insert_self] at hstays
  rw [World.lookUp, hreads, hstays]
  show (decode (.str text)).map some = _
  rw [decode_encode h]
  rfl

/-- The time that has passed since something was confirmed is told exactly. -/
theorem Kept.consult {later : World} (hkept : Kept store key moment later)
    (h : encode moment = .ok text) (age : Calendar.Duration) (notes : Notes) :
    (store.consult age notes key).runIn later =
      ⟨.ok (!decide (age < later.clock.since moment)), later,
        [.recalled (store.cacheKey key),
          .logged (if age < later.clock.since moment then
            notes.expired (later.clock.since moment - age) else notes.hit)]⟩ := by
  have hsince : later.clock.since ⟨moment.instant, ⟨0⟩⟩ = later.clock.since moment := by
    simp [Calendar.Moment.since, Calendar.Moment.instant]
  rw [runIn_consult (hkept.lookUp h), hsince]

/-- A moment whose instant lies in the calendar has a text. It is read as the same instant of
universal time, which has this text again, and no other instant has it. What is confirmed at such a
moment is found with just its instant for as long as the entry stays, and tokens and hashes are
taken to be as old as the time that has passed since. -/
theorem confirmed_instant_is_found {moment : Calendar.Moment}
    (h : 0 ≤ moment.instant ∧ moment.instant < Calendar.Moment.wallEnd) :
    ∃ text, encode moment = .ok text ∧ decode (.str text) = .ok ⟨moment.instant, ⟨0⟩⟩ ∧
      (∀ found, decode (.str text) = .ok found → encode found = .ok text) ∧
      (∀ other otherText, encode other = .ok otherText →
        (otherText = text ↔ other.instant = moment.instant)) ∧
      (∀ (store : Confirmations) key (world : World), world.clock = moment →
        world.writeFailure = none → ((store.confirm key).runIn world).result = .ok ()) ∧
      (∀ store key later, Kept store key moment later →
        ((store.find key).runIn later).result = .ok (some ⟨moment.instant, ⟨0⟩⟩)) ∧
      (∀ token later, Kept Token.store token moment later →
        let age := later.clock.since moment
        (Token.isConfirmed token).runIn later =
          ⟨.ok (!decide (Token.trust < age)), later, [.recalled (Token.store.cacheKey token),
            .logged (if Token.trust < age then (Token.notes token).expired (age - Token.trust)
              else (Token.notes token).hit)]⟩) ∧
      ∀ policy token hash later, Kept policy.store hash moment later →
        let age := later.clock.since moment
        (Availability.isConfirmed policy token hash).runIn later =
          ⟨.ok (!decide (policy.age < age)), later, [.recalled (policy.store.cacheKey hash),
            .logged (if policy.age < age then
                (Availability.notes token hash).expired (age - policy.age)
              else (Availability.notes token hash).hit)]⟩ := by
  have hencode : encode moment = .ok (Calendar.Moment.toText ⟨moment.instant, ⟨0⟩⟩) :=
    encode_eq_ok.mpr ⟨h, rfl⟩
  have hdecode := decode_encode hencode
  refine ⟨_, hencode, hdecode, fun found hfound => ?_, fun other otherText => text_eq_iff hencode,
    fun store key world hclock hwrite => ?_, fun store key later hkept => ?_,
    fun token later hkept => ?_, fun policy token hash later hkept => ?_⟩
  · obtain rfl := Except.ok.inj (hfound.symm.trans hdecode)
    exact (encode_congr (Int.sub_zero _)).trans hencode
  · subst hclock
    rw [runIn_confirm hwrite hencode]
  · rw [runIn_find, hkept.lookUp hencode]
  · rw [Token.isConfirmed_eq]
    exact hkept.consult hencode ..
  · rw [Availability.isConfirmed_eq]
    exact hkept.consult hencode ..

/-- The last second of a leap day, five and a half hours ahead of universal time. -/
def leapMoment : Calendar.Moment where
  wall := Calendar.Date.toDay ⟨2024, 2, 29⟩ * Calendar.Duration.perDay + 86399000001
  offset := ⟨19800000000⟩

/-- The world in which a token was confirmed then, a day and a microsecond later. -/
def dayAfterLeapMoment : World :=
  { ((Token.store.confirm "secret").runIn ⟨leapMoment, [], none, none, []⟩).state with
    clock := ⟨leapMoment.wall + 86400000001, leapMoment.offset⟩ }

/-- The token is a microsecond too old. -/
theorem confirmed_instant_is_found_after_leap_day :
    (0 ≤ leapMoment.instant ∧ leapMoment.instant < Calendar.Moment.wallEnd) ∧
      encode leapMoment = .ok "2024-02-29T18:29:59.000001+00:00" ∧
      decode (.str "2024-02-29T18:29:59.000001+00:00") = .ok ⟨leapMoment.instant, ⟨0⟩⟩ ∧
      Kept Token.store "secret" leapMoment dayAfterLeapMoment ∧
      (Token.isConfirmed "secret").runIn dayAfterLeapMoment =
        ⟨.ok false, dayAfterLeapMoment, [.recalled "token:secret",
          .logged ((Token.notes "secret").expired ⟨1⟩)]⟩ := by
  have hinstant : 0 ≤ leapMoment.instant ∧ leapMoment.instant < Calendar.Moment.wallEnd := by
    decide
  have htext : encode leapMoment = .ok "2024-02-29T18:29:59.000001+00:00" :=
    encode_eq_ok.mpr ⟨hinstant, by decide +kernel⟩
  have hkept : Kept Token.store "secret" leapMoment dayAfterLeapMoment :=
    ⟨rfl, _, rfl, rfl, rfl⟩
  have hage : dayAfterLeapMoment.clock.since leapMoment = ⟨86400000001⟩ := by decide
  obtain ⟨text, hencode, hdecode, _, _, _, _, htoken, _⟩ := confirmed_instant_is_found hinstant
  obtain rfl := Except.ok.inj (htext.symm.trans hencode)
  refine ⟨hinstant, hencode, hdecode, hkept, (htoken "secret" _ hkept).trans ?_⟩
  rw [hage]
  rfl

end Confirmations
end MagnetStream.Client
