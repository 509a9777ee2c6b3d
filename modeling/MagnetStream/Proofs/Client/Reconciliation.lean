import MagnetStream.Proofs.Client.AvailabilityHistory

/-!
# What one check asks, answers and keeps

A check parts the wanted hashes into those that the cache holds a fresh confirmation of and all
others. It asks about the others in one request, if there are any, and answers the fresh ones and
then those that the reply confirms. Just these get a new entry in the cache
(`check_reconciles`). An entry can be written if writing works and the clock, in universal time,
shows a moment of the calendar.
-/

namespace MagnetStream.Client

namespace World

variable (world : World) (store : Confirmations)

/-- The world trusts an entry that is there, can be read and is not too old. -/
theorem trusts_eq_true {age : Calendar.Duration} {key : String} :
    world.trusts store age key = true ↔ world.readFailure = none ∧ ∃ text confirmed,
      world.entries.get? (store.cacheKey key) = some (.str text) ∧
        Calendar.Moment.ofText text = .ok confirmed ∧ world.clock.since confirmed ≤ age := by
  have hfresh : ∀ confirmed, (!decide (age < world.clock.since confirmed)) = true ↔
      world.clock.since confirmed ≤ age := by
    intro confirmed
    rw [Bool.not_eq_true', decide_eq_false_iff_not]
    exact Int.not_lt
  unfold trusts lookUp
  constructor
  · intro h
    cases hread : world.readFailure with
    | some failure =>
      rw [hread] at h
      cases h
    | none =>
      rw [hread] at h
      refine ⟨rfl, ?_⟩
      -- Only a text is decoded, and only one that is a moment counts.
      cases hentry : world.entries.get? (store.cacheKey key) with
      | none =>
        rw [hentry] at h
        cases h
      | some entry =>
        rw [hentry] at h
        cases entry with
        | str text =>
          cases htext : Calendar.Moment.ofText text with
          | error fault =>
            simp [Confirmations.decode, htext, Except.mapError, Except.map] at h
          | ok confirmed =>
            refine ⟨text, confirmed, rfl, htext, (hfresh confirmed).mp ?_⟩
            simpa [Confirmations.decode, htext, Except.mapError, Except.map] using h
        | _ => cases h
  · rintro ⟨hread, text, confirmed, hentry, htext, hage⟩
    rw [hread, hentry]
    simpa [Confirmations.decode, htext, Except.mapError, Except.map]
      using (hfresh confirmed).mpr hage

theorem stampText?_of_toUniversal? {moment : Calendar.Moment} (hwrite : world.writeFailure = none)
    (hclock : world.clock.toUniversal? = some moment) :
    world.stampText? = some moment.toText := by
  simp [stampText?, hwrite, Confirmations.encode, hclock, Except.toOption]

/-- Where nothing can be written, confirming leaves the world as it is. -/
theorem stampAll_of_not_writes (keys : List String) (h : ¬ world.Writes) :
    world.stampAll store keys = world := by
  have htext : world.stampText? = none := by
    rw [Option.eq_none_iff_forall_ne_some]
    exact fun text htext => h (writes_iff.mpr ⟨text, htext⟩)
  induction keys with
  | nil => rfl
  | cons key rest ih =>
    have hstamp : world.stamp store key = world := by simp [stamp, htext]
    rw [stampAll_cons, hstamp, ih]

/-- Where the clock can be written, just what is confirmed gets an entry, and all of it the same.
-/
theorem get?_stampAll_of_writes (keys : List String) {moment : Calendar.Moment}
    (hwrite : world.writeFailure = none) (hclock : world.clock.toUniversal? = some moment)
    (entry : String) :
    (world.stampAll store keys).entries.get? entry =
      if entry ∈ keys.map store.cacheKey then some (.str moment.toText)
      else world.entries.get? entry := by
  by_cases h : entry ∈ keys.map store.cacheKey
  · obtain ⟨key, hkey, rfl⟩ := List.mem_map.mp h
    rw [if_pos h, get?_stampAll_of_mem _ _ _ hkey,
      stampText?_of_toUniversal? _ hwrite hclock]
    rfl
  · rw [if_neg h]
    refine get?_stampAll_of_not_mem _ _ _ fun key hkey heq => ?_
    exact h (List.mem_map.mpr ⟨key, hkey, heq.symm⟩)

end World

namespace Availability

/-- The cache holds a confirmation of a hash that can be read and is not too old. Without any cache
age there is none. -/
def Fresh (policy : Policy) (world : World) (hash : String) : Prop :=
  (⟨0⟩ : Calendar.Duration) < policy.age ∧ world.readFailure = none ∧ ∃ text confirmed,
    world.entries.get? (policy.store.cacheKey hash) = some (.str text) ∧
      Calendar.Moment.ofText text = .ok confirmed ∧ world.clock.since confirmed ≤ policy.age

theorem isKnown_iff {policy : Policy} {world : World} {hash : String} :
    isKnown policy world hash = true ↔ Fresh policy world hash := by
  rw [isKnown, Bool.and_eq_true, World.trusts_eq_true, Policy.usesCache, decide_eq_true_iff]
  rfl

instance (policy : Policy) (world : World) (hash : String) : Decidable (Fresh policy world hash) :=
  decidable_of_iff _ isKnown_iff

/-- The hashes among those asked about that a reply confirms, in the order of the first keys that
confirm them. What is not an object confirms nothing. -/
def confirmedIn [Json.Nesting] (asked : List String) (reply : Reply) : List String :=
  match reply with
  | .ok body =>
    match Json.readBytes body with
    | .ok (.obj response) =>
      ((response.filter fun (key, description) =>
        asked.contains (Text.upper key) && isAvailable description).map fun (key, _) =>
          Text.upper key).eraseDups
    | _ => []
  | .error _ => []

/-! ## The parts of a check -/

theorem heard_eq [Json.Nesting] (asked : List String) (reply : Reply) :
    heard asked reply = confirmedIn asked reply := by
  cases reply with
  | error failure => rfl
  | ok body =>
    cases hbody : Json.readBytes body with
    | error failure => simp only [heard, confirmedIn, hbody]
    | ok value =>
      cases value with
      | obj response => simp only [heard, confirmedIn, hbody, confirmedBy_eq]
      | _ => simp only [heard, confirmedIn, hbody]

theorem known_eq (policy : Policy) (world : World) (hashes : List String) :
    known policy world hashes =
      (wanted hashes).filter fun hash => decide (Fresh policy world hash) := by
  refine List.filter_congr fun hash _ => ?_
  rw [Bool.eq_iff_iff, isKnown_iff, decide_eq_true_iff]

theorem asked_eq (policy : Policy) (world : World) (hashes : List String) :
    asked policy world hashes =
      (wanted hashes).filter fun hash => !decide (Fresh policy world hash) := by
  refine List.filter_congr fun hash _ => congrArg (!·) ?_
  rw [Bool.eq_iff_iff, isKnown_iff, decide_eq_true_iff]

theorem nodup_heard [Json.Nesting] (asked : List String) (reply : Reply) :
    (heard asked reply).Nodup := by
  unfold heard
  split
  · split
    · rw [confirmedBy_eq]
      exact nodup_eraseDups _
    · exact .nil
  · exact .nil

/-- The answer of a check has no repetitions: what is heard was not known. -/
theorem nodup_answer [Json.Nesting] (policy : Policy) (world : World) (hashes : List String) :
    (known policy world hashes ++ learned policy world hashes).Nodup := by
  have hwanted : (wanted hashes).Nodup := wanted_eq hashes ▸ nodup_eraseDups _
  refine List.nodup_append.mpr
    ⟨hwanted.filter _, nodup_heard .., fun hash hknown other hm heq => ?_⟩
  have hasked : other ∈ asked policy world hashes := (mem_heard.mp hm).1
  exact (mem_asked.mp hasked).2 (heq ▸ (mem_known.mp hknown).2)

theorem answer_subset_wanted [Json.Nesting] (policy : Policy) (world : World)
    (hashes : List String) :
    known policy world hashes ++ learned policy world hashes ⊆ wanted hashes := by
  intro hash hm
  rcases List.mem_append.mp hm with hm | hm
  · exact (mem_known.mp hm).1
  · exact (mem_asked.mp (mem_heard.mp hm).1).1

/-- Without any cache age, nothing is read from the cache and nothing written. -/
theorem check_leaves_cache [Json.Nesting] {policy : Policy}
    (h : ¬ (⟨0⟩ : Calendar.Duration) < policy.age) (base token : String) (hashes : List String)
    (world : World) :
    ∀ mark ∈ ((check policy base token hashes).runIn world).trace,
      mark.Within base token fun _ => False := by
  have hunused : policy.usesCache = true → ∀ hash ∈ wanted hashes, False :=
    fun huse => absurd (of_decide_eq_true huse) h
  exact AddressingLemmas.marks_within (AddressingLemmas.check_within hunused) world

/-! ## The whole check -/

/-- A check answers the wanted hashes that are fresh, and then those of the others that the reply to
its one request confirms. There is no request if all of them are fresh. The cache is left with a new
entry for each hash that the reply confirms, and otherwise as it was. -/
theorem check_reconciles [Json.Nesting] (policy : Policy) (base token : String)
    (hashes : List String) (world : World) :
    let wanted := ((hashes.filter fun hash => !hash.isEmpty).map Text.upper).eraseDups
    let known := wanted.filter fun hash => decide (Fresh policy world hash)
    let asked := wanted.filter fun hash => !decide (Fresh policy world hash)
    let confirmed := confirmedIn asked (world.reply 0)
    let run := (check policy base token hashes).runIn world
    run.result = .ok (known ++ confirmed) ∧
      calls run.trace =
        (if asked = [] then []
          else [⟨.get, base ++ path ++ "/" ++ "/".intercalate asked, token, none⟩]) ∧
      (known ++ confirmed).Nodup ∧ known ++ confirmed ⊆ wanted ∧
      ((⟨0⟩ : Calendar.Duration) < policy.age → world.writeFailure = none →
        ∀ moment, world.clock.toUniversal? = some moment → ∀ key,
          run.state.entries.get? key =
            if key ∈ confirmed.map policy.store.cacheKey then some (.str moment.toText)
            else world.entries.get? key) ∧
      (¬ world.Writes → run.state.entries = world.entries) ∧
      (¬ (⟨0⟩ : Calendar.Duration) < policy.age → run.state.entries = world.entries ∧
        ∀ key entry ttl, .recalled key ∉ run.trace ∧ .recorded key entry ttl ∉ run.trace) := by
  intro wanted known asked confirmed run
  have hwanted : wanted = Availability.wanted hashes := (wanted_eq hashes).symm
  have hknown : known = Availability.known policy world hashes := by
    rw [known_eq, ← hwanted]
  have hasked : asked = Availability.asked policy world hashes := by
    rw [asked_eq, ← hwanted]
  have hconfirmed : confirmed = learned policy world hashes := by
    rw [learned, heard_eq, ← hasked]
  obtain ⟨trace, hrun, hcalls⟩ := check_ends policy base token hashes world
  rw [← hasked, ← hknown, ← hconfirmed] at hrun
  rw [← hasked] at hcalls
  -- Sending the request takes a reply away and changes nothing else.
  generalize hbefore : (if asked.isEmpty then world else world.spend 1) = before at hrun
  have hsame : before.entries = world.entries ∧ before.writeFailure = world.writeFailure ∧
      before.clock = world.clock := by
    rw [← hbefore]
    split <;> exact ⟨rfl, rfl, rfl⟩
  obtain ⟨hentries, hwriting, hclock⟩ := hsame
  have hstate : run.state = _ := congrArg Run.state hrun
  refine ⟨congrArg Run.result hrun, ?_, ?_, ?_, ?_, ?_, ?_⟩
  · rw [show run.trace = trace from congrArg Run.trace hrun, hcalls]
    simp only [List.isEmpty_iff]
    rfl
  · rw [hknown, hconfirmed]
    exact nodup_answer ..
  · rw [hknown, hconfirmed, hwanted]
    exact answer_subset_wanted ..
  · intro hage hwrite moment hmoment key
    rw [hstate, Policy.usesCache, decide_eq_true hage, if_pos rfl, ← hentries]
    exact before.get?_stampAll_of_writes _ _ (hwriting.trans hwrite)
      ((congrArg _ hclock).trans hmoment) key
  · intro hwrites
    have hbeforeWrites : ¬ before.Writes := by
      rwa [World.Writes, hwriting, hclock]
    rw [hstate, World.stampAll_of_not_writes _ _ _ hbeforeWrites, hentries]
  · intro hage
    have hmarks := check_leaves_cache hage base token hashes world
    refine ⟨?_, fun key entry ttl => ⟨fun hm => hmarks _ hm, fun hm => hmarks _ hm⟩⟩
    rw [hstate, Policy.usesCache, decide_eq_false hage, if_neg Bool.false_ne_true]
    exact hentries

/-- A world whose clock shows the first midnight of the calendar, 14 hours ahead of universal time,
and whose service confirms the hash AA. -/
def firstMidnight : World := (World.startingAt ⟨0, ⟨50400000000⟩⟩).facing confirmingScript

attribute [local instance] Json.Nesting.usual

/-- Where the time of the clock cannot be written, what is confirmed leaves no entry, although
writing works and the cache is used. -/
theorem confirmed_without_entry :
    (⟨0⟩ : Calendar.Duration) < dayClient.availability.age ∧ firstMidnight.writeFailure = none ∧
      ((check dayClient.availability dayClient.base "secret" ["aa"]).runIn firstMidnight).result =
        .ok ["AA"] ∧
      confirmedIn ["AA"] (firstMidnight.reply 0) = ["AA"] ∧
      ((check dayClient.availability dayClient.base "secret" ["aa"]).runIn
        firstMidnight).state.entries = [] :=
  ⟨by decide +kernel, rfl, by decide +kernel, by decide +kernel, by decide +kernel⟩

end Availability
end MagnetStream.Client
