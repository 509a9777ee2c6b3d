import MagnetStream.Proofs.Client.Addressing

/-!
# What the cache remembers of a session

The entry of a key holds the time of the last turn of a kind: this is the invariant `Kept`. It is
kept if every turn writes the entry just when it is of that kind (`Records`, `kept_of_chronicle`),
and it decides what the world trusts (`Kept.trusts_iff`). A turn writes no entry but those that its
request touches (`get?_takeTurn`).
-/

namespace MagnetStream.Client

/-- An episode puts its time into the entry of a key if it is of a kind, and leaves the entry as it
was if not. -/
def Records (kind : Episode → Prop) (key : String) (episode : Episode) (later : World) : Prop :=
  (kind episode → ∃ text, Confirmations.encode episode.world.clock = .ok text ∧
    later.entries.get? key = some (.str text)) ∧
  (¬ kind episode → later.entries.get? key = episode.world.entries.get? key)

/-- The entry of a key holds the time of the last episode of a kind, or is missing if there was
none. -/
def Kept (kind : Episode → Prop) (key : String) (past : List Episode) (world : World) : Prop :=
  (∃ episode text, Latest kind past episode ∧
    Confirmations.encode episode.world.clock = .ok text ∧
      world.entries.get? key = some (.str text)) ∨
    (∀ episode ∈ past, ¬ kind episode) ∧ world.entries.get? key = none

section Keeping

variable {kind : Episode → Prop} {key : String} {past : List Episode} {world later : World}
  {episode : Episode}

theorem Records.of_stamp (hkind : kind episode ↔ episode.world.Writes)
    (h : later.entries.get? key =
      (episode.world.stampText?.map Json.str).or (episode.world.entries.get? key)) :
    Records kind key episode later := by
  unfold Records
  rw [hkind, World.writes_iff]
  cases htext : episode.world.stampText? with
  | some text =>
    rw [htext] at h
    refine ⟨fun _ => ⟨text, World.encode_of_stampText? htext, h⟩, fun hnot => ?_⟩
    exact absurd ⟨text, rfl⟩ hnot
  | none =>
    rw [htext] at h
    exact ⟨fun ⟨_, hsome⟩ => (nomatch hsome), fun _ => h⟩

theorem Records.of_other (hkind : ¬ kind episode)
    (h : later.entries.get? key = episode.world.entries.get? key) :
    Records kind key episode later :=
  ⟨fun hyes => absurd hyes hkind, fun _ => h⟩

namespace Kept

theorem step (h : Kept kind key past episode.world) (hrecords : Records kind key episode later) :
    Kept kind key (past ++ [episode]) later := by
  obtain ⟨hwrites, hleaves⟩ := hrecords
  by_cases hkind : kind episode
  -- The new episode is the last one of the kind.
  · obtain ⟨text, hencode, hget⟩ := hwrites hkind
    exact .inl ⟨episode, text, .append_self past hkind, hencode, hget⟩
  -- The last one of the kind is the one that it was, or there is still none.
  · have hsame := hleaves hkind
    rcases h with ⟨earlier, text, hlatest, hencode, hget⟩ | ⟨hnone, hget⟩
    · exact .inl ⟨earlier, text, hlatest.append_other hkind, hencode, hsame.trans hget⟩
    · refine .inr ⟨fun other hm => ?_, hsame.trans hget⟩
      rcases List.mem_append.mp hm with hm | hm
      · exact hnone other hm
      · rw [List.mem_singleton.mp hm]
        exact hkind

/-- A world trusts what was confirmed by the last episode of the kind, if this can be read and is
not too old. -/
theorem trusts_iff {store : Confirmations} {name : String} {age : Calendar.Duration}
    (h : Kept kind (store.cacheKey name) past world) :
    world.trusts store age name = true ↔ world.readFailure = none ∧
      ∃ earlier, Latest kind past earlier ∧ world.clock.since earlier.world.clock ≤ age := by
  have hle : ∀ span : Calendar.Duration, (!decide (age < span)) = true ↔ span ≤ age := by
    intro span
    rw [Bool.not_eq_true', decide_eq_false_iff_not]
    exact Int.not_lt
  unfold World.trusts World.lookUp
  cases world.readFailure with
  | some failure => simp
  | none =>
    rcases h with ⟨earlier, text, hlatest, hencode, hget⟩ | ⟨hnone, hget⟩
    -- What was written is universal time, which is as far away as the time that the clock showed.
    · have hsince : world.clock.since ⟨earlier.world.clock.instant, ⟨0⟩⟩ =
          world.clock.since earlier.world.clock := by
        simp [Calendar.Moment.since, Calendar.Moment.instant]
      simp only [hget, Option.getD_some, Confirmations.decode_encode hencode, Except.map, hle,
        hsince, true_and]
      constructor
      · exact fun hage => ⟨earlier, hlatest, hage⟩
      · rintro ⟨other, hother, hage⟩
        rwa [hlatest.unique hother] at hage
    · simp only [hget, Option.getD_none, true_and]
      constructor
      · exact fun hfalse => nomatch hfalse
      · rintro ⟨other, hother, _⟩
        exact absurd hother.holds (hnone other hother.mem)

end Kept
end Keeping

/-- The entries of tokens and of hashes never meet. -/
theorem cacheKey_token_ne (policy : Availability.Policy) (token hash : String) :
    Token.store.cacheKey token ≠ policy.store.cacheKey hash := by
  intro heq
  have hfirst := congrArg (fun key => key.toList.head?) heq
  simp [Confirmations.cacheKey, Token.store, Availability.Policy.store] at hfirst

/-- A turn leaves every entry that its request does not touch, if it puts none there itself. -/
theorem get?_takeTurn [Json.Nesting] {client : Client}
    (hbase : Url.dropEndSlashes client.base = client.base) (world : World) {turn : Turn}
    {key : String} (hput : ∀ other entry, turn ≠ .put other entry)
    (htouch : ∀ request script, turn = .request request script → ¬ request.Touches client key) :
    (takeTurn client world turn).2.entries.get? key = world.entries.get? key := by
  cases turn with
  | advance span =>
    rw [takeTurn]
    cases world.clock.advance? span <;> rfl
  | put other entry => exact absurd rfl (hput other entry)
  | fail reading writing => rfl
  | request request script =>
    exact AddressingLemmas.get?_of_within (AddressingLemmas.serve_within client hbase request)
      { world with script := script } (htouch request script rfl)

/-- In a session that starts without an entry, the entry holds the time of the last turn of a kind,
if every turn of that kind writes it and no other does. -/
theorem kept_of_chronicle [Json.Nesting] {client : Client} {kind : Episode → Prop} {key : String}
    {world : World} {turns : List Turn} (hstart : world.entries.get? key = none)
    (hturn : ∀ world, ∀ turn ∈ turns, Records kind key
      ⟨world, turn, (takeTurn client world turn).1⟩ (takeTurn client world turn).2)
    {past future : List Episode} {episode : Episode}
    (h : chronicle client world turns = past ++ episode :: future) :
    Kept kind key past episode.world := by
  obtain ⟨before, after, rfl, rfl, hworld⟩ := chronicle_split h
  have hstep : ∀ past world turn, turn ∈ before → Kept kind key past world →
      Kept kind key (past ++ [⟨world, turn, (takeTurn client world turn).1⟩])
        (takeTurn client world turn).2 := by
    intro past world turn hm hkept
    exact hkept.step (hturn world turn (List.mem_append_left _ hm))
  have hfirst : Kept kind key [] world := .inr ⟨fun _ hm => absurd hm List.not_mem_nil, hstart⟩
  have hkept := chronicle_induction hstep hfirst
  rwa [List.nil_append, ← hworld] at hkept

end MagnetStream.Client
