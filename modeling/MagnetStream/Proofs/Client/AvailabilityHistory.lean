import MagnetStream.Proofs.Client.Ledger

/-!
# Which hashes are answered without a request

In a session from an empty cache, a hash is answered out of the cache just when the cache can be
read and the last check that confirmed it is not older than the cache age
(`known_iff_confirmed_lately`). A check confirms a hash if it asks about it and the object in the
reply names it available, while the time can be written.
-/

namespace MagnetStream.Client

/-- A check that asked about a hash, which the reply confirmed while the time could be written. -/
def Episode.ConfirmsHash [Json.Nesting] (policy : Availability.Policy) (hash : String)
    (episode : Episode) :
    Prop :=
  ∃ token hashes script body response,
    episode.turn = .request (.check token (.many hashes)) script ∧
    hash ∈ Availability.asked policy episode.world hashes ∧ firstReply script = .ok body ∧
    Json.readBytes body = .ok (.obj response) ∧ Availability.Confirms response hash ∧
    episode.world.Writes

namespace AvailabilityHistoryLemmas

open Availability (known asked heard)

variable {client : Client} {world : World} {token : String} {hashes : List String}
  {script : List Reply}

/-- What is seen of a check, and what it leaves. -/
theorem takeTurn_check [Json.Nesting] (client : Client) (world : World) (token : String)
    (hashes : List String) (script : List Reply) :
    ∃ trace unused, takeTurn client world (.request (.check token (.many hashes)) script) =
      (.served (.ok (.available (known client.availability world hashes ++
          heard (asked client.availability world hashes) (firstReply script)))) trace unused,
        (if (asked client.availability world hashes).isEmpty then world.facing script
          else (world.facing script).spend 1).stampAll client.availability.store
          (if client.availability.usesCache then
            heard (asked client.availability world hashes) (firstReply script) else [])) ∧
      calls trace = if (asked client.availability world hashes).isEmpty then []
        else [Availability.request client.base token (asked client.availability world hashes)] := by
  have hcheck := Availability.check_ends client.availability client.base token hashes
    (world.facing script)
  rw [Availability.learned, reply_facing] at hcheck
  have hserve : (client.serve (.check token (.many hashes))).Ends (world.facing script) _ _ _ :=
    hcheck.bind_last (.pure _)
  obtain ⟨trace, htaken, hcalls⟩ := takeTurn_of_ends hserve
  exact ⟨trace, _, htaken, hcalls⟩

theorem confirmsHash_check_iff [Json.Nesting] {policy : Availability.Policy} {hash : String}
    {outcome : Outcome} :
    Episode.ConfirmsHash policy hash
        ⟨world, .request (.check token (.many hashes)) script, outcome⟩ ↔
      hash ∈ heard (asked policy world hashes) (firstReply script) ∧ world.Writes := by
  rw [Availability.mem_heard]
  constructor
  · rintro ⟨_, _, _, body, response, heq, hasked, hreply, hread, hconfirms, hwrites⟩
    cases heq
    exact ⟨⟨hasked, body, response, hreply, hread, hconfirms⟩, hwrites⟩
  · rintro ⟨⟨hasked, body, response, hreply, hread, hconfirms⟩, hwrites⟩
    exact ⟨token, hashes, script, body, response, rfl, hasked, hreply, hread, hconfirms, hwrites⟩

/-- No request but a check of hashes touches the entry of a hash. -/
theorem not_touches_hash {hash : String} {request : Request}
    (h : ∀ token hashes, request ≠ .check token (.many hashes)) :
    ¬ request.Touches client (client.availability.store.cacheKey hash) := by
  cases request with
  | validate caller =>
    intro heq
    exact cacheKey_token_ne client.availability caller hash heq.symm
  | check caller asked =>
    cases asked with
    | many hashes => exact absurd rfl (h caller hashes)
    | single text => exact id
  | stream caller magnet remote => exact id

/-- The turns that confirm a hash write its entry, and no others do. -/
theorem takeTurn_hash [Json.Nesting] (hbase : Url.dropEndSlashes client.base = client.base)
    (huse : client.availability.usesCache = true) (hash : String) (world : World) {turn : Turn}
    (hput : ∀ key entry, turn ≠ .put key entry) :
    Records (Episode.ConfirmsHash client.availability hash)
      (client.availability.store.cacheKey hash) ⟨world, turn, (takeTurn client world turn).1⟩
      (takeTurn client world turn).2 := by
  by_cases hturn : ∃ token hashes script, turn = .request (.check token (.many hashes)) script
  · obtain ⟨token, hashes, script, rfl⟩ := hturn
    obtain ⟨trace, unused, htaken, _⟩ := takeTurn_check client world token hashes script
    rw [htaken, huse, if_pos rfl]
    -- Whether a request was sent or not, the cache is as it was before the hashes are stamped.
    have hsame : ∀ done : Bool, ((if done then world.facing script
        else (world.facing script).spend 1).entries = world.entries) ∧
        (if done then world.facing script else (world.facing script).spend 1).stampText? =
          world.stampText? := by
      intro done
      cases done <;> exact ⟨rfl, rfl⟩
    obtain ⟨hentries, htext⟩ := hsame (asked client.availability world hashes).isEmpty
    by_cases hheard : hash ∈ heard (asked client.availability world hashes) (firstReply script)
    · refine .of_stamp (confirmsHash_check_iff.trans (and_iff_right hheard)) ?_
      rw [World.get?_stampAll_of_mem _ _ _ hheard, htext, hentries]
    · refine .of_other (fun hconfirms => hheard (confirmsHash_check_iff.mp hconfirms).1) ?_
      rw [World.get?_stampAll_of_not_mem, hentries]
      exact fun other hm heq => hheard (Confirmations.cacheKey_inj.mp heq ▸ hm)
  -- Any other turn neither confirms the hash nor touches its entry.
  · refine .of_other (fun ⟨token, hashes, script, _, _, heq, _⟩ =>
      hturn ⟨token, hashes, script, heq⟩) ?_
    refine get?_takeTurn hbase world hput fun request script heq => ?_
    refine not_touches_hash ?_
    rintro token hashes rfl
    exact hturn ⟨token, hashes, script, heq⟩

end AvailabilityHistoryLemmas

open AvailabilityHistoryLemmas

/-- A check in a session from an empty cache answers a hash without asking about it just when the
cache can be read and the last check that confirmed the hash is not older than the cache age. It
asks about all others in one request, and answers those that the reply confirms. So every hash that
it answers was confirmed now or not longer ago than the cache age. -/
theorem known_iff_confirmed_lately [Json.Nesting] {base : String}
    {availability : Availability.Policy} {budget : Int} {interval : Binary64} {client : Client}
    (hclient : Client.create base availability budget interval = .ok client)
    (hage : (⟨0⟩ : Calendar.Duration) < client.availability.age) (world : World)
    (hempty : world.entries = []) (turns : List Turn)
    (hput : ∀ key entry, Turn.put key entry ∉ turns) {past future : List Episode}
    {episode : Episode} (h : chronicle client world turns = past ++ episode :: future)
    {token : String} {hashes : List String} {script : List Reply}
    (hturn : episode.turn = .request (.check token (.many hashes)) script) :
    let Fresh (hash : String) := episode.world.readFailure = none ∧ ∃ earlier,
      Latest (Episode.ConfirmsHash client.availability hash) past earlier ∧
        episode.world.clock.since earlier.world.clock ≤ client.availability.age
    let known := Availability.known client.availability episode.world hashes
    let asked := Availability.asked client.availability episode.world hashes
    let heard := Availability.heard asked (firstReply script)
    (∃ trace unused, episode.outcome = .served (.ok (.available (known ++ heard))) trace unused) ∧
      episode.outcome.calls =
        (if asked.isEmpty then [] else [Availability.request client.base token asked]) ∧
      (∀ hash ∈ Availability.wanted hashes, (hash ∈ known ↔ Fresh hash) ∧
        (hash ∈ asked ↔ ¬ Fresh hash)) ∧
      ∀ hash ∈ known ++ heard, Fresh hash ∨ hash ∈ asked ∧ ∃ body response,
        firstReply script = .ok body ∧ Json.readBytes body = .ok (.obj response) ∧
          Availability.Confirms response hash := by
  intro Fresh known asked heard
  have hbase := AddressingLemmas.slashless_of_create hclient
  have huse : client.availability.usesCache = true := decide_eq_true hage
  have hfresh : ∀ hash, Availability.isKnown client.availability episode.world hash = true ↔
      Fresh hash := by
    intro hash
    have hkept : Kept (Episode.ConfirmsHash client.availability hash)
        (client.availability.store.cacheKey hash) past episode.world :=
      kept_of_chronicle (by simp [hempty, Entries.get?]) (fun world turn hm =>
        takeTurn_hash hbase huse hash world fun key entry heq => hput key entry (heq ▸ hm)) h
    rw [Availability.isKnown, huse, Bool.true_and]
    exact hkept.trusts_iff
  have houtcome : episode.outcome = (takeTurn client episode.world episode.turn).1 :=
    outcome_of_mem_chronicle (h ▸ List.mem_append_right past List.mem_cons_self)
  obtain ⟨trace, unused, htaken, hcalls⟩ :=
    takeTurn_check client episode.world token hashes script
  rw [hturn, htaken] at houtcome
  refine ⟨⟨trace, unused, houtcome⟩, houtcome ▸ hcalls, fun hash hwanted => ⟨?_, ?_⟩,
    fun hash hm => ?_⟩
  · rw [← hfresh]
    exact Availability.mem_known.trans (and_iff_right hwanted)
  · rw [← hfresh]
    exact Availability.mem_asked.trans (and_iff_right hwanted)
  · rcases List.mem_append.mp hm with hm | hm
    · exact .inl ((hfresh hash).mp (Availability.mem_known.mp hm).2)
    · obtain ⟨hasked, body, response, hreply, hread, hconfirms⟩ := Availability.mem_heard.mp hm
      exact .inr ⟨hasked, body, response, hreply, hread, hconfirms⟩

/-- A reply that confirms the hash AA. -/
def confirmingScript : List Reply :=
  [.ok "\x7b\"AA\":\x7b\"rd\":[1]\x7d\x7d".toUTF8.toList]

attribute [local instance] Json.Nesting.usual

theorem confirmingScript_confirms : ∃ body response, firstReply confirmingScript = .ok body ∧
    Json.readBytes body = .ok (.obj response) ∧ Availability.Confirms response "AA" := by
  have hheard : "AA" ∈ Availability.heard ["AA"] (firstReply confirmingScript) := by decide +kernel
  exact (Availability.mem_heard.mp hheard).2

/-- A client that trusts hashes for a day. -/
def dayClient : Client :=
  ⟨"https://example.com", ⟨.ofSeconds 86400, 86400⟩, ⟨1, .ofNat 0⟩⟩

/-- A check of one hash that gets this reply. -/
def checkConfirmed (hash : String) : Turn :=
  .request (.check "secret" (.many [hash])) confirmingScript

/-- The second of two checks of a hash answers it out of the cache. -/
theorem known_iff_confirmed_lately_at_once :
    Client.create "https://example.com" ⟨.ofSeconds 86400, 86400⟩ 1 (.ofNat 0) = .ok dayClient ∧
      ∃ first second,
        chronicle dayClient (.startingAt ⟨0, ⟨0⟩⟩) [checkConfirmed "aa", checkConfirmed "aa"] =
          [first, second] ∧
        "AA" ∈ Availability.known dayClient.availability second.world ["aa"] := by
  have hclient : Client.create "https://example.com" ⟨.ofSeconds 86400, 86400⟩ 1 (.ofNat 0) =
      .ok dayClient := by decide +kernel
  refine ⟨hclient, _, _, rfl, ?_⟩
  have hput : ∀ key entry, Turn.put key entry ∉ [checkConfirmed "aa", checkConfirmed "aa"] := by
    simp [checkConfirmed]
  have hsession : chronicle dayClient (.startingAt ⟨0, ⟨0⟩⟩)
      [checkConfirmed "aa", checkConfirmed "aa"] = [_] ++ _ :: [] := rfl
  have hall := known_iff_confirmed_lately hclient (by decide +kernel) _ rfl _ hput hsession rfl
  obtain ⟨body, response, hreply, hread, hconfirms⟩ := confirmingScript_confirms
  refine (hall.2.2.1 "AA" (by decide +kernel)).1.mpr
    ⟨by decide +kernel, _, .append_self [] ?_, by decide +kernel⟩
  exact ⟨"secret", ["aa"], confirmingScript, body, response, rfl, by decide +kernel, hreply, hread,
    hconfirms, by decide +kernel, _, rfl⟩

/-- What a reply confirms is asked about again if the check had not asked about it, and also if the
time could not be written, although reading and writing works. In the second session the clock shows
the first midnight of the calendar, 14 hours ahead of universal time. -/
theorem confirmed_hash_asked_again :
    (∃ first second,
      chronicle dayClient (.startingAt ⟨0, ⟨0⟩⟩) [checkConfirmed "bb", checkConfirmed "aa"] =
        [first, second] ∧
      first.world.writeFailure = none ∧ second.world.readFailure = none ∧
      second.world.clock.since first.world.clock ≤ dayClient.availability.age ∧
      second.outcome.calls = [Availability.request dayClient.base "secret" ["AA"]]) ∧
    (∃ first second,
      chronicle dayClient (.startingAt ⟨0, ⟨50400000000⟩⟩)
        [checkConfirmed "aa", checkConfirmed "aa"] = [first, second] ∧
      first.world.writeFailure = none ∧ second.world.readFailure = none ∧
      second.world.clock.since first.world.clock ≤ dayClient.availability.age ∧
      second.outcome.calls = [Availability.request dayClient.base "secret" ["AA"]]) ∧
    ∃ body response, firstReply confirmingScript = .ok body ∧
      Json.readBytes body = .ok (.obj response) ∧ Availability.Confirms response "AA" :=
  ⟨⟨_, _, rfl, by decide +kernel, by decide +kernel, by decide +kernel, by decide +kernel⟩,
    ⟨_, _, rfl, by decide +kernel, by decide +kernel, by decide +kernel, by decide +kernel⟩,
    confirmingScript_confirms⟩

end MagnetStream.Client
