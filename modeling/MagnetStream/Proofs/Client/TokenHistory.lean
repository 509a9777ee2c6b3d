import MagnetStream.Proofs.Client.Ledger
import MagnetStream.Proofs.Client.Token

/-!
# Which tokens are valid without a request

In a session from an empty cache, a token is accepted without a request just when the cache can be
read and the last validation that confirmed it is at most 24 hours old
(`valid_iff_confirmed_lately`). A validation confirms a token if the reply to its request shows the
user while the time can be written.
-/

namespace MagnetStream.Client

/-- A validation in which the reply to a request showed the user of a token while the time could be
written. -/
def Episode.ConfirmsToken [Json.Nesting] (token : String) (episode : Episode) : Prop :=
  ∃ script, episode.turn = .request (.validate token) script ∧ episode.outcome.calls ≠ [] ∧
    ShowsUser (firstReply script) ∧ episode.world.Writes

namespace TokenHistoryLemmas

variable {world : World} {token : String} {script : List Reply}

/-! ## One validation of a session -/

section Validating

variable [Json.Nesting] (client : Client)

theorem takeTurn_trusted (script : List Reply)
    (h : world.trusts Token.store Token.trust token = true) :
    ∃ trace, takeTurn client world (.request (.validate token) script) =
      (.served (.ok .valid) trace script.length, world.facing script) ∧ calls trace = [] := by
  have hfacing : (world.facing script).trusts Token.store Token.trust token = true := h
  have hvalid : (Token.validate client.base token).Ends (world.facing script) (.ok ())
      (world.facing script) [] := (Token.validate_trusted client.base hfacing).ends
  have hserve : (client.serve (.validate token)).Ends (world.facing script) (.ok .valid)
      (world.facing script) [] := hvalid.bind_last (.pure _)
  exact takeTurn_of_ends hserve

theorem takeTurn_shown (h : world.trusts Token.store Token.trust token = false)
    (hreply : ShowsUser (firstReply script)) :
    ∃ trace unused, takeTurn client world (.request (.validate token) script) =
      (.served (.ok .valid) trace unused,
        ((world.facing script).spend 1).stamp Token.store token) ∧
      calls trace = [Token.request client.base token] := by
  rw [← reply_facing world] at hreply
  have hvalid : (Token.validate client.base token).Ends (world.facing script) (.ok ())
      (((world.facing script).spend 1).stamp Token.store token)
      [Token.request client.base token] := Token.validate_shown client.base h hreply
  have hserve : (client.serve (.validate token)).Ends (world.facing script) (.ok .valid)
      (((world.facing script).spend 1).stamp Token.store token)
      [Token.request client.base token] := hvalid.bind_last (.pure _)
  obtain ⟨trace, htaken, hcalls⟩ := takeTurn_of_ends hserve
  exact ⟨trace, _, htaken, hcalls⟩

theorem takeTurn_rejected (h : world.trusts Token.store Token.trust token = false)
    (hreply : ¬ ShowsUser (firstReply script)) :
    ∃ failure trace unused, takeTurn client world (.request (.validate token) script) =
      (.served (.error failure) trace unused, (world.facing script).spend 1) ∧
      calls trace = [Token.request client.base token] := by
  rw [← reply_facing world] at hreply
  have hfacing : (world.facing script).trusts Token.store Token.trust token = false := h
  obtain ⟨failure, hrejected⟩ := Token.validate_rejected client.base hfacing hreply
  have hserve : (client.serve (.validate token)).Ends (world.facing script) (.error failure)
      ((world.facing script).spend 1) [Token.request client.base token] :=
    Session.Ends.bind_error hrejected
  obtain ⟨trace, htaken, hcalls⟩ := takeTurn_of_ends hserve
  exact ⟨failure, trace, _, htaken, hcalls⟩

/-- What is seen of a validation, and what a failed one leaves. -/
theorem takeTurn_validate (world : World) (token : String)
    (script : List Reply) :
    let taken := takeTurn client world (.request (.validate token) script)
    (world.trusts Token.store Token.trust token = true →
      taken.1.calls = [] ∧ taken.1.Succeeds) ∧
    (world.trusts Token.store Token.trust token = false →
      taken.1.calls = [Token.request client.base token] ∧
        (taken.1.Succeeds ↔ ShowsUser (firstReply script))) ∧
    (¬ taken.1.Succeeds → taken.2.entries = world.entries) := by
  cases htrusts : world.trusts Token.store Token.trust token with
  | true =>
    obtain ⟨trace, htaken, hcalls⟩ := takeTurn_trusted client script htrusts
    rw [htaken]
    exact ⟨fun _ => ⟨hcalls, trivial⟩, (nomatch ·), fun _ => rfl⟩
  | false =>
    by_cases hreply : ShowsUser (firstReply script)
    · obtain ⟨trace, unused, htaken, hcalls⟩ := takeTurn_shown client htrusts hreply
      rw [htaken]
      exact ⟨(nomatch ·), fun _ => ⟨hcalls, fun _ => hreply, fun _ => trivial⟩,
        fun hfails => absurd trivial hfails⟩
    · obtain ⟨failure, trace, unused, htaken, hcalls⟩ :=
        takeTurn_rejected client htrusts hreply
      rw [htaken]
      exact ⟨(nomatch ·), fun _ => ⟨hcalls, False.elim, fun hshown => absurd hshown hreply⟩,
        fun _ => rfl⟩

end Validating

/-! ## What a turn does to the entry of a token -/

section Entry

variable {client : Client}

/-- No request but a validation of the token touches its entry. -/
theorem not_touches_token {request : Request} (h : request ≠ .validate token) :
    ¬ request.Touches client (Token.store.cacheKey token) := by
  cases request with
  | validate other =>
    intro heq
    exact h (by rw [Confirmations.cacheKey_inj.mp heq])
  | check caller hashes =>
    cases hashes with
    | many hashes =>
      rintro ⟨hash, _, heq⟩
      exact cacheKey_token_ne client.availability token hash heq
    | single text => exact id
  | stream caller magnet remote => exact id

/-- The turns that confirm a token write its entry, and no others do. -/
theorem takeTurn_token [Json.Nesting] (hbase : Url.dropEndSlashes client.base = client.base)
    (token : String) (world : World) {turn : Turn} (hput : ∀ key entry, turn ≠ .put key entry) :
    Records (Episode.ConfirmsToken token) (Token.store.cacheKey token)
      ⟨world, turn, (takeTurn client world turn).1⟩ (takeTurn client world turn).2 := by
  by_cases hturn : ∃ script, turn = .request (.validate token) script
  · obtain ⟨script, rfl⟩ := hturn
    cases htrusts : world.trusts Token.store Token.trust token with
    | true =>
      obtain ⟨trace, htaken, hcalls⟩ := takeTurn_trusted client script htrusts
      rw [htaken]
      refine .of_other ?_ rfl
      rintro ⟨_, _, hsent, _⟩
      exact absurd hcalls hsent
    | false =>
      by_cases hreply : ShowsUser (firstReply script)
      · obtain ⟨trace, unused, htaken, hcalls⟩ := takeTurn_shown client htrusts hreply
        rw [htaken]
        have hsent : calls trace ≠ [] := by simp [hcalls]
        refine .of_stamp ⟨?_, fun hwrites => ⟨script, rfl, hsent, hreply, hwrites⟩⟩ ?_
        · rintro ⟨_, _, _, _, hwrites⟩
          exact hwrites
        · exact World.get?_stamp_self ..
      · obtain ⟨failure, trace, unused, htaken, _⟩ := takeTurn_rejected client htrusts hreply
        rw [htaken]
        refine .of_other ?_ rfl
        rintro ⟨other, hother, _, hshown, _⟩
        cases hother
        exact absurd hshown hreply
  -- Any other turn neither confirms the token nor touches its entry.
  · refine .of_other (fun ⟨script, heq, _⟩ => hturn ⟨script, heq⟩) ?_
    refine get?_takeTurn hbase world hput fun request script heq => ?_
    refine not_touches_token ?_
    rintro rfl
    exact hturn ⟨script, heq⟩

end Entry
end TokenHistoryLemmas

open TokenHistoryLemmas

/-- A validation in a session from an empty cache succeeds without a request just when the cache can
be read and the last validation that confirmed the token is at most 24 hours old. Otherwise it sends
one request and succeeds just when the reply shows the user. If it fails, the cache stays as it was.
-/
theorem valid_iff_confirmed_lately [Json.Nesting] {base : String}
    {availability : Availability.Policy} {budget : Int} {interval : Binary64} {client : Client}
    (hclient : Client.create base availability budget interval = .ok client) (world : World)
    (hempty : world.entries = []) (turns : List Turn)
    (hput : ∀ key entry, Turn.put key entry ∉ turns) {past future : List Episode}
    {episode : Episode} (h : chronicle client world turns = past ++ episode :: future)
    {token : String} {script : List Reply}
    (hturn : episode.turn = .request (.validate token) script) :
    let Fresh := episode.world.readFailure = none ∧ ∃ earlier,
      Latest (Episode.ConfirmsToken token) past earlier ∧
        episode.world.clock.since earlier.world.clock ≤ Token.trust
    (episode.outcome.calls = [] ∧ episode.outcome.Succeeds ↔ Fresh) ∧
      (¬ Fresh → episode.outcome.calls = [Token.request client.base token] ∧
        (episode.outcome.Succeeds ↔ ShowsUser (firstReply script))) ∧
      (¬ episode.outcome.Succeeds →
        (takeTurn client episode.world episode.turn).2.entries = episode.world.entries) ∧
      ((∀ earlier ∈ past, ¬ earlier.ConfirmsToken token) → episode.outcome.Succeeds →
        episode.outcome.calls ≠ []) := by
  intro Fresh
  have hbase := AddressingLemmas.slashless_of_create hclient
  have hkept : Kept (Episode.ConfirmsToken token) (Token.store.cacheKey token) past episode.world :=
    kept_of_chronicle (by simp [hempty, Entries.get?]) (fun world turn hm =>
      takeTurn_token hbase token world fun key entry heq => hput key entry (heq ▸ hm)) h
  have hfresh : episode.world.trusts Token.store Token.trust token = true ↔ Fresh :=
    hkept.trusts_iff
  have houtcome : episode.outcome = (takeTurn client episode.world episode.turn).1 :=
    outcome_of_mem_chronicle (h ▸ List.mem_append_right past List.mem_cons_self)
  obtain ⟨htrusted, hasked, hfails⟩ := takeTurn_validate client episode.world token script
  rw [← hturn, ← houtcome] at htrusted hasked hfails
  refine ⟨⟨fun hquiet => ?_, fun hyes => htrusted (hfresh.mpr hyes)⟩, fun hno => ?_, hfails,
    fun hnever _ hnone => ?_⟩
  · rw [← hfresh, ← Bool.not_eq_false]
    intro hfalse
    rw [(hasked hfalse).1] at hquiet
    cases hquiet.1
  · exact hasked (Bool.eq_false_iff.mpr fun htrue => hno (hfresh.mp htrue))
  -- What was never confirmed has no last confirmation to rely on.
  · have hfalse : episode.world.trusts Token.store Token.trust token = false := by
      refine Bool.eq_false_iff.mpr fun htrue => ?_
      obtain ⟨_, earlier, hlatest, _⟩ := hfresh.mp htrue
      exact hnever earlier hlatest.mem hlatest.holds
    rw [(hasked hfalse).1] at hnone
    cases hnone

/-- A client that does not cache hashes. -/
def plainClient : Client := ⟨"https://example.com", ⟨⟨0⟩, 0⟩, ⟨1, .ofNat 0⟩⟩

/-- A token with a user, checked twice in a row. -/
def twoValidations : List Turn :=
  List.replicate 2 (.request (.validate "secret") [.ok "\x7b\"id\":1\x7d".toUTF8.toList])

attribute [local instance] Json.Nesting.usual

/-- The second validation relies on the first. -/
theorem valid_iff_confirmed_lately_at_once :
    Client.create "https://example.com" ⟨⟨0⟩, 0⟩ 1 (.ofNat 0) = .ok plainClient ∧
      ∃ first second,
        chronicle plainClient (.startingAt ⟨0, ⟨0⟩⟩) twoValidations = [first, second] ∧
          second.outcome.calls = [] ∧ second.outcome.Succeeds := by
  have hclient : Client.create "https://example.com" ⟨⟨0⟩, 0⟩ 1 (.ofNat 0) = .ok plainClient := by
    decide +kernel
  refine ⟨hclient, _, _, rfl, ?_⟩
  have hput : ∀ key entry, Turn.put key entry ∉ twoValidations := by
    simp [twoValidations]
  have hsession : chronicle plainClient (.startingAt ⟨0, ⟨0⟩⟩) twoValidations =
      [_] ++ _ :: [] := rfl
  have hboth := valid_iff_confirmed_lately hclient _ rfl twoValidations hput hsession rfl
  refine hboth.1.mpr ⟨by decide +kernel, _, .append_self [] ?_, by decide +kernel⟩
  exact ⟨_, rfl, by decide +kernel, by decide +kernel, by decide +kernel, _, rfl⟩

/-- A validation at a time that cannot be written confirms nothing, although writing works: the
next one asks again. The clock shows the first midnight of the calendar, 14 hours ahead of universal
time. -/
theorem unwritable_validation_asks_again :
    ∃ first second,
      chronicle plainClient (.startingAt ⟨0, ⟨50400000000⟩⟩) twoValidations = [first, second] ∧
      first.outcome.calls ≠ [] ∧
      ShowsUser (firstReply [.ok "\x7b\"id\":1\x7d".toUTF8.toList]) ∧
      first.world.writeFailure = none ∧ second.world.readFailure = none ∧
      second.world.clock.since first.world.clock ≤ Token.trust ∧ second.outcome.calls ≠ [] := by
  refine ⟨_, _, rfl, by decide +kernel, by decide +kernel, by decide +kernel, by decide +kernel,
    by decide +kernel, by decide +kernel⟩

end MagnetStream.Client
