import MagnetStream.Proofs.Binary64.Whole
import MagnetStream.Proofs.Client.Deeds
import MagnetStream.Proofs.Client.Stream

/-!
# The polls of a resolution

A reply to a poll is decisive if it brings no object, shows a torrent that has failed for good, or
shows one that is downloaded; `decision` is what the polls end with then. A torrent in any other
state is waited for, as long as the budget lasts. `polls_until_decision` tells what the polls do for
every sequence of replies: they go on to the first decisive reply, with one pause between two polls,
or until the budget is used up.
-/

namespace MagnetStream.Client.Stream

open Session (Does)
open StreamLemmas
open Torrent (Status)

/-- The words for states in which a torrent has failed for good. -/
def failedWords : List String := ["magnet_error", "error", "virus", "dead"]

/-- What the polls end with when this is the reply to one of them, unless they go on. -/
def decision [Json.Nesting] (reply : Reply) : Option (Except Failure (List (String × Json))) :=
  match objectIn infoPurpose reply with
  | .error failure => some (.error failure)
  | .ok info =>
    match Entries.get? info "status" with
    | some (.str word) =>
      if word ∈ failedWords then some (.error (.terminalStatus word))
      else if word = "downloaded" then some (.ok info)
      else none
    | _ => none

/-- The status that a reply shows, as it is named when the time is over. -/
def lastStatus [Json.Nesting] (reply : Reply) : String :=
  match objectIn infoPurpose reply with
  | .ok info => if (rawStatus info).isEmpty then "unknown" else rawStatus info
  | .error _ => "unknown"

/-- Polls with a pause between every two of them. -/
def rhythm (interval : Binary64) (call : Call) (polls : Nat) : List Mark :=
  (List.replicate polls (.called call)).intersperse (.paused interval)

namespace PollingLemmas

/-! ## What is done between two decisions -/

section Rhythm

variable (interval : Binary64) (call : Call)

theorem rhythm_add_two (polls : Nat) :
    rhythm interval call (polls + 2) =
      .called call :: .paused interval :: rhythm interval call (polls + 1) := rfl

theorem calls_rhythm (polls : Nat) :
    calls (rhythm interval call polls) = List.replicate polls call := by
  match polls with
  | 0 => rfl
  | 1 => rfl
  | polls + 2 =>
    rw [rhythm_add_two, List.replicate_succ, ← calls_rhythm (polls + 1)]
    rfl

theorem pauses_rhythm (polls : Nat) :
    pauses (rhythm interval call polls) = List.replicate (polls - 1) interval := by
  match polls with
  | 0 => rfl
  | 1 => rfl
  | polls + 2 =>
    rw [rhythm_add_two, show polls + 2 - 1 = polls + 1 from rfl, List.replicate_succ,
      ← Nat.add_sub_cancel polls 1, ← pauses_rhythm (polls + 1)]
    rfl

end Rhythm

/-! ## One poll -/

/-- The word for a state is kept when it is read. -/
theorem word_ofWord {word : String} (h : Status.ofWord word ≠ .unrecognized) :
    (Status.ofWord word).word = word := by
  unfold Status.ofWord at h ⊢
  cases hfind : Status.reported.find? fun status => status.word == word with
  | none =>
    rw [hfind] at h
    exact absurd rfl h
  | some status => exact eq_of_beq (List.find?_some hfind :)

theorem isTerminal_ofWord {word : String} :
    (Status.ofWord word).isTerminal = true ↔ word ∈ failedWords := by
  constructor
  · intro h
    have hknown : Status.ofWord word ≠ .unrecognized := by
      intro hnone
      rw [hnone] at h
      cases h
    rw [← word_ofWord hknown]
    generalize Status.ofWord word = status at h
    cases status <;> first | decide | cases h
  · intro h
    simp only [failedWords, List.mem_cons, List.not_mem_nil, or_false] at h
    rcases h with rfl | rfl | rfl | rfl <;> decide

theorem ofWord_eq_downloaded {word : String} :
    Status.ofWord word = .downloaded ↔ word = "downloaded" := by
  constructor
  · intro h
    have hknown : Status.ofWord word ≠ .unrecognized := by
      rw [h]
      decide
    rw [← word_ofWord hknown, h]
    rfl
  · rintro rfl
    decide

theorem pollIn_of_object [Json.Nesting] {reply : Reply} {info : List (String × Json)}
    (h : objectIn infoPurpose reply = .ok info) :
    pollIn reply =
      if (status info).isTerminal then .error (.terminalStatus (rawStatus info))
      else if status info = .downloaded then .ok (.downloaded info)
      else .ok (.waiting (rawStatus info)) := by
  rw [pollIn, h]
  rfl

/-- A poll with a decisive reply ends the polls, and one with any other reply waits. -/
theorem decision_cases [Json.Nesting] (reply : Reply) :
    (∃ outcome, decision reply = some outcome ∧ pollIn reply = outcome.map .downloaded) ∨
      decision reply = none ∧ ∃ raw, pollIn reply = .ok (.waiting raw) ∧
        lastStatus reply = if raw.isEmpty then "unknown" else raw := by
  cases hobject : objectIn infoPurpose reply with
  | error failure =>
    refine .inl ⟨.error failure, by rw [decision, hobject], ?_⟩
    rw [pollIn, hobject]
    rfl
  | ok info =>
    have hpoll := pollIn_of_object hobject
    have hlast : lastStatus reply =
        if (rawStatus info).isEmpty then "unknown" else rawStatus info := by
      rw [lastStatus, hobject]
    by_cases hword : ∃ word, Entries.get? info "status" = some (.str word)
    · obtain ⟨word, hget⟩ := hword
      have hstatus : status info = Status.ofWord word := by
        rw [status, hget]
        rfl
      have hraw : rawStatus info = word := by rw [rawStatus, hget]
      rw [hstatus, hraw] at hpoll
      by_cases hfailed : word ∈ failedWords
      · rw [if_pos (isTerminal_ofWord.mpr hfailed)] at hpoll
        exact .inl ⟨.error (.terminalStatus word), by simp [decision, hobject, hget, hfailed],
          hpoll⟩
      · rw [if_neg (mt isTerminal_ofWord.mp hfailed)] at hpoll
        by_cases hdone : word = "downloaded"
        · rw [if_pos (ofWord_eq_downloaded.mpr hdone)] at hpoll
          refine .inl ⟨.ok info, ?_, hpoll⟩
          simp only [decision, hobject, hget]
          rw [if_neg hfailed, if_pos hdone]
        · rw [if_neg (mt ofWord_eq_downloaded.mp hdone)] at hpoll
          exact .inr ⟨by simp [decision, hobject, hget, hfailed, hdone], word, hpoll, hraw ▸ hlast⟩
    · have hstatus : status info = .unrecognized := by
        unfold status
        cases hget : Entries.get? info "status" with
        | none => rfl
        | some value =>
          cases value with
          | str word => exact absurd ⟨word, hget⟩ hword
          | _ => rfl
      have hnone : decision reply = none := by
        simp only [decision, hobject]
        split
        · next word hget => exact absurd ⟨word, hget⟩ hword
        · rfl
      rw [hstatus] at hpoll
      exact .inr ⟨hnone, rawStatus info, hpoll, hlast⟩

theorem poll_does [Json.Nesting] (token url id : String) (left : Nat) (world : World) :
    (poll token url id left).Does world (pollIn (world.reply 0)) (world.spend 1)
      [.called (look token url)] := by
  have hinspect : (inspect token url).Does world (objectIn infoPurpose (world.reply 0))
      (world.spend 1) [.called (look token url)] :=
    Does.bind_quiet (.get token url) fun body => .lift _
  refine Does.bind_quiet hinspect fun info => ?_
  dsimp only
  split
  · exact Does.bind_ok (.log ..) (.fail _)
  · split
    · exact .pure _
    · exact Does.bind_ok (.log ..) (.pure _)

/-! ## All polls -/

section Polls

variable (polling : Polling) (token url id : String) {world : World}

theorem reply_next (world : World) (index : Nat) :
    world.reply (index + 1) = (world.spend 1).reply index := by
  rw [World.reply_spend, Nat.add_comm]

/-- A decisive reply ends the polls, however many are left. -/
theorem pollFrom_now [Json.Nesting] (left : Nat) {outcome : Except Failure (List (String × Json))}
    (h : decision (world.reply 0) = some outcome) :
    (pollFrom polling token url id left).Does world
      (outcome.map fun info => (info, polling.budget - left)) (world.spend 1)
      (rhythm polling.interval (look token url) 1) := by
  have hpoll : ∀ left, (poll token url id left).Does world (outcome.map .downloaded)
      (world.spend 1) [.called (look token url)] := by
    intro left
    rcases decision_cases (world.reply 0) with ⟨other, hother, hpoll⟩ | ⟨hnone, _⟩
    · rw [h] at hother
      cases hother
      exact hpoll ▸ poll_does token url id left world
    · rw [h] at hnone
      cases hnone
  cases left with
  | zero =>
    cases outcome with
    | error failure => exact (hpoll 0).bind_error
    | ok info => exact (hpoll 0).bind_ok (.pure _)
  | succ left =>
    cases outcome with
    | error failure => exact (hpoll (left + 1)).bind_error
    | ok info => exact (hpoll (left + 1)).bind_ok (.pure _)

/-- After any other reply there is a pause, and the polls go on. -/
theorem pollFrom_later [Json.Nesting] {left polls : Nat}
    {result : Except Failure (List (String × Json) × Nat)} {state : World}
    (h : decision (world.reply 0) = none)
    (hrest : (pollFrom polling token url id left).Does (world.spend 1) result state
      (rhythm polling.interval (look token url) (polls + 1))) :
    (pollFrom polling token url id (left + 1)).Does world result state
      (rhythm polling.interval (look token url) (polls + 2)) := by
  rcases decision_cases (world.reply 0) with ⟨outcome, hsome, _⟩ | ⟨_, raw, hwaiting, _⟩
  · rw [h] at hsome
    cases hsome
  · have hpoll := poll_does token url id (left + 1) world
    rw [hwaiting] at hpoll
    exact hpoll.bind_ok (Does.bind_ok (.pause _) hrest)

/-- While replies are not decisive, the polls go on; the first decisive one ends them, even if none
would be left. -/
theorem pollFrom_decided [Json.Nesting] (k rest : Nat)
    {outcome : Except Failure (List (String × Json))}
    (hwaits : ∀ j < k, decision (world.reply j) = none)
    (hdecided : decision (world.reply k) = some outcome) :
    (pollFrom polling token url id (k + rest)).Does world
      (outcome.map fun info => (info, polling.budget - rest)) (world.spend (k + 1))
      (rhythm polling.interval (look token url) (k + 1)) := by
  -- The induction is on the replies that wait; the world moves on with them.
  induction k generalizing world with
  | zero =>
    rw [Nat.zero_add]
    exact pollFrom_now polling token url id rest hdecided
  | succ k ih =>
    have hrest := @ih (world.spend 1)
      (fun j hj => reply_next world j ▸ hwaits (j + 1) (Nat.succ_lt_succ hj))
      (reply_next world k ▸ hdecided)
    rw [World.spend_spend, Nat.add_comm 1 (k + 1)] at hrest
    rw [Nat.add_right_comm]
    exact pollFrom_later polling token url id (hwaits 0 (Nat.succ_pos k)) hrest

/-- If no reply is decisive, the polls end with the budget. -/
theorem pollFrom_undecided [Json.Nesting] (left : Nat)
    (hwaits : ∀ j ≤ left, decision (world.reply j) = none) :
    (pollFrom polling token url id left).Does world
      (.error (.pollTimeout (lastStatus (world.reply left)) polling.waited))
      (world.spend (left + 1)) (rhythm polling.interval (look token url) (left + 1)) := by
  induction left generalizing world with
  | zero =>
    rcases decision_cases (world.reply 0) with ⟨outcome, hsome, _⟩ | ⟨_, raw, hwaiting, hlast⟩
    · rw [hwaits 0 (Nat.le_refl 0)] at hsome
      cases hsome
    · have hpoll := poll_does token url id 0 world
      rw [hwaiting] at hpoll
      rw [hlast]
      exact hpoll.bind_ok (Does.bind_ok (.log ..) (.fail _))
  | succ left ih =>
    have hrest := @ih (world.spend 1)
      fun j hj => reply_next world j ▸ hwaits (j + 1) (Nat.succ_le_succ hj)
    rw [World.spend_spend, Nat.add_comm 1 (left + 1), ← reply_next] at hrest
    exact pollFrom_later polling token url id (hwaits 0 (Nat.zero_le _)) hrest

theorem awaitDownload_decided [Json.Nesting] {k : Nat} (hk : k < polling.budget)
    {outcome : Except Failure (List (String × Json))}
    (hwaits : ∀ j < k, decision (world.reply j) = none)
    (hdecided : decision (world.reply k) = some outcome) :
    (awaitDownload polling token url id).Does world (outcome.map fun info => (info, k + 1))
      (world.spend (k + 1)) (rhythm polling.interval (look token url) (k + 1)) := by
  have hpolls := pollFrom_decided polling token url id k (polling.budget - 1 - k) hwaits hdecided
  rwa [show k + (polling.budget - 1 - k) = polling.budget - 1 by omega,
    show polling.budget - (polling.budget - 1 - k) = k + 1 by omega] at hpolls

theorem awaitDownload_undecided [Json.Nesting] (hbudget : 1 ≤ polling.budget)
    (hwaits : ∀ j < polling.budget, decision (world.reply j) = none) :
    (awaitDownload polling token url id).Does world
      (.error (.pollTimeout (lastStatus (world.reply (polling.budget - 1))) polling.waited))
      (world.spend polling.budget)
      (rhythm polling.interval (look token url) polling.budget) := by
  have hpolls := pollFrom_undecided polling token url id (polling.budget - 1)
    fun j hj => hwaits j (by omega)
  rwa [Nat.sub_add_cancel hbudget] at hpolls

end Polls
end PollingLemmas

open PollingLemmas

/-- A run that polls so many times, with one pause between two polls, and does nothing else. -/
structure Polled {α : Type} (polling : Polling) (token url : String) (world : World) (polls : Nat)
    (run : Run World Mark α) : Prop where
  calls_eq : calls run.trace = List.replicate polls (look token url)
  pauses_eq : pauses run.trace = List.replicate (polls - 1) polling.interval
  deeds_eq : deeds run.trace = rhythm polling.interval (look token url) polls
  state_eq : run.state = world.spend polls

theorem polled_of_does {α : Type} {polling : Polling} {token url : String} {world : World}
    {polls : Nat} {session : Session α} {result : Except Failure α}
    (h : session.Does world result (world.spend polls)
      (rhythm polling.interval (look token url) polls)) :
    (session.runIn world).result = result ∧
      Polled polling token url world polls (session.runIn world) := by
  obtain ⟨trace, hrun, hdone⟩ := h
  rw [hrun]
  refine ⟨rfl, ?_, ?_, hdone, rfl⟩
  · rw [← calls_deeds, hdone, calls_rhythm]
  · rw [← pauses_deeds, hdone, pauses_rhythm]

/-- The polls go on to the first decisive reply and end as it says, if it comes within the budget.
Otherwise they use the budget up, and the failure names the last status and the time of the whole
budget. A torrent with any status but the decisive ones is waited for. -/
theorem polls_until_decision [Json.Nesting] (polling : Polling) (token url id : String)
    (world : World) (hbudget : 1 ≤ polling.budget) (hexact : polling.budget < 2 ^ 53) :
    let run := (awaitDownload polling token url id).runIn world
    (∀ k < polling.budget, (∀ j < k, decision (world.reply j) = none) →
      ∀ outcome, decision (world.reply k) = some outcome →
        run.result = (outcome.map fun info => (info, k + 1)) ∧
          Polled polling token url world (k + 1) run) ∧
      ((∀ j < polling.budget, decision (world.reply j) = none) →
        run.result = .error (.pollTimeout (lastStatus (world.reply (polling.budget - 1)))
            ((Binary64.ofNat polling.budget).mul polling.interval)) ∧
          (Binary64.ofNat polling.budget).toInt? = some (polling.budget : Int) ∧
            Polled polling token url world polling.budget run) ∧
      ∀ body info, Json.readBytes body = .ok (.obj info) →
        (∀ word ∈ "downloaded" :: failedWords, Entries.get? info "status" ≠ some (.str word)) →
          decision (.ok body) = none := by
  intro run
  refine ⟨fun k hk hwaits outcome hdecided => ?_, fun hwaits => ?_,
    fun body info hread hother => ?_⟩
  · exact polled_of_does (awaitDownload_decided polling token url id hk hwaits hdecided)
  · obtain ⟨hresult, hpolled⟩ := polled_of_does
      (awaitDownload_undecided polling token url id hbudget hwaits)
    exact ⟨hresult, Binary64.toInt?_ofNat hexact, hpolled⟩
  · have hobject : objectIn infoPurpose (.ok body) = .ok info := readObject_eq_ok.mpr hread
    simp only [decision, hobject]
    split
    · next word hget =>
      have hnot : word ∉ "downloaded" :: failedWords := fun hm => hother word hm hget
      rw [List.mem_cons, not_or] at hnot
      rw [if_neg hnot.2, if_neg hnot.1]
    · rfl

/-- A world whose service shows a torrent with a number as its status, and then downloaded. -/
def soonWorld : World :=
  ⟨⟨0, ⟨0⟩⟩, [], none, none,
    [.ok "\x7b\"status\":1\x7d".toUTF8.toList,
      .ok "\x7b\"status\":\"downloaded\"\x7d".toUTF8.toList]⟩

attribute [local instance] Json.Nesting.usual

/-- There the second poll is decisive. -/
theorem polls_until_decision_second :
    1 ≤ (⟨2, .ofNat 1⟩ : Polling).budget ∧ (⟨2, .ofNat 1⟩ : Polling).budget < 2 ^ 53 ∧
      decision (soonWorld.reply 0) = none ∧
      ∃ info, decision (soonWorld.reply 1) = some (.ok info) ∧
        ((awaitDownload ⟨2, .ofNat 1⟩ "secret" "https://example.com/torrents/7" "7").runIn
          soonWorld).result = .ok (info, 2) ∧
        Polled ⟨2, .ofNat 1⟩ "secret" "https://example.com/torrents/7" soonWorld 2
          ((awaitDownload ⟨2, .ofNat 1⟩ "secret" "https://example.com/torrents/7" "7").runIn
            soonWorld) := by
  have hfirst : decision (soonWorld.reply 0) = none :=
    Option.isNone_iff_eq_none.mp (by decide +kernel)
  have hsecond : ∃ info, decision (soonWorld.reply 1) = some (.ok info) := by
    have hfound : ((decision (soonWorld.reply 1)).bind Except.toOption).isSome = true := by
      decide +kernel
    obtain ⟨info, hinfo⟩ := Option.isSome_iff_exists.mp hfound
    obtain ⟨outcome, hdecided, houtcome⟩ := Option.bind_eq_some_iff.mp hinfo
    cases outcome with
    | error failure => cases houtcome
    | ok info => exact ⟨info, hdecided⟩
  obtain ⟨info, hsecond⟩ := hsecond
  obtain ⟨hdecided, _⟩ := polls_until_decision ⟨2, .ofNat 1⟩ "secret"
    "https://example.com/torrents/7" "7" soonWorld (by decide) (by decide)
  refine ⟨by decide, by decide, hfirst, info, hsecond, hdecided 1 (by decide) ?_ _ hsecond⟩
  intro j hj
  rw [Nat.lt_one_iff.mp hj]
  exact hfirst

end MagnetStream.Client.Stream
