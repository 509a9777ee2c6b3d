import MagnetStream.Proofs.Client.TokenHistory

/-!
# Requests that do not touch the same entries

Two requests that are independent of each other come to the same in either order, and leave the same
cache (`independent_requests_commute`). What a session comes to depends on the cache only through
the entries that it may read (`run_agrees`), and it leaves all entries that it may not write. So
requests commute when no entry is touched by both.
-/

namespace MagnetStream.Client

/-- Two worlds agree on the entries under some keys, and on all that is not in the cache. -/
structure World.AgreesOn (keys : String → Prop) (world other : World) : Prop where
  clock : other.clock = world.clock
  entries : ∀ key, keys key → other.entries.get? key = world.entries.get? key
  readFailure : other.readFailure = world.readFailure
  writeFailure : other.writeFailure = world.writeFailure
  script : other.script = world.script

/-- No hash of one collection is one of the other in capitals. A text in place of a collection has
no hashes. -/
def Hashes.Apart : Hashes → Hashes → Prop
  | .many hashes, .many others =>
    ∀ hash ∈ hashes, ∀ other ∈ others, Text.upper hash ≠ Text.upper other
  | _, _ => True

/-- Requests of different kinds are independent, and so are validations of different tokens, checks
of hashes that are apart, and any two requests for streams. -/
def Request.Independent : Request → Request → Prop
  | .validate token, .validate other => token ≠ other
  | .check _ hashes, .check _ others => hashes.Apart others
  | _, _ => True

namespace Availability

/-- The wanted hashes are those that are given, in capitals, but for empty ones. -/
theorem mem_wanted {hashes : List String} {hash : String} :
    hash ∈ wanted hashes ↔ ∃ given ∈ hashes, given ≠ "" ∧ Text.upper given = hash := by
  simp [wanted_eq, List.mem_eraseDups, and_assoc]

end Availability

namespace IndependenceLemmas

variable {α : Type} {base token : String} {keys : String → Prop} {world other : World}

/-! ## What a session depends on -/

/-- Worlds that agree on the entry in question give the same answer, and agree afterwards. -/
theorem answer_agrees {question : Question} (hask : question.Within base token keys)
    (h : world.AgreesOn keys other) :
    Run.AnswerMirrors (World.AgreesOn keys) id (World.answer question world)
      (World.answer question other) := by
  cases question with
  | send call =>
    rw [World.answer_send, World.answer_send]
    have hreply : other.reply 0 = world.reply 0 := by rw [World.reply, World.reply, h.script]
    exact ⟨hreply, ⟨h.clock, h.entries, h.readFailure, h.writeFailure,
      congrArg (List.drop 1) h.script⟩, rfl⟩
  | pause seconds => exact ⟨rfl, h, rfl⟩
  | now => exact ⟨h.clock, h, rfl⟩
  | «recall» key =>
    simp only [World.answer, h.readFailure]
    split
    · exact ⟨rfl, h, rfl⟩
    · exact ⟨congrArg (fun found => Except.ok (found.getD Json.null)) (h.entries key hask), h, rfl⟩
  | record key entry ttl =>
    simp only [World.answer, h.writeFailure]
    split
    · exact ⟨rfl, h, rfl⟩
    · refine ⟨rfl, ⟨h.clock, fun name hname => ?_, h.readFailure, rfl, h.script⟩, rfl⟩
      by_cases heq : name = key
      · rw [heq, Entries.get?_insert_self, Entries.get?_insert_self]
      · rw [Entries.get?_insert_of_ne heq, Entries.get?_insert_of_ne heq, h.entries name hname]

/-- In worlds that agree on the entries that a session may touch, it comes to the same. -/
theorem run_agrees {session : Session α} (hs : session.Within base token keys)
    (h : world.AgreesOn keys other) :
    Run.Mirrors (World.AgreesOn keys) id (session.runIn world) (session.runIn other) := by
  induction session generalizing world other with
  | done result => exact ⟨rfl, h, rfl⟩
  | note event rest ih =>
    have hrest := ih hs h
    exact ⟨hrest.result, hrest.state, congrArg (List.cons _) hrest.trace⟩
  | ask question rest ih =>
    have hanswer := answer_agrees hs.1 h
    exact hanswer.ask fun value => ih value (hs.2 value) hanswer.state

/-- A session moves neither the clock nor what reading and writing fail with. -/
theorem runIn_keeps (session : Session α) (world : World) :
    (session.runIn world).state.clock = world.clock ∧
      (session.runIn world).state.readFailure = world.readFailure ∧
      (session.runIn world).state.writeFailure = world.writeFailure := by
  refine Dialogue.Ensures.state World.responder
    (fun state => state.clock = world.clock ∧ state.readFailure = world.readFailure ∧
      state.writeFailure = world.writeFailure) (.anything session) ?_ ⟨rfl, rfl, rfl⟩
  intro question state _ hstate
  cases question with
  | send call =>
    have hanswer : World.responder.answer (.send call) state = _ := World.answer_send call state
    rw [hanswer]
    exact hstate
  | pause seconds => exact hstate
  | now => exact hstate
  | «recall» key =>
    simp only [World.responder, World.answer]
    split <;> exact hstate
  | record key entry ttl =>
    simp only [World.responder, World.answer]
    split <;> exact hstate

/-! ## One request after another -/

/-- Independent requests touch no entry both. -/
theorem not_touches_both {client : Client} {first second : Request}
    (h : first.Independent second) {key : String} (hfirst : first.Touches client key) :
    ¬ second.Touches client key := by
  intro hsecond
  cases first with
  | validate token =>
    cases second with
    | validate other =>
      exact h (Confirmations.cacheKey_inj.mp (hfirst.symm.trans hsecond))
    | check caller hashes =>
      cases hashes with
      | many hashes =>
        obtain ⟨hash, _, heq⟩ := hsecond
        exact cacheKey_token_ne client.availability token hash (hfirst.symm.trans heq)
      | single text => exact hsecond
    | stream caller magnet remote => exact hsecond
  | check caller hashes =>
    cases hashes with
    | many hashes =>
      obtain ⟨hash, hwanted, heq⟩ := hfirst
      cases second with
      | validate token =>
        exact cacheKey_token_ne client.availability token hash (hsecond.symm.trans heq)
      | check caller others =>
        cases others with
        | many others =>
          obtain ⟨other, hother, heq'⟩ := hsecond
          have hsame : hash = other := Confirmations.cacheKey_inj.mp (heq.symm.trans heq')
          subst hsame
          obtain ⟨given, hgiven, _, hupper⟩ := Availability.mem_wanted.mp hwanted
          obtain ⟨given', hgiven', _, hupper'⟩ := Availability.mem_wanted.mp hother
          exact h given hgiven given' hgiven' (hupper.trans hupper'.symm)
        | single text => exact hsecond
      | stream caller magnet remote => exact hsecond
    | single text => exact hfirst
  | stream caller magnet remote => exact hfirst

theorem apart_comm {hashes others : Hashes} (h : hashes.Apart others) : others.Apart hashes := by
  cases hashes with
  | many hashes =>
    cases others with
    | many others => exact fun hash hm other ho => (h other ho hash hm).symm
    | single text => trivial
  | single text => cases others <;> trivial

theorem independent_comm {first second : Request} (h : first.Independent second) :
    second.Independent first := by
  cases first with
  | validate token =>
    cases second with
    | validate other => exact Ne.symm h
    | _ => trivial
  | check caller hashes =>
    cases second with
    | check caller others => exact apart_comm h
    | _ => trivial
  | stream caller magnet remote => cases second <;> trivial

section Turns

variable {client : Client} (hbase : Url.dropEndSlashes client.base = client.base)
include hbase

theorem takeTurn_leaves [Json.Nesting] (world : World) {request : Request} (script : List Reply)
    {key : String} (hkey : ¬ request.Touches client key) :
    (takeTurn client world (.request request script)).2.entries.get? key =
      world.entries.get? key :=
  get?_takeTurn hbase world (fun _ _ heq => nomatch heq) fun _ _ heq => by
    cases heq
    exact hkey

/-- After an independent request, a request has the same outcome and leaves the same entries of its
own as before it. -/
theorem takeTurn_after [Json.Nesting] (world : World) {first second : Request}
    (h : first.Independent second) (script replies : List Reply) :
    let earlier := takeTurn client world (.request second replies)
    let later := takeTurn client (takeTurn client world (.request first script)).2
      (.request second replies)
    later.1 = earlier.1 ∧ ∀ key, second.Touches client key →
      later.2.entries.get? key = earlier.2.entries.get? key := by
  intro earlier later
  obtain ⟨hclock, hreading, hwriting⟩ :=
    runIn_keeps (client.serve first) { world with script := script }
  have hagree : World.AgreesOn (second.Touches client) { world with script := replies }
      { (takeTurn client world (.request first script)).2 with script := replies } :=
    ⟨hclock, fun key hkey => takeTurn_leaves hbase world script
      (not_touches_both (independent_comm h) hkey), hreading, hwriting, rfl⟩
  have hrun := run_agrees (AddressingLemmas.serve_within client hbase second) hagree
  refine ⟨?_, hrun.state.entries⟩
  show Outcome.served _ _ _ = Outcome.served _ _ _
  rw [Outcome.served.injEq]
  exact ⟨hrun.result, hrun.trace.trans (List.map_id _), congrArg List.length hrun.state.script⟩

end Turns
end IndependenceLemmas

open IndependenceLemmas

/-- Two independent requests at the same time, each with a script of its own, have the same outcomes
in either order and leave the same cache. A request for a stream leaves the cache as it is. -/
theorem independent_requests_commute [Json.Nesting] {base : String}
    {availability : Availability.Policy} {budget : Int} {interval : Binary64} {client : Client}
    (hclient : Client.create base availability budget interval = .ok client) (world : World)
    {first second : Request} (h : first.Independent second) (script replies : List Reply) :
    let forward := takeTurns client world [.request first script, .request second replies]
    let backward := takeTurns client world [.request second replies, .request first script]
    backward.1 = forward.1.reverse ∧
      (∀ key, backward.2.entries.get? key = forward.2.entries.get? key) ∧
      ∀ token magnet remote, first = .stream token magnet remote →
        ∀ key, (takeTurn client world (.request first script)).2.entries.get? key =
          world.entries.get? key := by
  have hbase := AddressingLemmas.slashless_of_create hclient
  have htwo : ∀ turn next, takeTurns client world [turn, next] =
      ([(takeTurn client world turn).1, (takeTurn client (takeTurn client world turn).2 next).1],
        (takeTurn client (takeTurn client world turn).2 next).2) := fun _ _ => rfl
  intro forward backward
  obtain ⟨hsecond, hentries⟩ := takeTurn_after hbase world h script replies
  obtain ⟨hfirst, hentries'⟩ := takeTurn_after hbase world (independent_comm h) replies script
  refine ⟨?_, fun key => ?_, ?_⟩
  · simp only [forward, backward, htwo, hsecond, hfirst, List.reverse_cons, List.reverse_nil,
      List.nil_append, List.singleton_append]
  -- An entry that one of them touches is the one that it leaves by itself, since the other one does
  -- not touch it.
  · by_cases hkey : first.Touches client key
    · have hother := not_touches_both h hkey
      exact (hentries' key hkey).trans (takeTurn_leaves hbase _ replies hother).symm
    · refine (takeTurn_leaves hbase _ script hkey).trans ?_
      by_cases hother : second.Touches client key
      · exact (hentries key hother).symm
      · exact (takeTurn_leaves hbase world replies hother).trans
          ((takeTurn_leaves hbase _ replies hother).trans
            (takeTurn_leaves hbase world script hkey)).symm
  · rintro token magnet remote rfl key
    exact takeTurn_leaves hbase world script id

attribute [local instance] Json.Nesting.usual

/-- A token that is checked with a reply that shows its user, and a hash that is checked with a
reply that is cut off. -/
theorem independent_requests_commute_with_replies :
    Client.create "https://example.com" ⟨⟨0⟩, 0⟩ 1 (.ofNat 0) = .ok plainClient ∧
      Request.Independent (.validate "aa") (.check "secret" (.many ["aa"])) ∧
      (takeTurns plainClient (.startingAt ⟨0, ⟨0⟩⟩)
          [.request (.check "secret" (.many ["aa"])) [.ok "\x7b".toUTF8.toList],
            .request (.validate "aa") [.ok "\x7b\"id\":1\x7d".toUTF8.toList]]).1 =
        (takeTurns plainClient (.startingAt ⟨0, ⟨0⟩⟩)
          [.request (.validate "aa") [.ok "\x7b\"id\":1\x7d".toUTF8.toList],
            .request (.check "secret" (.many ["aa"])) [.ok "\x7b".toUTF8.toList]]).1.reverse := by
  have hclient : Client.create "https://example.com" ⟨⟨0⟩, 0⟩ 1 (.ofNat 0) = .ok plainClient := by
    decide +kernel
  have hindependent : Request.Independent (.validate "aa") (.check "secret" (.many ["aa"])) :=
    trivial
  exact ⟨hclient, hindependent,
    (independent_requests_commute hclient (.startingAt ⟨0, ⟨0⟩⟩) hindependent _ _).1⟩

end MagnetStream.Client
