import MagnetStream.Proofs.Client.Renaming
import MagnetStream.Proofs.Client.TokenHistory

/-!
# Sessions do not tell tokens

What a caller and a log get to see of a session tells of a token no more than its first four
characters, and of a short one nothing (`tokens_stay_secret`): with other tokens of which the same
is shown, every turn has the same outcome, but for the tokens that its requests carry. The invariant
is that the caches of the two sessions hold the same entries, each under the key of its own token
(`World.Mirrors`).
-/

namespace MagnetStream.Client

def Mark.rename (σ : TokenRenaming) : Mark → Mark
  | .called call => .called (σ.call call)
  | .paused seconds => .paused seconds
  | .recalled key => .recalled (σ.key key)
  | .recorded key entry ttl => .recorded (σ.key key) entry ttl
  | .logged event => .logged (σ.event event)

def Turn.rename (σ : TokenRenaming) : Turn → Turn
  | .request asked script => .request (asked.rename σ) script
  | turn => turn

def Outcome.rename (σ : TokenRenaming) : Outcome → Outcome
  | .served result trace unused => .served result (trace.map (Mark.rename σ)) unused
  | outcome => outcome

/-- What is shown of a mark: requests and pauses are shown as they are, events are masked, and the
keys of the cache are not shown. -/
def Mark.shown? : Mark → Option Mark
  | .called call => some (.called call)
  | .paused seconds => some (.paused seconds)
  | .recalled _ | .recorded .. => none
  | .logged event => some (.logged event.masked)

def Outcome.shown : Outcome → Outcome
  | .served result trace unused => .served result (trace.filterMap Mark.shown?) unused
  | outcome => outcome

/-- A shown mark with the other token in its request. -/
def Mark.calling (σ : TokenRenaming) : Mark → Mark
  | .called call => .called (σ.call call)
  | mark => mark

/-- A shown outcome with the other tokens in its requests. -/
def Outcome.calling (σ : TokenRenaming) : Outcome → Outcome
  | .served result trace unused => .served result (trace.map (Mark.calling σ)) unused
  | outcome => outcome

/-- The other world is the same, but for the keys of tokens in its cache, which are those of the
other tokens. -/
structure World.Mirrors (σ : TokenRenaming) (world other : World) : Prop where
  clock : other.clock = world.clock
  entries : ∀ key, other.entries.get? (σ.key key) = world.entries.get? key
  readFailure : other.readFailure = world.readFailure
  writeFailure : other.writeFailure = world.writeFailure
  script : other.script = world.script

namespace SecrecyLemmas

open RenamingLemmas

variable {σ : TokenRenaming}

/-- What is shown of an outcome with the other tokens is what is shown of the outcome, with the
other tokens in its requests. -/
theorem shown_rename (outcome : Outcome) :
    (outcome.rename σ).shown = outcome.shown.calling σ := by
  have hmark : ∀ mark : Mark, (mark.rename σ).shown? = mark.shown?.map (Mark.calling σ) := by
    intro mark
    cases mark with
    | logged event => exact congrArg (fun shown => some (Mark.logged shown)) (σ.masked_event event)
    | _ => rfl
  cases outcome with
  | served result trace unused =>
    have htrace : (trace.map (Mark.rename σ)).filterMap Mark.shown? =
        (trace.filterMap Mark.shown?).map (Mark.calling σ) := by
      rw [List.filterMap_map, List.map_filterMap]
      exact congrArg (fun shown => trace.filterMap shown) (funext hmark)
    exact congrArg (fun trace => Outcome.served result trace unused) htrace
  | _ => rfl

/-- Putting an entry under the other key goes along with putting it under the key. -/
theorem insert_mirrors {entries others : Entries Json}
    (h : ∀ key, others.get? (σ.key key) = entries.get? key) (key : String) (entry : Json)
    (name : String) :
    Entries.get? (others.insert (σ.key key) entry) (σ.key name) =
      Entries.get? (entries.insert key entry) name := by
  by_cases hname : name = key
  · rw [hname, Entries.get?_insert_self, Entries.get?_insert_self]
  · have hother : σ.key name ≠ σ.key key := fun heq => hname (σ.key_injective heq)
    rw [Entries.get?_insert_of_ne hother, Entries.get?_insert_of_ne hname, h]

/-- Taking the entry under the other key away goes along with taking away that under the key. -/
theorem erase_mirrors {entries others : Entries Json}
    (h : ∀ key, others.get? (σ.key key) = entries.get? key) (key name : String) :
    Entries.get? (others.erase (σ.key key)) (σ.key name) =
      Entries.get? (entries.erase key) name := by
  simp only [Entries.get?_erase, σ.key_injective.eq_iff, h]

/-- A scripted world does not care for tokens. -/
theorem world_respects :
    σ.Respects World.responder (World.Mirrors σ) (Mark.rename σ) where
  noted event := rfl
  send call world other h := by
    have hanswer : ∀ call world, World.responder.answer (.send call) world = _ :=
      World.answer_send
    rw [hanswer, hanswer]
    have hreply : other.reply 0 = world.reply 0 := by rw [World.reply, World.reply, h.script]
    exact ⟨hreply, ⟨h.clock, h.entries, h.readFailure, h.writeFailure,
      congrArg (List.drop 1) h.script⟩, rfl⟩
  pause seconds world other h := ⟨rfl, h, rfl⟩
  now h := ⟨h.clock, h, rfl⟩
  lookUp key world other h := by
    simp only [World.responder, World.answer, h.readFailure]
    split
    · exact ⟨rfl, h, rfl⟩
    · exact ⟨congrArg (fun found => Except.ok (found.getD Json.null)) (h.entries key), h, rfl⟩
  record key entry ttl world other h := by
    simp only [World.responder, World.answer, h.writeFailure]
    split
    · exact ⟨rfl, h, rfl⟩
    · exact ⟨rfl, ⟨h.clock, insert_mirrors h.entries key entry, h.readFailure, rfl, h.script⟩, rfl⟩

/-- A turn with the other tokens has the outcome of the turn with the other tokens, and leaves a
world that goes along. -/
theorem takeTurn_mirrors [Json.Nesting] (client : Client) {world other : World}
    (h : World.Mirrors σ world other) {turn : Turn} (hput : ∀ key entry, turn = .put key entry →
      ∀ token, key ≠ Token.store.cacheKey token) :
    (takeTurn client other (turn.rename σ)).1 = (takeTurn client world turn).1.rename σ ∧
      World.Mirrors σ (takeTurn client world turn).2
        (takeTurn client other (turn.rename σ)).2 := by
  cases turn with
  | advance span =>
    simp only [Turn.rename, takeTurn, h.clock]
    split
    · exact ⟨rfl, rfl, h.entries, h.readFailure, h.writeFailure, h.script⟩
    · exact ⟨rfl, h⟩
  | put key entry =>
    -- The key is no token's, so the same entry is put under it in both sessions.
    have hkey := σ.key_of_other (hput key entry rfl)
    have hinsert := insert_mirrors h.entries key entry
    have herase := erase_mirrors h.entries key
    rw [hkey] at hinsert herase
    cases entry with
    | null => exact ⟨rfl, h.clock, herase, h.readFailure, h.writeFailure, h.script⟩
    | _ => exact ⟨rfl, h.clock, hinsert, h.readFailure, h.writeFailure, h.script⟩
  | fail reading writing => exact ⟨rfl, h.clock, h.entries, rfl, rfl, h.script⟩
  | request request script =>
    have hfacing : World.Mirrors σ { world with script := script }
        { other with script := script } :=
      ⟨h.clock, h.entries, h.readFailure, h.writeFailure, rfl⟩
    have hrun := run_mirrors world_respects (serve_carries σ client request) hfacing
    refine ⟨?_, hrun.state⟩
    rw [Turn.rename, takeTurn, takeTurn, Outcome.rename, Outcome.served.injEq]
    exact ⟨hrun.result, hrun.trace, congrArg List.length hrun.state.script⟩

theorem takeTurns_mirrors [Json.Nesting] (client : Client) {world other : World}
    (h : World.Mirrors σ world other) {turns : List Turn}
    (hputs : ∀ key entry, .put key entry ∈ turns → ∀ token, key ≠ Token.store.cacheKey token) :
    (takeTurns client other (turns.map (Turn.rename σ))).1 =
      (takeTurns client world turns).1.map (Outcome.rename σ) := by
  induction turns generalizing world other with
  | nil => rfl
  | cons turn rest ih =>
    obtain ⟨houtcome, hworld⟩ := takeTurn_mirrors client h fun key entry heq =>
      hputs key entry (heq ▸ List.mem_cons_self)
    have hrest := ih hworld fun key entry hm => hputs key entry (List.mem_cons_of_mem _ hm)
    simp only [List.map_cons, takeTurns]
    rw [houtcome, hrest]

end SecrecyLemmas

open SecrecyLemmas

/-- In a session that starts with an empty cache, and in which no entry of a token is put into the
cache from outside, other tokens of which the same is shown make no difference that is shown, but
for the tokens that the requests carry. -/
theorem tokens_stay_secret [Json.Nesting] (σ : TokenRenaming) (client : Client)
    (clock : Calendar.Moment) {turns : List Turn} (hputs : ∀ key entry, .put key entry ∈ turns →
      ∀ token, key ≠ Token.store.cacheKey token) :
    (takeTurns client (.startingAt clock) (turns.map (Turn.rename σ))).1.map Outcome.shown =
      (takeTurns client (.startingAt clock) turns).1.map fun outcome =>
        outcome.shown.calling σ := by
  have hstart : World.Mirrors σ (.startingAt clock) (.startingAt clock) :=
    ⟨rfl, fun _ => rfl, rfl, rfl, rfl⟩
  rw [takeTurns_mirrors client hstart hputs, List.map_map]
  exact List.map_congr_left fun outcome _ => shown_rename outcome

/-- A session with an entry from outside, in which a token is checked twice. -/
def checkingTwice (token : String) : List Turn :=
  [.put "availability:AA" (.int 7),
    .request (.validate token) [.ok "\x7b\"id\":1\x7d".toUTF8.toList],
    .request (.validate token) []]

/-- Two tokens of which the same is shown take each other's place. -/
def secretExchange : TokenRenaming :=
  .exchange (show 4 < "secret-one".length by decide) (show 4 < "secret-two".length by decide)
    (by decide)

attribute [local instance] Json.Nesting.usual

/-- The same is shown of the session for both tokens. -/
theorem tokens_stay_secret_checking_twice :
    (∀ key entry, .put key entry ∈ checkingTwice "secret-one" →
        ∀ token, key ≠ Token.store.cacheKey token) ∧
      (takeTurns plainClient (.startingAt ⟨0, ⟨0⟩⟩) (checkingTwice "secret-two")).1.map
          Outcome.shown =
        (takeTurns plainClient (.startingAt ⟨0, ⟨0⟩⟩) (checkingTwice "secret-one")).1.map
          fun outcome => outcome.shown.calling secretExchange := by
  have hputs : ∀ key entry, .put key entry ∈ checkingTwice "secret-one" →
      ∀ token, key ≠ Token.store.cacheKey token := by
    intro key entry hm token heq
    have hkey : key = "availability:AA" := by
      simp only [checkingTwice, List.mem_cons, Turn.put.injEq] at hm
      simp_all
    have hnone : tokenOf? "availability:AA" = none := by decide +kernel
    rw [← hkey, tokenOf?_eq_some.mpr heq] at hnone
    cases hnone
  have hrenamed : (checkingTwice "secret-one").map (Turn.rename secretExchange) =
      checkingTwice "secret-two" := by
    have htoken : secretExchange.rename "secret-one" = "secret-two" := Equiv.swap_apply_left ..
    simp [checkingTwice, Turn.rename, Request.rename, htoken]
  refine ⟨hputs, ?_⟩
  rw [← hrenamed]
  exact tokens_stay_secret secretExchange _ _ hputs

end MagnetStream.Client
