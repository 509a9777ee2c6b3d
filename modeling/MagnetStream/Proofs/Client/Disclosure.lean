import MagnetStream.Proofs.Client.Renaming
import MagnetStream.Proofs.Client.TokenHistory
import MagnetStream.Proofs.Server.Wiring
import MagnetStream.Proofs.Storage.Keys

/-!
# What a storage tells of tokens

When the cache is kept in a storage, the storage notes events of its own, and these name the key of
the entry that is looked up or kept. The key of a token's entry holds the token in full and is no
credential by its name, so it is not masked: every validation tells its token
(`validation_tells_token`). Apart from these keys, the logs of two tokens of which the same is shown
are the same.
-/

namespace MagnetStream.Client

/-- Surroundings of a session whose cache is kept in a storage: the clock, the medium of the
storage, and the replies that the service still has. -/
structure StoredWorld where
  clock : Calendar.Moment
  medium : Storage.Medium
  script : List Reply

/-- The marks that a session and its storage leave. -/
inductive StoredMark where
  | called (call : Call)
  | paused (seconds : Binary64)
  | stored (mark : Server.Mark)
  | logged (event : Log.Event)

namespace StoredWorld

/-- What a server makes of a question that it answers out of its storage. -/
def hold {α : Type} (world : StoredWorld) (dialogue : Server.Wired (Except Failure α)) :
    Except Failure α × StoredWorld × List StoredMark :=
  let run := dialogue.runIn ⟨world.clock, world.medium, []⟩
  (run.result >>= id, { world with medium := run.state.medium }, run.trace.map .stored)

/-- Answers a question of a session: one about the cache as a server does, and one to the service by
the script. -/
def answer (storage : Storage) :
    (question : Question) → StoredWorld → Answer question × StoredWorld × List StoredMark
  | .send call, world =>
    (world.script.headD (.error World.exhausted), { world with script := world.script.tail },
      [.called call])
  | .pause seconds, world => ((), world, [.paused seconds])
  | .now, world => (world.clock, world, [])
  | .recall key, world => world.hold (Server.wire [] storage (.recall key))
  | .record key entry ttl, world => world.hold (Server.wire [] storage (.record key entry ttl))

def responder (storage : Storage) : Responder Question Answer StoredWorld StoredMark :=
  ⟨answer storage, .logged⟩

end StoredWorld

/-- The mark with its event masked, if it is one of an event. -/
def StoredMark.shown? : StoredMark → Option StoredMark
  | .stored (.logged event) => some (.stored (.logged event.masked))
  | .logged event => some (.logged event.masked)
  | _ => none

/-- The log of a session: the events of the session and of its storage, with credentials masked. -/
def Session.storedLog {α : Type} (session : Session α) (storage : Storage) (world : StoredWorld) :
    List StoredMark :=
  (session.run (StoredWorld.responder storage) world).trace.filterMap StoredMark.shown?

/-- A mark with another key in the events of the storage. -/
def StoredMark.rekey (change : String → String) : StoredMark → StoredMark
  | .stored mark => .stored (mark.rekey change)
  | mark => mark

/-- A mark with the other token. -/
def StoredMark.rename (σ : TokenRenaming) : StoredMark → StoredMark
  | .called call => .called (σ.call call)
  | .paused seconds => .paused seconds
  | .stored mark => .stored (mark.rekey σ.key)
  | .logged event => .logged (σ.event event)

/-- The other world has the same entries under the keys of the other tokens. -/
structure StoredWorld.Mirrors (σ : TokenRenaming) (world other : StoredWorld) : Prop where
  clock : other.clock = world.clock
  medium : world.medium.Mirrors σ.key world.clock.instant other.medium
  script : other.script = world.script

namespace DisclosureLemmas

open RenamingLemmas

variable {α β : Type}

def after (world : StoredWorld) (run : Run Storage.Medium Storage.Medium.Mark α) :
    Except Failure α × StoredWorld × List StoredMark :=
  (run.result, { world with medium := run.state },
    run.trace.map fun mark => .stored (Server.Mark.ofStorage mark))

/-- A question about the cache comes down to an action of the storage on its medium. -/
theorem hold_onMedium (world : StoredWorld) (action : Storage.Action α) :
    world.hold (Server.onMedium action.attempt) =
      after world (action.run (Storage.Medium.responder world.clock.instant) world.medium) := by
  simp only [StoredWorld.hold, Server.runIn_onMedium, Dialogue.run_attempt, Server.World.after,
    List.map_map]
  rfl

theorem after_mirrors {σ : TokenRenaming} {world other : StoredWorld}
    (h : StoredWorld.Mirrors σ world other) {run run' : Run Storage.Medium Storage.Medium.Mark α}
    (hrun : Run.Mirrors (Storage.Medium.Mirrors σ.key world.clock.instant)
      (Storage.Medium.Mark.rekey σ.key) run run') :
    Run.AnswerMirrors (StoredWorld.Mirrors σ) (StoredMark.rename σ) (after world run)
      (after other run') where
  answer := hrun.result
  state := ⟨h.clock, hrun.state, h.script⟩
  marks := by
    have hmark : ∀ mark : Storage.Medium.Mark,
        Server.Mark.ofStorage (mark.rekey σ.key) = (Server.Mark.ofStorage mark).rekey σ.key := by
      intro mark
      cases mark with
      | commanded command => cases command <;> rfl
      | logged event => rfl
    simp only [after, hrun.trace, List.map_map]
    exact List.map_congr_left fun mark _ => congrArg StoredMark.stored (hmark mark)

/-- A storage does not care for keys, so a world with a storage does not care for tokens. -/
theorem stored_respects (σ : TokenRenaming) (storage : Storage) :
    σ.Respects (StoredWorld.responder storage) (StoredWorld.Mirrors σ) (StoredMark.rename σ) where
  noted event := rfl
  send call world other h := by
    have hreply : other.script.headD (.error World.exhausted) =
        world.script.headD (.error World.exhausted) := by rw [h.script]
    exact ⟨hreply, ⟨h.clock, h.medium, congrArg List.tail h.script⟩, rfl⟩
  pause seconds world other h := ⟨rfl, h, rfl⟩
  now h := ⟨h.clock, h, rfl⟩
  lookUp key world other h := by
    simp only [StoredWorld.responder, StoredWorld.answer, Server.wire, hold_onMedium, h.clock]
    exact after_mirrors h (Storage.get_mirrors h.medium storage key)
  record key entry ttl world other h := by
    simp only [StoredWorld.responder, StoredWorld.answer, Server.wire, hold_onMedium, h.clock]
    exact after_mirrors h (Storage.set_mirrors h.medium storage σ.key_injective key entry ttl)

/-- What is shown of the marks about the other tokens differs in the keys only. -/
theorem shown_renamed (σ : TokenRenaming) (trace : List StoredMark) :
    (trace.map (StoredMark.rename σ)).filterMap StoredMark.shown? =
      (trace.filterMap StoredMark.shown?).map (StoredMark.rekey σ.key) := by
  have hmark : ∀ mark : StoredMark,
      (mark.rename σ).shown? = mark.shown?.map (StoredMark.rekey σ.key) := by
    intro mark
    cases mark with
    | logged event =>
      exact congrArg (fun shown => some (StoredMark.logged shown)) (σ.masked_event event)
    | stored mark =>
      cases mark with
      | commanded command => cases command <;> rfl
      | logged event =>
        exact congrArg (fun shown => some (StoredMark.stored (.logged shown)))
          (event.masked_rekey σ.key)
      | _ => rfl
    | _ => rfl
  rw [List.filterMap_map, List.map_filterMap]
  exact congrArg (fun shown => trace.filterMap shown) (funext hmark)

/-- The marks of a part are marks of the whole. -/
theorem mem_trace_bind {State Mark : Type} {responder : Responder Question Answer State Mark}
    {session : Session α} {state : State} {mark : Mark}
    (h : mark ∈ (session.run responder state).trace) (next : α → Session β) :
    mark ∈ (Dialogue.run responder (session >>= next) state).trace := by
  rw [Dialogue.run_bind]
  unfold Run.andThen
  split
  · exact List.mem_append_left _ h
  · exact h

/-- A look at a confirmation tells its key. -/
theorem find_tells (storage : Storage) (world : StoredWorld) (store : Confirmations)
    (key : String) :
    ∃ event, .stored (.logged event) ∈
        ((store.find key).run (StoredWorld.responder storage) world).trace ∧
      ("key", .str (store.cacheKey key)) ∈ event.masked.fields := by
  refine ⟨_, ?_, Storage.lookupEvent_names_key storage.backend (store.cacheKey key)
    (world.medium.find? world.clock.instant (store.cacheKey key))⟩
  have hanswer : (StoredWorld.responder storage).answer (.recall (store.cacheKey key)) world =
      after world ((storage.get true (store.cacheKey key)).run
        (Storage.Medium.responder world.clock.instant) world.medium) := hold_onMedium ..
  rw [Confirmations.find, Dialogue.run_ask, hanswer, Storage.get_eq]
  exact List.mem_append_left _ (List.mem_cons_of_mem _ List.mem_cons_self)

/-- So does a validation. -/
theorem validate_tells [Json.Nesting] (storage : Storage) (client : Client) (token : String)
    (world : StoredWorld) :
    ∃ event, .stored (.logged event) ∈
        ((client.serve (.validate token)).run (StoredWorld.responder storage) world).trace ∧
      ("key", .str (Token.store.cacheKey token)) ∈ event.masked.fields := by
  obtain ⟨event, hevent, hkey⟩ := find_tells storage world Token.store token
  refine ⟨event, mem_trace_bind ?_ _, hkey⟩
  -- The first event comes before the look at the confirmation.
  refine List.mem_cons_of_mem _ (mem_trace_bind (mem_trace_bind ?_ _) _)
  rwa [Dialogue.run_attempt]

end DisclosureLemmas

open DisclosureLemmas RenamingLemmas

/-- The log of a validation tells the token in full, as part of the key of its entry. For two tokens
of which the same is shown, and which have the same entry or none, the logs differ in these keys
only. -/
theorem validation_tells_token [Json.Nesting] (storage : Storage) (client : Client)
    {token other : String} (h : 4 < token.length) (hother : 4 < other.length)
    (hfront : other.toList.take 4 = token.toList.take 4) (world : StoredWorld)
    (hentry : world.medium.find? world.clock.instant (Token.store.cacheKey other) =
      world.medium.find? world.clock.instant (Token.store.cacheKey token)) :
    (client.serve (.validate other)).storedLog storage world =
        ((client.serve (.validate token)).storedLog storage world).map
          (.rekey (Equiv.swap (Token.store.cacheKey token) (Token.store.cacheKey other))) ∧
      ∃ event, .stored (.logged event) ∈
          (client.serve (.validate token)).storedLog storage world ∧
        ("key", .str (Token.store.cacheKey token)) ∈ event.fields := by
  let σ := TokenRenaming.exchange h hother hfront
  have hrenamed : σ.rename token = other := Equiv.swap_apply_left token other
  have hkey : σ.key = Equiv.swap (Token.store.cacheKey token) (Token.store.cacheKey other) :=
    TokenRenaming.key_exchange h hother hfront
  -- As both tokens have the same entry, the world is its own image.
  have hworld : StoredWorld.Mirrors σ world world := by
    refine ⟨rfl, ⟨rfl, fun key => ?_⟩, rfl⟩
    rw [hkey, Equiv.swap_apply_def]
    split
    · next htoken => rw [htoken, hentry]
    · split
      · next hname => rw [hname, hentry]
      · rfl
  constructor
  · have hrun := run_mirrors (stored_respects σ storage)
      (serve_carries σ client (.validate token)) hworld
    rw [Request.rename, hrenamed] at hrun
    rw [Session.storedLog, hrun.trace, shown_renamed, hkey]
    rfl
  · obtain ⟨event, hevent, htold⟩ := validate_tells storage client token world
    exact ⟨event.masked, List.mem_filterMap.mpr ⟨_, hevent, rfl⟩, htold⟩

/-- The texts that an event of a storage tells as keys. -/
def StoredMark.keys : StoredMark → List String
  | .stored (.logged event) =>
    event.fields.filterMap fun
      | ("key", .str key) => some key
      | _ => none
  | _ => []

/-- An empty disk, and a service that knows its users. -/
def emptyDisk : StoredWorld :=
  ⟨⟨0, ⟨0⟩⟩, .disk (.ofText "cache"), [.ok "\x7b\"id\":1\x7d".toUTF8.toList]⟩

attribute [local instance] Json.Nesting.usual

/-- There the log of a validation tells the token, and that of another token differs in the keys. -/
theorem validation_tells_token_on_empty_disk :
    4 < "secret-one".length ∧ 4 < "secret-two".length ∧
      "secret-two".toList.take 4 = "secret-one".toList.take 4 ∧
      emptyDisk.medium.find? 0 "token:secret-two" = emptyDisk.medium.find? 0 "token:secret-one" ∧
      (plainClient.serve (.validate "secret-two")).storedLog ⟨.disk, "cache", 0⟩ emptyDisk =
        ((plainClient.serve (.validate "secret-one")).storedLog ⟨.disk, "cache", 0⟩ emptyDisk).map
          (.rekey (Equiv.swap "token:secret-one" "token:secret-two")) ∧
      ∃ event, .stored (.logged event) ∈
          (plainClient.serve (.validate "secret-one")).storedLog ⟨.disk, "cache", 0⟩ emptyDisk ∧
        ("key", .str "token:secret-one") ∈ event.fields := by
  have hone : 4 < "secret-one".length := by decide
  have htwo : 4 < "secret-two".length := by decide
  have hfront : "secret-two".toList.take 4 = "secret-one".toList.take 4 := by decide
  exact ⟨hone, htwo, hfront, rfl,
    validation_tells_token ⟨.disk, "cache", 0⟩ plainClient hone htwo hfront emptyDisk rfl⟩

/-- So the two logs are not the same, although the same is shown of both tokens and neither has an
entry. -/
theorem validations_told_apart :
    4 < "secret-one".length ∧ 4 < "secret-two".length ∧
      "secret-two".toList.take 4 = "secret-one".toList.take 4 ∧
      emptyDisk.medium.find? 0 "token:secret-two" = emptyDisk.medium.find? 0 "token:secret-one" ∧
      (plainClient.serve (.validate "secret-two")).storedLog ⟨.disk, "cache", 0⟩ emptyDisk ≠
        (plainClient.serve (.validate "secret-one")).storedLog ⟨.disk, "cache", 0⟩ emptyDisk := by
  refine ⟨by decide, by decide, by decide, rfl, fun heq => ?_⟩
  have hkeys := congrArg (List.flatMap StoredMark.keys) heq
  revert hkeys
  decide +kernel

end MagnetStream.Client
