import MagnetStream.Proofs.Client.TokenHistory

/-!
# Trouble with the cache

Trouble with the cache only costs a request (`cache_trouble_is_a_miss`). What a validation or a
check comes to depends on the cache only through what the world trusts (`serve_agrees`): an entry
that cannot be read is trusted no more than one that is missing, and what cannot be written is
skipped. A check of a list never fails, whoever answers it (`serve_succeeds`).
-/

namespace MagnetStream.Client

open Dialogue (Brings Ensures)

/-- An entry of the cache that tells a moment. -/
def Readable (entry : Json) : Prop :=
  ∃ text moment, entry = .str text ∧ Calendar.Moment.ofText text = .ok moment

/-- The entry under a key makes trouble: the cache cannot be read at all, or the entry tells no
moment. -/
def World.Affected (world : World) (key : String) : Prop :=
  world.readFailure ≠ none ∨ ∃ entry, world.entries.get? key = some entry ∧ ¬ Readable entry

/-- In the other world the cache can be read and lacks the entries that make trouble. Whether it can
be written does not matter. -/
structure World.Relieved (world other : World) : Prop where
  clock : other.clock = world.clock
  script : other.script = world.script
  reads : other.readFailure = none
  gone : ∀ key, world.Affected key → other.entries.get? key = none
  kept : ∀ key, ¬ world.Affected key → other.entries.get? key = world.entries.get? key

/-- In two worlds a session comes to the same result after the same requests. -/
structure Session.Agrees {α : Type} (session : Session α) (world other : World) : Prop where
  result : (session.runIn world).result = (session.runIn other).result
  calls : calls (session.runIn world).trace = calls (session.runIn other).trace

/-- A request that asks the cache before it asks the service. -/
def Request.ConsultsCache : Request → Prop
  | .validate _ | .check .. => True
  | .stream .. => False

namespace CacheTroubleLemmas

variable {α β : Type}

/-! ## What cannot be read -/

theorem readable_of_decode {entry : Json} {moment : Calendar.Moment}
    (h : Confirmations.decode entry = .ok moment) : Readable entry := by
  cases entry with
  | str text => exact ⟨text, moment, rfl, Except.mapError_eq_ok.mp h⟩
  | _ => cases h

/-- What makes trouble is not trusted. -/
theorem trusts_of_affected {world : World} {store : Confirmations} {key : String}
    (h : world.Affected (store.cacheKey key)) (age : Calendar.Duration) :
    world.trusts store age key = false := by
  unfold World.trusts World.lookUp
  cases hread : world.readFailure with
  | some failure => rfl
  | none =>
    obtain hfails | ⟨entry, hget, hunreadable⟩ := h
    · exact absurd hread hfails
    · simp only [hget, Option.getD_some]
      cases entry with
      | str text =>
        cases hdecode : Confirmations.decode (.str text) with
        | error failure => simp [hdecode, Except.map]
        | ok moment => exact absurd (readable_of_decode hdecode) hunreadable
      | _ => rfl

/-- A world without the trouble trusts what the world with the trouble does. -/
theorem trusts_of_relieved {world other : World} (h : world.Relieved other)
    (store : Confirmations) (age : Calendar.Duration) (key : String) :
    other.trusts store age key = world.trusts store age key := by
  by_cases haffected : world.Affected (store.cacheKey key)
  · rw [trusts_of_affected haffected]
    simp [World.trusts, World.lookUp, h.reads, h.gone _ haffected]
  · have hreads : world.readFailure = none := not_not.mp fun hfails => haffected (.inl hfails)
    simp only [World.trusts, World.lookUp, h.reads, hreads, h.kept _ haffected, h.clock]

/-! ## Worlds in which the same is trusted -/

theorem agrees_of_ends {session : Session α} {world other state state' : World}
    {result : Except Failure α} {requests : List Call}
    (h : session.Ends world result state requests)
    (h' : session.Ends other result state' requests) : session.Agrees world other := by
  obtain ⟨trace, hrun, htrace⟩ := h
  obtain ⟨trace', hrun', htrace'⟩ := h'
  exact ⟨by rw [hrun, hrun'], by rw [hrun, hrun', htrace, htrace']⟩

/-- What is made of the value of a session makes no difference. -/
theorem agrees_map {session : Session α} {world other : World} (h : session.Agrees world other)
    (make : α → β) :
    Session.Agrees (session >>= fun value => pure (make value)) world other := by
  have hmade : ∀ world : World,
      (Session.runIn (session >>= fun value => pure (make value)) world).result =
        (session.runIn world).result.map make ∧
      calls (Session.runIn (session >>= fun value => pure (make value)) world).trace =
        calls (session.runIn world).trace := by
    intro world
    rw [Session.runIn_bind]
    unfold Run.andThen
    cases (session.runIn world).result with
    | error failure => exact ⟨rfl, rfl⟩
    | ok value => exact ⟨rfl, (calls_append ..).trans (List.append_nil _)⟩
  constructor
  · rw [(hmade world).1, (hmade other).1, h.result]
  · rw [(hmade world).2, (hmade other).2, h.calls]

section Agreement

variable {world other : World} (hscript : other.script = world.script)
  (htrusts : ∀ store age key, other.trusts store age key = world.trusts store age key)

theorem reply_eq (hscript : other.script = world.script) (index : Nat) :
    other.reply index = world.reply index := by
  rw [World.reply, World.reply, hscript]

include hscript htrusts in
theorem validate_agrees [Json.Nesting] (base token : String) :
    (Token.validate base token).Agrees world other := by
  cases htrusted : world.trusts Token.store Token.trust token with
  | true =>
    have htrusted' := (htrusts Token.store Token.trust token).trans htrusted
    exact agrees_of_ends (Token.validate_trusted base htrusted).ends
      (Token.validate_trusted base htrusted').ends
  | false =>
    have htrusted' := (htrusts Token.store Token.trust token).trans htrusted
    have hother := Token.validate_asked base htrusted'
    rw [reply_eq hscript] at hother
    exact agrees_of_ends (Token.validate_asked base htrusted) hother

include hscript htrusts in
theorem check_agrees [Json.Nesting] (policy : Availability.Policy) (base token : String)
    (hashes : List String) : (Availability.check policy base token hashes).Agrees world other := by
  have hknown : Availability.isKnown policy other = Availability.isKnown policy world := by
    funext hash
    rw [Availability.isKnown, Availability.isKnown, htrusts]
  have hother := Availability.check_ends policy base token hashes other
  rw [Availability.learned, Availability.known, Availability.asked, hknown, reply_eq hscript]
    at hother
  exact agrees_of_ends (Availability.check_ends policy base token hashes world) hother

include hscript htrusts in
/-- What a validation or a check comes to depends on the cache only through what is trusted. -/
theorem serve_agrees [Json.Nesting] (client : Client) {request : Request}
    (h : request.ConsultsCache) :
    (client.serve request).Agrees world other := by
  cases request with
  | validate token => exact agrees_map (validate_agrees hscript htrusts client.base token) _
  | check token hashes =>
    cases hashes with
    | many hashes => exact agrees_map (check_agrees hscript htrusts _ _ _ hashes) _
    | single text => exact ⟨rfl, rfl⟩
  | stream token magnet remote => exact h.elim

end Agreement

/-! ## What cannot be written -/

/-- As long as the cache cannot be written, a session leaves its entries as they are. -/
theorem entries_of_unwritable (session : Session α) {world : World} {failure : Failure}
    (h : world.writeFailure = some failure) :
    (session.runIn world).state.entries = world.entries := by
  refine (Ensures.state World.responder
    (fun state => state.writeFailure = some failure ∧ state.entries = world.entries)
    (.anything session) ?_ ⟨h, rfl⟩).2
  intro question state _ hstate
  cases question with
  | send call =>
    have hanswer : World.responder.answer (.send call) state = _ := World.answer_send call state
    rw [hanswer]
    exact hstate
  | pause seconds => exact hstate
  | now => exact hstate
  | «recall» key =>
    simp only [World.responder, World.answer]
    split <;> exact hstate
  | record key entry ttl =>
    simp only [World.responder, World.answer, hstate.1]
    exact ⟨trivial, hstate.2⟩

/-! ## Checks that cannot fail -/

/-- A session that comes to a value, whoever answers it. -/
abbrev Succeeds (session : Session α) : Prop :=
  Brings (fun _ _ => True) (fun result => ∃ value, result = .ok value) session

theorem succeeds_bind {session : Session α} {next : α → Session β} (h : Succeeds session)
    (hn : ∀ value, Succeeds (next value)) : Succeeds (session >>= next) :=
  Brings.bind h (fun _ hfailure => nomatch hfailure) fun value _ => hn value

theorem succeeds_pure (value : α) : Succeeds (pure value) := .pure ⟨value, rfl⟩

theorem consult_succeeds (store : Confirmations) (age : Calendar.Duration)
    (notes : Confirmations.Notes) (key : String) : Succeeds (store.consult age notes key) := by
  refine succeeds_bind (.attempt _) fun found => ?_
  split
  · exact succeeds_pure false
  · exact succeeds_pure false
  · refine succeeds_bind (fun moment _ => ⟨moment, rfl⟩) fun moment => ?_
    dsimp only
    split
    · exact succeeds_pure false
    · exact succeeds_pure true

theorem consultCache_succeeds (policy : Availability.Policy) (token : String)
    (hashes : List String) : Succeeds (Availability.consultCache policy token hashes) := by
  induction hashes with
  | nil => exact succeeds_pure _
  | cons hash rest ih =>
    have hone : Succeeds
        (if policy.usesCache then Availability.isConfirmed policy token hash else pure false) := by
      split
      · rw [Availability.isConfirmed_eq]
        exact consult_succeeds _ _ _ _
      · exact succeeds_pure false
    rw [Availability.consultCache_cons]
    refine succeeds_bind hone fun confirmed => succeeds_bind ih fun parts => ?_
    cases confirmed with
    | true => exact succeeds_pure _
    | false => exact succeeds_pure _

theorem confirmAll_succeeds (policy : Availability.Policy) (token : String)
    (hashes : List String) : Succeeds (Availability.confirmAll policy token hashes) := by
  induction hashes with
  | nil => exact succeeds_pure ()
  | cons hash rest ih =>
    rw [Availability.confirmAll]
    refine succeeds_bind (.attempt _) fun written => ?_
    cases written with
    | ok _ => exact ih
    | error failure => exact ih

theorem askService_succeeds [Json.Nesting] (policy : Availability.Policy) (base token : String)
    (hashes : List String) : Succeeds (Availability.askService policy base token hashes) := by
  refine succeeds_bind (.attempt _) fun response => ?_
  cases response with
  | error failure => exact succeeds_pure []
  | ok response =>
    dsimp only
    split
    · exact succeeds_bind (confirmAll_succeeds _ _ _) fun _ => succeeds_pure _
    · exact succeeds_pure _

theorem check_succeeds [Json.Nesting] (policy : Availability.Policy) (base token : String)
    (hashes : List String) : Succeeds (Availability.check policy base token hashes) := by
  unfold Availability.check
  dsimp only
  split
  · exact succeeds_pure []
  · refine succeeds_bind (consultCache_succeeds _ _ _) fun parts => ?_
    split
    · exact succeeds_pure _
    · exact succeeds_bind (askService_succeeds _ _ _ _) fun _ => succeeds_pure _

/-- A check of a list comes to a list, whoever answers it. -/
theorem serve_succeeds [Json.Nesting] (client : Client) (token : String) (hashes : List String)
    {State Mark : Type} (responder : Responder Question Answer State Mark) (state : State) :
    ∃ available, ((client.serve (.check token (.many hashes))).run responder state).result =
      .ok (.available available) := by
  have hcheck : Brings (fun _ _ => True)
      (fun result => ∃ available, result = .ok (.available available))
      (client.serve (.check token (.many hashes))) :=
    Brings.bind (check_succeeds client.availability client.base token hashes)
      (fun _ hfailure => nomatch hfailure) fun available _ => .pure ⟨available, rfl⟩
  exact Brings.result responder (fun _ => True) hcheck (fun _ _ _ => ⟨trivial, trivial⟩) trivial

end CacheTroubleLemmas

open CacheTroubleLemmas

/-- A validation and a check come to the same result after the same requests whether an entry makes
trouble or is missing, and whether the cache can be written or not; if it cannot, it stays as it is.
A check of a list comes to a list, whoever answers it. -/
theorem cache_trouble_is_a_miss [Json.Nesting] (client : Client) {request : Request}
    (h : request.ConsultsCache) (world : World) :
    (∀ other, world.Relieved other → (client.serve request).Agrees world other) ∧
      (∀ failure, (client.serve request).Agrees { world with writeFailure := some failure }
          { world with writeFailure := none } ∧
        ((client.serve request).runIn
          { world with writeFailure := some failure }).state.entries = world.entries) ∧
      ∀ token hashes, request = .check token (.many hashes) →
        ∀ {State Mark : Type} (responder : Responder Question Answer State Mark) (state : State),
          ∃ available, ((client.serve request).run responder state).result =
            .ok (.available available) := by
  refine ⟨fun other hother => ?_, fun failure => ⟨?_, ?_⟩, ?_⟩
  · exact serve_agrees hother.script (trusts_of_relieved hother) client h
  · have htrusts : ∀ store age key, World.trusts { world with writeFailure := none } store age key =
        World.trusts { world with writeFailure := some failure } store age key := fun _ _ _ => rfl
    refine serve_agrees ?_ htrusts client h
    rfl
  · exact entries_of_unwritable _ rfl
  · rintro token hashes rfl State Mark responder state
    exact serve_succeeds client token hashes responder state

/-- A world whose cache holds a number where the time of a confirmation belongs. -/
def corruptWorld : World :=
  ⟨⟨0, ⟨0⟩⟩, [("token:secret", .int 7)], none, none, [.ok "\x7b\"id\":1\x7d".toUTF8.toList]⟩

attribute [local instance] Json.Nesting.usual

/-- There a validation goes on as if the number were missing. -/
theorem cache_trouble_is_a_miss_for_number :
    corruptWorld.Relieved { corruptWorld with entries := [] } ∧
      (plainClient.serve (.validate "secret")).Agrees corruptWorld
        { corruptWorld with entries := [] } := by
  have hrelieved : corruptWorld.Relieved { corruptWorld with entries := [] } := by
    refine ⟨rfl, rfl, rfl, fun _ _ => rfl, fun key hkey => ?_⟩
    have hne : key ≠ "token:secret" := by
      rintro rfl
      refine hkey (.inr ⟨.int 7, rfl, ?_⟩)
      rintro ⟨_, _, ⟨⟩, _⟩
    have hother : (key == "token:secret") = false := by simpa using hne
    simp [corruptWorld, Entries.get?, List.lookup_cons, hother]
  have hconsults : Request.ConsultsCache (.validate "secret") := trivial
  exact ⟨hrelieved, (cache_trouble_is_a_miss _ hconsults corruptWorld).1 _ hrelieved⟩

end MagnetStream.Client
