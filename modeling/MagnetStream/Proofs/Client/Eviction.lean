import MagnetStream.Proofs.Client.AvailabilityHistory
import MagnetStream.Proofs.Client.TokenHistory
import MagnetStream.Server.Life

/-!
# A cache that drops entries

A storage may drop an entry when its time to live is over. Nobody notices: whatever is dropped and
whenever, every turn of a session has the same result and sends the same requests as with a cache
that keeps its entries for good (`eviction_goes_unnoticed`). The invariant is that the cache that
keeps everything has more only of what is too old to be trusted (`EvictingWorld.Shadows`), and the
time to live is just as long as a confirmation is trusted.
-/

namespace MagnetStream.Calendar.Moment

/-- A clock that does not go back never shows an earlier moment. -/
theorem instant_le_advance {moment later : Moment} {span : Duration}
    (h : moment.advance? span = some later) (hspan : (⟨0⟩ : Duration) ≤ span) :
    moment.instant ≤ later.instant := by
  unfold advance? checked? at h
  split at h
  · cases h
    have hmicro : 0 ≤ span.microseconds := hspan
    simp only [instant]
    omega
  · cases h

end MagnetStream.Calendar.Moment

namespace MagnetStream.Client

/-! ## Worlds with such a cache -/

/-- When an entry was written, and for how many seconds it is kept; zero seconds have no end. -/
structure Lease where
  written : Calendar.Moment
  ttl : Int

/-- The time for which an entry is kept lies behind. -/
def Lease.IsOver (lease : Lease) (clock : Calendar.Moment) : Prop :=
  0 < lease.ttl ∧ Calendar.Duration.ofSeconds lease.ttl < clock.since lease.written

instance (lease : Lease) (clock : Calendar.Moment) : Decidable (lease.IsOver clock) :=
  inferInstanceAs (Decidable (_ ∧ _))

/-- A world whose cache may drop entries. Before each question about the cache, it drops what the
plan names next, as far as the leases of these entries are over. -/
structure EvictingWorld where
  world : World
  leases : Entries Lease
  plan : List (List String)

namespace EvictingWorld

/-- Drops the entry under a key if its lease is over. -/
def drop (evicting : EvictingWorld) (key : String) : EvictingWorld :=
  match evicting.leases.get? key with
  | some lease =>
    if lease.IsOver evicting.world.clock then
      { evicting with
        world := { evicting.world with entries := evicting.world.entries.erase key } }
    else evicting
  | none => evicting

/-- Drops what the plan names next. -/
def sweep (evicting : EvictingWorld) : EvictingWorld :=
  (evicting.plan.headD []).foldl drop { evicting with plan := evicting.plan.tail }

/-- Notes down the lease of an entry that is written, if writing works. -/
def lease (evicting : EvictingWorld) (key : String) (ttl : Int) : EvictingWorld :=
  match evicting.world.writeFailure with
  | some _ => evicting
  | none => { evicting with leases := evicting.leases.insert key ⟨evicting.world.clock, ttl⟩ }

/-- Answers out of the world inside. -/
def answerInside (question : Question) (evicting : EvictingWorld) :
    Answer question × EvictingWorld × List Mark :=
  let (answer, world, marks) := World.answer question evicting.world
  (answer, { evicting with world := world }, marks)

def answer : (question : Question) → EvictingWorld → Answer question × EvictingWorld × List Mark
  | .recall key, evicting => answerInside (.recall key) evicting.sweep
  | .record key entry ttl, evicting =>
    answerInside (.record key entry ttl) (evicting.sweep.lease key ttl)
  | question, evicting => answerInside question evicting

/-- The evicting world as the one who answers. -/
def responder : Responder Question Answer EvictingWorld Mark := ⟨answer, .logged⟩

/-- An evicting world at a time, with nothing in its cache. -/
def startingAt (clock : Calendar.Moment) (plan : List (List String)) : EvictingWorld :=
  ⟨.startingAt clock, [], plan⟩

def takeTurn [Json.Nesting] (client : Client) (evicting : EvictingWorld) :
    Turn → Outcome × EvictingWorld
  | .request request script =>
    let run := (client.serve request).run responder
      { evicting with world := evicting.world.facing script }
    (.served run.result run.trace run.state.world.script.length, run.state)
  | turn =>
    let (outcome, world) := Client.takeTurn client evicting.world turn
    (outcome, { evicting with world := world })

def takeTurns [Json.Nesting] (client : Client) :
    EvictingWorld → List Turn → List Outcome × EvictingWorld
  | evicting, [] => ([], evicting)
  | evicting, turn :: rest =>
    let (outcome, evicting) := takeTurn client evicting turn
    let (outcomes, evicting) := takeTurns client evicting rest
    (outcome :: outcomes, evicting)

end EvictingWorld

/-- What is told of an outcome: its result and its requests. -/
def Outcome.told : Outcome → Outcome
  | .served result trace unused => .served result ((Client.calls trace).map .called) unused
  | outcome => outcome

/-! ## What goes along -/

/-- How an entry of an evicting cache and its lease go along with the entry of a cache that keeps
everything. -/
inductive GoesAlong (ttl : Int) (clock : Calendar.Moment) :
    Option Json → Option Lease → Option Json → Prop
  /-- Nothing was ever written. -/
  | absent {lease : Option Lease} : GoesAlong ttl clock none lease none
  /-- Both hold what was written last. -/
  | held {written : Calendar.Moment} {text : String}
      (written_eq : Confirmations.encode written = .ok text) :
      GoesAlong ttl clock (some (.str text)) (some ⟨written, ttl⟩) (some (.str text))
  /-- It was dropped, and it is too old. -/
  | dropped {written : Calendar.Moment} {text : String} {lease : Option Lease}
      (written_eq : Confirmations.encode written = .ok text)
      (old : Calendar.Duration.ofSeconds ttl < clock.since written) :
      GoesAlong ttl clock none lease (some (.str text))

/-- The stores of which a client makes use. -/
def Uses (client : Client) (store : Confirmations) : Prop :=
  store = Token.store ∨ client.availability.usesCache = true ∧ store = client.availability.store

/-- An evicting world goes along with a world that keeps everything, which has more only of what is
too old. -/
structure EvictingWorld.Shadows (client : Client) (evicting : EvictingWorld) (world : World) :
    Prop where
  clock : evicting.world.clock = world.clock
  readFailure : evicting.world.readFailure = world.readFailure
  writeFailure : evicting.world.writeFailure = world.writeFailure
  script : evicting.world.script = world.script
  entries : ∀ store, Uses client store → ∀ key, GoesAlong store.ttl world.clock
    (evicting.world.entries.get? (store.cacheKey key)) (evicting.leases.get? (store.cacheKey key))
    (world.entries.get? (store.cacheKey key))

/-- Two runs come to the same result after the same requests, and leave worlds that go along. -/
structure Tallies {α : Type} (client : Client) (evicting : Run EvictingWorld Mark α)
    (run : Run World Mark α) : Prop where
  result : evicting.result = run.result
  calls : calls evicting.trace = calls run.trace
  state : evicting.state.Shadows client run.state

/-- A session does not notice whether the cache drops entries. -/
def Session.Unaffected {α : Type} (client : Client) (session : Session α) : Prop :=
  ∀ evicting world, evicting.Shadows client world →
    Tallies client (session.run EvictingWorld.responder evicting) (session.runIn world)

namespace GoesAlong

variable {ttl : Int} {clock : Calendar.Moment} {found kept : Option Json}

/-- What is dropped when its lease is over is too old. -/
theorem drop {lease : Lease} (h : GoesAlong ttl clock found (some lease) kept)
    (hover : lease.IsOver clock) : GoesAlong ttl clock none (some lease) kept := by
  cases h with
  | absent => exact .absent
  | held hwritten => exact .dropped hwritten hover.2
  | dropped hwritten hold => exact .dropped hwritten hold

/-- What is too old stays so. -/
theorem later {lease : Option Lease} (h : GoesAlong ttl clock found lease kept)
    {after : Calendar.Moment} (hafter : clock.instant ≤ after.instant) :
    GoesAlong ttl after found lease kept := by
  cases h with
  | absent => exact .absent
  | held hwritten => exact .held hwritten
  | @dropped written text lease hwritten hold =>
    have hsince : clock.since written ≤ after.since written := Int.sub_le_sub_right hafter _
    exact .dropped hwritten (Int.lt_of_lt_of_le hold hsince)

end GoesAlong

/-- What goes on alike after runs that tally, tallies. -/
theorem Tallies.andThen {α β : Type} {client : Client} {evicting : Run EvictingWorld Mark α}
    {run : Run World Mark α} (h : Tallies client evicting run)
    {next : α → EvictingWorld → Run EvictingWorld Mark β} {after : α → World → Run World Mark β}
    (hn : ∀ value {evicting : EvictingWorld} {world : World}, evicting.Shadows client world →
      Tallies client (next value evicting) (after value world)) :
    Tallies client (evicting.andThen next) (run.andThen after) := by
  unfold Run.andThen
  rw [h.result]
  cases run.result with
  | error failure => exact ⟨rfl, h.calls, h.state⟩
  | ok value =>
    have hvalue := hn value h.state
    exact ⟨hvalue.result, by simp only [calls_append, h.calls, hvalue.calls], hvalue.state⟩

namespace EvictionLemmas

open EvictingWorld (Shadows)

variable {client : Client} {evicting : EvictingWorld} {world : World}

/-! ## Dropping -/

/-- Worlds still go along when one of them drops an entry. -/
theorem shadows_drop (h : evicting.Shadows client world) (key : String) :
    (evicting.drop key).Shadows client world := by
  unfold EvictingWorld.drop
  split
  · next lease hlease =>
    split
    · next hover =>
      refine ⟨h.clock, h.readFailure, h.writeFailure, h.script, fun store hstore name => ?_⟩
      have hentry := h.entries store hstore name
      rw [h.clock] at hover
      dsimp only
      rw [Entries.get?_erase]
      split
      · next hkey =>
        rw [hkey, hlease] at hentry
        rw [hkey, hlease]
        exact hentry.drop hover
      · exact hentry
    · exact h
  · exact h

theorem shadows_sweep (h : evicting.Shadows client world) :
    evicting.sweep.Shadows client world := by
  have hfold : ∀ (keys : List String) {evicting : EvictingWorld},
      evicting.Shadows client world →
        (keys.foldl EvictingWorld.drop evicting).Shadows client world := by
    intro keys
    induction keys with
    | nil => exact id
    | cons key rest ih => exact fun h => ih (shadows_drop h key)
  exact hfold _ ⟨h.clock, h.readFailure, h.writeFailure, h.script, h.entries⟩

/-- Worlds that go along trust the same, as long as trust ends with the time to live. -/
theorem trusts_of_shadows (h : evicting.Shadows client world) {store : Confirmations}
    (hstore : Uses client store) (key : String) :
    evicting.world.trusts store (.ofSeconds store.ttl) key =
      world.trusts store (.ofSeconds store.ttl) key := by
  unfold World.trusts World.lookUp
  rw [h.readFailure, h.clock]
  cases world.readFailure with
  | some failure => rfl
  | none =>
    have hentry := h.entries store hstore key
    generalize evicting.world.entries.get? (store.cacheKey key) = found at hentry ⊢
    generalize evicting.leases.get? (store.cacheKey key) = lease at hentry
    generalize world.entries.get? (store.cacheKey key) = kept at hentry ⊢
    cases hentry with
    | absent => rfl
    | held hwritten => rfl
    | @dropped written text lease hwritten hold =>
      have hsince : world.clock.since ⟨written.instant, ⟨0⟩⟩ = world.clock.since written := by
        simp [Calendar.Moment.since, Calendar.Moment.instant]
      simp [Confirmations.decode_encode hwritten, Except.map, hsince, hold]

end EvictionLemmas

/-! ## Sessions that do not notice -/

namespace Session.Unaffected

open EvictionLemmas

variable {client : Client} {α β : Type}

theorem lift (result : Except Failure α) : Unaffected client (.lift result) :=
  fun _ _ h => ⟨rfl, rfl, h⟩

theorem pure (value : α) : Unaffected client (Pure.pure value : Session α) := .lift (.ok value)

theorem note {session : Session α} (event : Log.Event) (h : Unaffected client session) :
    Unaffected client (.note event session) := by
  intro evicting world hshadows
  have hrun := h evicting world hshadows
  exact ⟨hrun.result, hrun.calls, hrun.state⟩

theorem log (level : Log.Level) (name : String) (fields : List (String × Json)) :
    Unaffected client (.log level name fields) := .note _ (.pure ())

theorem bind {session : Session α} {next : α → Session β} (h : Unaffected client session)
    (hn : ∀ value, Unaffected client (next value)) : Unaffected client (session >>= next) := by
  intro evicting world hshadows
  rw [Dialogue.run_bind, Session.runIn_bind]
  exact (h evicting world hshadows).andThen fun value _ _ hstate => hn value _ _ hstate

theorem attempt {session : Session α} (h : Unaffected client session) :
    Unaffected client session.attempt := by
  intro evicting world hshadows
  obtain ⟨hresult, hcalls, hstate⟩ := h evicting world hshadows
  rw [Dialogue.run_attempt, Session.runIn_attempt]
  exact ⟨congrArg Except.ok hresult, hcalls, hstate⟩

theorem send {call : Call} {next : Except Failure (List UInt8) → Session α}
    (h : ∀ reply, Unaffected client (next reply)) :
    Unaffected client (.ask (.send call) next) := by
  intro evicting world hshadows
  have hreply : evicting.world.reply 0 = world.reply 0 := by
    rw [World.reply, World.reply, hshadows.script]
  have hanswer : EvictingWorld.responder.answer (.send call) evicting =
      (world.reply 0, { evicting with world := evicting.world.spend 1 }, [.called call]) := by
    show EvictingWorld.answerInside (.send call) evicting = _
    rw [EvictingWorld.answerInside, World.answer_send, hreply]
  have hspent : EvictingWorld.Shadows client
      { evicting with world := evicting.world.spend 1 } (world.spend 1) :=
    ⟨hshadows.clock, hshadows.readFailure, hshadows.writeFailure,
      congrArg (List.drop 1) hshadows.script, hshadows.entries⟩
  obtain ⟨hresult, hcalls, hstate⟩ := h (world.reply 0) _ _ hspent
  rw [Dialogue.run_ask, hanswer, Session.runIn_send]
  exact ⟨hresult, congrArg (List.cons call) hcalls, hstate⟩

theorem get (token url : String) : Unaffected client (Session.get token url) :=
  .send fun reply => .lift reply

/-- A session that asks nothing of the cache does not notice what it drops. -/
theorem of_within {base token : String} {session : Session α}
    (h : session.Within base token fun _ => False) : Unaffected client session := by
  induction session with
  | done result => exact .lift result
  | note event rest ih => exact .note event (ih h)
  | ask question rest ih =>
    obtain ⟨hask, hrest⟩ := h
    cases question with
    | send call => exact .send fun reply => ih reply (hrest reply)
    | pause seconds =>
      intro evicting world hshadows
      have hrun := ih () (hrest ()) evicting world hshadows
      exact ⟨hrun.result, hrun.calls, hrun.state⟩
    | now =>
      intro evicting world hshadows
      have hnow : ∀ clock, clock = world.clock → Tallies client
          ((rest clock).run EvictingWorld.responder evicting)
          (Session.runIn (rest world.clock) world) := by
        rintro clock rfl
        exact ih _ (hrest _) evicting world hshadows
      have hrun := hnow evicting.world.clock hshadows.clock
      exact ⟨hrun.result, hrun.calls, hrun.state⟩
    | «recall» key => exact hask.elim
    | record key entry ttl => exact hask.elim

end Session.Unaffected

namespace EvictionLemmas

open Session (Unaffected)

variable {client : Client}

/-! ## Reading and writing confirmations -/

theorem run_find (store : Confirmations) (key : String) (evicting : EvictingWorld) :
    (store.find key).run EvictingWorld.responder evicting =
      ⟨evicting.sweep.world.lookUp store key, evicting.sweep,
        [.recalled (store.cacheKey key)]⟩ := by
  unfold Confirmations.find World.lookUp
  simp only [Dialogue.run_ask, EvictingWorld.responder, EvictingWorld.answer,
    EvictingWorld.answerInside, World.answer]
  cases evicting.sweep.world.readFailure with
  | some failure => rfl
  | none => cases (evicting.sweep.world.entries.get? (store.cacheKey key)).getD .null <;> rfl

/-- An evicting cache says what its world trusts after dropping. -/
theorem run_consult (store : Confirmations) (age : Calendar.Duration) (notes : Confirmations.Notes)
    (key : String) (evicting : EvictingWorld) :
    ∃ trace, (store.consult age notes key).run EvictingWorld.responder evicting =
      ⟨.ok (evicting.sweep.world.trusts store age key), evicting.sweep, trace⟩ ∧
        calls trace = [] := by
  unfold Confirmations.consult World.trusts
  rw [Dialogue.run_bind, Dialogue.run_attempt, run_find, Run.andThen_ok]
  cases evicting.sweep.world.lookUp store key with
  | error failure => exact ⟨_, rfl, rfl⟩
  | ok found =>
    cases found with
    | none => exact ⟨_, rfl, rfl⟩
    | some confirmed =>
      have hnow : Session.now.run EvictingWorld.responder evicting.sweep =
          ⟨.ok evicting.sweep.world.clock, evicting.sweep, []⟩ := rfl
      dsimp only
      rw [Dialogue.run_bind, hnow, Run.andThen_ok]
      dsimp only
      by_cases hold : age < evicting.sweep.world.clock.since confirmed
      · rw [if_pos hold, decide_eq_true hold]
        exact ⟨_, rfl, rfl⟩
      · rw [if_neg hold, decide_eq_false hold]
        exact ⟨_, rfl, rfl⟩

theorem consult_unaffected {store : Confirmations} (hstore : Uses client store)
    (notes : Confirmations.Notes) (key : String) :
    Unaffected client (store.consult (.ofSeconds store.ttl) notes key) := by
  intro evicting world h
  have hsweep := shadows_sweep h
  obtain ⟨_, hrun, hcalls⟩ := run_consult store (.ofSeconds store.ttl) notes key evicting
  obtain ⟨_, hrun', hcalls'⟩ :=
    (Confirmations.consult_yields store (.ofSeconds store.ttl) notes key world).ends
  rw [hrun, hrun']
  exact ⟨congrArg Except.ok (trusts_of_shadows hsweep hstore key), hcalls.trans hcalls'.symm,
    hsweep⟩

/-- Stores in use that share a key keep it for the same time. -/
theorem ttl_of_cacheKey_eq {store other : Confirmations} (hstore : Uses client store)
    (hother : Uses client other) {key name : String}
    (h : store.cacheKey key = other.cacheKey name) : store.ttl = other.ttl := by
  rcases hstore with rfl | ⟨_, rfl⟩
  · rcases hother with rfl | ⟨_, rfl⟩
    · rfl
    · exact absurd h (cacheKey_token_ne _ key name)
  · rcases hother with rfl | ⟨_, rfl⟩
    · exact absurd h.symm (cacheKey_token_ne _ name key)
    · rfl

/-- Worlds still go along when their time is written into both. -/
theorem shadows_record {evicting : EvictingWorld} {world : World}
    (h : evicting.Shadows client world) {store : Confirmations} (hstore : Uses client store)
    (key : String) {text : String} (htext : Confirmations.encode world.clock = .ok text) :
    EvictingWorld.Shadows client
      { evicting with
        world := { evicting.world with
          entries := evicting.world.entries.insert (store.cacheKey key) (.str text) }
        leases := evicting.leases.insert (store.cacheKey key) ⟨world.clock, store.ttl⟩ }
      { world with entries := world.entries.insert (store.cacheKey key) (.str text) } := by
  refine ⟨h.clock, h.readFailure, h.writeFailure, h.script, fun other hother name => ?_⟩
  dsimp only
  by_cases hsame : other.cacheKey name = store.cacheKey key
  · rw [hsame, Entries.get?_insert_self, Entries.get?_insert_self, Entries.get?_insert_self,
      ttl_of_cacheKey_eq hother hstore hsame]
    exact .held htext
  · rw [Entries.get?_insert_of_ne hsame, Entries.get?_insert_of_ne hsame,
      Entries.get?_insert_of_ne hsame]
    exact h.entries other hother name

/-- The time of a world is written into both caches, or into none. -/
theorem record_tallies {evicting : EvictingWorld} {world : World}
    (h : evicting.Shadows client world) {store : Confirmations} (hstore : Uses client store)
    (key : String) {text : String} (htext : Confirmations.encode world.clock = .ok text) :
    Tallies client
      (Dialogue.run EvictingWorld.responder
        (.ask (.record (store.cacheKey key) (.str text) store.ttl) .lift) evicting)
      (Session.runIn (.ask (.record (store.cacheKey key) (.str text) store.ttl) .lift) world) := by
  have hsweep := shadows_sweep h
  cases hwrite : world.writeFailure with
  | some failure =>
    have hanswer : EvictingWorld.responder.answer
        (.record (store.cacheKey key) (.str text) store.ttl) evicting =
          (.error failure, evicting.sweep,
            [.recorded (store.cacheKey key) (.str text) store.ttl]) := by
      simp [EvictingWorld.responder, EvictingWorld.answer, EvictingWorld.answerInside,
        EvictingWorld.lease, World.answer, hsweep.writeFailure, hwrite]
    rw [Session.runIn_record_fails hwrite, Dialogue.run_ask, hanswer]
    exact ⟨rfl, rfl, hsweep⟩
  | none =>
    have hanswer : EvictingWorld.responder.answer
        (.record (store.cacheKey key) (.str text) store.ttl) evicting =
          (.ok (),
            { evicting.sweep with
              world := { evicting.sweep.world with
                entries := evicting.sweep.world.entries.insert (store.cacheKey key) (.str text) }
              leases := evicting.sweep.leases.insert (store.cacheKey key)
                ⟨world.clock, store.ttl⟩ },
            [.recorded (store.cacheKey key) (.str text) store.ttl]) := by
      simp [EvictingWorld.responder, EvictingWorld.answer, EvictingWorld.answerInside,
        EvictingWorld.lease, World.answer, hsweep.writeFailure, hsweep.clock, hwrite]
    rw [Session.runIn_record_ok hwrite, Dialogue.run_ask, hanswer]
    exact ⟨rfl, rfl, shadows_record hsweep hstore key htext⟩

theorem confirm_unaffected {store : Confirmations} (hstore : Uses client store) (key : String) :
    Unaffected client (store.confirm key) := by
  intro evicting world h
  have hnow : Session.now.run EvictingWorld.responder evicting =
      ⟨.ok world.clock, evicting, []⟩ := by
    rw [← h.clock]
    rfl
  have hnow' : Session.now.runIn world = ⟨.ok world.clock, world, []⟩ := rfl
  unfold Confirmations.confirm
  rw [Dialogue.run_bind, hnow, Session.runIn_bind, hnow', Run.andThen_ok, Run.andThen_ok,
    Dialogue.run_bind, Session.runIn_bind]
  cases htext : Confirmations.encode world.clock with
  | error failure => exact ⟨rfl, rfl, h⟩
  | ok text =>
    have hlog : Unaffected client (.log .debug "timestamp_saved"
        [("namespace", .str store.namespaceName), ("ttl", .int store.ttl)]) := .log _ _ _
    have hrecord := (record_tallies h hstore key htext).andThen fun _ _ _ hstate =>
      hlog _ _ hstate
    rw [← Dialogue.run_bind, ← Session.runIn_bind] at hrecord
    exact ⟨hrecord.result, hrecord.calls, hrecord.state⟩

/-! ## Whole requests -/

theorem validate_unaffected [Json.Nesting] (base token : String) :
    Unaffected client (Token.validate base token) := by
  have hconsult : Unaffected client (Token.isConfirmed token) :=
    Token.isConfirmed_eq token ▸ consult_unaffected (.inl rfl) _ _
  refine .bind (.log _ _ _) fun _ => .bind hconsult fun confirmed => ?_
  split
  · exact .pure ()
  · refine .bind (.of_within AddressingLemmas.askService_within) fun _ => ?_
    refine .bind (.log _ _ _) fun _ => ?_
    refine .bind (confirm_unaffected (.inl rfl) token).attempt fun written => ?_
    split
    · exact .pure ()
    · exact .log _ _ _

section Checking

variable (hage : client.availability.age = .ofSeconds client.availability.ttl)
include hage

theorem consultCache_unaffected (token : String) (hashes : List String) :
    Unaffected client (Availability.consultCache client.availability token hashes) := by
  induction hashes with
  | nil => exact .pure _
  | cons hash rest ih =>
    have hone : Unaffected client
        (if client.availability.usesCache then
          Availability.isConfirmed client.availability token hash else pure false) := by
      split
      · next huse =>
        rw [Availability.isConfirmed_eq, hage]
        exact consult_unaffected (.inr ⟨huse, rfl⟩) _ _
      · exact .pure false
    rw [Availability.consultCache_cons]
    refine .bind hone fun confirmed => .bind ih fun parts => ?_
    cases confirmed <;> exact .pure _

omit hage in
theorem confirmAll_unaffected (huse : client.availability.usesCache = true) (token : String)
    (hashes : List String) :
    Unaffected client (Availability.confirmAll client.availability token hashes) := by
  induction hashes with
  | nil => exact .pure ()
  | cons hash rest ih =>
    rw [Availability.confirmAll]
    refine .bind (confirm_unaffected (.inr ⟨huse, rfl⟩) hash).attempt fun written => ?_
    cases written with
    | ok _ => exact ih
    | error failure => exact .bind (.log _ _ _) fun _ => ih

theorem check_unaffected [Json.Nesting] (base token : String) (hashes : List String) :
    Unaffected client (Availability.check client.availability base token hashes) := by
  have hask : ∀ hashes, Unaffected client
      (Availability.askService client.availability base token hashes) := by
    intro hashes
    refine .bind (Unaffected.bind (.get _ _) fun _ => .lift _).attempt fun response => ?_
    split
    · exact .bind (.log _ _ _) fun _ => .pure _
    · dsimp only
      split
      · next huse => exact .bind (confirmAll_unaffected huse token _) fun _ => .pure _
      · exact .pure _
  unfold Availability.check
  dsimp only
  split
  · exact .pure []
  · refine .bind (consultCache_unaffected hage token _) fun parts => ?_
    split
    · exact .pure _
    · exact .bind (hask _) fun _ => .bind (.log _ _ _) fun _ => .pure _

theorem serve_unaffected [Json.Nesting] (hbase : Url.dropEndSlashes client.base = client.base)
    (request : Request) : Unaffected client (client.serve request) := by
  cases request with
  | validate token => exact .bind (validate_unaffected _ _) fun _ => .pure _
  | check token hashes =>
    cases hashes with
    | many hashes => exact .bind (check_unaffected hage _ _ _) fun _ => .pure _
    | single text => exact .lift _
  | stream token magnet remote =>
    exact .of_within (AddressingLemmas.serve_within client hbase (.stream token magnet remote))

/-! ## Turn after turn -/

/-- One turn: what is told of it is the same, and the worlds that it leaves go along. -/
theorem takeTurn_unaffected [Json.Nesting] (hbase : Url.dropEndSlashes client.base = client.base)
    {evicting : EvictingWorld} {world : World} (h : evicting.Shadows client world) {turn : Turn}
    (hput : ∀ key entry, turn ≠ .put key entry)
    (hspan : ∀ span, turn = .advance span → (⟨0⟩ : Calendar.Duration) ≤ span) :
    (EvictingWorld.takeTurn client evicting turn).1.told = (takeTurn client world turn).1.told ∧
      (EvictingWorld.takeTurn client evicting turn).2.Shadows client
        (takeTurn client world turn).2 := by
  cases turn with
  | advance span =>
    simp only [EvictingWorld.takeTurn, takeTurn, h.clock]
    cases hclock : world.clock.advance? span with
    | none => exact ⟨rfl, h⟩
    | some clock =>
      refine ⟨rfl, rfl, h.readFailure, h.writeFailure, h.script, fun store hstore key => ?_⟩
      exact (h.entries store hstore key).later
        (Calendar.Moment.instant_le_advance hclock (hspan span rfl))
  | put key entry => exact absurd rfl (hput key entry)
  | fail reading writing => exact ⟨rfl, h.clock, rfl, rfl, h.script, h.entries⟩
  | request request script =>
    have hfacing : EvictingWorld.Shadows client
        { evicting with world := evicting.world.facing script } (world.facing script) :=
      ⟨h.clock, h.readFailure, h.writeFailure, rfl, h.entries⟩
    obtain ⟨hresult, hcalls, hstate⟩ := serve_unaffected hage hbase request _ _ hfacing
    refine ⟨?_, hstate⟩
    show Outcome.served _ _ _ = Outcome.served _ _ _
    rw [Outcome.served.injEq]
    exact ⟨hresult, congrArg (List.map Mark.called) hcalls, congrArg List.length hstate.script⟩

theorem takeTurns_unaffected [Json.Nesting] (hbase : Url.dropEndSlashes client.base = client.base)
    {evicting : EvictingWorld} {world : World} (h : evicting.Shadows client world)
    {turns : List Turn} (hput : ∀ key entry, Turn.put key entry ∉ turns)
    (hspan : ∀ span, Turn.advance span ∈ turns → (⟨0⟩ : Calendar.Duration) ≤ span) :
    (EvictingWorld.takeTurns client evicting turns).1.map Outcome.told =
      (takeTurns client world turns).1.map Outcome.told := by
  induction turns generalizing evicting world with
  | nil => rfl
  | cons turn rest ih =>
    obtain ⟨htold, hshadows⟩ := takeTurn_unaffected hage hbase h
      (fun key entry heq => hput key entry (heq ▸ List.mem_cons_self))
      (fun span heq => hspan span (heq ▸ List.mem_cons_self))
    have hrest := ih hshadows (fun key entry hm => hput key entry (List.mem_cons_of_mem _ hm))
      (fun span hm => hspan span (List.mem_cons_of_mem _ hm))
    exact congrArg₂ List.cons htold hrest

end Checking

theorem clientOf_eq_ok {service : Config.Service} (h : Server.clientOf service = .ok client) :
    client.availability = ⟨.ofSeconds service.cacheAge, service.cacheAge⟩ ∧
      Url.dropEndSlashes client.base = client.base := by
  obtain ⟨age, hage, hcreate⟩ := Except.bind_eq_ok.mp h
  have hage : age = .ofSeconds service.cacheAge := by
    have hchecked := Except.mapError_eq_ok.mp hage
    unfold Calendar.Duration.check at hchecked
    split at hchecked
    · exact (Except.ok.inj hchecked).symm
    · split at hchecked <;> cases hchecked
  subst hage
  refine ⟨?_, ?_⟩
  · obtain ⟨base, _, hcreate⟩ := Except.bind_eq_ok.mp hcreate
    obtain ⟨budget, _, hcreate⟩ := Except.bind_eq_ok.mp hcreate
    cases hcreate
    rfl
  · exact AddressingLemmas.slashless_of_create hcreate

end EvictionLemmas

open EvictionLemmas

/-- With the client of a server, a cache that drops entries when their time to live is over, in
whatever way, and one that keeps them for good give every turn of a session the same result after
the same requests, as long as the clock does not go back. -/
theorem eviction_goes_unnoticed [Json.Nesting] {service : Config.Service} {client : Client}
    (hclient : Server.clientOf service = .ok client) (clock : Calendar.Moment)
    (plan : List (List String)) {turns : List Turn}
    (hput : ∀ key entry, Turn.put key entry ∉ turns)
    (hspan : ∀ span, Turn.advance span ∈ turns → (⟨0⟩ : Calendar.Duration) ≤ span) :
    (EvictingWorld.takeTurns client (.startingAt clock plan) turns).1.map Outcome.told =
      (takeTurns client (.startingAt clock) turns).1.map Outcome.told := by
  obtain ⟨havailability, hbase⟩ := clientOf_eq_ok hclient
  have hage : client.availability.age = .ofSeconds client.availability.ttl := by
    rw [havailability]
  exact takeTurns_unaffected hage hbase
    ⟨rfl, rfl, rfl, rfl, fun _ _ _ => .absent⟩ hput hspan

def defaultClient : Client :=
  ⟨"https://api.real-debrid.com", ⟨.ofSeconds 86400, 86400⟩, ⟨5, .ofNat 1⟩⟩

/-- A token and a hash that are confirmed, and checked once more when a day and a second have
passed and the service is gone. -/
def twoDays : List Turn :=
  [.request (.validate "secret") [.ok "\x7b\"id\":1\x7d".toUTF8.toList],
    .request (.check "secret" (.many ["aa"]))
      [.ok "\x7b\"aa\":\x7b\"rd\":[1]\x7d\x7d".toUTF8.toList],
    .advance (.ofSeconds 86401), .request (.validate "secret") [],
    .request (.check "secret" (.many ["aa"])) []]

attribute [local instance] Json.Nesting.usual

/-- Both entries are dropped on the second day, while the other cache still has them. -/
theorem eviction_goes_unnoticed_on_second_day :
    let plan := [[], [], [], [], ["token:secret", "availability:AA"]]
    let evicting := EvictingWorld.takeTurns defaultClient (.startingAt ⟨0, ⟨0⟩⟩ plan) twoDays
    let kept := takeTurns defaultClient (.startingAt ⟨0, ⟨0⟩⟩) twoDays
    Server.clientOf Config.defaultService = .ok defaultClient ∧
      evicting.2.world.entries = [] ∧
      kept.2.entries.names = ["token:secret", "availability:AA"] ∧
      evicting.1.map Outcome.told = kept.1.map Outcome.told := by
  intro plan evicting kept
  have hclient : Server.clientOf Config.defaultService = .ok defaultClient := by decide +kernel
  refine ⟨hclient, by decide +kernel, by decide +kernel, ?_⟩
  refine eviction_goes_unnoticed hclient _ _ ?_ ?_
  · simp [twoDays]
  · intro span hm
    have hspan : span = .ofSeconds 86401 := by simpa [twoDays] using hm
    subst hspan
    decide

end MagnetStream.Client
