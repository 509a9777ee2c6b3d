import Mathlib.Data.List.Basic
import Mathlib.Logic.Equiv.Basic
import MagnetStream.Proofs.Client.Ledger
import MagnetStream.Proofs.Log.Masking

/-!
# Sessions with other tokens

A session uses a token in three ways only: it sends it along with a request, names it in an event,
and keeps its confirmation under a key of its own. So serving a request with another token is the
same session with the token replaced in these three places (`serve_carries`), and whoever answers
without care for tokens answers it alike (`run_mirrors`).
-/

namespace MagnetStream.Client

/-- Other tokens for all tokens, of which the same is shown: of a token with more than four
characters the first four stay, and all others stay short. -/
structure TokenRenaming where
  rename : String → String
  injective : Function.Injective rename
  long : ∀ token : String, 4 < token.length →
    4 < (rename token).length ∧ (rename token).toList.take 4 = token.toList.take 4
  short : ∀ token : String, token.length ≤ 4 → (rename token).length ≤ 4

/-- The token whose confirmation is kept under a key of the cache. -/
def tokenOf? (key : String) : Option String :=
  (key.toList.dropPrefix? (Token.store.cacheKey "").toList).map String.ofList

theorem tokenOf?_eq_some {key token : String} :
    tokenOf? key = some token ↔ key = Token.store.cacheKey token := by
  have hkey : (Token.store.cacheKey token).toList =
      (Token.store.cacheKey "").toList ++ token.toList := by
    simp [Confirmations.cacheKey]
  rw [← String.toList_inj, hkey, tokenOf?, Option.map_eq_some_iff]
  constructor
  · rintro ⟨rest, hrest, rfl⟩
    obtain ⟨front, happend, hfront⟩ := List.dropPrefix?_eq_some_iff.mp hrest
    rw [happend, eq_of_beq hfront, String.toList_ofList]
  · intro h
    exact ⟨token.toList, List.dropPrefix?_eq_some_iff.mpr ⟨_, h, beq_self_eq_true _⟩,
      String.ofList_toList⟩

namespace TokenRenaming

variable (σ : TokenRenaming)

/-- What is shown of a token stays. -/
@[simp] theorem maskSecret_rename (token : String) :
    Log.maskSecret (σ.rename token) = Log.maskSecret token := by
  unfold Log.maskSecret
  by_cases h : token.length ≤ Log.shownLength
  · have hshort : (σ.rename token).length ≤ Log.shownLength := σ.short token h
    rw [if_pos h, if_pos hshort]
  · obtain ⟨hlength, hfront⟩ := σ.long token (Nat.lt_of_not_le h)
    have hlong : ¬ (σ.rename token).length ≤ Log.shownLength := Nat.not_le_of_lt hlength
    rw [if_neg h, if_neg hlong]
    exact congrArg (fun shown => String.ofList shown ++ "***") hfront

/-- Two tokens of which the same is shown take each other's place. -/
def exchange {token other : String} (h : 4 < token.length) (hother : 4 < other.length)
    (hfront : other.toList.take 4 = token.toList.take 4) : TokenRenaming where
  rename := Equiv.swap token other
  injective := (Equiv.swap token other).injective
  long name hname := by
    rw [Equiv.swap_apply_def]
    split
    · next htoken => exact ⟨hother, htoken ▸ hfront⟩
    · split
      · next hname => exact ⟨h, hname ▸ hfront.symm⟩
      · exact ⟨hname, rfl⟩
  short name hname := by
    rw [Equiv.swap_apply_def]
    split
    · next htoken => exact absurd h (Nat.not_lt.mpr (htoken ▸ hname))
    · split
      · next hequal => exact absurd hother (Nat.not_lt.mpr (hequal ▸ hname))
      · exact hname

/-! ## What tokens are in -/

/-- A key of the cache, for the other token if it is a token's. -/
def key (key : String) : String :=
  match tokenOf? key with
  | some token => Token.store.cacheKey (σ.rename token)
  | none => key

def call (call : Call) : Call := { call with token := σ.rename call.token }

/-- A named value of an event, for the other token if it is a token. -/
def field : String × Json → String × Json
  | (name, .str text) =>
    (name, .str (if Log.secretNames.contains name then σ.rename text else text))
  | field => field

def event : Log.Event → Log.Event := Log.Event.mapFields σ.field

@[simp] theorem key_token (token : String) :
    σ.key (Token.store.cacheKey token) = Token.store.cacheKey (σ.rename token) := by
  rw [key, tokenOf?_eq_some.mpr rfl]

theorem key_of_other {other : String} (h : ∀ token, other ≠ Token.store.cacheKey token) :
    σ.key other = other := by
  unfold key
  split
  · next token htoken => exact absurd (tokenOf?_eq_some.mp htoken) (h token)
  · rfl

theorem tokenOf?_key (key : String) : tokenOf? (σ.key key) = (tokenOf? key).map σ.rename := by
  cases hkey : tokenOf? key with
  | some token =>
    rw [tokenOf?_eq_some.mp hkey, key_token]
    exact tokenOf?_eq_some.mpr rfl
  | none => simp [TokenRenaming.key, hkey]

theorem key_injective : Function.Injective σ.key := by
  intro first second h
  have htokens := congrArg tokenOf? h
  rw [tokenOf?_key, tokenOf?_key] at htokens
  have hsame := Option.map_injective σ.injective htokens
  -- Keys of tokens are told apart by their tokens, and all others stay as they are.
  cases hfirst : tokenOf? first with
  | some token =>
    rw [hfirst] at hsame
    rw [tokenOf?_eq_some.mp hfirst, tokenOf?_eq_some.mp hsame.symm]
  | none =>
    rw [hfirst] at hsame
    simpa [TokenRenaming.key, hfirst, ← hsame] using h

/-- The keys of exchanged tokens are exchanged. -/
theorem key_exchange {token other : String} (h : 4 < token.length) (hother : 4 < other.length)
    (hfront : other.toList.take 4 = token.toList.take 4) :
    (exchange h hother hfront).key =
      Equiv.swap (Token.store.cacheKey token) (Token.store.cacheKey other) := by
  funext key
  cases hkey : tokenOf? key with
  | some name =>
    have hinjective : Function.Injective Token.store.cacheKey :=
      fun _ _ => Confirmations.cacheKey_inj.mp
    rw [tokenOf?_eq_some.mp hkey, key_token, hinjective.swap_apply]
    rfl
  | none =>
    have hno : ∀ name, key ≠ Token.store.cacheKey name := by
      intro name heq
      rw [tokenOf?_eq_some.mpr heq] at hkey
      cases hkey
    rw [key_of_other _ hno, Equiv.swap_apply_of_ne_of_ne (hno token) (hno other)]

/-- What is shown of an event stays. -/
@[simp] theorem masked_event (event : Log.Event) : (σ.event event).masked = event.masked := by
  have hfield : ∀ named, Log.maskNamed (σ.field named) = id (Log.maskNamed named) := by
    rintro ⟨name, value⟩
    cases value with
    | str text =>
      by_cases hsecret : name ∈ Log.secretNames
      · simp [Log.maskNamed, field, Log.maskField, hsecret]
      · simp [Log.maskNamed, field, Log.maskField, hsecret]
    | _ => rfl
  exact (Log.Event.masked_mapFields hfield event).trans (Log.Event.mapFields_id _)

end TokenRenaming

/-! ## Sessions -/

/-- The session that asks the same with the other tokens, and notes the same about them. -/
def Session.rename (σ : TokenRenaming) {α : Type} : Session α → Session α
  | .done result => .done result
  | .note event rest => .note (σ.event event) (rename σ rest)
  | .ask (.send call) next => .ask (.send (σ.call call)) fun reply => rename σ (next reply)
  | .ask (.pause seconds) next => .ask (.pause seconds) fun answer => rename σ (next answer)
  | .ask .now next => .ask .now fun clock => rename σ (next clock)
  | .ask (.recall key) next => .ask (.recall (σ.key key)) fun found => rename σ (next found)
  | .ask (.record key entry ttl) next =>
    .ask (.record (σ.key key) entry ttl) fun written => rename σ (next written)

def Request.rename (σ : TokenRenaming) : Request → Request
  | .validate token => .validate (σ.rename token)
  | .check token hashes => .check (σ.rename token) hashes
  | .stream token magnet remote => .stream (σ.rename token) magnet remote

def Confirmations.Notes.rename (σ : TokenRenaming) (notes : Confirmations.Notes) :
    Confirmations.Notes where
  unread failure := σ.event (notes.unread failure)
  missed := σ.event notes.missed
  expired span := σ.event (notes.expired span)
  hit := σ.event notes.hit

namespace TokenRenaming

/-- One session is the other one with the other tokens. -/
def Carries (σ : TokenRenaming) {α : Type} (session other : Session α) : Prop :=
  session.rename σ = other

namespace Carries

variable {σ : TokenRenaming} {α β : Type}

theorem pure (value : α) : σ.Carries (Pure.pure value) (Pure.pure value) := rfl

theorem fail (failure : Failure) : σ.Carries (.fail failure : Session α) (.fail failure) := rfl

theorem lift (result : Except Failure α) : σ.Carries (.lift result) (.lift result) := rfl

theorem log {level : Log.Level} {name : String} {fields others : List (String × Json)}
    (h : fields.map σ.field = others) :
    σ.Carries (.log level name fields) (.log level name others) :=
  h ▸ rfl

theorem note {event other : Log.Event} {session next : Session α} (h : σ.event event = other)
    (hs : σ.Carries session next) : σ.Carries (.note event session) (.note other next) :=
  h ▸ hs ▸ rfl

theorem now : σ.Carries Session.now Session.now := rfl

theorem pause (seconds : Binary64) : σ.Carries (Session.pause seconds) (Session.pause seconds) :=
  rfl

theorem get (token url : String) :
    σ.Carries (Session.get token url) (Session.get (σ.rename token) url) := rfl

theorem post (token url : String) (form : List (String × String)) :
    σ.Carries (Session.post token url form) (Session.post (σ.rename token) url form) := rfl

theorem lookUp {key other : String} {next after : Except Failure Json → Session α}
    (h : σ.key key = other) (hn : ∀ found, σ.Carries (next found) (after found)) :
    σ.Carries (.ask (.recall key) next) (.ask (.recall other) after) := by
  subst h
  exact congrArg (Dialogue.ask (Question.recall (σ.key key))) (funext hn)

theorem record {key other : String} {entry : Json} {ttl : Int} (h : σ.key key = other) :
    σ.Carries (.ask (.record key entry ttl) .lift) (.ask (.record other entry ttl) .lift) :=
  h ▸ rfl

theorem bind {session other : Session α} {next after : α → Session β}
    (h : σ.Carries session other) (hn : ∀ value, σ.Carries (next value) (after value)) :
    σ.Carries (session >>= next) (other >>= after) := by
  subst h
  show Session.rename σ (Dialogue.bind session next) = Dialogue.bind (session.rename σ) after
  induction session with
  | done result =>
    cases result with
    | ok value => exact hn value
    | error failure => rfl
  | note event rest ih => exact congrArg (Dialogue.note (σ.event event)) ih
  | ask question rest ih =>
    cases question with
    | send call => exact congrArg (Dialogue.ask _) (funext ih)
    | pause seconds => exact congrArg (Dialogue.ask _) (funext ih)
    | now => exact congrArg (Dialogue.ask _) (funext ih)
    | «recall» key => exact congrArg (Dialogue.ask _) (funext ih)
    | record key entry ttl => exact congrArg (Dialogue.ask _) (funext ih)

theorem attempt {session other : Session α} (h : σ.Carries session other) :
    σ.Carries session.attempt other.attempt := by
  subst h
  show Session.rename σ session.attempt = Dialogue.attempt (session.rename σ)
  induction session with
  | done result => rfl
  | note event rest ih => exact congrArg (Dialogue.note (σ.event event)) ih
  | ask question rest ih =>
    cases question with
    | send call => exact congrArg (Dialogue.ask _) (funext ih)
    | pause seconds => exact congrArg (Dialogue.ask _) (funext ih)
    | now => exact congrArg (Dialogue.ask _) (funext ih)
    | «recall» key => exact congrArg (Dialogue.ask _) (funext ih)
    | record key entry ttl => exact congrArg (Dialogue.ask _) (funext ih)

end Carries
end TokenRenaming

namespace RenamingLemmas

open TokenRenaming (Carries)

variable (σ : TokenRenaming)

/-! ## The parts of a request -/

theorem key_hash (policy : Availability.Policy) (hash : String) :
    σ.key (policy.store.cacheKey hash) = policy.store.cacheKey hash :=
  σ.key_of_other fun token heq => cacheKey_token_ne policy token hash heq.symm

section Confirming

variable {σ} {store : Confirmations} {key other : String}
  (h : σ.key (store.cacheKey key) = store.cacheKey other)
include h

theorem find_carries : σ.Carries (store.find key) (store.find other) := by
  refine .lookUp h fun found => ?_
  cases found with
  | error failure => rfl
  | ok entry => cases entry <;> rfl

theorem confirm_carries : σ.Carries (store.confirm key) (store.confirm other) :=
  .bind .now fun _ => .bind (.lift _) fun _ => .bind (.record h) fun _ => .log rfl

/-- The notes about tokens are notes about the other tokens. -/
theorem consult_carries (age : Calendar.Duration) (notes : Confirmations.Notes) :
    σ.Carries (store.consult age notes key) (store.consult age (notes.rename σ) other) := by
  refine .bind (Carries.attempt (find_carries h)) fun found => ?_
  split
  · exact .note rfl (.pure _)
  · exact .note rfl (.pure _)
  · refine .bind .now fun clock => ?_
    dsimp only
    split
    · exact .note rfl (.pure _)
    · exact .note rfl (.pure _)

end Confirming

theorem validate_carries [Json.Nesting] (base token : String) :
    σ.Carries (Token.validate base token) (Token.validate base (σ.rename token)) := by
  have hconfirmed : σ.Carries (Token.isConfirmed token) (Token.isConfirmed (σ.rename token)) :=
    consult_carries (σ.key_token token) Token.trust (Token.notes token)
  have hask : σ.Carries (Token.askService base token)
      (Token.askService base (σ.rename token)) := by
    refine .bind (.attempt (.get _ _)) fun reply => ?_
    cases reply with
    | error failure => exact .bind (.log rfl) fun _ => .fail _
    | ok body =>
      refine .bind (.lift _) fun user => ?_
      split
      · exact .pure _
      · exact .fail _
  refine .bind (.log rfl) fun _ => .bind hconfirmed fun confirmed => ?_
  cases confirmed with
  | true => exact .pure _
  | false =>
    refine .bind hask fun _ => .bind (.log rfl) fun _ => ?_
    refine .bind (Carries.attempt (confirm_carries (σ.key_token token))) fun written => ?_
    cases written with
    | ok _ => exact .pure _
    | error failure => exact .log rfl

theorem isConfirmed_carries (policy : Availability.Policy) (token hash : String) :
    σ.Carries (Availability.isConfirmed policy token hash)
      (Availability.isConfirmed policy (σ.rename token) hash) :=
  consult_carries (key_hash σ policy hash) policy.age (Availability.notes token hash)

theorem consultCache_carries (policy : Availability.Policy) (token : String)
    (hashes : List String) :
    σ.Carries (Availability.consultCache policy token hashes)
      (Availability.consultCache policy (σ.rename token) hashes) := by
  induction hashes with
  | nil => exact .pure _
  | cons hash rest ih =>
    rw [Availability.consultCache_cons, Availability.consultCache_cons]
    refine .bind ?_ fun confirmed => .bind ih fun parts => ?_
    · split
      · exact isConfirmed_carries σ policy token hash
      · exact .pure _
    · cases confirmed with
      | true => exact .pure _
      | false => exact .pure _

theorem confirmAll_carries (policy : Availability.Policy) (token : String)
    (hashes : List String) :
    σ.Carries (Availability.confirmAll policy token hashes)
      (Availability.confirmAll policy (σ.rename token) hashes) := by
  induction hashes with
  | nil => exact .pure _
  | cons hash rest ih =>
    refine .bind (Carries.attempt (confirm_carries (key_hash σ policy hash))) fun written => ?_
    cases written with
    | ok _ => exact ih
    | error failure => exact .bind (.log rfl) fun _ => ih

theorem askService_carries [Json.Nesting] (policy : Availability.Policy) (base token : String)
    (hashes : List String) :
    σ.Carries (Availability.askService policy base token hashes)
      (Availability.askService policy base (σ.rename token) hashes) := by
  refine .bind (.attempt (.bind (.get _ _) fun _ => .lift _)) fun response => ?_
  cases response with
  | error failure => exact .bind (.log rfl) fun _ => .pure _
  | ok response =>
    dsimp only
    split
    · exact .bind (confirmAll_carries σ policy token _) fun _ => .pure _
    · exact .pure _

theorem check_carries [Json.Nesting] (policy : Availability.Policy) (base token : String)
    (hashes : List String) :
    σ.Carries (Availability.check policy base token hashes)
      (Availability.check policy base (σ.rename token) hashes) := by
  unfold Availability.check
  dsimp only
  split
  · exact .pure _
  · refine .bind (consultCache_carries σ policy token _) fun parts => ?_
    split
    · exact .pure _
    · refine .bind (askService_carries σ policy base token _) fun _ => ?_
      exact .bind (.log rfl) fun _ => .pure _

theorem submit_carries [Json.Nesting] (base token magnet : String) :
    σ.Carries (Stream.submit base token magnet) (Stream.submit base (σ.rename token) magnet) :=
  .bind (.log rfl) fun _ => .bind (.post _ _ _) fun _ => .lift _

theorem inspect_carries [Json.Nesting] (token url : String) :
    σ.Carries (Stream.inspect token url) (Stream.inspect (σ.rename token) url) :=
  .bind (.get _ _) fun _ => .lift _

theorem choose_carries (base token id : String) (files : List Torrent.File) :
    σ.Carries (Stream.choose base token id files)
      (Stream.choose base (σ.rename token) id files) := by
  refine .bind (.lift _) fun chosen => .bind (.log rfl) fun _ => .bind (.post _ _ _) fun _ => ?_
  exact .bind (.log rfl) fun _ => .pure _

theorem poll_carries [Json.Nesting] (token url id : String) (left : Nat) :
    σ.Carries (Stream.poll token url id left) (Stream.poll (σ.rename token) url id left) := by
  refine .bind (inspect_carries σ token url) fun info => ?_
  dsimp only
  split
  · exact .bind (.log rfl) fun _ => .fail _
  · split
    · exact .pure _
    · exact .bind (.log rfl) fun _ => .pure _

theorem pollFrom_carries [Json.Nesting] (polling : Stream.Polling) (token url id : String)
    (left : Nat) :
    σ.Carries (Stream.pollFrom polling token url id left)
      (Stream.pollFrom polling (σ.rename token) url id left) := by
  induction left with
  | zero =>
    refine .bind (poll_carries σ token url id 0) fun progress => ?_
    cases progress with
    | downloaded info => exact .pure _
    | waiting raw => exact .bind (.log rfl) fun _ => .fail _
  | succ left ih =>
    refine .bind (poll_carries σ token url id (left + 1)) fun progress => ?_
    cases progress with
    | downloaded info => exact .pure _
    | waiting raw => exact .bind (.pause _) fun _ => ih

theorem unrestrict_carries [Json.Nesting] (base token link : String) (remote : Bool) :
    σ.Carries (Stream.unrestrict base token link remote)
      (Stream.unrestrict base (σ.rename token) link remote) := by
  refine .bind (.log rfl) fun _ => .bind (.post _ _ _) fun _ => .bind (.lift _) fun _ => ?_
  exact .bind (.log rfl) fun _ => .pure _

theorem resolve_carries [Json.Nesting] (polling : Stream.Polling) (base token magnet : String)
    (remote : Bool) :
    σ.Carries (Stream.resolve polling base token magnet remote)
      (Stream.resolve polling base (σ.rename token) magnet remote) := by
  refine .bind (submit_carries σ base token magnet) fun url => ?_
  refine .bind (inspect_carries σ token url) fun info => .bind (.lift _) fun id => ?_
  refine .bind (.lift _) fun files => .bind (choose_carries σ base token id files) fun _ => ?_
  refine .bind (pollFrom_carries σ polling token url id _) fun found => ?_
  refine .bind (.lift _) fun link => .bind (.log rfl) fun _ => ?_
  refine .bind (unrestrict_carries σ base token link remote) fun _ => ?_
  exact .bind (.log rfl) fun _ => .pure _

/-- Serving a request with the other token is serving the request, with the other tokens. -/
theorem serve_carries [Json.Nesting] (client : Client) (request : Request) :
    σ.Carries (client.serve request) (client.serve (request.rename σ)) := by
  cases request with
  | validate token => exact .bind (validate_carries σ client.base token) fun _ => .pure _
  | check token hashes =>
    refine .bind ?_ fun _ => .pure _
    cases hashes with
    | many hashes => exact check_carries σ client.availability client.base token hashes
    | single text => exact .fail _
  | stream token magnet remote =>
    exact .bind (.bind (resolve_carries σ client.polling client.base token magnet remote)
      fun _ => .pure _) fun _ => .pure _

end RenamingLemmas

/-! ## Runs -/

section Running

variable {State Mark : Type}

/-- Whoever answers does not care for tokens: in the image of a state, the question about the other
token is answered alike. -/
structure TokenRenaming.Respects (σ : TokenRenaming)
    (responder : Responder Question Answer State Mark) (image : State → State → Prop)
    (renamed : Mark → Mark) : Prop where
  noted : ∀ event, responder.noted (σ.event event) = renamed (responder.noted event)
  send : ∀ call {state other}, image state other →
    Run.AnswerMirrors image renamed (responder.answer (.send call) state)
      (responder.answer (.send (σ.call call)) other)
  pause : ∀ seconds {state other}, image state other →
    Run.AnswerMirrors image renamed (responder.answer (.pause seconds) state)
      (responder.answer (.pause seconds) other)
  now : ∀ {state other}, image state other →
    Run.AnswerMirrors image renamed (responder.answer .now state) (responder.answer .now other)
  lookUp : ∀ key {state other}, image state other →
    Run.AnswerMirrors image renamed (responder.answer (.recall key) state)
      (responder.answer (.recall (σ.key key)) other)
  record : ∀ key entry ttl {state other}, image state other →
    Run.AnswerMirrors image renamed (responder.answer (.record key entry ttl) state)
      (responder.answer (.record (σ.key key) entry ttl) other)

namespace RenamingLemmas

variable {α : Type} {image : State → State → Prop} {renamed : Mark → Mark}

/-- The run of a session with the other tokens mirrors the run of the session. -/
theorem run_mirrors {σ : TokenRenaming} {responder : Responder Question Answer State Mark}
    (h : σ.Respects responder image renamed) {session other : Session α}
    (hs : σ.Carries session other) {state state' : State} (hstate : image state state') :
    Run.Mirrors image renamed (session.run responder state) (other.run responder state') := by
  subst hs
  -- The induction is on the session, in any two states of which one is the image of the other.
  induction session generalizing state state' with
  | done result => exact ⟨rfl, hstate, rfl⟩
  | note event rest ih =>
    have hrest := ih hstate
    refine ⟨hrest.result, hrest.state, ?_⟩
    exact congr (congrArg List.cons (h.noted event)) hrest.trace
  | ask question rest ih =>
    have hrest : ∀ {first second : State}, image first second → ∀ value,
        Run.Mirrors image renamed ((fun value => (rest value).run responder) value first)
          ((fun value => (Session.rename σ (rest value)).run responder) value second) :=
      fun himage value => ih value himage
    cases question with
    | send call =>
      have hanswer := h.send call hstate
      exact hanswer.ask (hrest hanswer.state)
    | pause seconds =>
      have hanswer := h.pause seconds hstate
      exact hanswer.ask (hrest hanswer.state)
    | now =>
      have hanswer := h.now hstate
      exact hanswer.ask (hrest hanswer.state)
    | «recall» key =>
      have hanswer := h.lookUp key hstate
      exact hanswer.ask (hrest hanswer.state)
    | record key entry ttl =>
      have hanswer := h.record key entry ttl hstate
      exact hanswer.ask (hrest hanswer.state)

end RenamingLemmas
end Running
end MagnetStream.Client
