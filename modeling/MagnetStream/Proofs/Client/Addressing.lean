import MagnetStream.Proofs.Client.Availability
import MagnetStream.Proofs.Client.History
import MagnetStream.Proofs.Client.Token
import MagnetStream.Proofs.Result
import MagnetStream.Proofs.Url.Origin

/-!
# Where a client sends its requests

Whatever the service answers, a client sends every request to the authority of its base URL, and
with the token that the caller gave (`requests_stay_at_base`). The addresses that a client puts
together itself start with a slash behind the base; the one that a response names is moved under the
base first, which leaves nothing of it that could go on with the authority.
-/

namespace MagnetStream.Client

open Dialogue (Ensures)
open Url (PastAuthority)

/-- A request goes under a base URL and carries a token. -/
def Call.Addressed (base token : String) (call : Call) : Prop :=
  call.token = token ∧ ∃ text : String, call.url = base ++ text ∧ PastAuthority text.toList

/-- A question is about a request under a base URL that carries a token, or about an entry of the
cache with one of the keys, if it is about either. -/
def Question.Within (base token : String) (keys : String → Prop) : Question → Prop
  | .send call => call.Addressed base token
  | .recall key | .record key _ _ => keys key
  | _ => True

/-- A mark tells of a request under a base URL that carries a token, or of an entry of the cache
with one of the keys, if it tells of either. -/
def Mark.Within (base token : String) (keys : String → Prop) : Mark → Prop
  | .called call => call.Addressed base token
  | .recalled key | .recorded key _ _ => keys key
  | _ => True

/-- Every request that may be sent in a session goes under a base URL and carries a token, and every
entry that may be read or written has one of the keys. -/
abbrev Session.Within {α : Type} (base token : String) (keys : String → Prop)
    (session : Session α) : Prop :=
  Ensures (Question.Within base token keys) (fun _ => True) session

def Request.token : Request → String
  | .validate token | .check token _ | .stream token _ _ => token

/-- The keys of the entries that a request may read or write. -/
def Request.Touches (client : Client) : Request → String → Prop
  | .validate token, key => key = Token.store.cacheKey token
  | .check _ (.many hashes), key =>
    ∃ hash ∈ Availability.wanted hashes, key = client.availability.store.cacheKey hash
  | .check _ (.single _), _ => False
  | .stream .., _ => False

namespace AddressingLemmas

variable {α : Type} {base token : String} {keys : String → Prop}

theorem get_within {text : String} (h : PastAuthority text.toList) :
    Session.Within base token keys (Session.get token (base ++ text)) :=
  ⟨⟨rfl, text, rfl, h⟩, fun _ => .lift fun _ _ => trivial⟩

theorem post_within {text : String} (h : PastAuthority text.toList)
    (form : List (String × String)) :
    Session.Within base token keys (Session.post token (base ++ text) form) :=
  ⟨⟨rfl, text, rfl, h⟩, fun _ => .lift fun _ _ => trivial⟩

theorem pastAuthority_of_slash {text : String} (h : text.toList.head? = some '/') :
    PastAuthority text.toList := by
  obtain ⟨rest, hrest⟩ := List.head?_eq_some_iff.mp h
  rw [hrest]
  exact Url.pastAuthority_slash rest

/-- A text that starts with a slash goes behind a base, whatever follows it. -/
theorem pastAuthority_append {front : String} (h : front.toList.head? = some '/') (back : String) :
    PastAuthority (front ++ back).toList := by
  obtain ⟨rest, hrest⟩ := List.head?_eq_some_iff.mp h
  rw [String.toList_append, hrest]
  exact Url.pastAuthority_slash (rest ++ back.toList)

theorem find_within {store : Confirmations} {key : String} (h : keys (store.cacheKey key)) :
    Session.Within base token keys (store.find key) := by
  refine ⟨h, fun answer => ?_⟩
  cases answer with
  | error failure => exact .fail _
  | ok entry =>
    cases entry with
    | null => exact .pure trivial
    | _ => exact .lift fun _ _ => trivial

theorem confirm_within {store : Confirmations} {key : String} (h : keys (store.cacheKey key)) :
    Session.Within base token keys (store.confirm key) := by
  refine .bind (.query trivial) fun _ _ => .bind (.lift fun _ _ => trivial) fun _ _ => ?_
  exact .bind ⟨h, fun _ => .lift fun _ _ => trivial⟩ fun _ _ => .log ..

/-- A note and a value end a session without a request. -/
theorem log_pure_within (level : Log.Level) (name : String) (fields : List (String × Json))
    (value : α) :
    Session.Within base token keys (do .log level name fields; pure value) :=
  .bind (.log ..) fun _ _ => .pure trivial

theorem consult_within {store : Confirmations} {key : String} (h : keys (store.cacheKey key))
    (age : Calendar.Duration) (notes : Confirmations.Notes) :
    Session.Within base token keys (store.consult age notes key) := by
  refine .bind (find_within h).attempt fun found _ => ?_
  split
  · exact trivial
  · exact trivial
  · refine .bind (.query trivial) fun _ _ => ?_
    dsimp only
    split
    · exact trivial
    · exact trivial

theorem askService_within [Json.Nesting] :
    Session.Within base token keys (Token.askService base token) := by
  refine .bind (get_within (pastAuthority_of_slash (by decide))).attempt fun reply _ => ?_
  split
  · exact .bind (.log ..) fun _ _ => .fail _
  · refine .bind (.lift fun _ _ => trivial) fun _ _ => ?_
    split
    · exact .pure trivial
    · exact .fail _

theorem validate_within [Json.Nesting] (h : keys (Token.store.cacheKey token)) :
    Session.Within base token keys (Token.validate base token) := by
  have hconsult : Session.Within base token keys (Token.isConfirmed token) :=
    Token.isConfirmed_eq token ▸ consult_within h ..
  refine .bind (.log ..) fun _ _ => .bind hconsult fun confirmed _ => ?_
  split
  · exact .pure trivial
  · refine .bind askService_within fun _ _ => .bind (.log ..) fun _ _ => ?_
    refine .bind (confirm_within h).attempt fun written _ => ?_
    split
    · exact .pure trivial
    · exact .log ..

/-- What the cache does not confirm is among the hashes that are looked up. -/
theorem consultCache_within {policy : Availability.Policy} {hashes : List String}
    (h : policy.usesCache = true → ∀ hash ∈ hashes, keys (policy.store.cacheKey hash))
    (caller : String) :
    Ensures (Question.Within base token keys) (fun parts => ∀ hash ∈ parts.2, hash ∈ hashes)
      (Availability.consultCache policy caller hashes) := by
  induction hashes with
  | nil => exact .pure fun _ hm => hm
  | cons hash rest ih =>
    -- Only the keys of the hashes themselves are looked up, and what is left are such hashes.
    have hone : Session.Within base token keys
        (if policy.usesCache then Availability.isConfirmed policy caller hash else pure false) := by
      split
      · next huse =>
        rw [Availability.isConfirmed_eq]
        exact consult_within (h huse hash List.mem_cons_self) ..
      · exact .pure trivial
    have hrest := ih fun huse other ho => h huse other (List.mem_cons_of_mem _ ho)
    rw [Availability.consultCache_cons]
    refine .bind hone fun confirmed _ => .bind hrest fun parts hparts => ?_
    cases confirmed with
    | true => exact .pure fun other ho => List.mem_cons_of_mem _ (hparts other ho)
    | false =>
      refine .pure fun other ho => ?_
      rcases List.mem_cons.mp ho with rfl | ho
      · exact List.mem_cons_self
      · exact List.mem_cons_of_mem _ (hparts other ho)

theorem confirmAll_within {policy : Availability.Policy} {hashes : List String}
    (h : ∀ hash ∈ hashes, keys (policy.store.cacheKey hash)) (caller : String) :
    Session.Within base token keys (Availability.confirmAll policy caller hashes) := by
  induction hashes with
  | nil => exact .pure trivial
  | cons hash rest ih =>
    have hrest := ih fun other ho => h other (List.mem_cons_of_mem _ ho)
    rw [Availability.confirmAll]
    refine .bind (confirm_within (h hash List.mem_cons_self)).attempt fun written _ => ?_
    dsimp only
    split
    · exact hrest
    · exact .bind (.log ..) fun _ _ => hrest

theorem availability_askService_within [Json.Nesting] {policy : Availability.Policy}
    {hashes : List String}
    (h : policy.usesCache = true → ∀ hash ∈ hashes, keys (policy.store.cacheKey hash)) :
    Session.Within base token keys (Availability.askService policy base token hashes) := by
  have hurl : PastAuthority (Availability.path ++ "/" ++ "/".intercalate hashes).toList := by
    rw [String.append_assoc]
    exact pastAuthority_append (by decide) _
  have hget : Session.Within base token keys
      (Session.get token (Availability.requestUrl base hashes)) := by
    simpa only [Availability.requestUrl, String.append_assoc] using get_within hurl
  unfold Availability.askService
  dsimp only
  refine .bind (hget.bind fun _ _ => .lift fun _ _ => trivial).attempt fun response _ => ?_
  split
  · exact log_pure_within ..
  · split
    · next huse =>
      refine .bind (confirmAll_within (fun hash hm => ?_) token) fun _ _ => .pure trivial
      exact h huse hash (Availability.mem_confirmedBy.mp hm).1
    · exact .pure trivial

/-- A check touches the entries of the wanted hashes, and none if the cache is not used. -/
theorem check_within [Json.Nesting] {policy : Availability.Policy} {hashes : List String}
    (h : policy.usesCache = true →
      ∀ hash ∈ Availability.wanted hashes, keys (policy.store.cacheKey hash)) :
    Session.Within base token keys (Availability.check policy base token hashes) := by
  unfold Availability.check
  dsimp only
  split
  · exact .pure trivial
  · refine .bind (consultCache_within h token) fun parts hparts => ?_
    split
    · exact .pure trivial
    · refine .bind (availability_askService_within fun huse hash hm => ?_)
        fun _ _ => log_pure_within ..
      exact h huse hash (hparts hash hm)

/-- A submitted magnet link is followed up under the base. -/
theorem submit_within [Json.Nesting] (hbase : Url.dropEndSlashes base = base) (magnet : String) :
    Ensures (Question.Within base token keys)
      (fun url => ∃ text : String, url = base ++ text ∧ PastAuthority text.toList)
      (Stream.submit base token magnet) := by
  refine .bind (.log ..) fun _ _ => ?_
  refine .bind (post_within (pastAuthority_of_slash (by decide)) _) fun body _ =>
    .lift fun url hurl => ?_
  obtain ⟨members, _, hfollow⟩ := Except.bind_eq_ok.mp hurl
  obtain ⟨uri, _, hmove⟩ := Except.bind_eq_ok.mp hfollow
  rw [← hbase]
  exact Url.moveUnder_behind (Except.mapError_eq_ok.mp hmove)

theorem inspect_within [Json.Nesting] {text : String} (h : PastAuthority text.toList) :
    Session.Within base token keys (Stream.inspect token (base ++ text)) :=
  .bind (get_within h) fun _ _ => .lift fun _ _ => trivial

theorem choose_within (id : String) (files : List Torrent.File) :
    Session.Within base token keys (Stream.choose base token id files) := by
  refine .bind (.lift fun _ _ => trivial) fun chosen _ => .bind (.log ..) fun _ _ => ?_
  have hpost : Session.Within base token keys
      (Session.post token (base ++ Stream.choosePath ++ id) [("files", toString chosen)]) := by
    rw [String.append_assoc]
    exact post_within (pastAuthority_append (by decide) _) _
  exact .bind hpost fun _ _ => log_pure_within ..

theorem poll_within [Json.Nesting] {text : String} (h : PastAuthority text.toList) (id : String)
    (left : Nat) : Session.Within base token keys (Stream.poll token (base ++ text) id left) := by
  refine .bind (inspect_within h) fun info _ => ?_
  dsimp only
  split
  · exact .bind (.log ..) fun _ _ => .fail _
  · split
    · exact .pure trivial
    · exact log_pure_within ..

theorem pollFrom_within [Json.Nesting] {text : String} (h : PastAuthority text.toList)
    (polling : Stream.Polling) (id : String) (left : Nat) :
    Session.Within base token keys (Stream.pollFrom polling token (base ++ text) id left) := by
  induction left with
  | zero =>
    refine .bind (poll_within h id 0) fun progress _ => ?_
    split
    · exact .pure trivial
    · exact .bind (.log ..) fun _ _ => .fail _
  | succ left ih =>
    refine .bind (poll_within h id (left + 1)) fun progress _ => ?_
    split
    · exact .pure trivial
    · exact .bind (.query trivial) fun _ _ => ih

theorem unrestrict_within [Json.Nesting] (link : String) (remote : Bool) :
    Session.Within base token keys (Stream.unrestrict base token link remote) := by
  refine .bind (.log ..) fun _ _ => ?_
  refine .bind (post_within (pastAuthority_of_slash (by decide)) _) fun body _ => ?_
  exact .bind (.lift fun _ _ => trivial) fun _ _ => log_pure_within ..

theorem resolve_within [Json.Nesting] (hbase : Url.dropEndSlashes base = base)
    (polling : Stream.Polling) (magnet : String) (remote : Bool) :
    Session.Within base token keys (Stream.resolve polling base token magnet remote) := by
  refine .bind (submit_within hbase magnet) fun url hurl => ?_
  obtain ⟨text, rfl, htext⟩ := hurl
  refine .bind (inspect_within htext) fun info _ => .bind (.lift fun _ _ => trivial) fun id _ => ?_
  refine .bind (.lift fun _ _ => trivial) fun files _ => .bind (choose_within ..) fun _ _ => ?_
  refine .bind (pollFrom_within htext polling id _) fun last _ => ?_
  refine .bind (.lift fun _ _ => trivial) fun link _ => .bind (.log ..) fun _ _ => ?_
  exact .bind (unrestrict_within ..) fun _ _ => log_pure_within ..

/-- Every request of a client goes under its base URL with the caller's token, and touches its own
entries only. -/
theorem serve_within [Json.Nesting] (client : Client)
    (hbase : Url.dropEndSlashes client.base = client.base) (request : Request) :
    Session.Within client.base request.token (request.Touches client) (client.serve request) := by
  cases request with
  | validate token => exact .bind (validate_within rfl) fun _ _ => .pure trivial
  | check token hashes =>
    have hcheck : Session.Within client.base token (Request.Touches client (.check token hashes))
        (client.checkAvailability token hashes) := by
      cases hashes with
      | many hashes => exact check_within fun _ hash hm => ⟨hash, hm, rfl⟩
      | single text => exact .fail _
    exact .bind hcheck fun _ _ => .pure trivial
  | stream token magnet remote =>
    have hstream : Session.Within client.base token
        (Request.Touches client (.stream token magnet remote))
        (client.streamUrl token magnet remote) :=
      .bind (resolve_within hbase ..) fun _ _ => .pure trivial
    exact .bind hstream fun _ _ => .pure trivial

/-- What may be sent, read and written is all that is, whatever the world answers. -/
theorem marks_within {session : Session α} (h : Session.Within base token keys session)
    (world : World) :
    ∀ mark ∈ (session.runIn world).trace, mark.Within base token keys := by
  refine Ensures.trace World.responder (Mark.Within base token keys) h (fun _ => trivial) ?_ world
  intro question world hasks mark hmark
  cases question with
  | send call =>
    change mark ∈ (World.answer (.send call) world).2.2 at hmark
    rw [World.answer_send, List.mem_singleton] at hmark
    exact hmark ▸ hasks
  | pause seconds =>
    cases List.mem_singleton.mp hmark
    trivial
  | now => cases hmark
  | «recall» key =>
    have hrecalled : mark = .recalled key := by
      simp only [World.responder, World.answer] at hmark
      split at hmark <;> exact List.mem_singleton.mp hmark
    exact hrecalled ▸ hasks
  | record key entry ttl =>
    have hrecorded : mark = .recorded key entry ttl := by
      simp only [World.responder, World.answer] at hmark
      split at hmark <;> exact List.mem_singleton.mp hmark
    exact hrecorded ▸ hasks

theorem addressed_of_mem_calls {session : Session α} (h : Session.Within base token keys session)
    (world : World) : ∀ call ∈ calls (session.runIn world).trace, call.Addressed base token :=
  fun _ hcall => marks_within h world _ (mem_calls.mp hcall)

/-- An entry that a session may not write stays as it is, whatever the world answers. -/
theorem get?_of_within {session : Session α} (h : Session.Within base token keys session)
    (world : World) {key : String} (hkey : ¬ keys key) :
    (session.runIn world).state.entries.get? key = world.entries.get? key := by
  refine Ensures.state World.responder
    (fun state => state.entries.get? key = world.entries.get? key) h ?_ rfl
  intro question state hasks hstate
  cases question with
  | send call =>
    show (World.answer (.send call) state).2.1.entries.get? key = _
    rw [World.answer_send]
    exact hstate
  | pause seconds => exact hstate
  | now => exact hstate
  | «recall» other =>
    simp only [World.responder, World.answer]
    split <;> exact hstate
  | record other entry ttl =>
    simp only [World.responder, World.answer]
    split
    · exact hstate
    · have hne : key ≠ other := fun heq => hkey (heq ▸ hasks)
      exact (Entries.get?_insert_of_ne hne ..).trans hstate

theorem validateBase_of_create {availability : Availability.Policy} {budget : Int}
    {interval : Binary64} {client : Client}
    (h : Client.create base availability budget interval = .ok client) :
    Url.validateBase base = .ok client.base := by
  obtain ⟨normal, hbase, hrest⟩ := Except.bind_eq_ok.mp h
  obtain ⟨budget, _, hclient⟩ := Except.bind_eq_ok.mp hrest
  cases hclient
  have hvalid := Except.mapError_eq_ok.mp hbase
  rwa [Client.under, Url.dropEndSlashes_of_validateBase hvalid]

theorem slashless_of_create {availability : Availability.Policy} {budget : Int}
    {interval : Binary64} {client : Client}
    (h : Client.create base availability budget interval = .ok client) :
    Url.dropEndSlashes client.base = client.base :=
  Url.dropEndSlashes_of_validateBase (validateBase_of_create h)

end AddressingLemmas

open AddressingLemmas

/-- Whatever the service answers in a session, every request goes to the scheme and the authority of
the base URL from which the client was made, under that base URL, and carries the token that was
given for it. -/
theorem requests_stay_at_base [Json.Nesting] {base : String} {availability : Availability.Policy}
    {budget : Int} {interval : Binary64} {client : Client}
    (h : Client.create base availability budget interval = .ok client) (world : World)
    (turns : List Turn) :
    ∃ parts, Url.split base.toList = .ok parts ∧
      ∀ episode ∈ chronicle client world turns, ∀ request script,
        episode.turn = .request request script → ∀ call ∈ episode.outcome.calls,
          call.token = request.token ∧
          (∃ text : String, call.url = client.base ++ text ∧ PastAuthority text.toList) ∧
          ∃ sent, Url.split call.url.toList = .ok sent ∧ sent.scheme = parts.scheme ∧
            sent.authority = parts.authority := by
  have hvalid := validateBase_of_create h
  have hbase := slashless_of_create h
  obtain ⟨parts, hparts, hbehind⟩ := Url.split_behind_base hvalid
  refine ⟨parts, hparts, fun episode hepisode request script hturn call hcall => ?_⟩
  rw [outcome_of_mem_chronicle hepisode, hturn] at hcall
  obtain ⟨htoken, text, hurl, htext⟩ :=
    addressed_of_mem_calls (serve_within client hbase request) _ call hcall
  refine ⟨htoken, ⟨text, hurl, htext⟩, ?_⟩
  rw [hurl]
  exact hbehind text htext

attribute [local instance] Json.Nesting.usual

/-- A base URL with a slash at its end, and a token that is checked there. -/
theorem requests_stay_at_example_base :
    ∃ client, Client.create "https://example.com/" ⟨⟨0⟩, 0⟩ 1 (.ofNat 0) = .ok client ∧
      ∃ parts, Url.split "https://example.com/".toList = .ok parts ∧
        ∀ episode ∈ chronicle client ⟨⟨0, ⟨0⟩⟩, [], none, none, []⟩
            [.request (.validate "secret") []], ∀ request script,
          episode.turn = .request request script → ∀ call ∈ episode.outcome.calls,
            call.token = request.token ∧
            (∃ text : String, call.url = client.base ++ text ∧ PastAuthority text.toList) ∧
            ∃ sent, Url.split call.url.toList = .ok sent ∧ sent.scheme = parts.scheme ∧
              sent.authority = parts.authority := by
  have h : Client.create "https://example.com/" ⟨⟨0⟩, 0⟩ 1 (.ofNat 0) =
      .ok ⟨"https://example.com", ⟨⟨0⟩, 0⟩, ⟨1, .ofNat 0⟩⟩ := by decide +kernel
  exact ⟨_, h, requests_stay_at_base h _ _⟩

end MagnetStream.Client
