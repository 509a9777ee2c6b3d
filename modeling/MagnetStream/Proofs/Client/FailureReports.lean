import MagnetStream.Proofs.Client.StreamFailures
import MagnetStream.Proofs.Client.Token

/-!
# Which failures are reported

An event reports a failure if it shows its text as an error, or if it tells of the torrent that the
failure is about, with its status (`Reports`). Of the failures that callers see, only some are
reported once the last reply is there: a validation reports what its request fails with, and a
resolution what it decides on the status of a torrent (`failures_reported_iff`). Bodies that cannot
be used, and every request of a resolution that fails, come back without such an event.
-/

namespace MagnetStream.Client

/-- A failure is about the status of a torrent: it has failed, or was not downloaded in time. -/
def OfStatus : Failure → Prop
  | .terminalStatus _ | .pollTimeout .. => True
  | _ => False

/-- An event reports a failure: it shows its text as an error, or tells of a torrent that has failed
or was not downloaded in time, with the status that the failure is about. -/
def Reports (event : Log.Event) (failure : Failure) : Prop :=
  ("error", .str failure.message) ∈ event.fields ∨
    ∃ raw, ("status", .str raw) ∈ event.fields ∧
      ((event.name = "torrent_failed" ∧ failure = .terminalStatus raw) ∨
        event.name = "torrent_poll_timeout" ∧ ∃ waited,
          failure = .pollTimeout (if raw.isEmpty then "unknown" else raw) waited)

/-- In a trace, an event behind the last request reports a failure. -/
def Reported (failure : Failure) (trace : List Mark) : Prop :=
  ∃ before event after, trace = before ++ .logged event :: after ∧ calls after = [] ∧
    Reports event failure

/-- The last one of so many replies, if there is one, is a body. -/
def Answered (world : World) (count : Nat) : Prop :=
  ∀ last, count = last + 1 → ∃ body, world.reply last = .ok body

/-- Whether a mark is an event of the kind that reports failures. -/
def Mark.isReport : Mark → Bool
  | .logged event =>
    event.name == "torrent_failed" || event.name == "torrent_poll_timeout" ||
      (Entries.names event.fields).contains "error"
  | _ => false

/-- Nothing in a trace can report a failure. -/
def Hushed (trace : List Mark) : Prop := ∀ mark ∈ trace, mark.isReport = false

instance (trace : List Mark) : Decidable (Hushed trace) :=
  inferInstanceAs (Decidable (∀ mark ∈ trace, _))

namespace FailureReportsLemmas

variable {α β : Type} {world : World} {failure : Failure} {trace front : List Mark}

/-! ## Traces -/

theorem isReport_of_reports {event : Log.Event} (h : Reports event failure) :
    (Mark.logged event).isReport = true := by
  rcases h with h | ⟨_, _, ⟨hname, _⟩ | ⟨hname, _⟩⟩
  · have hm : "error" ∈ Entries.names event.fields := List.mem_map.mpr ⟨_, h, rfl⟩
    simp [Mark.isReport, hm]
  · simp [Mark.isReport, hname]
  · simp [Mark.isReport, hname]

theorem not_reported_of_hushed (h : Hushed trace) : ¬ Reported failure trace := by
  rintro ⟨before, event, after, rfl, _, hreports⟩
  have hsilent := h (.logged event) (by simp)
  rw [isReport_of_reports hreports] at hsilent
  cases hsilent

theorem hushed_singleton {mark : Mark} (h : mark.isReport = false) : Hushed [mark] :=
  fun other hm => by rwa [List.mem_singleton.mp hm]

theorem hushed_append (h : Hushed front) (htrace : Hushed trace) : Hushed (front ++ trace) :=
  fun mark hm => (List.mem_append.mp hm).elim (h mark) (htrace mark)

theorem reported_append (front : List Mark) (h : Reported failure trace) :
    Reported failure (front ++ trace) := by
  obtain ⟨before, event, after, rfl, hafter, hreports⟩ := h
  exact ⟨front ++ before, event, after, (List.append_assoc ..).symm, hafter, hreports⟩

/-- Whatever comes before the last request reports nothing. -/
theorem reported_behind_call {call : Call} (front : List Mark) :
    Reported failure (front ++ .called call :: trace) ↔ Reported failure trace := by
  constructor
  · rintro ⟨before, event, after, heq, hafter, hreports⟩
    rcases List.append_eq_append_iff.mp heq with ⟨rest, hbefore, hrest⟩ | ⟨rest, hfront, hrest⟩
    · cases rest with
      | nil => cases hrest
      | cons mark rest =>
        obtain ⟨_, htrace⟩ := List.cons.inj hrest
        exact ⟨rest, event, after, htrace, hafter, hreports⟩
    · cases rest with
      | nil => cases hrest
      | cons mark rest =>
        -- The event stands before the request, which therefore comes after it.
        have hlast : .called call ∈ after := by simp [(List.cons.inj hrest).2]
        have hcall := mem_calls.mpr hlast
        rw [hafter] at hcall
        cases hcall
  · intro h
    have hall := reported_append (front ++ [.called call]) h
    rwa [List.append_assoc] at hall

theorem answered_add {count : Nat} (h : Answered world count) (more : Nat) :
    Answered world (count + more) ↔ Answered (world.spend count) more := by
  unfold Answered
  simp only [World.reply_spend]
  constructor
  · rintro hall last rfl
    exact hall (count + last) (Nat.add_assoc ..).symm
  · intro hmore last hlast
    cases more with
    | zero => exact h last hlast
    | succ more =>
      obtain rfl : last = count + more := by omega
      exact hmore more rfl

theorem answered_zero (world : World) : Answered world 0 := fun _ h => nomatch h

/-! ## Sessions that report what they decide on -/

/-- How a session with so many requests may end. If it has a value, the last reply was a body, and
there is no report. If it fails, it fails about the status of a torrent and behind a body, and
reports that, or there is no report. -/
def Ending (world : World) (count : Nat) (trace : List Mark) : Except Failure α → Prop
  | .ok _ => Answered world count ∧ Hushed trace
  | .error failure =>
    (Reported failure trace ∧ OfStatus failure ∧ Answered world count) ∨
      Hushed trace ∧ ¬ (OfStatus failure ∧ Answered world count)

/-- A session changes nothing but the script, and in every world it ends in one of these ways. -/
structure Accounts (session : Session α) : Prop where
  ends : ∀ world, ∃ result trace,
    session.runIn world = ⟨result, world.spend (calls trace).length, trace⟩ ∧
      Ending world (calls trace).length trace result

theorem Accounts.bind {session : Session α} {next : α → Session β} (h : Accounts session)
    (hn : ∀ value, Accounts (next value)) : Accounts (session >>= next) := by
  refine ⟨fun world => ?_⟩
  obtain ⟨result, trace, hrun, hending⟩ := h.ends world
  cases result with
  | error failure => exact ⟨.error failure, trace, by simp [hrun], hending⟩
  | ok value =>
    obtain ⟨hanswered, hhushed⟩ := hending
    obtain ⟨later, rest, hrest, hlater⟩ := (hn value).ends (world.spend (calls trace).length)
    refine ⟨later, trace ++ rest, by simp [hrun, hrest], ?_⟩
    rw [calls_append, List.length_append]
    cases later with
    | ok value =>
      exact ⟨(answered_add hanswered _).mpr hlater.1, hushed_append hhushed hlater.2⟩
    | error failure =>
      simp only [Ending, answered_add hanswered] at hlater ⊢
      exact hlater.imp (.imp_left (reported_append trace)) (.imp_left (hushed_append hhushed))

theorem Accounts.lift {result : Except Failure α}
    (h : ∀ failure, result = .error failure → ¬ OfStatus failure) :
    Accounts (.lift result : Session α) := by
  refine ⟨fun world => ⟨result, [], rfl, ?_⟩⟩
  cases result with
  | ok value => exact ⟨answered_zero world, nofun⟩
  | error failure => exact .inr ⟨nofun, fun hstatus => h failure rfl hstatus.1⟩

theorem Accounts.pure (value : α) : Accounts (Pure.pure value : Session α) :=
  ⟨fun world => ⟨.ok value, [], rfl, answered_zero world, nofun⟩⟩

theorem Accounts.log {level : Log.Level} {name : String} {fields : List (String × Json)}
    (h : (Mark.logged ⟨level, name, fields⟩).isReport = false) :
    Accounts (.log level name fields) :=
  ⟨fun world => ⟨.ok (), [.logged ⟨level, name, fields⟩], rfl, answered_zero world,
    hushed_singleton h⟩⟩

theorem Accounts.pause (seconds : Binary64) : Accounts (Session.pause seconds) :=
  ⟨fun world => ⟨.ok (), [.paused seconds], rfl, answered_zero world, hushed_singleton rfl⟩⟩

/-- A request has its reply as its result. -/
theorem Accounts.request {session : Session (List UInt8)} {call : Call}
    (h : ∀ world, session.runIn world = ⟨world.reply 0, world.spend 1, [.called call]⟩) :
    Accounts session := by
  refine ⟨fun world => ⟨world.reply 0, [.called call], h world, ?_⟩⟩
  cases hreply : world.reply 0 with
  | ok body =>
    refine ⟨fun last hlast => ⟨body, ?_⟩, hushed_singleton rfl⟩
    obtain rfl : last = 0 := (Nat.succ.inj hlast).symm
    exact hreply
  | error failure =>
    refine .inr ⟨hushed_singleton rfl, fun ⟨_, hanswered⟩ => ?_⟩
    obtain ⟨body, hbody⟩ := hanswered 0 rfl
    rw [hreply] at hbody
    cases hbody

theorem Accounts.get (token url : String) : Accounts (Session.get token url) :=
  .request (Session.runIn_get token url)

theorem Accounts.post (token url : String) (form : List (String × String)) :
    Accounts (Session.post token url form) :=
  .request (Session.runIn_post token url form)

/-- A session that reports a failure about a status and ends with it. -/
theorem Accounts.report {level : Log.Level} {name : String} {fields : List (String × Json)}
    (hstatus : OfStatus failure) (h : Reports ⟨level, name, fields⟩ failure) :
    Accounts (.log level name fields >>= fun _ => .fail failure : Session α) :=
  ⟨fun world => ⟨.error failure, [.logged ⟨level, name, fields⟩], rfl,
    .inl ⟨⟨[], _, [], rfl, rfl, h⟩, hstatus, answered_zero world⟩⟩⟩

/-! ## Results that are no failures about a status -/

theorem Accounts.lift_bind {result : Except Failure α} {next : α → Except Failure β}
    (h : Accounts (.lift result : Session α))
    (hn : ∀ value, Accounts (.lift (next value) : Session β)) :
    Accounts (.lift (result >>= next) : Session β) := by
  cases result with
  | error failure => exact Accounts.bind h fun value => hn value
  | ok value => exact hn value

theorem Accounts.fail (h : ¬ OfStatus failure) : Accounts (.fail failure : Session α) :=
  .lift fun _ hsame => Except.error.inj hsame ▸ h

theorem Accounts.lift_mapError {ε : Type} {result : Except ε α} {report : ε → Failure}
    (h : ∀ fault, ¬ OfStatus (report fault)) :
    Accounts (.lift (result.mapError report) : Session α) := by
  cases result with
  | error fault => exact .fail (h fault)
  | ok value => exact .pure value

theorem Accounts.lift_readable {result : Except Failure α}
    (h : Stream.StreamFailuresLemmas.Readable result) : Accounts (.lift result : Session α) := by
  refine .lift fun failure hresult => ?_
  obtain ⟨fault, rfl⟩ := h.fault failure hresult
  exact id

theorem Accounts.lift_readObject [Json.Nesting] (purpose : String) (body : List UInt8) :
    Accounts (.lift (readObject purpose body)) := by
  unfold readObject
  split
  · exact .pure _
  all_goals exact .fail id

theorem Accounts.lift_torrentFiles (info : List (String × Json)) :
    Accounts (.lift (Stream.torrentFiles info)) := by
  refine .lift_bind (.lift_mapError fun _ => id) fun files => ?_
  split
  · exact .fail id
  · exact .pure files

/-! ## The steps of a resolution -/

open Stream.StreamFailuresLemmas

section Steps

variable (polling : Stream.Polling) (base token url id : String) (remote : Bool)

theorem accounts_submit [Json.Nesting] (magnet : String) :
    Accounts (Stream.submit base token magnet) :=
  .bind (.log rfl) fun _ => .bind (.post ..) fun _ =>
    .lift_bind (.lift_readObject ..) fun _ => .lift_readable (readable_followUp ..)

theorem accounts_inspect [Json.Nesting] : Accounts (Stream.inspect token url) :=
  .bind (.get ..) fun _ => .lift_readObject ..

theorem accounts_choose (files : List Torrent.File) :
    Accounts (Stream.choose base token id files) :=
  .bind (.lift_mapError fun _ => nofun) fun _ => .bind (.log rfl) fun _ =>
    .bind (.post ..) fun _ => .bind (.log rfl) fun _ => .pure _

/-- One poll reports that the torrent has failed. -/
theorem accounts_poll [Json.Nesting] (left : Nat) : Accounts (Stream.poll token url id left) := by
  refine .bind (accounts_inspect token url) fun info => ?_
  dsimp only
  split
  · exact .report trivial (.inr ⟨_, by simp, .inl ⟨rfl, rfl⟩⟩)
  · split
    · exact .pure _
    · exact .bind (.log rfl) fun _ => .pure _

/-- The end of the polls reports the status that was seen last. -/
theorem accounts_timeOut (raw : String) :
    Accounts (Stream.timeOut polling token id raw : Session α) :=
  .report trivial (.inr ⟨raw, by simp, .inr ⟨rfl, _, rfl⟩⟩)

theorem accounts_pollFrom [Json.Nesting] (left : Nat) :
    Accounts (Stream.pollFrom polling token url id left) := by
  induction left with
  | zero =>
    refine .bind (accounts_poll token url id 0) fun progress => ?_
    cases progress with
    | downloaded info => exact .pure _
    | waiting raw => exact accounts_timeOut polling token id raw
  | succ left ih =>
    refine .bind (accounts_poll token url id (left + 1)) fun progress => ?_
    cases progress with
    | downloaded info => exact .pure _
    | waiting raw => exact .bind (.pause _) fun _ => ih

theorem accounts_unrestrict [Json.Nesting] (link : String) :
    Accounts (Stream.unrestrict base token link remote) :=
  .bind (.log rfl) fun _ => .bind (.post ..) fun _ =>
    .bind (.lift_bind (.lift_readObject ..) fun _ => .lift_readable (readable_textMember ..))
      fun _ => .bind (.log rfl) fun _ => .pure _

theorem accounts_resolve [Json.Nesting] (magnet : String) :
    Accounts (Stream.resolve polling base token magnet remote) := by
  refine .bind (accounts_submit base token magnet) fun url => ?_
  refine .bind (accounts_inspect token url) fun info => ?_
  refine .bind (.lift_readable (readable_torrentId info)) fun id => ?_
  refine .bind (.lift_torrentFiles info) fun files => ?_
  refine .bind (accounts_choose base token id files) fun chosen => ?_
  refine .bind (accounts_pollFrom polling token url id _) fun (info, polls) => ?_
  refine .bind (.lift_readable (readable_firstLink info)) fun link => .bind (.log rfl) fun _ => ?_
  exact .bind (accounts_unrestrict base token remote link) fun _ => .bind (.log rfl) fun _ =>
    .pure _

end Steps

/-! ## Validations -/

/-- What is noted when the request of a validation fails. -/
def refusalNotes (token : String) : Reply → List Mark
  | .error failure => [.logged ⟨.info, "token_check_failed",
      [("api_token", .str token), ("error", .str failure.message)]⟩]
  | .ok _ => []

theorem askService_run [Json.Nesting] (base token : String) (world : World) :
    (Token.askService base token).runIn world =
      ⟨Token.verdict (world.reply 0), world.spend 1,
        .called (Token.request base token) :: refusalNotes token (world.reply 0)⟩ := by
  unfold Token.askService
  rw [Session.runIn_bind, Session.runIn_attempt, Session.runIn_get, Run.andThen_ok]
  cases world.reply 0 with
  | error failure => rfl
  | ok body =>
    dsimp only
    rw [Session.runIn_bind, Session.runIn_lift]
    show _ = (⟨readObject _ body >>= _, _, _⟩ : Run World Mark Unit)
    cases readObject "Couldn't parse user info response" body with
    | error failure => rfl
    | ok members =>
      dsimp only [Run.andThen_ok, bind, Except.bind]
      by_cases hid : Entries.has members "id" = true
      · rw [if_pos hid, if_pos hid]
        rfl
      · rw [if_neg hid, if_neg hid]
        rfl

theorem reported_refusalNotes [Json.Nesting] {token : String} {reply : Reply}
    (h : Token.verdict reply = .error failure) :
    Reported failure (refusalNotes token reply) ↔ reply = .error failure := by
  cases reply with
  | error raised =>
    obtain rfl : raised = failure := Except.error.inj h
    exact iff_of_true ⟨[], _, [], rfl, rfl, .inl (by simp)⟩ rfl
  | ok body => exact iff_of_false (not_reported_of_hushed nofun) nofun

/-- A validation that fails has asked the service, and reports nothing behind its request but that
this has failed. -/
theorem validate_reported_iff [Json.Nesting] (base token : String)
    (h : ((Token.validate base token).runIn world).result = .error failure) :
    Reported failure ((Token.validate base token).runIn world).trace ↔
      world.reply 0 = .error failure := by
  cases htrusts : world.trusts Token.store Token.trust token with
  | true =>
    rw [result_of_ends (Token.validate_trusted base htrusts).ends] at h
    cases h
  | false =>
    have hverdict : Token.verdict (world.reply 0) = .error failure := by
      rw [← h, result_of_ends (Token.validate_asked base htrusts)]
    obtain ⟨front, hfront, _⟩ := (Token.isConfirmed_yields token world).ends
    rw [htrusts] at hfront
    have hrun : ((Token.validate base token).runIn world).trace =
        (.logged ⟨.debug, "token_check_started", [("api_token", .str token)]⟩ :: front) ++
          .called (Token.request base token) :: refusalNotes token (world.reply 0) := by
      show .logged _ :: ((Token.isConfirmed token >>= _).runIn world).trace = _
      rw [List.cons_append, Session.runIn_bind, hfront, Run.andThen_ok]
      show .logged _ :: (front ++ ((Token.askService base token >>= _).runIn world).trace) = _
      rw [Session.runIn_bind, askService_run, hverdict, Run.andThen_error]
    rw [hrun, reported_behind_call]
    exact reported_refusalNotes hverdict

end FailureReportsLemmas

open FailureReportsLemmas

/-- Of the failures of a validation, exactly those are reported behind the last request that the
request itself fails with. Of the failures of a resolution, exactly those are that are about the
status of a torrent and do not come from the last request itself. -/
theorem failures_reported_iff [Json.Nesting] (client : Client) (world : World) (failure : Failure) :
    (∀ token, ((client.serve (.validate token)).runIn world).result = .error failure →
      (Reported failure ((client.serve (.validate token)).runIn world).trace ↔
        world.reply 0 = .error failure)) ∧
    ∀ token magnet remote,
      ((client.serve (.stream token magnet remote)).runIn world).result = .error failure →
      (Reported failure ((client.serve (.stream token magnet remote)).runIn world).trace ↔
        OfStatus failure ∧
          Answered world
            (calls ((client.serve (.stream token magnet remote)).runIn world).trace).length) := by
  constructor
  · intro token h
    have hserve : (client.serve (.validate token)).runIn world =
        ((Token.validate client.base token).runIn world).andThen fun _ world =>
          ⟨.ok .valid, world, []⟩ :=
      Session.runIn_bind ..
    have hvalidate := @validate_reported_iff world failure _ client.base token
    rw [hserve] at h ⊢
    generalize (Token.validate client.base token).runIn world = run at h hvalidate ⊢
    obtain ⟨result, state, trace⟩ := run
    cases result with
    | ok value => cases h
    | error raised =>
      obtain rfl : raised = failure := Except.error.inj h
      exact hvalidate rfl
  · intro token magnet remote h
    have haccounts : Accounts (client.serve (.stream token magnet remote)) :=
      .bind (.bind (accounts_resolve ..) fun _ => .pure _) fun _ => .pure _
    obtain ⟨result, trace, hrun, hending⟩ := haccounts.ends world
    rw [hrun] at h ⊢
    subst h
    rcases hending with ⟨hreported, hdecided⟩ | ⟨hhushed, hnone⟩
    · exact iff_of_true hreported hdecided
    · exact iff_of_false (not_reported_of_hushed hhushed) hnone

/-- A client that polls once. -/
def exampleClient : Client := ⟨"https://example.com", ⟨⟨0⟩, 0⟩, ⟨1, .ofNat 0⟩⟩

/-- A world with an empty cache, in which the service gives one reply. -/
def worldOf (reply : Reply) : World := ⟨⟨0, ⟨0⟩⟩, [], none, none, [reply]⟩

attribute [local instance] Json.Nesting.usual

/-- The same failure of a request is reported by a validation, but not by a resolution. -/
theorem failures_reported_iff_request_fails :
    let failure : Failure := .reported .transport ["gone"]
    Reported failure
        ((exampleClient.serve (.validate "secret")).runIn (worldOf (.error failure))).trace ∧
      ¬ Reported failure
        ((exampleClient.serve (.stream "secret" "magnet:?xt=urn:btih:aa" false)).runIn
          (worldOf (.error failure))).trace := by
  intro failure
  obtain ⟨hvalidate, hstream⟩ :=
    failures_reported_iff exampleClient (worldOf (.error failure)) failure
  refine ⟨(hvalidate "secret" (by decide +kernel)).mpr rfl, fun hreported => ?_⟩
  exact ((hstream _ _ _ (by decide +kernel)).mp hreported).1

/-- A body that is no object fails a validation and a resolution, and neither reports it. -/
theorem unusable_body_is_unreported :
    ((exampleClient.serve (.validate "secret")).runIn (worldOf (.ok "[]".toUTF8.toList))).result =
        .error (.badResponse (.notObject "Couldn't parse user info response" "list")) ∧
      (∀ failure, ¬ Reported failure ((exampleClient.serve (.validate "secret")).runIn
        (worldOf (.ok "[]".toUTF8.toList))).trace) ∧
      ((exampleClient.serve (.stream "secret" "magnet:?xt=urn:btih:aa" false)).runIn
          (worldOf (.ok "[]".toUTF8.toList))).result =
        .error (.badResponse (.notObject "Couldn't add torrent" "list")) ∧
      ∀ failure, ¬ Reported failure
        ((exampleClient.serve (.stream "secret" "magnet:?xt=urn:btih:aa" false)).runIn
          (worldOf (.ok "[]".toUTF8.toList))).trace :=
  ⟨by decide +kernel, fun _ => not_reported_of_hushed (by decide +kernel), by decide +kernel,
    fun _ => not_reported_of_hushed (by decide +kernel)⟩

end MagnetStream.Client
