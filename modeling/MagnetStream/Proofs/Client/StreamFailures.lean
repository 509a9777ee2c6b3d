import Mathlib.Control.Monad.Basic
import MagnetStream.Proofs.Client.Stream
import MagnetStream.Proofs.Torrent.Listing

/-!
# How a resolution fails

Callers tell failures apart by their families, and a failure without a family is an error of the
server to them. As long as the replies of the service are foreseen, a resolution fails within the
families, with one exception (`resolve_fails_outside_families_iff`): a torrent whose listing has an
id or a size without a whole part.
-/

namespace MagnetStream.Client.Stream

open Dialogue (Brings)
open Torrent (File ListsBoundless)

/-- A result that is a value, or a failure of some family. -/
def InFamilies {α : Type} : Except Failure α → Prop
  | .ok _ => True
  | .error failure => failure.family? ≠ none

instance {α : Type} (result : Except Failure α) : Decidable (InFamilies result) :=
  match result with
  | .ok _ => .isTrue trivial
  | .error failure => inferInstanceAs (Decidable (failure.family? ≠ none))

/-- A reply that the client is ready for: a failure of some family, or a body that is read as an
object or refused with such a failure. -/
def Foreseen [Json.Nesting] (reply : Reply) : Prop :=
  ∀ purpose, InFamilies (reply >>= readObject purpose)

/-- Whether a reply is foreseen. Of all bodies, those that pass a limit of the reader are not. -/
def isForeseen [Json.Nesting] : Reply → Bool
  | .error failure => failure.family?.isSome
  | .ok body =>
    match Json.readBytes body with
    | .error (.fault (.limit _)) => false
    | _ => true

theorem foreseen_iff [Json.Nesting] {reply : Reply} : isForeseen reply = true ↔ Foreseen reply := by
  cases reply with
  | error failure =>
    simp [isForeseen, Foreseen, InFamilies, bind, Except.bind, Option.isSome_iff_ne_none]
  | ok body =>
    simp only [isForeseen, Foreseen, bind, Except.bind, readObject]
    cases Json.readBytes body with
    | ok value => cases value <;> simp [InFamilies, Failure.family?]
    | error fault =>
      cases fault with
      | notText => simp [InFamilies, Failure.family?]
      | fault fault => cases fault <;> simp [InFamilies, Failure.family?]

instance [Json.Nesting] (reply : Reply) : Decidable (Foreseen reply) :=
  decidable_of_iff _ foreseen_iff

namespace StreamFailuresLemmas

open StreamLemmas
open Session (Ends Yields)

variable {α β : Type}

/-! ## Steps that fail for what a response says -/

/-- A result that is a value, or a failure for what a response says. -/
structure Readable (result : Except Failure α) : Prop where
  fault : ∀ failure, result = .error failure → ∃ fault, failure = .badResponse fault

theorem readable_ok (value : α) : Readable (.ok value) := ⟨nofun⟩

theorem readable_error (fault : ResponseFault) :
    Readable (.error (.badResponse fault) : Except Failure α) :=
  ⟨fun _ h => ⟨fault, (Except.error.inj h).symm⟩⟩

theorem readable_textMember (purpose key : String) (members : List (String × Json)) :
    Readable (textMember purpose key members) := by
  unfold textMember
  split
  · split
    · exact readable_error _
    · exact readable_ok _
  · exact readable_error _

theorem readable_followUp (base : String) (members : List (String × Json)) :
    Readable (followUp base members) := by
  unfold followUp
  cases htext : textMember "Couldn't add torrent" "uri" members with
  | error failure =>
    obtain ⟨fault, rfl⟩ := (readable_textMember ..).fault failure htext
    exact readable_error fault
  | ok url =>
    show Readable ((Url.moveUnder base url).mapError _)
    cases Url.moveUnder base url with
    | error fault => exact readable_error _
    | ok moved => exact readable_ok moved

theorem readable_torrentId (info : List (String × Json)) : Readable (torrentId info) := by
  unfold torrentId
  split
  · exact readable_error _
  · split
    · exact readable_error _
    · exact readable_ok _

theorem readable_firstLink (info : List (String × Json)) : Readable (firstLink info) := by
  unfold firstLink
  split
  · split
    · exact readable_ok _
    · exact readable_error _
  · exact readable_error _

/-! ## Steps that fail within the families -/

theorem inFamilies_bind {result : Except Failure α} {next : α → Except Failure β}
    (h : InFamilies result) (hn : ∀ value, InFamilies (next value)) :
    InFamilies (result >>= next) := by
  cases result with
  | error failure => exact h
  | ok value => exact hn value

theorem inFamilies_of_readable {result : Except Failure α} (h : Readable result) :
    InFamilies result := by
  cases result with
  | ok value => trivial
  | error failure =>
    obtain ⟨fault, rfl⟩ := h.fault failure rfl
    exact nofun

theorem inFamilies_textMember (purpose key : String) (members : List (String × Json)) :
    InFamilies (textMember purpose key members) :=
  inFamilies_of_readable (readable_textMember ..)

theorem inFamilies_followUp (base : String) (members : List (String × Json)) :
    InFamilies (followUp base members) :=
  inFamilies_of_readable (readable_followUp ..)

theorem inFamilies_torrentId (info : List (String × Json)) : InFamilies (torrentId info) :=
  inFamilies_of_readable (readable_torrentId info)

theorem inFamilies_firstLink (info : List (String × Json)) : InFamilies (firstLink info) :=
  inFamilies_of_readable (readable_firstLink info)

/-- The files of a torrent are the one exception: they can fail outside the families. -/
theorem torrentFiles_outside_iff {info : List (String × Json)} :
    (∃ failure, torrentFiles info = .error failure ∧ failure.family? = none) ↔
      ListsBoundless ((Entries.get? info "files").getD .null) := by
  rw [← Torrent.ofListing_fails_iff]
  unfold torrentFiles
  cases File.ofListing ((Entries.get? info "files").getD .null) with
  | error fault => exact ⟨fun _ => ⟨fault, rfl⟩, fun _ => ⟨_, rfl, rfl⟩⟩
  | ok files =>
    constructor
    · rintro ⟨failure, hfails, hnone⟩
      dsimp only [bind, Except.bind, Except.mapError] at hfails
      split at hfails
      · cases hfails
        cases hnone
      · cases hfails
    · rintro ⟨_, ⟨⟩⟩

theorem result_of_ends {world : World} {session : Session α} {result : Except Failure α}
    {state : World} {requests : List Call} (h : session.Ends world result state requests) :
    (session.runIn world).result = result := by
  obtain ⟨trace, hrun, _⟩ := h
  rw [hrun]

/-! ## Sessions that fail within the families -/

variable [Json.Nesting]

/-- An answer that a session is ready for. -/
def Expected : (question : Question) → Answer question → Prop
  | .send _, reply => Foreseen reply
  | _, _ => True

/-- A session that fails within the families, as long as the replies are foreseen. -/
abbrev Safe (session : Session α) : Prop := Brings Expected InFamilies session

theorem safe_bind {session : Session α} {next : α → Session β} (h : Safe session)
    (hn : ∀ value, Safe (next value)) : Safe (session >>= next) :=
  Brings.bind h (fun _ => id) fun value _ => hn value

theorem safe_pure (value : α) : Safe (pure value) := .pure trivial

theorem safe_log (level : Log.Level) (name : String) (fields : List (String × Json)) :
    Safe (.log level name fields) :=
  trivial

/-- What follows a request may rely on a foreseen reply. -/
theorem safe_request {session : Session (List UInt8)} (h : Brings Expected Foreseen session)
    {next : List UInt8 → Session α} (hn : ∀ body, Foreseen (.ok body) → Safe (next body)) :
    Safe (session >>= next) :=
  Brings.bind h (fun _ hfailure => hfailure "") hn

theorem get_brings (token url : String) : Brings Expected Foreseen (Session.get token url) :=
  fun _ hreply => hreply

theorem post_brings (token url : String) (form : List (String × String)) :
    Brings Expected Foreseen (Session.post token url form) :=
  fun _ hreply => hreply

theorem safe_inspect (token url : String) : Safe (inspect token url) :=
  safe_request (get_brings token url) fun _ hbody => .lift (hbody infoPurpose)

theorem safe_choose (base token id : String) (files : List File) :
    Safe (choose base token id files) := by
  have hselect : InFamilies ((Torrent.selectFile files).mapError Failure.noFile) := by
    cases Torrent.selectFile files with
    | error fault => exact nofun
    | ok chosen => trivial
  refine safe_bind (.lift hselect) fun chosen => safe_bind (safe_log ..) fun _ => ?_
  refine safe_request (post_brings _ _ _) fun _ _ => ?_
  exact safe_bind (safe_log ..) fun _ => safe_pure chosen

theorem safe_timeOut (polling : Polling) (token id raw : String) :
    Safe (timeOut polling token id raw : Session α) :=
  safe_bind (safe_log ..) fun _ => .fail nofun

theorem safe_poll (token url id : String) (left : Nat) : Safe (poll token url id left) := by
  refine safe_bind (safe_inspect token url) fun info => ?_
  dsimp only
  split
  · exact safe_bind (safe_log ..) fun _ => .fail nofun
  · split
    · exact safe_pure _
    · exact safe_bind (safe_log ..) fun _ => safe_pure _

theorem safe_pollFrom (polling : Polling) (token url id : String) (left : Nat) :
    Safe (pollFrom polling token url id left) := by
  induction left with
  | zero =>
    refine safe_bind (safe_poll token url id 0) fun progress => ?_
    cases progress with
    | downloaded info => exact safe_pure _
    | waiting raw => exact safe_timeOut polling token id raw
  | succ left ih =>
    refine safe_bind (safe_poll token url id (left + 1)) fun progress => ?_
    cases progress with
    | downloaded info => exact safe_pure _
    | waiting raw => exact safe_bind (fun _ _ => trivial) fun _ => ih

theorem safe_unrestrict (base token link : String) (remote : Bool) :
    Safe (unrestrict base token link remote) := by
  refine safe_bind (safe_log ..) fun _ => safe_request (post_brings _ _ _) fun body hbody => ?_
  refine safe_bind (.lift ?_) fun _ => safe_bind (safe_log ..) fun _ => safe_pure _
  exact inFamilies_bind (hbody _) fun _ => inFamilies_textMember ..

theorem safe_release (base token magnet : String) (remote : Bool) (url id : String)
    (files : List File) (chosen : Int) (found : List (String × Json) × Nat) :
    Safe (release base token magnet remote url id files chosen found) := by
  refine safe_bind (.lift (inFamilies_firstLink found.1)) fun link => ?_
  refine safe_bind (safe_log ..) fun _ => ?_
  refine safe_bind (safe_unrestrict base token link remote) fun _ => ?_
  exact safe_bind (safe_log ..) fun _ => safe_pure _

/-- Once the files of a torrent are known, a resolution fails within the families. -/
theorem safe_rest (polling : Polling) (base token magnet : String) (remote : Bool)
    (url id : String) (files : List File) :
    Safe (choose base token id files >>= fun chosen => awaitDownload polling token url id >>=
      release base token magnet remote url id files chosen) :=
  safe_bind (safe_choose base token id files) fun chosen =>
    safe_bind (safe_pollFrom polling token url id _) fun found =>
      safe_release base token magnet remote url id files chosen found

/-! ## Runs with foreseen replies -/

section Running

variable {world : World}

theorem foreseen_reply (h : ∀ reply ∈ world.script, Foreseen reply) (index : Nat) :
    Foreseen (world.reply index) := by
  unfold World.reply
  cases hreply : world.script[index]? with
  | none => exact fun _ => nofun
  | some reply => exact h reply (List.mem_of_getElem? hreply)

/-- A session that fails within the families does so in every world whose replies are foreseen. -/
theorem inFamilies_of_safe {session : Session α} (h : Safe session)
    (hforeseen : ∀ reply ∈ world.script, Foreseen reply) :
    InFamilies (session.runIn world).result := by
  refine Brings.result World.responder (fun world => ∀ reply ∈ world.script, Foreseen reply) h ?_
    hforeseen
  intro question world hforeseen
  cases question with
  | send call =>
    have hanswer : World.responder.answer (.send call) world = _ := World.answer_send call world
    rw [hanswer]
    exact ⟨foreseen_reply hforeseen 0, fun reply hm => hforeseen reply (List.mem_of_mem_drop hm)⟩
  | pause seconds => exact ⟨trivial, hforeseen⟩
  | now => exact ⟨trivial, hforeseen⟩
  | «recall» key =>
    refine ⟨trivial, ?_⟩
    simp only [World.responder, World.answer]
    split <;> exact hforeseen
  | record key entry ttl =>
    refine ⟨trivial, ?_⟩
    simp only [World.responder, World.answer]
    split <;> exact hforeseen

variable {polling : Polling} {base token magnet : String} {remote : Bool}

/-- A resolution that gets to see a torrent fails outside the families just when the torrent has an
id, but files that cannot be read. -/
theorem outside_of_object {url : String} {members : List (String × Json)}
    (hforeseen : ∀ reply ∈ world.script, Foreseen reply)
    (haddress : (objectIn "Couldn't add torrent" (world.reply 0) >>= followUp base) = .ok url)
    (hobject : objectIn infoPurpose (world.reply 1) = .ok members) :
    ¬ InFamilies ((resolve polling base token magnet remote).runIn world).result ↔
      (∃ id, torrentId members = .ok id) ∧
        ListsBoundless ((Entries.get? members "files").getD .null) := by
  have hsubmit := submit_yields world 0 base token magnet
  have hinspect := inspect_yields world 1 token url
  rw [haddress] at hsubmit
  rw [hobject] at hinspect
  rw [← torrentFiles_outside_iff]
  cases hid : torrentId members with
  | error failure =>
    have hin : InFamilies (.error failure : Except Failure String) :=
      hid ▸ inFamilies_torrentId members
    have hends : (resolve polling base token magnet remote).Ends world (.error failure) _ _ :=
      hsubmit.bind_ok (hinspect.bind_ok (Yields.bind_error (.lift hid)))
    rw [result_of_ends hends]
    exact iff_of_false (not_not_intro hin) fun ⟨⟨_, hfound⟩, _⟩ => nomatch hfound
  | ok id =>
    cases hfiles : torrentFiles members with
    | error failure =>
      have hends : (resolve polling base token magnet remote).Ends world (.error failure) _ _ :=
        hsubmit.bind_ok (hinspect.bind_ok (Yields.bind_ok (.lift hid)
          (Yields.bind_error (.lift hfiles))))
      rw [result_of_ends hends]
      simp [InFamilies]
    | ok files =>
      -- Whatever comes then, it comes from a world whose replies are foreseen as well.
      have hleft : ∀ reply ∈ (world.spend 2).script, Foreseen reply :=
        fun reply hm => hforeseen reply (List.mem_of_mem_drop hm)
      have hin := inFamilies_of_safe (safe_rest polling base token magnet remote url id files) hleft
      have hends : (resolve polling base token magnet remote).Ends world _ _ _ :=
        Ends.bind_ok hsubmit (Ends.bind_ok hinspect (Ends.bind_ok (Yields.lift hid)
          (Ends.bind_ok (Yields.lift hfiles) (Ends.of_run ..))))
      rw [result_of_ends hends]
      exact iff_of_false (not_not_intro hin) fun ⟨_, _, hfails, _⟩ => nomatch hfails

end Running
end StreamFailuresLemmas

open StreamLemmas StreamFailuresLemmas

/-- As long as the replies are foreseen, a resolution fails outside the families just when it finds
a torrent with an id whose listing has an id or a size without a whole part. -/
theorem resolve_fails_outside_families_iff [Json.Nesting] (polling : Polling)
    (base token magnet : String) (remote : Bool) (world : World)
    (hforeseen : ∀ reply ∈ world.script, Foreseen reply) :
    ¬ InFamilies ((resolve polling base token magnet remote).runIn world).result ↔
      ∃ url members value, Addresses base url (world.reply 0) ∧ Holds (world.reply 1) members ∧
        Entries.get? members "id" = some value ∧ value ≠ .null ∧ value.display ≠ "" ∧
          ListsBoundless ((Entries.get? members "files").getD .null) := by
  have hreply := foreseen_reply hforeseen
  have hsubmit := submit_yields world 0 base token magnet
  cases haddress : objectIn "Couldn't add torrent" (world.reply 0) >>= followUp base with
  | error failure =>
    have hin : InFamilies (.error failure : Except Failure String) :=
      haddress ▸ inFamilies_bind (hreply 0 _) (inFamilies_followUp base)
    rw [haddress] at hsubmit
    have hends : (resolve polling base token magnet remote).Ends world (.error failure) _ _ :=
      hsubmit.bind_error
    rw [result_of_ends hends]
    refine iff_of_false (not_not_intro hin) ?_
    rintro ⟨url, _, _, haddresses, _⟩
    rw [addresses_iff.mpr haddresses] at haddress
    cases haddress
  | ok url =>
    have hinspect := inspect_yields world 1 token url
    cases hobject : objectIn infoPurpose (world.reply 1) with
    | error failure =>
      have hin : InFamilies (.error failure : Except Failure (List (String × Json))) :=
        hobject ▸ hreply 1 infoPurpose
      rw [haddress] at hsubmit
      rw [hobject] at hinspect
      have hends : (resolve polling base token magnet remote).Ends world (.error failure) _ _ :=
        hsubmit.bind_ok hinspect.bind_error
      rw [result_of_ends hends]
      refine iff_of_false (not_not_intro hin) ?_
      rintro ⟨_, members, _, _, hholds, _⟩
      rw [objectIn_eq_ok.mpr hholds] at hobject
      cases hobject
    | ok members =>
      rw [outside_of_object hforeseen haddress hobject]
      constructor
      · rintro ⟨⟨id, hid⟩, hfiles⟩
        obtain ⟨value, hget, hnull, rfl, hne⟩ := torrentId_eq_ok.mp hid
        exact ⟨url, members, value, addresses_iff.mp haddress, objectIn_eq_ok.mp hobject, hget,
          hnull, hne, hfiles⟩
      · rintro ⟨_, others, value, _, hholds, hget, hnull, hne, hfiles⟩
        rw [holds_inj hholds (objectIn_eq_ok.mp hobject)] at hget hfiles
        exact ⟨⟨value.display, torrentId_eq_ok.mpr ⟨value, hget, hnull, rfl, hne⟩⟩, hfiles⟩

/-- A world in which a torrent has a file with an infinite id. -/
def boundlessWorld : World :=
  ⟨⟨0, ⟨0⟩⟩, [], none, none,
    [.ok "\x7b\"uri\":\"https://example.com/torrents/7\"\x7d".toUTF8.toList,
      .ok "\x7b\"id\":7,\"files\":[\x7b\"id\":Infinity,\"bytes\":1\x7d]\x7d".toUTF8.toList]⟩

attribute [local instance] Json.Nesting.usual

/-- There a resolution fails outside the families, although the replies are foreseen. -/
theorem boundless_id_fails_outside_families :
    (∀ reply ∈ boundlessWorld.script, Foreseen reply) ∧
      ((resolve ⟨5, .ofNat 1⟩ "https://example.com" "secret" "magnet:?xt=urn:btih:aa"
        false).runIn boundlessWorld).result = .error (.notWhole .infinite) ∧
      (Failure.notWhole .infinite).family? = none :=
  ⟨by decide +kernel, by decide +kernel, rfl⟩

/-- What the general law finds in those replies. -/
theorem resolve_fails_outside_families_iff_infinite_id :
    (∀ reply ∈ boundlessWorld.script, Foreseen reply) ∧
      ∃ url members value, Addresses "https://example.com" url (boundlessWorld.reply 0) ∧
        Holds (boundlessWorld.reply 1) members ∧ Entries.get? members "id" = some value ∧
        value ≠ .null ∧ value.display ≠ "" ∧
          ListsBoundless ((Entries.get? members "files").getD .null) := by
  have hforeseen : ∀ reply ∈ boundlessWorld.script, Foreseen reply := by decide +kernel
  have hresult : ((resolve ⟨5, .ofNat 1⟩ "https://example.com" "secret" "magnet:?xt=urn:btih:aa"
      false).runIn boundlessWorld).result = .error (.notWhole .infinite) := by decide +kernel
  refine ⟨hforeseen, (resolve_fails_outside_families_iff ⟨5, .ofNat 1⟩ "https://example.com"
    "secret" "magnet:?xt=urn:btih:aa" false boundlessWorld hforeseen).mp ?_⟩
  rw [hresult]
  exact fun h => h rfl

end MagnetStream.Client.Stream
