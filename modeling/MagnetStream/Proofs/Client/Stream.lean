import MagnetStream.Proofs.Client.Confirmation
import MagnetStream.Proofs.Json.Display
import MagnetStream.Proofs.Result

/-!
# The way to a stream

What a resolution asks of the service and when it succeeds, for every sequence of replies.
`Findings` are the facts that the replies bring one after the other, `itinerary` is the list of
requests that they lead to, and `Passes` says what a reply must bring at its step. A resolution goes
along an itinerary until a reply does not pass (`resolve_itinerary`).
-/

namespace MagnetStream.Client.Stream

open Torrent (Status File)

/-- A reply holds an object. -/
def Holds [Json.Nesting] (reply : Reply) (members : List (String × Json)) : Prop :=
  ∃ body, reply = .ok body ∧ Json.readBytes body = .ok (.obj members)

/-- A reply names the address under which a torrent is followed up, before it is moved under the
base. -/
def Addresses [Json.Nesting] (base url : String) (reply : Reply) : Prop :=
  ∃ members uri, Holds reply members ∧ Entries.get? members "uri" = some (.str uri) ∧ uri ≠ "" ∧
    Url.moveUnder base uri = .ok url

/-- A reply describes a torrent and files one of which can be chosen. -/
def Describes [Json.Nesting] (id : String) (files : List File) (chosen : Int) (reply : Reply) :
    Prop :=
  ∃ members value, Holds reply members ∧ Entries.get? members "id" = some value ∧ value ≠ .null ∧
    value.display = id ∧ id ≠ "" ∧
    File.ofListing ((Entries.get? members "files").getD .null) = .ok files ∧ files ≠ [] ∧
    Torrent.selectFile files = .ok chosen

/-- A reply shows a torrent that is neither downloaded nor failed. -/
def Waits [Json.Nesting] (reply : Reply) : Prop :=
  ∃ members, Holds reply members ∧ (status members).isTerminal = false ∧
    status members ≠ .downloaded

/-- A reply shows a downloaded torrent with a link. -/
def Downloads [Json.Nesting] (raw link : String) (reply : Reply) : Prop :=
  ∃ members first rest, Holds reply members ∧ status members = .downloaded ∧
    rawStatus members = raw ∧ Entries.get? members "links" = some (.arr (first :: rest)) ∧
    first.isSomething = true ∧ first.display = link

/-- A reply gives a public link. -/
def Unrestricts [Json.Nesting] (streamUrl : String) (reply : Reply) : Prop :=
  ∃ members, Holds reply members ∧ Entries.get? members "download" = some (.str streamUrl) ∧
    streamUrl ≠ ""

/-- The facts that replies bring on the way to a stream. -/
structure Findings where
  url : String
  id : String
  files : List File
  chosen : Int
  polls : Nat
  raw : String
  link : String
  streamUrl : String

def Findings.resolution (magnet : String) (remote : Bool) (found : Findings) : Resolution :=
  ⟨magnet, remote, found.url, found.id, .downloaded, found.raw, found.files, found.chosen,
    found.polls, found.link, found.streamUrl⟩

def look (token url : String) : Call := ⟨.get, url, token, none⟩

/-- The requests before the polls. -/
def opening (base token magnet : String) (found : Findings) : List Call :=
  [⟨.post, base ++ addPath, token, some [("magnet", magnet)]⟩, look token found.url,
    ⟨.post, base ++ choosePath ++ found.id, token, some [("files", toString found.chosen)]⟩]

/-- The requests on the way to a stream. -/
def itinerary (base token magnet : String) (remote : Bool) (found : Findings) : List Call :=
  opening base token magnet found ++ List.replicate found.polls (look token found.url) ++
    [⟨.post, base ++ unrestrictPath, token, some (unrestrictForm found.link remote)⟩]

/-- What a reply must bring at its step. The polls come after three other steps. -/
def Passes [Json.Nesting] (base : String) (found : Findings) : Nat → Reply → Prop
  | 0, reply => Addresses base found.url reply
  | 1, reply => Describes found.id found.files found.chosen reply
  | 2, reply => ∃ body, reply = .ok body
  | step + 3, reply =>
    if step + 1 < found.polls then Waits reply
    else if step + 1 = found.polls then Downloads found.raw found.link reply
    else Unrestricts found.streamUrl reply

/-- Findings with an allowed number of polls agree with the first replies. -/
def Findings.Explains [Json.Nesting] (base : String) (budget : Nat) (replies : Nat → Reply)
    (count : Nat) (found : Findings) : Prop :=
  1 ≤ found.polls ∧ found.polls ≤ budget ∧ ∀ step < count, Passes base found step (replies step)

namespace StreamLemmas

open Session (Yields)

variable {world : World} {start : Nat} {base token : String} {reply : Reply}

/-! ## What one reply brings -/

/-- The object that a reply holds, read for a purpose. -/
def objectIn [Json.Nesting] (purpose : String) (reply : Reply) :
    Except Failure (List (String × Json)) :=
  reply >>= readObject purpose

theorem objectIn_eq_ok [Json.Nesting] {purpose : String} {members : List (String × Json)} :
    objectIn purpose reply = .ok members ↔ Holds reply members := by
  rw [objectIn, Except.bind_eq_ok]
  exact exists_congr fun body => and_congr Iff.rfl readObject_eq_ok

theorem objectIn_error [Json.Nesting] {purpose : String} {failure : Failure}
    (h : reply = .error failure) :
    objectIn purpose reply = .error failure := by
  rw [h]
  rfl

theorem textMember_eq_ok {purpose key text : String} {members : List (String × Json)} :
    textMember purpose key members = .ok text ↔
      Entries.get? members key = some (.str text) ∧ text ≠ "" := by
  unfold textMember
  constructor
  · intro h
    split at h
    · next value hget =>
      split at h
      · cases h
      · next hne =>
        cases h
        exact ⟨hget, by simpa using hne⟩
    · cases h
  · rintro ⟨hget, hne⟩
    simp [hget, hne]

theorem followUp_eq_ok {members : List (String × Json)} {url : String} :
    followUp base members = .ok url ↔ ∃ uri, Entries.get? members "uri" = some (.str uri) ∧
      uri ≠ "" ∧ Url.moveUnder base uri = .ok url := by
  rw [followUp, Except.bind_eq_ok]
  exact exists_congr fun uri => (and_congr textMember_eq_ok Except.mapError_eq_ok).trans and_assoc

theorem torrentId_eq_ok {members : List (String × Json)} {id : String} :
    torrentId members = .ok id ↔ ∃ value, Entries.get? members "id" = some value ∧
      value ≠ .null ∧ value.display = id ∧ id ≠ "" := by
  unfold torrentId
  cases Entries.get? members "id" with
  | none => simp
  | some value =>
    rw [Option.getD_some]
    split
    · simp
    · next hne =>
      constructor
      · intro h
        split at h
        · cases h
        · next hdisplay =>
          cases h
          exact ⟨value, rfl, hne, rfl, by simpa using hdisplay⟩
      · rintro ⟨_, ⟨⟩, _, rfl, hdisplay⟩
        rw [if_neg (by simpa using hdisplay)]

theorem torrentFiles_eq_ok {members : List (String × Json)} {files : List File} :
    torrentFiles members = .ok files ↔
      File.ofListing ((Entries.get? members "files").getD .null) = .ok files ∧ files ≠ [] := by
  rw [torrentFiles, Except.bind_eq_ok]
  constructor
  · rintro ⟨listed, hlisted, h⟩
    split at h
    · cases h
    · next hne =>
      cases h
      exact ⟨Except.mapError_eq_ok.mp hlisted, by simpa using hne⟩
  · rintro ⟨hlisted, hne⟩
    exact ⟨files, Except.mapError_eq_ok.mpr hlisted, if_neg (by simpa using hne)⟩

theorem firstLink_eq_ok {members : List (String × Json)} {link : String} :
    firstLink members = .ok link ↔ ∃ first rest,
      Entries.get? members "links" = some (.arr (first :: rest)) ∧ first.isSomething = true ∧
        first.display = link := by
  unfold firstLink
  constructor
  · intro h
    split at h
    · next first rest hget =>
      split at h
      · next hsome =>
        cases h
        exact ⟨first, rest, hget, hsome, rfl⟩
      · cases h
    · cases h
  · rintro ⟨first, rest, hget, hsome, rfl⟩
    simp [hget, hsome]

/-- What one poll makes of its reply. -/
def pollIn [Json.Nesting] (reply : Reply) : Except Failure Progress :=
  objectIn infoPurpose reply >>= fun info =>
    if (status info).isTerminal then .error (.terminalStatus (rawStatus info))
    else if status info = .downloaded then .ok (.downloaded info)
    else .ok (.waiting (rawStatus info))

theorem waits_of_pollIn [Json.Nesting] {raw : String} (h : pollIn reply = .ok (.waiting raw)) :
    Waits reply := by
  obtain ⟨members, hobject, hstatus⟩ := Except.bind_eq_ok.mp h
  split at hstatus
  · cases hstatus
  · next hterminal =>
    split at hstatus
    · cases hstatus
    · next hdone => exact ⟨members, objectIn_eq_ok.mp hobject, by simpa using hterminal, hdone⟩

theorem pollIn_of_waits [Json.Nesting] (h : Waits reply) :
    ∃ raw, pollIn reply = .ok (.waiting raw) := by
  obtain ⟨members, hholds, hterminal, hdone⟩ := h
  refine ⟨rawStatus members, ?_⟩
  rw [pollIn, objectIn_eq_ok.mpr hholds]
  show (if (status members).isTerminal = true then _ else _) = _
  rw [if_neg (by simp [hterminal]), if_neg hdone]

theorem downloaded_of_pollIn [Json.Nesting] {members : List (String × Json)}
    (h : pollIn reply = .ok (.downloaded members)) :
    Holds reply members ∧ status members = .downloaded := by
  obtain ⟨found, hobject, hstatus⟩ := Except.bind_eq_ok.mp h
  split at hstatus
  · cases hstatus
  · split at hstatus
    · next hdone =>
      cases hstatus
      exact ⟨objectIn_eq_ok.mp hobject, hdone⟩
    · cases hstatus

theorem pollIn_of_downloads [Json.Nesting] {raw link : String} (h : Downloads raw link reply) :
    ∃ members, pollIn reply = .ok (.downloaded members) ∧ rawStatus members = raw ∧
      firstLink members = .ok link := by
  obtain ⟨members, first, rest, hholds, hdone, hraw, hlinks, hsome, hlink⟩ := h
  refine ⟨members, ?_, hraw, firstLink_eq_ok.mpr ⟨first, rest, hlinks, hsome, hlink⟩⟩
  rw [pollIn, objectIn_eq_ok.mpr hholds]
  show (if (status members).isTerminal = true then _ else _) = _
  rw [hdone]
  rfl

/-! ## The steps -/

section Steps

variable (world : World) (start : Nat) (base token : String)

theorem submit_yields [Json.Nesting] (magnet : String) :
    (submit base token magnet).Yields world start
      (objectIn "Couldn't add torrent" (world.reply start) >>= followUp base)
      [⟨.post, base ++ addPath, token, some [("magnet", magnet)]⟩] := by
  rw [objectIn, bind_assoc]
  refine Yields.bind_ok (.log ..) (Yields.bind_quiet (.post ..) fun body => ?_)
  exact .lift rfl

theorem inspect_yields [Json.Nesting] (url : String) :
    (inspect token url).Yields world start (objectIn infoPurpose (world.reply start))
      [look token url] :=
  Yields.bind_quiet (.get token url) fun _ => .lift rfl

theorem choose_fails {id : String} {files : List File} {fault : Torrent.SelectionFault}
    (h : Torrent.selectFile files = .error fault) :
    (choose base token id files).Yields world start (.error (.noFile fault)) [] := by
  unfold choose
  exact Yields.bind_error (.lift (by rw [h]; rfl))

theorem choose_yields (id : String) {files : List File} {chosen : Int}
    (h : Torrent.selectFile files = .ok chosen) :
    (choose base token id files).Yields world start (world.reply start >>= fun _ => .ok chosen)
      [⟨.post, base ++ choosePath ++ id, token, some [("files", toString chosen)]⟩] := by
  unfold choose
  rw [h]
  refine Yields.bind_ok (.lift rfl) (Yields.bind_ok (.log ..) ?_)
  refine Yields.bind_quiet (.post ..) fun _ => ?_
  exact Yields.bind_ok (.log ..) (.pure chosen)

theorem poll_yields [Json.Nesting] (url id : String) (left : Nat) :
    (poll token url id left).Yields world start (pollIn (world.reply start))
      [look token url] := by
  refine Yields.bind_quiet (inspect_yields world start token url) fun info => ?_
  dsimp only
  split
  · exact Yields.bind_ok (.log ..) (.fail _)
  · split
    · exact .pure _
    · exact Yields.bind_ok (.log ..) (.pure _)

theorem timeOut_yields {α : Type} (polling : Polling) (id raw : String) :
    ∃ failure, (timeOut polling token id raw : Session α).Yields world start (.error failure) [] :=
  ⟨_, Yields.bind_ok (.log ..) (.fail _)⟩

/-- Polls go on while they show waiting, until the torrent is downloaded, a poll fails, or there are
none left. -/
theorem pollFrom_yields [Json.Nesting] (polling : Polling) (url id : String) (left : Nat) :
    ∃ k ≤ left, (∀ j < k, Waits (world.reply (start + j))) ∧
      ((∃ info, pollIn (world.reply (start + k)) = .ok (.downloaded info) ∧
          (pollFrom polling token url id left).Yields world start
            (.ok (info, polling.budget - (left - k)))
            (List.replicate (k + 1) (look token url))) ∨
        ∃ failure, (pollFrom polling token url id left).Yields world start (.error failure)
            (List.replicate (k + 1) (look token url)) ∧
          (pollIn (world.reply (start + k)) = .error failure ∨
            k = left ∧ Waits (world.reply (start + k)))) := by
  -- The induction is on the polls that are left; `start` moves on with the replies.
  induction left generalizing start with
  | zero =>
    have hpoll := poll_yields world start token url id 0
    refine ⟨0, Nat.le_refl 0, fun j hj => absurd hj (Nat.not_lt_zero j), ?_⟩
    cases hreply : pollIn (world.reply start) with
    | error failure =>
      rw [hreply] at hpoll
      exact .inr ⟨failure, hpoll.bind_error, .inl rfl⟩
    | ok progress =>
      rw [hreply] at hpoll
      cases progress with
      | downloaded info => exact .inl ⟨info, rfl, hpoll.bind_ok (.pure _)⟩
      | waiting raw =>
        obtain ⟨failure, hend⟩ := timeOut_yields (α := List (String × Json) × Nat) world (start + 1)
          token polling id raw
        exact .inr ⟨failure, hpoll.bind_ok hend, .inr ⟨rfl, waits_of_pollIn hreply⟩⟩
  | succ left ih =>
    have hpoll := poll_yields world start token url id (left + 1)
    cases hreply : pollIn (world.reply start) with
    | error failure =>
      rw [hreply] at hpoll
      exact ⟨0, Nat.zero_le _, fun j hj => absurd hj (Nat.not_lt_zero j),
        .inr ⟨failure, hpoll.bind_error, .inl hreply⟩⟩
    | ok progress =>
      rw [hreply] at hpoll
      cases progress with
      | downloaded info =>
        exact ⟨0, Nat.zero_le _, fun j hj => absurd hj (Nat.not_lt_zero j),
          .inl ⟨info, hreply, hpoll.bind_ok (.pure _)⟩⟩
      | waiting raw =>
        -- The first poll waits, so those of the rest come one later.
        obtain ⟨k, hk, hwaits, hrest⟩ := ih (start + 1)
        have hnext : ∀ j, start + 1 + j = start + (j + 1) := fun j => by omega
        refine ⟨k + 1, Nat.succ_le_succ hk, fun j hj => ?_, ?_⟩
        · cases j with
          | zero => exact waits_of_pollIn hreply
          | succ j => exact hnext j ▸ hwaits j (Nat.lt_of_succ_lt_succ hj)
        · rcases hrest with ⟨info, hinfo, hyields⟩ | ⟨failure, hyields, hlast⟩
          · refine .inl ⟨info, hnext k ▸ hinfo, ?_⟩
            rw [Nat.add_sub_add_right]
            exact hpoll.bind_ok (Yields.bind_ok (.pause _) hyields)
          · refine .inr ⟨failure, hpoll.bind_ok (Yields.bind_ok (.pause _) hyields), ?_⟩
            rw [hnext] at hlast
            exact hlast.imp_right fun ⟨hk, hw⟩ => ⟨congrArg (· + 1) hk, hw⟩

theorem unrestrict_yields [Json.Nesting] (link : String) (remote : Bool) :
    (unrestrict base token link remote).Yields world start
      (objectIn "Couldn't unrestrict link" (world.reply start) >>=
        textMember "Couldn't unrestrict link" "download")
      [⟨.post, base ++ unrestrictPath, token, some (unrestrictForm link remote)⟩] := by
  refine Yields.bind_ok (.log ..) ?_
  rw [objectIn, bind_assoc]
  refine Yields.bind_quiet (.post ..) fun body => ?_
  dsimp only
  cases readObject "Couldn't unrestrict link" body >>=
      textMember "Couldn't unrestrict link" "download" with
  | error failure => exact Yields.bind_error (.lift rfl)
  | ok url => exact Yields.bind_ok (.lift rfl) (Yields.bind_ok (.log ..) (.pure url))

end Steps

/-! ## What the replies bring together -/

theorem holds_inj [Json.Nesting] {members others : List (String × Json)} (h : Holds reply members)
    (h' : Holds reply others) : members = others := by
  have hread : objectIn infoPurpose reply = .ok members := objectIn_eq_ok.mpr h
  rw [objectIn_eq_ok.mpr h'] at hread
  exact (Except.ok.inj hread).symm

theorem addresses_iff [Json.Nesting] {url : String} :
    (objectIn "Couldn't add torrent" reply >>= followUp base) = .ok url ↔
      Addresses base url reply := by
  rw [Except.bind_eq_ok]
  constructor
  · rintro ⟨members, hobject, hfollow⟩
    obtain ⟨uri, hget, hne, hmove⟩ := followUp_eq_ok.mp hfollow
    exact ⟨members, uri, objectIn_eq_ok.mp hobject, hget, hne, hmove⟩
  · rintro ⟨members, uri, hholds, hget, hne, hmove⟩
    exact ⟨members, objectIn_eq_ok.mpr hholds, followUp_eq_ok.mpr ⟨uri, hget, hne, hmove⟩⟩

theorem describes_iff [Json.Nesting] {id : String} {files : List File} {chosen : Int} :
    Describes id files chosen reply ↔ ∃ members, Holds reply members ∧
      torrentId members = .ok id ∧ torrentFiles members = .ok files ∧
        Torrent.selectFile files = .ok chosen := by
  constructor
  · rintro ⟨members, value, hholds, hget, hnull, hdisplay, hne, hlisted, hfiles, hchosen⟩
    exact ⟨members, hholds, torrentId_eq_ok.mpr ⟨value, hget, hnull, hdisplay, hne⟩,
      torrentFiles_eq_ok.mpr ⟨hlisted, hfiles⟩, hchosen⟩
  · rintro ⟨members, hholds, hid, hfiles, hchosen⟩
    obtain ⟨value, hget, hnull, hdisplay, hne⟩ := torrentId_eq_ok.mp hid
    obtain ⟨hlisted, hsome⟩ := torrentFiles_eq_ok.mp hfiles
    exact ⟨members, value, hholds, hget, hnull, hdisplay, hne, hlisted, hsome, hchosen⟩

theorem downloads_iff [Json.Nesting] {raw link : String} :
    Downloads raw link reply ↔ ∃ members, pollIn reply = .ok (.downloaded members) ∧
      rawStatus members = raw ∧ firstLink members = .ok link := by
  constructor
  · exact pollIn_of_downloads
  · rintro ⟨members, hpoll, hraw, hlink⟩
    obtain ⟨hholds, hdone⟩ := downloaded_of_pollIn hpoll
    obtain ⟨first, rest, hlinks, hsome, hdisplay⟩ := firstLink_eq_ok.mp hlink
    exact ⟨members, first, rest, hholds, hdone, hraw, hlinks, hsome, hdisplay⟩

theorem unrestricts_iff [Json.Nesting] {streamUrl : String} :
    (objectIn "Couldn't unrestrict link" reply >>=
        textMember "Couldn't unrestrict link" "download") = .ok streamUrl ↔
      Unrestricts streamUrl reply := by
  rw [Except.bind_eq_ok]
  exact exists_congr fun members => and_congr objectIn_eq_ok textMember_eq_ok

theorem not_downloads_of_waits [Json.Nesting] {raw link : String} (h : Waits reply) :
    ¬ Downloads raw link reply := by
  intro hdone
  obtain ⟨_, hwaiting⟩ := pollIn_of_waits h
  obtain ⟨_, hdownloaded, _⟩ := downloads_iff.mp hdone
  rw [hwaiting] at hdownloaded
  cases hdownloaded

section Explaining

variable {found other : Findings} {budget k : Nat} {replies : Nat → Reply}

theorem length_itinerary {magnet : String} {remote : Bool} :
    (itinerary base token magnet remote found).length = found.polls + 4 := by
  simp [itinerary, opening]

theorem take_itinerary {magnet : String} {remote : Bool} {polls : Nat}
    (h : found.polls = polls) :
    (itinerary base token magnet remote found).take (polls + 3) =
      opening base token magnet found ++ List.replicate polls (look token found.url) := by
  unfold itinerary
  rw [h]
  exact List.take_left' (by simp [opening])

variable [Json.Nesting]

/-- Findings that agree with polls that wait allow for one more poll. -/
theorem polls_gt (h : other.Explains base budget replies (k + 3))
    (hwaits : ∀ j < k, Waits (replies (j + 3))) : k < other.polls := by
  obtain ⟨hone, _, hpasses⟩ := h
  rcases Nat.lt_or_ge k other.polls with hlt | hle
  · exact hlt
  · have hpass := hpasses (other.polls - 1 + 3) (by omega)
    simp only [Passes] at hpass
    rw [if_neg (by omega), if_pos (by omega)] at hpass
    exact absurd hpass (not_downloads_of_waits (hwaits _ (by omega)))

/-- A poll that findings agree with waits or shows a link. -/
theorem passes_poll (h : Passes base other (k + 3) reply) (hk : k < other.polls) :
    (k + 1 < other.polls ∧ Waits reply) ∨
      k + 1 = other.polls ∧ Downloads other.raw other.link reply := by
  simp only [Passes] at h
  split at h
  · next hlt => exact .inl ⟨hlt, h⟩
  · next hge =>
    rw [if_pos (by omega)] at h
    exact .inr ⟨by omega, h⟩

theorem explains_of_waits (haddress : Addresses base found.url (replies 0))
    (hdescribe : Describes found.id found.files found.chosen (replies 1)) {body : List UInt8}
    (hcommit : replies 2 = .ok body) (hpolls : found.polls = k + 1) (hk : k + 1 ≤ budget)
    (hwaits : ∀ j < k, Waits (replies (j + 3))) : found.Explains base budget replies (k + 3) := by
  refine ⟨by omega, by omega, fun step hstep => ?_⟩
  match step with
  | 0 => exact haddress
  | 1 => exact hdescribe
  | 2 => exact ⟨body, hcommit⟩
  | j + 3 =>
    rw [Passes, if_pos (by omega)]
    exact hwaits j (by omega)

theorem explains_succ {count : Nat} (h : found.Explains base budget replies count)
    (hlast : Passes base found count (replies count)) :
    found.Explains base budget replies (count + 1) := by
  obtain ⟨hone, hbudget, hpasses⟩ := h
  refine ⟨hone, hbudget, fun step hstep => ?_⟩
  rcases Nat.lt_succ_iff_lt_or_eq.mp hstep with hlt | rfl
  · exact hpasses step hlt
  · exact hlast

theorem explains_mono {count fewer : Nat} (h : found.Explains base budget replies count)
    (hle : fewer ≤ count) : found.Explains base budget replies fewer :=
  ⟨h.1, h.2.1, fun step hstep => h.2.2 step (Nat.lt_of_lt_of_le hstep hle)⟩

theorem ok_of_passes {step : Nat} (h : Passes base found step reply) :
    ∃ body, reply = .ok body := by
  match step with
  | 0 =>
    obtain ⟨_, _, ⟨body, hbody, _⟩, _⟩ := h
    exact ⟨body, hbody⟩
  | 1 =>
    obtain ⟨_, _, ⟨body, hbody, _⟩, _⟩ := h
    exact ⟨body, hbody⟩
  | 2 => exact h
  | step + 3 =>
    rw [Passes] at h
    split at h
    · obtain ⟨_, ⟨body, hbody, _⟩, _⟩ := h
      exact ⟨body, hbody⟩
    · split at h
      · obtain ⟨_, _, _, ⟨body, hbody, _⟩, _⟩ := h
        exact ⟨body, hbody⟩
      · obtain ⟨_, ⟨body, hbody, _⟩, _⟩ := h
        exact ⟨body, hbody⟩

/-- The last poll of findings shows a link. -/
theorem downloads_of_explains {count : Nat} (h : found.Explains base budget replies count)
    (hle : found.polls + 3 ≤ count) :
    Downloads found.raw found.link (replies (found.polls + 2)) := by
  obtain ⟨hone, _, hpasses⟩ := h
  have hpass := hpasses (found.polls - 1 + 3) (by omega)
  rw [Passes, if_neg (by omega), if_pos (by omega)] at hpass
  rwa [show found.polls - 1 + 3 = found.polls + 2 by omega] at hpass

/-- Of two findings that agree with the replies, neither polls on behind the last poll of the other.
-/
theorem polls_le {count most : Nat} (h : found.Explains base budget replies count)
    (hle : found.polls + 3 ≤ count) (h' : other.Explains base budget replies most)
    (hmost : found.polls + 3 ≤ most) : other.polls ≤ found.polls := by
  have hdone := downloads_of_explains h hle
  obtain ⟨hone, _, _⟩ := h
  rcases Nat.lt_or_ge found.polls other.polls with hlt | hge
  · have hpass := h'.2.2 (found.polls - 1 + 3) (by omega)
    rw [Passes, if_pos (by omega), show found.polls - 1 + 3 = found.polls + 2 by omega] at hpass
    exact absurd hdone (not_downloads_of_waits hpass)
  · exact hge

/-- The reply behind the last poll makes the link public. -/
theorem unrestricts_of_explains {count : Nat} (h : found.Explains base budget replies count)
    (hle : found.polls + 4 ≤ count) : Unrestricts found.streamUrl (replies (found.polls + 3)) := by
  have hpass := h.2.2 (found.polls + 3) (by omega)
  rwa [Passes, if_neg (by omega), if_neg (by omega)] at hpass

/-- What was shown on a whole way is nothing empty. -/
theorem ne_empty_of_explains (h : found.Explains base budget replies (found.polls + 4)) :
    found.id ≠ "" ∧ found.link ≠ "" ∧ found.streamUrl ≠ "" := by
  obtain ⟨_, _, _, _, _, _, hid, _⟩ := h.2.2 1 (by omega)
  obtain ⟨_, _, _, _, _, _, _, hsome, hlink⟩ := downloads_of_explains h (by omega)
  obtain ⟨_, _, _, hpublic⟩ := unrestricts_of_explains h (Nat.le_refl _)
  exact ⟨hid, hlink ▸ Json.display_ne_empty hsome, hpublic⟩

/-- Only one way to a stream agrees with all replies. -/
theorem explains_unique (h : found.Explains base budget replies (found.polls + 4))
    (h' : other.Explains base budget replies (other.polls + 4)) : other = found := by
  have hpolls : other.polls = found.polls := by
    rcases Nat.le_total found.polls other.polls with hle | hle
    · exact Nat.le_antisymm (polls_le h (by omega) h' (by omega)) hle
    · exact Nat.le_antisymm hle (polls_le h' (by omega) h (by omega))
  have hurl : other.url = found.url := by
    have hfound := addresses_iff.mpr (h.2.2 0 (by omega))
    rw [addresses_iff.mpr (h'.2.2 0 (by omega))] at hfound
    exact Except.ok.inj hfound
  -- Each fact is read from a reply that both have to agree with.
  obtain ⟨members, hholds, hid, hfiles, hchosen⟩ := describes_iff.mp (h.2.2 1 (by omega))
  obtain ⟨members', hholds', hid', hfiles', hchosen'⟩ := describes_iff.mp (h'.2.2 1 (by omega))
  rw [holds_inj hholds' hholds, hid] at hid'
  rw [holds_inj hholds' hholds, hfiles] at hfiles'
  rw [← Except.ok.inj hfiles', hchosen] at hchosen'
  obtain ⟨info, hinfo, hraw, hlink⟩ := downloads_iff.mp (downloads_of_explains h (by omega))
  obtain ⟨info', hinfo', hraw', hlink'⟩ := downloads_iff.mp (downloads_of_explains h' (by omega))
  rw [hpolls, hinfo] at hinfo'
  cases hinfo'
  rw [hlink] at hlink'
  have hpublic := unrestricts_iff.mpr (unrestricts_of_explains h (Nat.le_refl _))
  have hpublic' := unrestricts_iff.mpr (unrestricts_of_explains h' (Nat.le_refl _))
  rw [hpolls, hpublic] at hpublic'
  cases found
  cases other
  simp only [Findings.mk.injEq]
  exact ⟨hurl, (Except.ok.inj hid').symm, (Except.ok.inj hfiles').symm,
    (Except.ok.inj hchosen').symm, hpolls, hraw'.symm.trans hraw, (Except.ok.inj hlink').symm,
    (Except.ok.inj hpublic').symm⟩

end Explaining

/-! ## The whole way -/

section Resolving

variable [Json.Nesting] {polling : Polling} {magnet : String} {remote : Bool}

/-- A resolution that stops: the requests so far lie on an itinerary, and no findings agree with all
the replies, the last one included. -/
def Stops (base token magnet : String) (remote : Bool) (polling : Polling) (world : World) : Prop :=
  ∃ (found : Findings) (count : Nat) (failure : Failure), count ≤ found.polls + 3 ∧
    found.Explains base polling.budget world.reply count ∧
    (resolve polling base token magnet remote).Yields world 0 (.error failure)
      ((itinerary base token magnet remote found).take (count + 1)) ∧
    (∀ other : Findings, ¬ other.Explains base polling.budget world.reply (count + 1)) ∧
    ∀ raised, world.reply count = .error raised → failure = raised

/-- A resolution that gets to its end, along a whole itinerary. -/
def Arrives (base token magnet : String) (remote : Bool) (polling : Polling) (world : World) :
    Prop :=
  ∃ found : Findings, found.Explains base polling.budget world.reply (found.polls + 4) ∧
    (resolve polling base token magnet remote).Yields world 0
      (.ok (found.resolution magnet remote)) (itinerary base token magnet remote found)

theorem stops_at_submission (h : 1 ≤ polling.budget) {failure : Failure}
    (haddress : (objectIn "Couldn't add torrent" (world.reply 0) >>= followUp base) =
      .error failure) : Stops base token magnet remote polling world := by
  refine ⟨⟨"", "", [], 0, 1, "", "", ""⟩, 0, failure, by omega,
    ⟨Nat.le_refl 1, h, fun step hstep => absurd hstep (Nat.not_lt_zero step)⟩, ?_, ?_, ?_⟩
  · have hsubmit := submit_yields world 0 base token magnet
    rw [haddress] at hsubmit
    exact hsubmit.bind_error
  · rintro other ⟨_, _, hpasses⟩
    have haddressed := addresses_iff.mpr (hpasses 0 Nat.zero_lt_one)
    rw [haddress] at haddressed
    cases haddressed
  · intro raised hraised
    rw [hraised] at haddress
    cases haddress
    rfl

/-- A resolution ends with the first look at the torrent unless this describes it. -/
theorem stops_at_description (h : 1 ≤ polling.budget) {url : String} {failure : Failure}
    (haddress : Addresses base url (world.reply 0))
    (hrun : (resolve polling base token magnet remote).Yields world 0 (.error failure)
      [⟨.post, base ++ addPath, token, some [("magnet", magnet)]⟩, look token url])
    (hnone : ∀ id files chosen, ¬ Describes id files chosen (world.reply 1))
    (hraised : ∀ raised, world.reply 1 = .error raised → failure = raised) :
    Stops base token magnet remote polling world := by
  refine ⟨⟨url, "", [], 0, 1, "", "", ""⟩, 1, failure, by omega,
    ⟨Nat.le_refl 1, h, fun step hstep => ?_⟩, hrun, ?_, hraised⟩
  · rw [Nat.lt_one_iff.mp hstep]
    exact haddress
  · rintro other ⟨_, _, hpasses⟩
    exact hnone _ _ _ (hpasses 1 (by omega))

/-- A resolution that looks at the torrent either gets its description or ends there. -/
theorem stops_or_describes (h : 1 ≤ polling.budget) {url : String}
    (haddress : (objectIn "Couldn't add torrent" (world.reply 0) >>= followUp base) = .ok url) :
    Stops base token magnet remote polling world ∨
      ∃ members id files chosen, objectIn infoPurpose (world.reply 1) = .ok members ∧
        torrentId members = .ok id ∧ torrentFiles members = .ok files ∧
          Torrent.selectFile files = .ok chosen := by
  have haddressed := addresses_iff.mp haddress
  have hsubmit := submit_yields world 0 base token magnet
  have hinspect := inspect_yields world 1 token url
  rw [haddress] at hsubmit
  cases hobject : objectIn infoPurpose (world.reply 1) with
  | error failure =>
    rw [hobject] at hinspect
    refine .inl (stops_at_description h haddressed (hsubmit.bind_ok hinspect.bind_error) ?_ ?_)
    · intro id files chosen hdescribes
      obtain ⟨members, hholds, _⟩ := describes_iff.mp hdescribes
      rw [objectIn_eq_ok.mpr hholds] at hobject
      cases hobject
    · intro raised hraised
      rw [objectIn_error hraised] at hobject
      cases hobject
      rfl
  | ok members =>
    rw [hobject] at hinspect
    -- The reply holds an object, so it stops the resolution only if this is no description.
    have hstop : ∀ failure, (resolve polling base token magnet remote).Yields world 0
          (.error failure)
          [⟨.post, base ++ addPath, token, some [("magnet", magnet)]⟩, look token url] →
        (∀ id files chosen, torrentId members = .ok id → torrentFiles members = .ok files →
          Torrent.selectFile files ≠ .ok chosen) →
        Stops base token magnet remote polling world := by
      intro failure hrun hnone
      refine stops_at_description h haddressed hrun ?_ ?_
      · intro id files chosen hdescribes
        obtain ⟨others, hholds, hid, hfiles, hchosen⟩ := describes_iff.mp hdescribes
        rw [holds_inj hholds (objectIn_eq_ok.mp hobject)] at hid hfiles
        exact hnone id files chosen hid hfiles hchosen
      · intro raised hraised
        rw [objectIn_error hraised] at hobject
        cases hobject
    cases hid : torrentId members with
    | error failure =>
      refine .inl (hstop failure (hsubmit.bind_ok (hinspect.bind_ok
        (Yields.bind_error (.lift hid)))) ?_)
      intro id files chosen hfound
      rw [hid] at hfound
      cases hfound
    | ok id =>
      cases hfiles : torrentFiles members with
      | error failure =>
        refine .inl (hstop failure (hsubmit.bind_ok (hinspect.bind_ok
          (Yields.bind_ok (.lift hid) (Yields.bind_error (.lift hfiles))))) ?_)
        intro id files chosen _ hfound
        rw [hfiles] at hfound
        cases hfound
      | ok files =>
        cases hchosen : Torrent.selectFile files with
        | error fault =>
          refine .inl (hstop (.noFile fault) (hsubmit.bind_ok (hinspect.bind_ok
            (Yields.bind_ok (.lift hid) (Yields.bind_ok (.lift hfiles)
              (choose_fails world 2 base token hchosen).bind_error)))) ?_)
          intro id others chosen _ hothers
          rw [hfiles] at hothers
          cases hothers
          rw [hchosen]
          exact fun heq => nomatch heq
        | ok chosen => exact .inr ⟨members, id, files, chosen, rfl, hid, hfiles, hchosen⟩

/-- What the first replies have brought when the choice of a file is to be committed. -/
structure Described (base : String) (world : World) (url id : String) (files : List File)
    (chosen : Int) (members : List (String × Json)) : Prop where
  address_ok : (objectIn "Couldn't add torrent" (world.reply 0) >>= followUp base) = .ok url
  object_ok : objectIn infoPurpose (world.reply 1) = .ok members
  id_ok : torrentId members = .ok id
  files_ok : torrentFiles members = .ok files
  chosen_ok : Torrent.selectFile files = .ok chosen

section Described

variable {url id : String} {files : List File} {chosen : Int} {members : List (String × Json)}

theorem Described.addresses (h : Described base world url id files chosen members) :
    Addresses base url (world.reply 0) :=
  addresses_iff.mp h.address_ok

theorem Described.describes (h : Described base world url id files chosen members) :
    Describes id files chosen (world.reply 1) :=
  describes_iff.mpr ⟨members, objectIn_eq_ok.mp h.object_ok, h.id_ok, h.files_ok, h.chosen_ok⟩

theorem stops_at_commit (hbudget : 1 ≤ polling.budget)
    (h : Described base world url id files chosen members) {failure : Failure}
    (hcommit : world.reply 2 = .error failure) :
    Stops base token magnet remote polling world := by
  have hsubmit := submit_yields world 0 base token magnet
  have hinspect := inspect_yields world 1 token url
  have hchoose := choose_yields world 2 base token id h.chosen_ok
  rw [h.address_ok] at hsubmit
  rw [h.object_ok] at hinspect
  rw [hcommit] at hchoose
  refine ⟨⟨url, id, files, chosen, 1, "", "", ""⟩, 2, failure, by omega,
    ⟨Nat.le_refl 1, hbudget, fun step hstep => ?_⟩, ?_, ?_, ?_⟩
  · match step with
    | 0 => exact h.addresses
    | 1 => exact h.describes
  · exact hsubmit.bind_ok (hinspect.bind_ok (Yields.bind_ok (.lift h.id_ok)
      (Yields.bind_ok (.lift h.files_ok) hchoose.bind_error)))
  · rintro other ⟨_, _, hpasses⟩
    obtain ⟨body, hbody⟩ := hpasses 2 (by omega)
    rw [hcommit] at hbody
    cases hbody
  · intro raised hraised
    rw [hcommit] at hraised
    cases hraised
    rfl

end Described

/-- A resolution ends with a poll that neither waits nor shows a link. -/
theorem stops_at_poll {found : Findings} {k : Nat} {failure : Failure}
    (hfound : found.Explains base polling.budget world.reply (k + 3))
    (hpolls : found.polls = k + 1) (hwaits : ∀ j < k, Waits (world.reply (j + 3)))
    (hrun : (resolve polling base token magnet remote).Yields world 0 (.error failure)
      (opening base token magnet found ++ List.replicate (k + 1) (look token found.url)))
    (hwaiting : k + 1 < polling.budget → ¬ Waits (world.reply (k + 3)))
    (hlink : ∀ raw link, ¬ Downloads raw link (world.reply (k + 3)))
    (hraised : ∀ raised, world.reply (k + 3) = .error raised → failure = raised) :
    Stops base token magnet remote polling world := by
  refine ⟨found, k + 3, failure, by omega, hfound, ?_, ?_, hraised⟩
  · rwa [← take_itinerary hpolls] at hrun
  · rintro other ⟨hone, hbudget, hpasses⟩
    have hk := polls_gt ⟨hone, hbudget, fun step hstep => hpasses step (by omega)⟩ hwaits
    rcases passes_poll (hpasses (k + 3) (by omega)) hk with ⟨hlt, hwait⟩ | ⟨_, hdone⟩
    · exact hwaiting (by omega) hwait
    · exact hlink _ _ hdone

/-! ### After the choice of a file -/

/-- What is left of a resolution when the torrent is downloaded. -/
def release (base token magnet : String) (remote : Bool) (url id : String) (files : List File)
    (chosen : Int) : List (String × Json) × Nat → Session Resolution
  | (info, polls) => do
    let link ← .lift (firstLink info)
    let shown := [tokenField token, ("torrent_id", .str id), ("polls", .int polls)]
    .log .debug "torrent_downloaded" shown
    let streamUrl ← unrestrict base token link remote
    .log .info "stream_resolved" shown
    pure ⟨magnet, remote, url, id, .downloaded, rawStatus info, files, chosen, polls, link,
      streamUrl⟩

theorem release_yields (world : World) (start : Nat) (base token magnet : String) (remote : Bool)
    (url id : String) (files : List File) (chosen : Int) {info : List (String × Json)}
    {link : String} (polls : Nat) (hlink : firstLink info = .ok link) :
    (release base token magnet remote url id files chosen (info, polls)).Yields world start
      ((objectIn "Couldn't unrestrict link" (world.reply start) >>=
        textMember "Couldn't unrestrict link" "download").map fun streamUrl =>
          ⟨magnet, remote, url, id, .downloaded, rawStatus info, files, chosen, polls, link,
            streamUrl⟩)
      [⟨.post, base ++ unrestrictPath, token, some (unrestrictForm link remote)⟩] := by
  have hunrestrict := unrestrict_yields world start base token link remote
  refine Yields.bind_ok (.lift hlink) (Yields.bind_ok (.log ..) ?_)
  cases hpublic : objectIn "Couldn't unrestrict link" (world.reply start) >>=
      textMember "Couldn't unrestrict link" "download" with
  | error failure =>
    rw [hpublic] at hunrestrict
    exact hunrestrict.bind_error
  | ok streamUrl =>
    rw [hpublic] at hunrestrict
    exact hunrestrict.bind_last (Yields.bind_ok (.log ..) (.pure _))

section Committed

variable {url id : String} {files : List File} {chosen : Int} {members info : List (String × Json)}
  {body : List UInt8} {k : Nat}

/-- Once the choice of a file is committed, a resolution goes on with the polls. -/
theorem resolve_polls {result : Except Failure Resolution} {requests : List Call}
    (polls : Nat) (raw link streamUrl : String)
    (h : Described base world url id files chosen members) (hcommit : world.reply 2 = .ok body)
    (hrest : (awaitDownload polling token url id >>=
      release base token magnet remote url id files chosen).Yields world 3 result requests) :
    (resolve polling base token magnet remote).Yields world 0 result
      (opening base token magnet ⟨url, id, files, chosen, polls, raw, link, streamUrl⟩ ++
        requests) := by
  have hsubmit := submit_yields world 0 base token magnet
  have hinspect := inspect_yields world 1 token url
  have hchoose := choose_yields world 2 base token id h.chosen_ok
  rw [h.address_ok] at hsubmit
  rw [h.object_ok] at hinspect
  rw [hcommit] at hchoose
  exact hsubmit.bind_ok (hinspect.bind_ok (Yields.bind_ok (.lift h.id_ok)
    (Yields.bind_ok (.lift h.files_ok) (hchoose.bind_ok hrest))))

/-- The findings of a resolution that has polled so far. -/
theorem Described.explains (h : Described base world url id files chosen members)
    (hcommit : world.reply 2 = .ok body) (hk : k + 1 ≤ polling.budget)
    (hwaits : ∀ j < k, Waits (world.reply (j + 3))) (raw link streamUrl : String) :
    Findings.Explains base polling.budget world.reply (k + 3)
      ⟨url, id, files, chosen, k + 1, raw, link, streamUrl⟩ :=
  explains_of_waits h.addresses h.describes hcommit rfl hk hwaits

/-- A resolution ends with a poll that fails, and with a poll that waits if it is the last one. -/
theorem stops_without_download (h : Described base world url id files chosen members)
    (hcommit : world.reply 2 = .ok body) (hk : k + 1 ≤ polling.budget)
    (hwaits : ∀ j < k, Waits (world.reply (j + 3))) {failure : Failure}
    (hawait : (awaitDownload polling token url id).Yields world 3 (.error failure)
      (List.replicate (k + 1) (look token url)))
    (hlast : pollIn (world.reply (k + 3)) = .error failure ∨
      k + 1 = polling.budget ∧ Waits (world.reply (k + 3))) :
    Stops base token magnet remote polling world := by
  refine stops_at_poll (h.explains hcommit hk hwaits "" "" "") rfl hwaits
    (resolve_polls _ _ _ _ h hcommit hawait.bind_error) ?_ ?_ ?_
  -- A poll that waits is the last one of the budget.
  · intro hmore hwait
    obtain ⟨raw, hwaiting⟩ := pollIn_of_waits hwait
    rcases hlast with hfailed | ⟨hend, _⟩
    · rw [hfailed] at hwaiting
      cases hwaiting
    · omega
  · intro raw link hdone
    obtain ⟨_, hdownloaded, _⟩ := downloads_iff.mp hdone
    rcases hlast with hfailed | ⟨_, hwait⟩
    · rw [hfailed] at hdownloaded
      cases hdownloaded
    · exact not_downloads_of_waits hwait hdone
  · intro raised hraised
    have hpoll : pollIn (world.reply (k + 3)) = .error raised := by
      rw [pollIn, objectIn_error hraised]
      rfl
    rcases hlast with hfailed | ⟨_, hwait⟩
    · rw [hpoll] at hfailed
      cases hfailed
      rfl
    · obtain ⟨_, hwaiting⟩ := pollIn_of_waits hwait
      rw [hpoll] at hwaiting
      cases hwaiting

/-- A resolution ends with a poll that shows a downloaded torrent without a link. -/
theorem stops_without_link (h : Described base world url id files chosen members)
    (hcommit : world.reply 2 = .ok body) (hk : k + 1 ≤ polling.budget)
    (hwaits : ∀ j < k, Waits (world.reply (j + 3)))
    (hinfo : pollIn (world.reply (k + 3)) = .ok (.downloaded info))
    (hawait : (awaitDownload polling token url id).Yields world 3 (.ok (info, k + 1))
      (List.replicate (k + 1) (look token url))) {failure : Failure}
    (hlink : firstLink info = .error failure) : Stops base token magnet remote polling world := by
  refine stops_at_poll (h.explains hcommit hk hwaits "" "" "") rfl hwaits
    (resolve_polls _ _ _ _ h hcommit (hawait.bind_last (Yields.bind_error (.lift hlink)))) ?_ ?_ ?_
  · intro _ hwait
    obtain ⟨raw, hwaiting⟩ := pollIn_of_waits hwait
    rw [hinfo] at hwaiting
    cases hwaiting
  · intro raw link hdone
    obtain ⟨others, hothers, _, hfound⟩ := downloads_iff.mp hdone
    rw [hinfo] at hothers
    cases hothers
    rw [hlink] at hfound
    cases hfound
  · intro raised hraised
    rw [pollIn, objectIn_error hraised] at hinfo
    cases hinfo

/-- A resolution whose last poll shows a link ends with the reply that is to make it public. -/
theorem stops_at_unrestriction {found : Findings} {failure : Failure}
    (hfound : found.Explains base polling.budget world.reply (k + 4))
    (hpolls : found.polls = k + 1) (hwaits : ∀ j < k, Waits (world.reply (j + 3)))
    (hlink : Downloads found.raw found.link (world.reply (k + 3)))
    (hrun : (resolve polling base token magnet remote).Yields world 0 (.error failure)
      (itinerary base token magnet remote found))
    (hpublic : (objectIn "Couldn't unrestrict link" (world.reply (k + 4)) >>=
      textMember "Couldn't unrestrict link" "download") = .error failure) :
    Stops base token magnet remote polling world := by
  refine ⟨found, k + 4, failure, by omega, hfound, ?_, ?_, ?_⟩
  · rwa [List.take_of_length_le (by rw [length_itinerary]; omega)]
  -- Other findings have their last poll here as well, and fail with the same reply.
  · rintro other ⟨hone, hbudget, hpasses⟩
    have hk := polls_gt ⟨hone, hbudget, fun step hstep => hpasses step (by omega)⟩ hwaits
    rcases passes_poll (hpasses (k + 3) (by omega)) hk with ⟨_, hwait⟩ | ⟨hlast, _⟩
    · exact not_downloads_of_waits hwait hlink
    · have hpass := hpasses (k + 4) (by omega)
      rw [Passes, if_neg (by omega), if_neg (by omega)] at hpass
      rw [unrestricts_iff.mpr hpass] at hpublic
      cases hpublic
  · intro raised hraised
    rw [objectIn_error hraised] at hpublic
    cases hpublic
    rfl

/-- A resolution whose last poll shows a link gets to its end if the next reply makes it public. -/
theorem arrives_or_stops_at_link (h : Described base world url id files chosen members)
    (hcommit : world.reply 2 = .ok body) (hk : k + 1 ≤ polling.budget)
    (hwaits : ∀ j < k, Waits (world.reply (j + 3)))
    (hinfo : pollIn (world.reply (k + 3)) = .ok (.downloaded info))
    (hawait : (awaitDownload polling token url id).Yields world 3 (.ok (info, k + 1))
      (List.replicate (k + 1) (look token url))) {link : String}
    (hlink : firstLink info = .ok link) :
    Arrives base token magnet remote polling world ∨
      Stops base token magnet remote polling world := by
  have hdone : Downloads (rawStatus info) link (world.reply (k + 3)) :=
    downloads_iff.mpr ⟨info, hinfo, rfl, hlink⟩
  have hexplained : ∀ streamUrl, Findings.Explains base polling.budget world.reply (k + 4)
      ⟨url, id, files, chosen, k + 1, rawStatus info, link, streamUrl⟩ := by
    intro streamUrl
    refine explains_succ (h.explains hcommit hk hwaits _ _ _) ?_
    rw [Passes, if_neg (Nat.lt_irrefl _), if_pos rfl]
    exact hdone
  have hrelease := release_yields world (3 + (List.replicate (k + 1) (look token url)).length) base
    token magnet remote url id files chosen (k + 1) hlink
  have hrun := fun streamUrl => resolve_polls (k + 1) (rawStatus info) link streamUrl h hcommit
    (hawait.bind_ok hrelease)
  have hstart : 3 + (List.replicate (k + 1) (look token url)).length = k + 4 := by
    rw [List.length_replicate]
    omega
  rw [hstart] at hrun
  cases hpublic : objectIn "Couldn't unrestrict link" (world.reply (k + 4)) >>=
      textMember "Couldn't unrestrict link" "download" with
  | error failure =>
    rw [hpublic] at hrun
    refine .inr (stops_at_unrestriction (hexplained "") rfl hwaits hdone ?_ hpublic)
    rw [itinerary, List.append_assoc]
    exact hrun ""
  | ok streamUrl =>
    rw [hpublic] at hrun
    have hlast : Passes base ⟨url, id, files, chosen, k + 1, rawStatus info, link, streamUrl⟩
        (k + 4) (world.reply (k + 4)) := by
      rw [Passes, if_neg (by dsimp only; omega), if_neg (by dsimp only; omega)]
      exact unrestricts_iff.mp hpublic
    refine .inl ⟨_, explains_succ (hexplained streamUrl) hlast, ?_⟩
    rw [itinerary, List.append_assoc]
    exact hrun streamUrl

/-- Once the choice of a file is committed, a resolution gets to its end or stops. -/
theorem arrives_or_stops_polling (hbudget : 1 ≤ polling.budget)
    (h : Described base world url id files chosen members) (hcommit : world.reply 2 = .ok body) :
    Arrives base token magnet remote polling world ∨
      Stops base token magnet remote polling world := by
  obtain ⟨k, hk, hwaits, hpolls⟩ := pollFrom_yields world 3 token polling url id
    (polling.budget - 1)
  replace hwaits : ∀ j < k, Waits (world.reply (j + 3)) :=
    fun j hj => Nat.add_comm 3 j ▸ hwaits j hj
  rw [Nat.add_comm 3 k] at hpolls
  have hle : k + 1 ≤ polling.budget := by omega
  rcases hpolls with ⟨info, hinfo, hawait⟩ | ⟨failure, hawait, hlast⟩
  · have hcount : polling.budget - (polling.budget - 1 - k) = k + 1 := by omega
    rw [hcount] at hawait
    cases hlink : firstLink info with
    | error failure => exact .inr (stops_without_link h hcommit hle hwaits hinfo hawait hlink)
    | ok link => exact arrives_or_stops_at_link h hcommit hle hwaits hinfo hawait hlink
  · refine .inr (stops_without_download h hcommit hle hwaits hawait (hlast.imp_right ?_))
    exact fun ⟨hend, hwait⟩ => ⟨by omega, hwait⟩

end Committed

/-- A resolution gets to its end or stops. -/
theorem arrives_or_stops (h : 1 ≤ polling.budget) :
    Arrives base token magnet remote polling world ∨
      Stops base token magnet remote polling world := by
  cases haddress : objectIn "Couldn't add torrent" (world.reply 0) >>= followUp base with
  | error failure => exact .inr (stops_at_submission h haddress)
  | ok url =>
    rcases stops_or_describes h haddress with
      hstop | ⟨members, id, files, chosen, hobject, hid, hfiles, hchosen⟩
    · exact .inr hstop
    · have hdescribed : Described base world url id files chosen members :=
        ⟨haddress, hobject, hid, hfiles, hchosen⟩
      cases hcommit : world.reply 2 with
      | error failure => exact .inr (stops_at_commit h hdescribed hcommit)
      | ok body => exact arrives_or_stops_polling h hdescribed hcommit

end Resolving

end StreamLemmas

open StreamLemmas

/-- Whatever the service answers, a resolution goes along an itinerary: it stops with the first
reply that does not bring what its step needs, an error of the transport being its own error, and it
succeeds exactly when all replies bring it, with what they brought. -/
theorem resolve_itinerary [Json.Nesting] (polling : Polling) (base token magnet : String)
    (remote : Bool) (world : World) (hbudget : 1 ≤ polling.budget) :
    let run := (resolve polling base token magnet remote).runIn world
    let sent := calls run.trace
    run.state = world.spend sent.length ∧
      (∃ found : Findings, found.Explains base polling.budget world.reply (sent.length - 1) ∧
        sent = (itinerary base token magnet remote found).take sent.length) ∧
      (∀ failure, run.result = .error failure → ∀ found : Findings,
        ¬ found.Explains base polling.budget world.reply sent.length) ∧
      (∀ step raised, step < sent.length → world.reply step = .error raised →
        step + 1 = sent.length ∧ run.result = .error raised) ∧
      (∀ resolution, run.result = .ok resolution → ∃ found : Findings,
        found.Explains base polling.budget world.reply (found.polls + 4) ∧
          resolution = found.resolution magnet remote) ∧
      ∀ found : Findings, found.Explains base polling.budget world.reply (found.polls + 4) →
        run.result = .ok (found.resolution magnet remote) ∧
          sent = itinerary base token magnet remote found ∧
            found.id ≠ "" ∧ found.link ≠ "" ∧ found.streamUrl ≠ "" := by
  intro run sent
  have hway : Arrives base token magnet remote polling world ∨
      Stops base token magnet remote polling world := arrives_or_stops hbudget
  rcases hway with ⟨found, hfound, trace, hrun, hcalls⟩ |
      ⟨found, count, failure, hcount, hfound, ⟨trace, hrun, hcalls⟩, hnone, hlast⟩
  · have hsent : sent = itinerary base token magnet remote found := by
      rw [← hcalls]
      exact congrArg (fun run => calls run.trace) hrun
    have hresult : run.result = .ok (found.resolution magnet remote) := congrArg Run.result hrun
    have hlength : sent.length = found.polls + 4 := by rw [hsent, length_itinerary]
    refine ⟨?_, ⟨found, explains_mono hfound (by omega), ?_⟩, ?_, ?_, ?_, ?_⟩
    · rw [hsent, ← Nat.zero_add (itinerary base token magnet remote found).length]
      exact congrArg Run.state hrun
    · rw [hlength, hsent, List.take_of_length_le (Nat.le_of_eq length_itinerary)]
    · intro failure hfailure
      rw [hresult] at hfailure
      cases hfailure
    · intro step raised hstep hraised
      obtain ⟨body, hbody⟩ := ok_of_passes (hfound.2.2 step (by omega))
      rw [hraised] at hbody
      cases hbody
    · intro resolution hok
      rw [hresult] at hok
      cases hok
      exact ⟨found, hfound, rfl⟩
    · intro other hother
      rw [explains_unique hfound hother]
      exact ⟨hresult, hsent, ne_empty_of_explains hfound⟩
  · have hsent : sent = (itinerary base token magnet remote found).take (count + 1) := by
      rw [← hcalls]
      exact congrArg (fun run => calls run.trace) hrun
    have hresult : run.result = .error failure := congrArg Run.result hrun
    have hlength : sent.length = count + 1 := by
      rw [hsent, List.length_take, length_itinerary]
      omega
    refine ⟨?_, ⟨found, ?_, ?_⟩, ?_, ?_, ?_, ?_⟩
    · rw [hsent,
        ← Nat.zero_add ((itinerary base token magnet remote found).take (count + 1)).length]
      exact congrArg Run.state hrun
    · rw [hlength]
      exact hfound
    · rw [hlength]
      exact hsent
    · intro _ _ other
      rw [hlength]
      exact hnone other
    · intro step raised hstep hraised
      rcases Nat.lt_succ_iff_lt_or_eq.mp (hlength ▸ hstep) with hlt | rfl
      · obtain ⟨body, hbody⟩ := ok_of_passes (hfound.2.2 step hlt)
        rw [hraised] at hbody
        cases hbody
      · exact ⟨hlength.symm, hresult.trans (congrArg _ (hlast raised hraised))⟩
    · intro resolution hok
      rw [hresult] at hok
      cases hok
    · intro other hother
      refine absurd (explains_mono hother ?_) (hnone other)
      -- The findings so far poll no further than those that agree with everything.
      rcases Nat.lt_or_ge (other.polls + 3) count with hlt | hge
      · have hle := polls_le hother (by omega) hfound (by omega)
        omega
      · omega

/-- A world in which a torrent of one file is downloaded already. -/
def readyWorld : World :=
  ⟨⟨0, ⟨0⟩⟩, [], none, none,
    [.ok "\x7b\"uri\":\"https://example.com/torrents/7\"\x7d".toUTF8.toList,
      .ok "\x7b\"id\":7,\"files\":[\x7b\"id\":1,\"bytes\":2\x7d]\x7d".toUTF8.toList,
      .ok [],
      .ok "\x7b\"status\":\"downloaded\",\"links\":[\"link\"]\x7d".toUTF8.toList,
      .ok "\x7b\"download\":\"stream\"\x7d".toUTF8.toList]⟩

attribute [local instance] Json.Nesting.usual

/-- There the first poll is the last, and a stream is found. -/
theorem resolve_itinerary_one_poll :
    1 ≤ (⟨1, .ofNat 0⟩ : Polling).budget ∧ ∃ found : Findings,
      found.Explains "https://proxy.example.com" 1 readyWorld.reply (found.polls + 4) ∧
        found.streamUrl = "stream" := by
  refine ⟨Nat.le_refl 1, ?_⟩
  obtain ⟨_, _, _, _, hfound, _⟩ := resolve_itinerary ⟨1, .ofNat 0⟩ "https://proxy.example.com"
    "secret" "magnet:?xt=urn:btih:aa" false readyWorld (Nat.le_refl 1)
  have hstream : ((resolve ⟨1, .ofNat 0⟩ "https://proxy.example.com" "secret"
      "magnet:?xt=urn:btih:aa" false).runIn readyWorld).result.toOption.map Resolution.streamUrl =
        some "stream" := by decide +kernel
  cases hresult : ((resolve ⟨1, .ofNat 0⟩ "https://proxy.example.com" "secret"
      "magnet:?xt=urn:btih:aa" false).runIn readyWorld).result with
  | error failure =>
    rw [hresult] at hstream
    cases hstream
  | ok resolution =>
    obtain ⟨found, hexplains, rfl⟩ := hfound resolution hresult
    rw [hresult] at hstream
    exact ⟨found, hexplains, Option.some.inj hstream⟩

end MagnetStream.Client.Stream
