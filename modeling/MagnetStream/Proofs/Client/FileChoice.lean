import MagnetStream.Proofs.Client.Stream
import MagnetStream.Proofs.Torrent.Selection

/-!
# The file that a resolution commits to

When a torrent with an id is looked at, its listing decides what a resolution does next
(`listing_decides`): it commits to the file to be fetched, or ends there because no file can be
chosen, or because there is none.
-/

namespace MagnetStream.Client.Stream

open Torrent (ListsBoundless Chooses IsObject Negligible entriesOf fileOf? selectFile_iff_chooses)

def listingOf (info : List (String × Json)) : Json := (Entries.get? info "files").getD .null

/-- The requests up to the look at a torrent. -/
def looking (base token magnet url : String) : List Call :=
  [⟨.post, base ++ addPath, token, some [("magnet", magnet)]⟩, look token url]

def commitment (base token id : String) (chosen : Int) : Call :=
  ⟨.post, base ++ choosePath ++ id, token, some [("files", toString chosen)]⟩

/-- A run ends with the look at the torrent, which is its second request, in a family of failures.
-/
def FailsAtLook {α : Type} (run : Run World Mark α) (family : Family) : Prop :=
  (calls run.trace).length = 2 ∧
    ∃ failure, run.result = .error failure ∧ failure.family? = some family

namespace FileChoiceLemmas

open StreamLemmas Torrent.SelectionLemmas
open Session (Ends Yields)

/-- No two whole numbers are written the same. -/
theorem eq_of_repr {first second : Int} (h : first.repr = second.repr) : first = second := by
  have hsign : ∀ m n : Nat, m.repr ≠ "-" ++ n.repr := by
    intro m n h
    have hminus : '-' ∈ m.repr.toList := by simp [h]
    rw [Nat.toList_repr] at hminus
    exact absurd (Nat.isDigit_of_mem_toDigits (by decide) (by decide) hminus) (by decide)
  have hnat : ∀ m n : Nat, m.repr = n.repr → m = n := by
    intro m n h
    rw [← Nat.ofDigitChars_ten_toDigits (n := m), ← Nat.toList_repr, h, Nat.toList_repr,
      Nat.ofDigitChars_ten_toDigits]
  cases first with
  | ofNat m =>
    cases second with
    | ofNat n => exact congrArg Int.ofNat (hnat m n h)
    | negSucc n => exact absurd h (hsign m (n + 1))
  | negSucc m =>
    cases second with
    | ofNat n => exact absurd h.symm (hsign n (m + 1))
    | negSucc n =>
      have hdigits : (m + 1).repr = (n + 1).repr := (String.append_right_inj "-").mp h
      exact congrArg Int.negSucc (Nat.succ.inj (hnat _ _ hdigits))

theorem commitment_inj {base token id : String} {first second : Int}
    (h : commitment base token id first = commitment base token id second) : first = second :=
  eq_of_repr (by simpa [commitment, Int.toString_eq_repr] using h)

/-- What is known of a torrent when its listing is looked at. -/
structure Looked [Json.Nesting] (base : String) (world : World) (url id : String)
    (members : List (String × Json)) : Prop where
  address_ok : (objectIn "Couldn't add torrent" (world.reply 0) >>= followUp base) = .ok url
  object_ok : objectIn infoPurpose (world.reply 1) = .ok members
  id_ok : torrentId members = .ok id
  readable : ¬ ListsBoundless (listingOf members)

section Deciding

variable {polling : Polling} {base token magnet url id : String} {remote : Bool} {world : World}
  {members : List (String × Json)}

/-- What follows the look at the torrent decides the rest of a resolution. -/
theorem Looked.resolve_ends [Json.Nesting] (h : Looked base world url id members)
    {result : Except Failure Resolution} {state : World} {requests : List Call}
    (hrest : Session.Ends (do
      let files ← .lift (torrentFiles members)
      let chosen ← choose base token id files
      awaitDownload polling token url id >>=
        release base token magnet remote url id files chosen) (world.spend 2) result state
          requests) :
    (resolve polling base token magnet remote).Ends world result state
      (looking base token magnet url ++ requests) := by
  have hsubmit := submit_yields world 0 base token magnet
  have hinspect := inspect_yields world 1 token url
  rw [h.address_ok] at hsubmit
  rw [h.object_ok] at hinspect
  have hall : (resolve polling base token magnet remote).Ends world _ _ _ :=
    Ends.bind_ok hsubmit (Ends.bind_ok hinspect (Ends.bind_ok (Yields.lift h.id_ok) hrest))
  exact hall

/-- Once its choice is made, a resolution commits to it, whatever comes then. -/
theorem Looked.commits [Json.Nesting] (h : Looked base world url id members) {chosen : Int}
    (hchosen : Chooses (entriesOf (listingOf members)) chosen) :
    ∃ later, calls ((resolve polling base token magnet remote).runIn world).trace =
      looking base token magnet url ++ commitment base token id chosen :: later := by
  have hselect := selectFile_iff_chooses.mpr hchosen
  have hne : (entriesOf (listingOf members)).filterMap fileOf? ≠ [] := by
    intro hnil
    rw [hnil] at hselect
    cases hselect
  have hfiles := torrentFiles_eq_ok.mpr ⟨ofListing_of_readable h.readable, hne⟩
  have hchoose := choose_yields world 2 base token id hselect
  cases hreply : world.reply 2 with
  | error failure =>
    rw [hreply] at hchoose
    have hends : (resolve polling base token magnet remote).Ends world _ _ _ :=
      h.resolve_ends (Ends.bind_ok (Yields.lift hfiles) (Ends.bind_error hchoose))
    obtain ⟨trace, hrun, hcalls⟩ := hends
    exact ⟨[], by rw [hrun]; exact hcalls⟩
  | ok body =>
    rw [hreply] at hchoose
    -- Whatever the rest of the resolution does, it does it behind the commitment.
    have hends : (resolve polling base token magnet remote).Ends world _ _ _ :=
      h.resolve_ends (Ends.bind_ok (Yields.lift hfiles) (Ends.bind_ok hchoose (Ends.of_run ..)))
    obtain ⟨trace, hrun, hcalls⟩ := hends
    exact ⟨_, by rw [hrun]; exact hcalls⟩

/-- Files none of which can be chosen end a resolution, as far as it has come. -/
theorem Looked.ends_without_choice [Json.Nesting] (h : Looked base world url id members)
    (hobject : ∃ entry ∈ entriesOf (listingOf members), IsObject entry)
    (hnone : ∀ chosen, ¬ Chooses (entriesOf (listingOf members)) chosen) :
    (resolve polling base token magnet remote).Ends world (.error (.noFile .noFileId))
      (world.spend 2) (looking base token magnet url) := by
  have hne : (entriesOf (listingOf members)).filterMap fileOf? ≠ [] := fun hnil => by
    obtain ⟨entry, hm, hentry⟩ := hobject
    exact (files_eq_nil_iff h.readable).mp hnil entry hm hentry
  have hfiles := torrentFiles_eq_ok.mpr ⟨ofListing_of_readable h.readable, hne⟩
  have hselect := selectFile_eq_error hne fun chosen hchosen =>
    hnone chosen (selectFile_iff_chooses.mp hchosen)
  exact h.resolve_ends (Ends.bind_ok (Yields.lift hfiles)
    (Ends.bind_error (choose_fails world 2 base token hselect)))

/-- A listing without objects ends a resolution, as far as it has come. -/
theorem Looked.ends_without_files [Json.Nesting] (h : Looked base world url id members)
    (hnone : ∀ entry ∈ entriesOf (listingOf members), ¬ IsObject entry) :
    (resolve polling base token magnet remote).Ends world
      (.error (.badResponse (.missingKey infoPurpose "files"))) (world.spend 2)
      (looking base token magnet url) := by
  have hlisted := ofListing_of_readable h.readable
  rw [(files_eq_nil_iff h.readable).mpr hnone, listingOf] at hlisted
  have hfiles : torrentFiles members =
      .error (.badResponse (.missingKey infoPurpose "files")) := by
    rw [torrentFiles, hlisted]
    rfl
  exact h.resolve_ends (Ends.bind_error (Yields.lift hfiles))

/-- A resolution that commits to something does not end with the look at the torrent. -/
theorem Looked.goes_on [Json.Nesting] (h : Looked base world url id members) {chosen : Int}
    (hchosen : Chooses (entriesOf (listingOf members)) chosen) (family : Family) :
    ¬ FailsAtLook ((resolve polling base token magnet remote).runIn world) family := by
  rintro ⟨hlength, _⟩
  obtain ⟨later, hcalls⟩ := h.commits hchosen
  rw [hcalls] at hlength
  simp [looking] at hlength

/-- A session that ends with the look at the torrent fails in the family of its failure. -/
theorem failsAtLook_iff {α : Type} {session : Session α} {failure : Failure} {state : World}
    (h : session.Ends world (.error failure) state (looking base token magnet url)) :
    calls (session.runIn world).trace = looking base token magnet url ∧
      ∀ family, FailsAtLook (session.runIn world) family ↔ failure.family? = some family := by
  obtain ⟨trace, hrun, hcalls⟩ := h
  rw [hrun]
  refine ⟨hcalls, fun family => ⟨?_, fun hfamily => ⟨by rw [hcalls]; rfl, failure, rfl, hfamily⟩⟩⟩
  rintro ⟨_, _, ⟨⟩, hfamily⟩
  exact hfamily

theorem exists_isObject {entries : List Json} {chosen : Int} (h : Chooses entries chosen) :
    ∃ entry ∈ entries, IsObject entry := by
  obtain ⟨before, entry, after, size, rfl, ⟨fields, rfl, _⟩, _⟩ := h
  exact ⟨_, by simp, fields, rfl⟩

end Deciding
end FileChoiceLemmas

open FileChoiceLemmas StreamLemmas

/-- When a torrent with an id is looked at whose listing can be read, the listing decides. A
resolution commits to the file with an id just when that is the file to be fetched. It ends there
without an eligible file just when there are objects in the listing but no file to be fetched, and
with a malformed response just when there are no objects in it; then it does not commit to
anything. Negligible entries around a listing leave the commitment as it is. -/
theorem listing_decides [Json.Nesting] (polling : Polling) (base token magnet : String)
    (remote : Bool) (world : World) {url : String} {members : List (String × Json)} {value : Json}
    (haddress : Addresses base url (world.reply 0)) (hholds : Holds (world.reply 1) members)
    (hid : Entries.get? members "id" = some value) (hnull : value ≠ .null)
    (hne : value.display ≠ "") (hreadable : ¬ ListsBoundless (listingOf members)) :
    let run := (resolve polling base token magnet remote).runIn world
    let entries := entriesOf (listingOf members)
    let commits := fun chosen =>
      (calls run.trace)[2]? = some (commitment base token value.display chosen)
    (∀ chosen, commits chosen ↔ Chooses entries chosen) ∧
      (FailsAtLook run .noEligibleFile ↔
        (∃ entry ∈ entries, IsObject entry) ∧ ∀ chosen, ¬ Chooses entries chosen) ∧
      (FailsAtLook run .malformedResponse ↔ ∀ entry ∈ entries, ¬ IsObject entry) ∧
      ((∀ chosen, ¬ Chooses entries chosen) → calls run.trace = looking base token magnet url) ∧
      ∀ before kept after, entries = before ++ kept ++ after →
        (∀ entry ∈ before ++ after, Negligible entry) → ∀ chosen, Chooses kept chosen →
          commits chosen := by
  intro run entries commits
  have hlooked : Looked base world url value.display members :=
    ⟨addresses_iff.mpr haddress, objectIn_eq_ok.mpr hholds,
      torrentId_eq_ok.mpr ⟨value, hid, hnull, rfl, hne⟩, hreadable⟩
  have hcommits : ∀ chosen, Chooses entries chosen → commits chosen := by
    intro chosen hchosen
    obtain ⟨later, hcalls⟩ : ∃ later, calls run.trace = _ := hlooked.commits hchosen
    simp [commits, hcalls, looking]
  have hamong : ∀ before kept after, entries = before ++ kept ++ after →
      (∀ entry ∈ before ++ after, Negligible entry) → ∀ chosen, Chooses kept chosen →
        commits chosen := by
    intro before kept after hentries hnegligible chosen hchosen
    refine hcommits chosen (hentries ▸ hchosen.among ?_ ?_)
    · exact fun entry hm => hnegligible entry (List.mem_append_left _ hm)
    · exact fun entry hm => hnegligible entry (List.mem_append_right _ hm)
  by_cases hchoice : ∃ chosen, Chooses entries chosen
  · obtain ⟨chosen, hchosen⟩ := hchoice
    obtain ⟨entry, hm, hobject⟩ := exists_isObject hchosen
    refine ⟨fun other => ⟨fun hother => ?_, hcommits other⟩, ?_, ?_, ?_, hamong⟩
    · have hsame := Option.some.inj (hother.symm.trans (hcommits chosen hchosen))
      rwa [commitment_inj hsame]
    · exact iff_of_false (hlooked.goes_on hchosen _) fun ⟨_, hnone⟩ => hnone chosen hchosen
    · exact iff_of_false (hlooked.goes_on hchosen _) fun hnone => hnone entry hm hobject
    · exact fun hnone => absurd hchosen (hnone chosen)
  · have hnone := not_exists.mp hchoice
    have hquiet : calls run.trace = looking base token magnet url →
        ∀ chosen, commits chosen ↔ Chooses entries chosen :=
      fun hcalls chosen => iff_of_false (by simp [commits, hcalls, looking]) (hnone chosen)
    by_cases hobject : ∃ entry ∈ entries, IsObject entry
    · obtain ⟨hcalls, hfails⟩ := failsAtLook_iff (hlooked.ends_without_choice hobject hnone)
      refine ⟨hquiet hcalls, iff_of_true ((hfails _).mpr rfl) ⟨hobject, hnone⟩,
        iff_of_false (fun hother => nomatch (hfails _).mp hother) ?_, fun _ => hcalls, hamong⟩
      obtain ⟨entry, hm, hentry⟩ := hobject
      exact fun hall => hall entry hm hentry
    · have hall : ∀ entry ∈ entries, ¬ IsObject entry :=
        fun entry hm hentry => hobject ⟨entry, hm, hentry⟩
      obtain ⟨hcalls, hfails⟩ := failsAtLook_iff (hlooked.ends_without_files hall)
      exact ⟨hquiet hcalls,
        iff_of_false (fun hother => nomatch (hfails _).mp hother) fun h => hobject h.1,
        iff_of_true ((hfails _).mpr rfl) hall, fun _ => hcalls, hamong⟩

/-- A world in which a torrent has two files of the same size, a larger number among them that is
cut off, and entries without a size around them. -/
def twoFilesWorld : World :=
  ⟨⟨0, ⟨0⟩⟩, [], none, none,
    [.ok "\x7b\"uri\":\"https://example.com/torrents/7\"\x7d".toUTF8.toList,
      .ok ("\x7b\"id\":7,\"files\":[1,\x7b\"id\":3,\"bytes\":true\x7d," ++
        "\x7b\"id\":1,\"bytes\":2\x7d,\x7b\"id\":4,\"bytes\":2.5\x7d," ++
        "\x7b\"id\":5,\"bytes\":-1\x7d]\x7d").toUTF8.toList]⟩

attribute [local instance] Json.Nesting.usual

/-- There the first of the two files is the one to be fetched. -/
theorem listing_decides_two_files :
    Addresses "https://example.com" "https://example.com/torrents/7" (twoFilesWorld.reply 0) ∧
      ∃ members value, Holds (twoFilesWorld.reply 1) members ∧
        Entries.get? members "id" = some value ∧ value ≠ .null ∧ value.display = "7" ∧
          ¬ ListsBoundless (listingOf members) ∧ Chooses (entriesOf (listingOf members)) 1 := by
  have haddress : Addresses "https://example.com" "https://example.com/torrents/7"
      (twoFilesWorld.reply 0) :=
    addresses_iff.mp (Except.toOption_eq_some.mp (by decide +kernel))
  have hlook : (objectIn infoPurpose (twoFilesWorld.reply 1) >>= fun members =>
      torrentId members >>= fun id => torrentFiles members >>= fun files => .ok (id, files)) =
        .ok ("7", [⟨3, 0⟩, ⟨1, 2⟩, ⟨4, 2⟩, ⟨5, -1⟩]) :=
    Except.toOption_eq_some.mp (by decide +kernel)
  obtain ⟨members, hobject, hrest⟩ := Except.bind_eq_ok.mp hlook
  obtain ⟨id, hid, hrest⟩ := Except.bind_eq_ok.mp hrest
  obtain ⟨files, hfiles, hsame⟩ := Except.bind_eq_ok.mp hrest
  cases hsame
  obtain ⟨value, hget, hnull, hdisplay, hne⟩ := torrentId_eq_ok.mp hid
  have hreadable : ¬ ListsBoundless (listingOf members) := by
    rw [← Torrent.ofListing_fails_iff, listingOf, (torrentFiles_eq_ok.mp hfiles).1]
    exact nofun
  have hholds := objectIn_eq_ok.mp hobject
  obtain ⟨hcommits, _⟩ := listing_decides ⟨1, .ofNat 0⟩ "https://example.com" "secret"
    "magnet:?xt=urn:btih:aa" false twoFilesWorld haddress hholds hget hnull (hdisplay ▸ hne)
    hreadable
  refine ⟨haddress, members, value, hholds, hget, hnull, hdisplay, hreadable, (hcommits 1).mp ?_⟩
  rw [hdisplay]
  decide +kernel

end MagnetStream.Client.Stream
