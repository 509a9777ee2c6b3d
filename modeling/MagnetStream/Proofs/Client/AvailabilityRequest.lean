import MagnetStream.Proofs.Client.Availability
import MagnetStream.Proofs.Url.Parts

/-!
# The request that asks about hashes

Hashes are put into the URL as they are, one behind the other with slashes between them. So the
service is asked about exactly the hashes that are not known if, and only if, none of them holds a
slash, a question mark, a number sign, a tab or a line end (`request_asks_exactly_iff`): otherwise
one hash becomes several, or it and all hashes behind it get into the query or the fragment.
-/

namespace MagnetStream.Client.Availability

open Url (IsPath pathOf queryOf fragmentOf isDropped)
open Text (splitOnChar)

/-- The hashes as they are put into the URL, without what counts nowhere in a URL. -/
def written (hashes : List String) : List Char :=
  ("/".intercalate hashes).toList.filter fun c => !isDropped c

/-- A URL asks about exactly these hashes: they are the segments of its path behind the path for
availability under the base, and it has neither query nor fragment. -/
def AsksExactly (home sent : Url.Parts) (hashes : List String) : Prop :=
  ∃ segments, sent.path = home.path ++ path.toList ++ '/' :: segments ∧
    splitOnChar '/' segments = hashes.map String.toList ∧ sent.query = [] ∧ sent.fragment = []

/-- A hash that stands in a URL for itself. -/
def IsPlain (hash : String) : Prop :=
  ∀ c ∈ hash.toList, c ≠ '/' ∧ c ≠ '?' ∧ c ≠ '#' ∧ c ≠ '\t' ∧ c ≠ '\n' ∧ c ≠ '\r'

instance (hash : String) : Decidable (IsPlain hash) := List.decidableBAll _ _

def pieces (hashes : List String) : List (List Char) :=
  hashes.flatMap fun hash => splitOnChar '/' hash.toList

namespace RequestLemmas

theorem toList_requestUrl (base : String) (hashes : List String) :
    (requestUrl base hashes).toList =
      base.toList ++ (path.toList ++ '/' :: ("/".intercalate hashes).toList) := by
  simp [requestUrl]

theorem toList_intercalate (hashes : List String) :
    ("/".intercalate hashes).toList = ['/'].intercalate (hashes.map String.toList) :=
  String.toList_intercalate

/-- What counts of the text behind the base is the path for availability and the hashes. -/
theorem filter_request (hashes : List String) :
    ((path.toList ++ '/' :: ("/".intercalate hashes).toList).filter fun c => !isDropped c) =
      (path.toList ++ ['/']) ++ written hashes := by
  have hpath : (path.toList.filter fun c => !isDropped c) = path.toList := by decide
  rw [List.filter_append, hpath, List.filter_cons_of_pos (by decide), List.append_assoc]
  rfl

/-- Where the parts of a request are: the hashes may get into its query and its fragment. -/
theorem split_requestUrl {base normal : String} (hbase : Url.validateBase base = .ok normal)
    (hpath : IsPath base.toList) :
    ∃ home, Url.split normal.toList = .ok home ∧ ∀ hashes,
      Url.split (requestUrl normal hashes).toList = .ok ⟨home.scheme, home.authority,
        home.path ++ path.toList ++ '/' :: pathOf (written hashes), queryOf (written hashes),
        fragmentOf (written hashes)⟩ := by
  obtain ⟨_, home, _, hhome, _, _, _, _, hunder⟩ := Url.split_under_base hbase hpath
  refine ⟨home, hhome, fun hashes => ?_⟩
  have hfront : IsPath (path.toList ++ ['/']) := ⟨by decide, by decide⟩
  rw [toList_requestUrl, hunder _ _ (filter_request hashes) (Text.startsWith_cons.mpr rfl),
    hfront.pathOf_append, hfront.queryOf_append, hfront.fragmentOf_append]
  simp

theorem isPlain_of_mem_segments {hashes : List String} {hash : String}
    (h : hash.toList ∈ splitOnChar '/' (pathOf (written hashes))) : IsPlain hash := by
  intro c hc
  obtain ⟨hpath, hslash⟩ := Text.mem_of_mem_splitOnChar h hc
  obtain ⟨hwritten, hquery, hfragment⟩ := Url.mem_of_mem_pathOf hpath
  have hkept : (!isDropped c) = true := (List.mem_filter.mp hwritten).2
  simp [isDropped] at hkept
  exact ⟨hslash, hquery, hfragment, hkept.1.1, hkept.1.2, hkept.2⟩

/-- Plain hashes are written as they are. -/
theorem written_of_plain {hashes : List String} (h : ∀ hash ∈ hashes, IsPlain hash) :
    written hashes = ['/'].intercalate (hashes.map String.toList) ∧ IsPath (written hashes) := by
  have hchars : ∀ c ∈ ['/'].intercalate (hashes.map String.toList),
      c ≠ '?' ∧ c ≠ '#' ∧ isDropped c = false := by
    intro c hc
    rcases Text.eq_or_mem_of_mem_intercalate hc with rfl | ⟨part, hpart, hcp⟩
    · decide
    · obtain ⟨hash, hhash, rfl⟩ := List.mem_map.mp hpart
      obtain ⟨_, hquery, hfragment, htab, hline, hreturn⟩ := h hash hhash c hcp
      exact ⟨hquery, hfragment, by simp [isDropped, htab, hline, hreturn]⟩
  have hwritten : written hashes = ['/'].intercalate (hashes.map String.toList) := by
    rw [written, toList_intercalate]
    exact List.filter_eq_self.mpr fun c hc => by rw [(hchars c hc).2.2]; rfl
  rw [hwritten]
  exact ⟨rfl, fun hm => (hchars _ hm).1 rfl, fun hm => (hchars _ hm).2.1 rfl⟩

theorem asksExactly_iff {home sent : Url.Parts} {hashes : List String} (hne : hashes ≠ [])
    (hpath : sent.path = home.path ++ path.toList ++ '/' :: pathOf (written hashes))
    (hquery : sent.query = queryOf (written hashes))
    (hfragment : sent.fragment = fragmentOf (written hashes)) :
    AsksExactly home sent hashes ↔ ∀ hash ∈ hashes, IsPlain hash := by
  constructor
  · rintro ⟨segments, hsegments, hcut, _, _⟩ hash hm
    rw [hpath] at hsegments
    obtain rfl : pathOf (written hashes) = segments :=
      (List.cons.inj (List.append_cancel_left hsegments)).2
    exact isPlain_of_mem_segments (hcut ▸ List.mem_map_of_mem hm)
  · intro hplain
    obtain ⟨hwritten, hisPath⟩ := written_of_plain hplain
    refine ⟨written hashes, by rw [hpath, hisPath.pathOf_eq], ?_,
      by rw [hquery, hisPath.queryOf_eq], by rw [hfragment, hisPath.fragmentOf_eq]⟩
    rw [hwritten]
    refine Text.splitOnChar_intercalate (by simpa using hne) fun part hpart hslash => ?_
    obtain ⟨hash, hhash, rfl⟩ := List.mem_map.mp hpart
    exact (hplain hash hhash _ hslash).1 rfl

theorem splitOnChar_intercalate_eq_pieces {hashes : List String} (hne : hashes ≠ []) :
    splitOnChar '/' ("/".intercalate hashes).toList = pieces hashes := by
  rw [toList_intercalate, Text.splitOnChar_intercalate_eq_flatMap (by simpa using hne),
    List.flatMap_map]
  rfl

/-- Two requests are the same if the hashes consist of the same pieces. -/
theorem requestUrl_eq_iff (base : String) {first second : List String} (hfirst : first ≠ [])
    (hsecond : second ≠ []) :
    requestUrl base first = requestUrl base second ↔ pieces first = pieces second := by
  rw [← splitOnChar_intercalate_eq_pieces hfirst, ← splitOnChar_intercalate_eq_pieces hsecond]
  constructor
  · intro h
    have htext := congrArg String.toList h
    rw [toList_requestUrl, toList_requestUrl] at htext
    have hbehind := List.append_cancel_left (List.append_cancel_left htext)
    rw [(List.cons.inj hbehind).2]
  · intro h
    -- What is cut between slashes is put together again with them.
    have hhashes := congrArg (['/'].intercalate ·) h
    rw [Text.intercalate_splitOnChar, Text.intercalate_splitOnChar] at hhashes
    rw [← String.toList_inj, toList_requestUrl, toList_requestUrl, hhashes]

theorem pieces_of_no_slash {hashes : List String} (h : ∀ hash ∈ hashes, '/' ∉ hash.toList) :
    pieces hashes = hashes.map String.toList := by
  induction hashes with
  | nil => rfl
  | cons hash rest ih =>
    have hone : splitOnChar '/' hash.toList = [hash.toList] := by
      rw [Text.splitOnChar_eq_splitOn]
      exact List.splitOn_eq_singleton (h hash List.mem_cons_self)
    rw [pieces, List.flatMap_cons, hone, List.map_cons]
    exact congrArg _ (ih fun other ho => h other (List.mem_cons_of_mem _ ho))

end RequestLemmas

open RequestLemmas

/-- Under a base URL without query and fragment, the request of a check puts the hashes that are not
known behind the path for availability, and whatever follows a question mark or a number sign in
them gets into its query or fragment. It asks about exactly these hashes if they are all plain, and
else it does not. Two lists of hashes have the same request if they consist of the same pieces
between slashes, so that lists of hashes without slashes have different ones. -/
theorem request_asks_exactly_iff [Json.Nesting] {base normal : String}
    (hbase : Url.validateBase base = .ok normal) (hquery : '?' ∉ base.toList)
    (hfragment : '#' ∉ base.toList) :
    ∃ home, Url.split normal.toList = .ok home ∧
      (∀ policy token hashes world,
        let asked := asked policy world hashes
        let requests := calls ((check policy normal token hashes).runIn world).trace
        (asked = [] → requests = []) ∧
          (asked ≠ [] → ∃ call sent, requests = [call] ∧ Url.split call.url.toList = .ok sent ∧
            sent = ⟨home.scheme, home.authority,
              home.path ++ path.toList ++ '/' :: pathOf (written asked), queryOf (written asked),
              fragmentOf (written asked)⟩ ∧
            (AsksExactly home sent asked ↔ ∀ hash ∈ asked, IsPlain hash))) ∧
      ∀ first second : List String, first ≠ [] → second ≠ [] →
        (requestUrl normal first = requestUrl normal second ↔ pieces first = pieces second) ∧
          ((∀ hash ∈ first ++ second, '/' ∉ hash.toList) →
            requestUrl normal first = requestUrl normal second → first = second) := by
  obtain ⟨home, hhome, hsplit⟩ := split_requestUrl hbase ⟨hquery, hfragment⟩
  refine ⟨home, hhome, fun policy token hashes world => ?_,
    fun first second hfirst hsecond => ⟨requestUrl_eq_iff normal hfirst hsecond, ?_⟩⟩
  · obtain ⟨trace, hrun, hcalls⟩ := check_ends policy normal token hashes world
    rw [hrun]
    constructor
    · intro hnone
      rw [hnone] at hcalls
      exact hcalls
    · intro hsome
      rw [if_neg (by simpa using hsome)] at hcalls
      exact ⟨_, _, hcalls, hsplit _, rfl, asksExactly_iff hsome rfl rfl rfl⟩
  · intro hslash h
    have hpieces := (requestUrl_eq_iff normal hfirst hsecond).mp h
    rw [pieces_of_no_slash fun hash hm => hslash hash (List.mem_append_left _ hm),
      pieces_of_no_slash fun hash hm => hslash hash (List.mem_append_right _ hm)] at hpieces
    exact List.map_injective_iff.mpr (fun _ _ => String.toList_inj.mp) hpieces

/-- A world with nothing in its cache, whose service does not reply. -/
def silentWorld : World := ⟨⟨0, ⟨0⟩⟩, [], none, none, []⟩

attribute [local instance] Json.Nesting.usual

/-- Two plain hashes are asked about. -/
theorem request_asks_exactly_about_two :
    Url.validateBase "https://example.com/" = .ok "https://example.com" ∧
      asked ⟨⟨0⟩, 0⟩ silentWorld ["ab", "cd"] = ["AB", "CD"] ∧
      ∃ home sent, Url.split "https://example.com".toList = .ok home ∧
        Url.split "https://example.com/rest/1.0/torrents/instantAvailability/AB/CD".toList =
          .ok sent ∧
        AsksExactly home sent ["AB", "CD"] := by
  have hbase : Url.validateBase "https://example.com/" = .ok "https://example.com" := by
    decide +kernel
  have hasked : asked ⟨⟨0⟩, 0⟩ silentWorld ["ab", "cd"] = ["AB", "CD"] := by decide +kernel
  have hrequests : calls ((check ⟨⟨0⟩, 0⟩ "https://example.com" "secret" ["ab", "cd"]).runIn
      silentWorld).trace = [⟨.get,
        "https://example.com/rest/1.0/torrents/instantAvailability/AB/CD", "secret", none⟩] := by
    decide +kernel
  obtain ⟨home, hhome, hall, _⟩ :=
    request_asks_exactly_iff hbase (by decide +kernel) (by decide +kernel)
  obtain ⟨call, sent, hcall, hsent, _, hiff⟩ :=
    (hall ⟨⟨0⟩, 0⟩ "secret" ["ab", "cd"] silentWorld).2 (by simp [hasked])
  obtain rfl := List.singleton_inj.mp (hrequests.symm.trans hcall)
  rw [hasked] at hiff
  exact ⟨hbase, hasked, home, sent, hhome, hsent, hiff.mpr (by decide)⟩

/-- A hash with a slash asks about two others, and a hash with a question mark keeps the next one
from being asked about. -/
theorem hashes_that_are_not_asked_about :
    Url.validateBase "https://example.com" = .ok "https://example.com" ∧
      asked ⟨⟨0⟩, 0⟩ silentWorld ["a/b"] = ["A/B"] ∧
      asked ⟨⟨0⟩, 0⟩ silentWorld ["a", "b"] = ["A", "B"] ∧
      calls ((check ⟨⟨0⟩, 0⟩ "https://example.com" "secret" ["a/b"]).runIn silentWorld).trace =
        calls ((check ⟨⟨0⟩, 0⟩ "https://example.com" "secret" ["a", "b"]).runIn
          silentWorld).trace ∧
      asked ⟨⟨0⟩, 0⟩ silentWorld ["a?b", "c"] = ["A?B", "C"] ∧
      (Url.split (requestUrl "https://example.com" ["A?B", "C"]).toList).map
          (fun sent => (sent.path, sent.query)) =
        .ok ("/rest/1.0/torrents/instantAvailability/A".toList, "B/C".toList) :=
  ⟨by decide +kernel, by decide +kernel, by decide +kernel, by decide +kernel, by decide +kernel,
    by decide +kernel⟩

end MagnetStream.Client.Availability
