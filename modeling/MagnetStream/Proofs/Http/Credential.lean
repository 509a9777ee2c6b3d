import Mathlib.Data.List.Nodup
import MagnetStream.Http.Transport
import MagnetStream.Proofs.Http.Header

/-!
# The headers of the transport itself

A request has one header with the token and one with the browser, under names that are compared
letter by letter with those of the extra headers. HTTP does not tell capital letters from small
ones: an extra header that spells one of the two names otherwise goes beside it, and is the only
thing that can (`one_credential_iff`).
-/

namespace MagnetStream.Http

/-- Two names differ in capital and small letters only, and are the same for HTTP. -/
def SameName (name other : String) : Prop := Text.lower name.toList = Text.lower other.toList

instance (name other : String) : Decidable (SameName name other) :=
  inferInstanceAs (Decidable (_ = _))

namespace Transport

/-- The headers that a request has whatever the extra ones are: the token and the browser. -/
def ownHeaders (build token : String) : List (String × String) :=
  [("Authorization", "Bearer " ++ token), ("User-Agent", userAgent build)]

/-- The headers whose name is the same for HTTP. -/
def named (name : String) (headers : Entries String) : Entries String :=
  headers.filter fun (other, _) => SameName other name

namespace CredentialLemmas

variable {extra sent : Entries String} {build token name value : String}

theorem headers_eq (extra : Entries String) (build token : String) :
    headers extra build token = extra.insertAll (ownHeaders build token) := rfl

/-- The name of one of the transport's own headers is no spelling of that of the other one. -/
theorem eq_of_sameName_own {other : String} (hname : name ∈ Entries.names (ownHeaders build token))
    (hother : other ∈ Entries.names (ownHeaders build token)) (h : SameName other name) :
    other = name := by
  have hapart : ∀ first ∈ ["Authorization", "User-Agent"],
      ∀ second ∈ ["Authorization", "User-Agent"], SameName second first → second = first := by
    decide
  exact hapart name hname other hother h

theorem get?_headers (extra : Entries String) {header : String × String}
    (h : header ∈ ownHeaders build token) :
    Entries.get? (headers extra build token) header.1 = some header.2 := by
  rcases List.mem_cons.mp h with rfl | h
  · rw [headers, Entries.get?_insert_of_ne (show "Authorization" ≠ "User-Agent" by decide),
      Entries.get?_insert_self]
  · cases List.mem_singleton.mp h
    exact Entries.get?_insert_self ..

theorem get?_headers_of_not_mem (extra : Entries String)
    (h : name ∉ Entries.names (ownHeaders build token)) :
    Entries.get? (headers extra build token) name = Entries.get? extra name := by
  simp only [Entries.names, ownHeaders, List.map_cons, List.map_nil, List.mem_cons,
    List.not_mem_nil, or_false, not_or] at h
  rw [headers, Entries.get?_insert_of_ne h.2, Entries.get?_insert_of_ne h.1]

/-- Among names that do not stand twice, an entry is the only one of its name for HTTP just when no
other spelling of it is there. -/
theorem named_eq_singleton_iff (hnodup : (Entries.names sent).Nodup) (h : (name, value) ∈ sent) :
    named name sent = [(name, value)] ↔
      ∀ other ∈ Entries.names sent, SameName other name → other = name := by
  obtain ⟨front, back, rfl⟩ := List.append_of_mem h
  constructor
  · intro halone other hother hsame
    obtain ⟨entry, hentry, rfl⟩ := List.mem_map.mp hother
    have hm : entry ∈ named name (front ++ (name, value) :: back) :=
      List.mem_filter.mpr ⟨hentry, decide_eq_true hsame⟩
    rw [halone, List.mem_singleton] at hm
    rw [hm]
  · intro hall
    have hothers : ∀ entry ∈ front ++ back, entry.1 ≠ name := by
      rw [Entries.names, List.map_append, List.map_cons, List.nodup_middle,
        ← List.map_append] at hnodup
      rintro entry hm rfl
      exact (List.nodup_cons.mp hnodup).1 (List.mem_map.mpr ⟨_, hm, rfl⟩)
    have hdropped : ∀ entry ∈ front ++ back, ¬ SameName entry.1 name := by
      intro entry hm hsame
      have hsent : entry ∈ front ++ (name, value) :: back :=
        List.mem_append.mpr ((List.mem_append.mp hm).imp_right (List.mem_cons_of_mem _))
      exact hothers entry hm (hall _ (List.mem_map_of_mem hsent) hsame)
    have hfront : named name front = [] := List.filter_eq_nil_iff.mpr fun entry hm => by
      simpa using hdropped entry (List.mem_append_left _ hm)
    have hback : named name back = [] := List.filter_eq_nil_iff.mpr fun entry hm => by
      simpa using hdropped entry (List.mem_append_right _ hm)
    rw [named, List.filter_append, List.filter_cons_of_pos (by simp [SameName])]
    exact congrArg₂ (fun before after => before ++ (name, value) :: after) hfront hback

end CredentialLemmas

open CredentialLemmas HeaderLemmas

/-- A request has the token and the browser under their names, and no name twice. Each of the two is
the only header of its name for HTTP just when no text of the extra headers writes the name in other
letters. Headers of other names are the extra ones. -/
theorem one_credential_iff {texts : List String} {extra : Entries String}
    (h : readHeaders texts = .ok extra) (build token : String) :
    (Entries.names (headers extra build token)).Nodup ∧
    (∀ header ∈ ownHeaders build token, header ∈ headers extra build token ∧
      (named header.1 (headers extra build token) = [header] ↔
        ∀ text ∈ texts, ∀ name value, Writes text name value → SameName name header.1 →
          name = header.1)) ∧
    ∀ name value, name ∉ Entries.names (ownHeaders build token) →
      ((name, value) ∈ headers extra build token ↔ (name, value) ∈ extra) := by
  obtain ⟨written, hwritten, rfl⟩ := readHeaders_eq_ok.mp h
  have hextra := Entries.nodup_names_ofPairs written
  have hnodup := Entries.nodup_names_insertAll hextra (ownHeaders build token)
  rw [← headers_eq] at hnodup
  refine ⟨hnodup, fun header hheader => ?_, fun name value hname => ?_⟩
  · have hm := (Entries.mem_iff_get? hnodup).mpr (get?_headers (.ofPairs written) hheader)
    refine ⟨hm, (named_eq_singleton_iff hnodup hm).trans ?_⟩
    have hnames : ∀ other, other ∈ Entries.names (headers (.ofPairs written) build token) ↔
        (∃ text ∈ texts, ∃ value, Writes text other value) ∨
          other ∈ Entries.names (ownHeaders build token) := by
      intro other
      rw [headers_eq, Entries.mem_names_insertAll, Entries.names_ofPairs, List.mem_eraseDups,
        mem_names_written hwritten]
    constructor
    · intro hall text htext name value hwrites hsame
      exact hall name ((hnames name).mpr (.inl ⟨text, htext, value, hwrites⟩)) hsame
    · intro hall other hother hsame
      rcases (hnames other).mp hother with ⟨text, htext, value, hwrites⟩ | hown
      · exact hall text htext other value hwrites hsame
      · exact eq_of_sameName_own (List.mem_map_of_mem hheader) hown hsame
  · rw [Entries.mem_iff_get? hnodup, Entries.mem_iff_get? hextra, get?_headers_of_not_mem _ hname]

/-- Extra headers, one of which has the name under which the token goes. -/
def ownNameTexts : List String :=
  ["X-Foo: bar", "Authorization: Basic mine", "X-Authorization: too"]

/-- The token takes the place of what is given under its own name. -/
theorem one_credential_iff_own_name :
    readHeaders ownNameTexts = .ok [("X-Foo", "bar"), ("Authorization", "Basic mine"),
        ("X-Authorization", "too")] ∧
      named "Authorization" (headers [("X-Foo", "bar"), ("Authorization", "Basic mine"),
        ("X-Authorization", "too")] "7" "secret") = [("Authorization", "Bearer secret")] ∧
      ∀ text ∈ ownNameTexts, ∀ name value, Writes text name value →
        SameName name "Authorization" → name = "Authorization" := by
  have hread : readHeaders ownNameTexts = .ok [("X-Foo", "bar"),
      ("Authorization", "Basic mine"), ("X-Authorization", "too")] := by
    decide +kernel
  obtain ⟨_, hown, _⟩ := one_credential_iff hread "7" "secret"
  have halone := (hown ("Authorization", "Bearer secret") (by decide +kernel)).2
  have hnamed : named "Authorization" (headers [("X-Foo", "bar"),
      ("Authorization", "Basic mine"), ("X-Authorization", "too")] "7" "secret") =
        [("Authorization", "Bearer secret")] := by
    decide +kernel
  exact ⟨hread, hnamed, halone.mp hnamed⟩

/-- An extra header with a small letter goes beside the token, and another one beside the browser.
-/
theorem other_spellings_go_beside :
    ∃ extra, readHeaders ["authorization: Basic mine", "User-agent: me"] = .ok extra ∧
      (named "Authorization" (headers extra "7" "secret")).map Prod.snd =
        ["Basic mine", "Bearer secret"] ∧
      (named "User-Agent" (headers extra "7" "secret")).map Prod.snd = ["me", userAgent "7"] :=
  ⟨[("authorization", "Basic mine"), ("User-agent", "me")], by decide +kernel, by decide +kernel,
    by decide +kernel⟩

end Transport
end MagnetStream.Http
