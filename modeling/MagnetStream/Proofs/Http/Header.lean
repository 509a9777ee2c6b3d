import MagnetStream.Http.Header
import MagnetStream.Proofs.Entries
import MagnetStream.Proofs.Result
import MagnetStream.Proofs.Text.Cutting

/-!
# Extra headers

A text writes one header, or none (`Writes`), and an accepted list of texts the headers of its texts
one after the other (`readHeaders_eq_ok`). So each name stands once, where it came first, with the
value that came last, and lists that are put together give what their headers give
(`accepted_headers`). The colon is looked for before blank space is trimmed, which leaves an empty
name or value where there is nothing but blank space beside it.
-/

namespace MagnetStream.Http

/-- A text writes a name and a value: they are what stands on both sides of its first colon, which
is neither its first nor its last character, without the blank space around them. -/
def Writes (text name value : String) : Prop :=
  ∃ front back, text.toList = front ++ ':' :: back ∧ ':' ∉ front ∧ front ≠ [] ∧ back ≠ [] ∧
    Text.IsCore Text.isBlank name.toList front ∧ Text.IsCore Text.isBlank value.toList back

/-- The headers that texts write one after the other; empty texts are skipped. -/
inductive WrittenBy : List String → List (String × String) → Prop
  | nil : WrittenBy [] []
  | skip {texts : List String} {written : List (String × String)} :
      WrittenBy texts written → WrittenBy ("" :: texts) written
  | header {text name value : String} {texts : List String} {written : List (String × String)} :
      Writes text name value → WrittenBy texts written →
        WrittenBy (text :: texts) ((name, value) :: written)

/-- Of texts, this is the last one that writes a name; it writes it with a value. -/
def LastWrites (texts : List String) (text name value : String) : Prop :=
  ∃ before after, texts = before ++ text :: after ∧ Writes text name value ∧
    ∀ other ∈ after, ∀ otherValue, ¬ Writes other name otherValue

/-- There is nothing but blank space in front of the first colon. -/
def BlankName (text : String) : Prop :=
  ∃ front back, text.toList = front ++ ':' :: back ∧ ':' ∉ front ∧
    ∀ c ∈ front, Text.isBlank c = true

/-- There is nothing but blank space behind the first colon. -/
def BlankValue (text : String) : Prop :=
  ∃ front back, text.toList = front ++ ':' :: back ∧ ':' ∉ front ∧
    ∀ c ∈ back, Text.isBlank c = true

namespace HeaderLemmas

variable {text name value : String} {texts : List String} {headers : Entries String}
  {written : List (String × String)}

/-! ## One text -/

theorem readHeader?_eq_some : readHeader? text = some (name, value) ↔ Writes text name value := by
  unfold readHeader?
  constructor
  · intro h
    split at h
    · cases h
    · next first rest back hback hsplit =>
      rw [Option.some.injEq, Prod.mk.injEq] at h
      obtain ⟨rfl, rfl⟩ := h
      have hcolon : ':' ∉ first :: rest := fun hm => by
        have hfront : ':' ∈ (Text.splitAtChar ':' text.toList).1 := by rwa [hsplit]
        exact (Text.mem_of_mem_splitAtChar hfront).2 rfl
      refine ⟨first :: rest, back, Text.splitAtChar_join hsplit, hcolon, by simp, hback, ?_, ?_⟩
      · rw [String.toList_ofList]
        exact Text.isCore_trimBy ..
      · rw [String.toList_ofList]
        exact Text.isCore_trimBy ..
    · cases h
  · rintro ⟨front, back, htext, hcolon, hfront, hback, hname, hvalue⟩
    obtain ⟨first, rest, rfl⟩ := List.exists_cons_of_ne_nil hfront
    obtain ⟨next, others, rfl⟩ := List.exists_cons_of_ne_nil hback
    rw [htext, Text.splitAtChar_append hcolon]
    simp only [Text.trimBy_eq_iff.mpr hname, Text.trimBy_eq_iff.mpr hvalue, String.ofList_toList]

theorem not_writes_empty : ¬ Writes "" name value := by
  rintro ⟨front, back, htext, _⟩
  exact absurd htext (by simp)

theorem writes_unique {otherName otherValue : String} (h : Writes text name value)
    (hother : Writes text otherName otherValue) : otherName = name ∧ otherValue = value := by
  rw [← readHeader?_eq_some] at h hother
  simpa using hother.symm.trans h

/-- A text has one first colon. -/
theorem sides_unique {front back otherFront otherBack : List Char}
    (htext : text.toList = front ++ ':' :: back) (hcolon : ':' ∉ front)
    (hother : text.toList = otherFront ++ ':' :: otherBack) (hotherColon : ':' ∉ otherFront) :
    otherFront = front ∧ otherBack = back := by
  have hsplit := Text.splitAtChar_append hcolon back
  rw [← htext, hother, Text.splitAtChar_append hotherColon] at hsplit
  simpa using hsplit

theorem trimmed_of_writes (h : Writes text name value) :
    Text.Trimmed Text.isBlank name.toList ∧ Text.Trimmed Text.isBlank value.toList := by
  obtain ⟨_, _, _, _, _, _, hname, hvalue⟩ := h
  exact ⟨hname.trimmed, hvalue.trimmed⟩

theorem isCore_empty {core : String} {side : List Char}
    (h : Text.IsCore Text.isBlank core.toList side) :
    core = "" ↔ ∀ c ∈ side, Text.isBlank c = true := by
  rw [← Text.isCore_nil]
  constructor
  · rintro rfl
    exact h
  · intro hnil
    exact String.toList_eq_nil_iff.mp (h.unique hnil)

/-- A name or a value is empty just where there is nothing but blank space. -/
theorem empty_iff_of_writes (h : Writes text name value) :
    (name = "" ↔ BlankName text) ∧ (value = "" ↔ BlankValue text) := by
  obtain ⟨front, back, htext, hcolon, _, _, hname, hvalue⟩ := h
  rw [isCore_empty hname, isCore_empty hvalue]
  constructor
  · refine ⟨fun hblank => ⟨front, back, htext, hcolon, hblank⟩, ?_⟩
    rintro ⟨otherFront, otherBack, hother, hotherColon, hblank⟩
    rwa [(sides_unique htext hcolon hother hotherColon).1] at hblank
  · refine ⟨fun hblank => ⟨front, back, htext, hcolon, hblank⟩, ?_⟩
    rintro ⟨otherFront, otherBack, hother, hotherColon, hblank⟩
    rwa [(sides_unique htext hcolon hother hotherColon).2] at hblank

/-! ## A list of texts -/

theorem addHeader_eq_ok {before : Entries String} : addHeader before text = .ok headers ↔
    text = "" ∧ headers = before ∨
      ∃ name value, Writes text name value ∧ headers = before.insert name value := by
  unfold addHeader
  by_cases hempty : text = ""
  · subst hempty
    have hkept : (.ok before : Except Failure _) = .ok headers ↔ headers = before :=
      ⟨fun h => by cases h; rfl, fun h => by rw [h]⟩
    simpa [not_writes_empty] using hkept
  · rw [if_neg (by simpa using hempty), or_iff_right fun h => hempty h.1]
    cases hread : readHeader? text with
    | none =>
      have hno : ∀ name value, ¬ Writes text name value := fun name value hwrites => by
        rw [readHeader?_eq_some.mpr hwrites] at hread
        cases hread
      simp [hno]
    | some header =>
      obtain ⟨name, value⟩ := header
      have hwrites := readHeader?_eq_some.mp hread
      constructor
      · intro h
        cases h
        exact ⟨name, value, hwrites, rfl⟩
      · rintro ⟨otherName, otherValue, hother, rfl⟩
        obtain ⟨rfl, rfl⟩ := writes_unique hwrites hother
        rfl

theorem foldlM_addHeader_eq_ok {before : Entries String} :
    texts.foldlM addHeader before = .ok headers ↔
      ∃ written, WrittenBy texts written ∧ headers = before.insertAll written := by
  induction texts generalizing before with
  | nil =>
    constructor
    · rintro ⟨⟩
      exact ⟨[], .nil, rfl⟩
    · rintro ⟨_, ⟨⟩, rfl⟩
      rfl
  | cons text rest ih =>
    rw [List.foldlM_cons, Except.bind_eq_ok]
    simp only [addHeader_eq_ok, ih]
    constructor
    · rintro ⟨_, ⟨rfl, rfl⟩ | ⟨name, value, hwrites, rfl⟩, written, hrest, rfl⟩
      · exact ⟨written, hrest.skip, rfl⟩
      · exact ⟨(name, value) :: written, .header hwrites hrest, rfl⟩
    · rintro ⟨_, hwritten, rfl⟩
      cases hwritten with
      | skip hrest => exact ⟨before, .inl ⟨rfl, rfl⟩, _, hrest, rfl⟩
      | header hwrites hrest => exact ⟨_, .inr ⟨_, _, hwrites, rfl⟩, _, hrest, rfl⟩

/-- A list is accepted just when each of its texts is empty or writes a header, and gives the
headers that they write one after the other. -/
theorem readHeaders_eq_ok : readHeaders texts = .ok headers ↔
    ∃ written, WrittenBy texts written ∧ headers = Entries.ofPairs written :=
  foldlM_addHeader_eq_ok

theorem writtenBy_append {more : List String} {others : List (String × String)}
    (h : WrittenBy texts written) (hmore : WrittenBy more others) :
    WrittenBy (texts ++ more) (written ++ others) := by
  induction h with
  | nil => exact hmore
  | skip _ ih => exact ih.skip
  | header hwrites _ ih => exact .header hwrites ih

/-- The names that are written are those that some text writes. -/
theorem mem_names_written (h : WrittenBy texts written) :
    name ∈ Entries.names written ↔ ∃ text ∈ texts, ∃ value, Writes text name value := by
  induction h with
  | nil => simp [Entries.names]
  | skip _ ih => simpa [not_writes_empty] using ih
  | header hwrites _ ih =>
    rw [Entries.names, List.map_cons, List.mem_cons, List.exists_mem_cons_iff]
    refine or_congr ⟨?_, ?_⟩ ih
    · rintro rfl
      exact ⟨_, hwrites⟩
    · rintro ⟨value, hvalue⟩
      exact (writes_unique hwrites hvalue).1

theorem lastWrites_cons {first : String} {rest : List String} :
    LastWrites (first :: rest) text name value ↔ LastWrites rest text name value ∨
      text = first ∧ Writes first name value ∧
        ∀ other ∈ rest, ∀ otherValue, ¬ Writes other name otherValue := by
  constructor
  · rintro ⟨before, after, htexts, hwrites, hlast⟩
    cases before with
    | nil =>
      cases htexts
      exact .inr ⟨rfl, hwrites, hlast⟩
    | cons _ before =>
      cases htexts
      exact .inl ⟨before, after, rfl, hwrites, hlast⟩
  · rintro (⟨before, after, rfl, hwrites, hlast⟩ | ⟨rfl, hwrites, hlast⟩)
    · exact ⟨first :: before, after, rfl, hwrites, hlast⟩
    · exact ⟨[], rest, rfl, hwrites, hlast⟩

/-- What is written last of a name is what the last text says that writes it. -/
theorem lookup_written (h : WrittenBy texts written) :
    written.reverse.lookup name = some value ↔ ∃ text, LastWrites texts text name value := by
  induction h generalizing value with
  | nil =>
    refine ⟨nofun, ?_⟩
    rintro ⟨_, before, _, htexts, _⟩
    cases before <;> cases htexts
  | skip _ ih => simp only [lastWrites_cons, not_writes_empty, false_and, and_false, or_false, ih]
  | @header first firstName firstValue rest others hwrites hrest ih =>
    have hmissing : others.reverse.lookup name = none ↔
        ∀ other ∈ rest, ∀ otherValue, ¬ Writes other name otherValue := by
      have hnames : others.reverse.lookup name = none ↔ name ∉ Entries.names others :=
        Entries.get?_eq_none_iff.trans (by simp [Entries.names])
      rw [hnames, mem_names_written hrest]
      simp
    have hfirst : List.lookup name [(firstName, firstValue)] = some value ↔
        Writes first name value := by
      constructor
      · intro h
        by_cases hname : name = firstName
        · subst hname
          cases (List.lookup_cons_self).symm.trans h
          exact hwrites
        · rw [List.lookup_cons, beq_eq_false_iff_ne.mpr hname] at h
          cases h
      · intro h
        obtain ⟨rfl, rfl⟩ := writes_unique hwrites h
        exact List.lookup_cons_self
    rw [List.reverse_cons, List.lookup_append]
    simp only [lastWrites_cons, exists_or, ← ih, ← hmissing, exists_eq_left]
    cases hrest : others.reverse.lookup name with
    | none => simpa using hfirst
    | some later => simp

end HeaderLemmas

open HeaderLemmas

/-- The headers of an accepted list are those that its texts write, of each name the last, without
blank space around name and value. A name or value is empty just where its text has nothing but
blank space on that side of its first colon. No name stands twice, and each has the place where it
came first. Lists that are put together give the headers of the first with those of the second put
into them. -/
theorem accepted_headers {texts : List String} {headers : Entries String}
    (h : readHeaders texts = .ok headers) :
    (∀ name value, (name, value) ∈ headers ↔ ∃ text, LastWrites texts text name value) ∧
    (∀ text name value, LastWrites texts text name value →
      Text.Trimmed Text.isBlank name.toList ∧ Text.Trimmed Text.isBlank value.toList ∧
        (name = "" ↔ BlankName text) ∧ (value = "" ↔ BlankValue text)) ∧
    (Entries.names headers).Nodup ∧
    (∃ written, WrittenBy texts written ∧
      Entries.names headers = (Entries.names written).eraseDups) ∧
    ∀ more others, readHeaders more = .ok others →
      readHeaders (texts ++ more) = .ok (headers.insertAll others) := by
  obtain ⟨written, hwritten, rfl⟩ := readHeaders_eq_ok.mp h
  have hnodup := Entries.nodup_names_ofPairs written
  refine ⟨fun name value => ?_, fun text name value hlast => ?_, hnodup,
    ⟨written, hwritten, Entries.names_ofPairs written⟩, fun more others hmore => ?_⟩
  · rw [Entries.mem_iff_get? hnodup, Entries.get?_ofPairs, lookup_written hwritten]
  · obtain ⟨_, _, _, hwrites, _⟩ := hlast
    obtain ⟨hname, hvalue⟩ := trimmed_of_writes hwrites
    exact ⟨hname, hvalue, empty_iff_of_writes hwrites⟩
  · obtain ⟨behind, hbehind, rfl⟩ := readHeaders_eq_ok.mp hmore
    refine readHeaders_eq_ok.mpr ⟨written ++ behind, writtenBy_append hwritten hbehind, ?_⟩
    rw [Entries.insertAll_ofPairs, Entries.ofPairs, Entries.ofPairs, Entries.insertAll_append]

/-- Two headers with more blank space than they need, and a second value for the first. -/
def repeatedTexts : List String := ["X-Foo:  bar ", "", " X-Baz:qux", "X-Foo\t: http://a:8080"]

/-- The second value stands in the place of the first. -/
theorem accepted_headers_repeated :
    readHeaders repeatedTexts = .ok [("X-Foo", "http://a:8080"), ("X-Baz", "qux")] ∧
      (∃ text, LastWrites repeatedTexts text "X-Foo" "http://a:8080") ∧
      ¬ (∃ text, LastWrites repeatedTexts text "X-Foo" "bar") ∧
      readHeaders (repeatedTexts ++ ["X-Baz: last"]) =
        .ok [("X-Foo", "http://a:8080"), ("X-Baz", "last")] := by
  have hread : readHeaders repeatedTexts = .ok [("X-Foo", "http://a:8080"), ("X-Baz", "qux")] := by
    decide +kernel
  obtain ⟨hlast, _, _, _, hmore⟩ := accepted_headers hread
  refine ⟨hread, (hlast _ _).mp (by decide), fun hold => ?_, hmore _ [("X-Baz", "last")] ?_⟩
  · exact absurd ((hlast _ _).mpr hold) (by decide)
  · decide +kernel

/-- A name of nothing but blank space is accepted, and so is a value, although a header without name
or value is not. -/
theorem blank_sides_are_accepted :
    readHeaders [":x"] = .error (.badHeader ":x") ∧
      readHeaders ["X-Foo:"] = .error (.badHeader "X-Foo:") ∧
      readHeaders [" :x", "X-Foo: "] = .ok [("", "x"), ("X-Foo", "")] ∧
      ¬ ∀ texts headers, readHeaders texts = .ok headers →
        ∀ header ∈ headers, header.1 ≠ "" ∧ header.2 ≠ "" := by
  have hread : readHeaders [" :x", "X-Foo: "] = .ok [("", "x"), ("X-Foo", "")] := by
    decide +kernel
  refine ⟨by decide +kernel, by decide +kernel, hread, fun hall => ?_⟩
  exact (hall _ _ hread ("", "x") (by decide)).1 rfl

end MagnetStream.Http
