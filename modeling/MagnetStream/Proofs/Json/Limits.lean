import MagnetStream.Proofs.Json.Walk

/-!
# The limits of the reader

The reader fails on a limit just if the walk over the text comes to a place that meets it
(`readAll_limit_iff`, `read_limit_iff`). The readers of values, items and members each tell the walk
from where they start (`Tells`), by induction on the fuel, of which twice the length of the text is
enough (`told`).

To meet a limit takes a row of that many digits (`digits_of_meetsLimit`), or more opening brackets
than may be nested (`brackets_of_meetsLimit`).
-/

namespace MagnetStream.Json

namespace Reader

open Place (item enter? leave? nextOfValue? nextOfName? next?)

namespace LimitsLemmas

open WalkLemmas

variable {container : Container} {inside : List Container} {text rest : List Char}

theorem skip_length (text : List Char) : (skip text).length ≤ text.length :=
  (List.dropWhile_suffix _).length_le

theorem length_of_skip {c : Char} (h : skip text = c :: rest) : rest.length < text.length := by
  have hskip := skip_length text
  rw [h] at hskip
  exact hskip

/-- The next item starts behind the comma. -/
theorem length_of_item {c : Char} (h : skip text = c :: rest) :
    (skip rest).length < text.length :=
  Nat.lt_of_le_of_lt (skip_length rest) (length_of_skip h)

variable [Nesting]

theorem not_meets_behind {limit : Limit} : ¬ (Place.behind inside text).Meets limit := nofun

theorem not_meets_name {limit : Limit} : ¬ (Place.name inside text).Meets limit := nofun

theorem not_meets_string {limit : Limit} : ¬ (Place.value inside ('"' :: rest)).Meets limit := by
  generalize htext : '"' :: rest = text
  intro h
  cases h with
  | nesting container => cases container <;> cases htext
  | digits h => exact absurd (head_of_longWhole (htext ▸ h)) (by decide)

/-! ## What the readers tell -/

/-- The result of a reader tells the walk from where it starts: behind what was read, or to its
end. -/
def Tells (start : Place) (inside : List Container) : Except Stop (Json × List Char) → Prop
  | .ok (_, rest) => Walk start (.behind inside rest) ∧ rest.length < start.text.length
  | .error (.limit limit) => ∃ last, Walk start last ∧ last.Meets limit
  | .error (.malformed ..) =>
    ∃ last, Walk start last ∧ last.next? = none ∧ ∀ limit, ¬ last.Meets limit

theorem tells_of_walk {start place : Place} {result : Except Stop (Json × List Char)}
    (hwalk : Walk start place) (hlength : place.text.length ≤ start.text.length)
    (h : Tells place inside result) : Tells start inside result := by
  match result, h with
  | .ok (_, _), ⟨hbehind, hshort⟩ =>
    exact ⟨hwalk.trans hbehind, Nat.lt_of_lt_of_le hshort hlength⟩
  | .error (.limit _), ⟨last, hlast, hmeets⟩ => exact ⟨last, hwalk.trans hlast, hmeets⟩
  | .error (.malformed ..), ⟨last, hlast, hend⟩ => exact ⟨last, hwalk.trans hlast, hend⟩

theorem tells_bind {start : Place} {middle : List Container}
    {first : Except Stop (Json × List Char)}
    {next : Json × List Char → Except Stop (Json × List Char)} (h : Tells start middle first)
    (hn : ∀ value rest, rest.length < start.text.length →
      Tells (.behind middle rest) inside (next (value, rest))) :
    Tells start inside (first >>= next) := by
  match first, h with
  | .ok (value, rest), ⟨hbehind, hshort⟩ =>
    exact tells_of_walk hbehind (Nat.le_of_lt hshort) (hn value rest hshort)
  | .error (.limit _), h => exact h
  | .error (.malformed ..), h => exact h

theorem tells_malformed {start : Place} {cause : Malformation} {left : Nat}
    (hend : start.next? = none) (hmeets : ∀ limit, ¬ start.Meets limit) :
    Tells start inside (.error (.malformed cause left)) :=
  ⟨start, .refl, hend, hmeets⟩

/-- With fuel for the text, the readers tell the walk. What is open and what may still be opened
make up what may be nested, and a call that gets less fuel gets less text as well. -/
structure Told (fuel : Nat) : Prop where
  value : ∀ {depth : Nat} {inside : List Container} {text : List Char},
    inside.length + depth = Nesting.reading → 2 * text.length + 1 ≤ fuel →
    Tells (.value inside text) inside (readValue fuel depth text)
  items : ∀ {depth : Nat} {inside : List Container} {text : List Char} (read : List Json),
    inside.length + 1 + depth = Nesting.reading → 2 * text.length + 2 ≤ fuel →
    Tells (item .array inside text) inside (readItems fuel depth read text)
  members : ∀ {depth : Nat} {inside : List Container} {text : List Char}
    (read : List (String × Json)), inside.length + 1 + depth = Nesting.reading →
    2 * text.length + 2 ≤ fuel →
    Tells (item .object inside text) inside (readMembers fuel depth read text)

variable {fuel depth : Nat}

theorem tells_scalar (hs : ∀ rest, text = '"' :: rest → False)
    (ha : ∀ rest, text = '[' :: rest → False) (ho : ∀ rest, text = '\x7b' :: rest → False) :
    Tells (.value inside text) inside (readScalar text) := by
  have hnext : (Place.value inside text).next? = _ := nextOfValue?_scalar hs ha ho
  cases hread : readScalar text with
  | ok found =>
    rw [hread] at hnext
    exact ⟨.single hnext, (readScalar_shortens hread).2⟩
  | error stop =>
    rw [hread] at hnext
    cases stop with
    | limit limit =>
      obtain ⟨count, rfl, hlong⟩ := readScalar_limit_iff.mp hread
      exact ⟨_, .refl, .digits hlong⟩
    | malformed cause left =>
      refine tells_malformed hnext fun limit hmeets => ?_
      generalize hplace : Place.value inside text = place at hmeets
      cases hmeets with
      | nesting container =>
        cases hplace
        cases container
        · exact ha _ rfl
        · exact ho _ rfl
      | digits hlong =>
        cases hplace
        rw [readScalar_limit_iff.mpr ⟨_, rfl, hlong⟩] at hread
        cases hread

/-- A string that is read is followed by what comes behind it. -/
theorem tells_string {start : Place} {length : Nat}
    {next : String × List Char → Except Stop (Json × List Char)}
    (hmeets : ∀ limit, ¬ start.Meets limit)
    (hend : ∀ stop, readString length ⟨[], none⟩ text = .error stop → start.next? = none)
    (hn : ∀ string after, readString length ⟨[], none⟩ text = .ok (string, after) →
      Tells start inside (next (string, after))) :
    Tells start inside (readString length ⟨[], none⟩ text >>= next) := by
  cases hread : readString length ⟨[], none⟩ text with
  | ok found => exact hn _ _ hread
  | error stop =>
    cases stop with
    | limit limit => exact absurd hread readString_no_limit
    | malformed cause left => exact tells_malformed (hend _ hread) hmeets

theorem next?_opening (container : Container) :
    (Place.value inside (container.opening :: rest)).next? = enter? container inside rest := by
  cases container <;> rfl

/-- A container that is closed at once. -/
theorem tells_empty (container : Container) (hdepth : inside.length < Nesting.reading)
    (h : skip text = container.closing :: rest) (value : Json) :
    Tells (.value inside (container.opening :: text)) inside (.ok (value, rest)) :=
  ⟨.single ((next?_opening container).trans (enter?_closed hdepth h)),
    Nat.lt_succ_of_lt (length_of_skip h)⟩

/-- A container with items. -/
theorem tells_first (container : Container) {result : Except Stop (Json × List Char)}
    (hdepth : inside.length < Nesting.reading)
    (hother : ∀ rest, skip text = container.closing :: rest → False)
    (h : Tells (item container inside (skip text)) inside result) :
    Tells (.value inside (container.opening :: text)) inside result := by
  refine tells_of_walk (.single ((next?_opening container).trans (enter?_item hdepth hother))) ?_ h
  rw [item_text]
  exact Nat.le_succ_of_le (skip_length text)

/-- The last item of a container. -/
theorem tells_last (h : skip text = container.closing :: rest) (value : Json) :
    Tells (.behind (container :: inside) text) inside (.ok (value, rest)) :=
  ⟨.single (leave?_closed h), length_of_skip h⟩

/-- An item of a container with more of them. -/
theorem tells_more {result : Except Stop (Json × List Char)} (hcomma : skip text = ',' :: rest)
    (h : Tells (item container inside (skip rest)) inside result) :
    Tells (.behind (container :: inside) text) inside result := by
  refine tells_of_walk (.single (leave?_item hcomma)) ?_ h
  rw [item_text]
  exact Nat.le_of_lt (length_of_item hcomma)

/-! ## One call of a reader -/

theorem value_step (told : Told fuel) (hdepth : inside.length + depth = Nesting.reading)
    (hfuel : 2 * text.length + 1 ≤ fuel + 1) :
    Tells (.value inside text) inside (readValue (fuel + 1) depth text) := by
  unfold readValue
  split
  · next rest =>
    exact tells_string (fun _ => not_meets_string) (fun _ hread => nextOfValue?_no_string hread)
      fun _ _ hread => ⟨.single (nextOfValue?_string hread),
        Nat.lt_succ_of_lt (readString_shortens hread).2⟩
  · next rest =>
    cases depth with
    | zero => exact ⟨_, .refl, .nesting .array (Nat.le_of_eq hdepth.symm)⟩
    | succ depth =>
      have hskip := skip_length rest
      rw [List.length_cons] at hfuel
      dsimp only
      split
      · next hclose => exact tells_empty .array (by omega) hclose _
      · next hother =>
        exact tells_first .array (by omega) hother (told.items [] (by omega) (by omega))
  · next rest =>
    cases depth with
    | zero => exact ⟨_, .refl, .nesting .object (Nat.le_of_eq hdepth.symm)⟩
    | succ depth =>
      have hskip := skip_length rest
      rw [List.length_cons] at hfuel
      dsimp only
      split
      · next hclose => exact tells_empty .object (by omega) hclose _
      · next hother =>
        exact tells_first .object (by omega) hother (told.members [] (by omega) (by omega))
  · next hs ha ho => exact tells_scalar hs ha ho

theorem items_step (told : Told fuel) (read : List Json)
    (hdepth : inside.length + 1 + depth = Nesting.reading)
    (hfuel : 2 * text.length + 2 ≤ fuel + 1) :
    Tells (item .array inside text) inside (readItems (fuel + 1) depth read text) := by
  unfold readItems
  refine tells_bind (told.value hdepth (by omega)) fun value rest hshort => ?_
  rw [item_text] at hshort
  dsimp only
  split
  · next hclose => exact tells_last hclose _
  · next hcomma =>
    have hafter := length_of_item hcomma
    exact tells_more hcomma (told.items _ hdepth (by omega))
  · next hclose hcomma =>
    exact tells_malformed (leave?_none hclose hcomma) fun _ => not_meets_behind

theorem members_step (told : Told fuel) (read : List (String × Json))
    (hdepth : inside.length + 1 + depth = Nesting.reading)
    (hfuel : 2 * text.length + 2 ≤ fuel + 1) :
    Tells (item .object inside text) inside (readMembers (fuel + 1) depth read text) := by
  unfold readMembers
  split
  · next rest =>
    rw [List.length_cons] at hfuel
    refine tells_string (fun _ => not_meets_name) (fun _ hread => nextOfName?_no_string hread)
      fun name after hread => ?_
    have hname := (readString_shortens hread).2
    dsimp only
    split
    · next more hcolon =>
      have hmore := length_of_item hcolon
      refine tells_of_walk (.single (nextOfName?_colon hread hcolon))
        (Nat.le_succ_of_le (Nat.le_of_lt (Nat.lt_trans hmore hname))) ?_
      refine tells_bind (told.value hdepth (by omega)) fun value last hshort => ?_
      have hshort : last.length < (skip more).length := hshort
      dsimp only
      split
      · next hclose => exact tells_last hclose _
      · next hcomma =>
        have hafter := length_of_item hcomma
        exact tells_more hcomma (told.members _ hdepth (by omega))
      · next hclose hcomma =>
        exact tells_malformed (leave?_none hclose hcomma) fun _ => not_meets_behind
    · next hcolon =>
      exact tells_malformed (nextOfName?_no_colon hread hcolon) fun _ => not_meets_name
  · next hother => exact tells_malformed (nextOfName?_other hother) fun _ => not_meets_name

theorem told : ∀ fuel, Told fuel
  | 0 => ⟨fun _ h => absurd h (by omega), fun _ _ h => absurd h (by omega),
      fun _ _ h => absurd h (by omega)⟩
  | fuel + 1 =>
    ⟨value_step (told fuel), items_step (told fuel), members_step (told fuel)⟩

/-- A walk that starts outside of all containers ends where the result says. -/
theorem limit_iff_of_tells {start : Place} {result : Except Stop (Json × List Char)} {limit : Limit}
    (h : Tells start [] result) :
    result = .error (.limit limit) ↔ ∃ place, Walk start place ∧ place.Meets limit := by
  have hend {last place : Place} {met : Limit} (hlast : Walk start last) (hnext : last.next? = none)
      (hplace : Walk start place) (hmeets : place.Meets met) : last.Meets met :=
    end_unique hlast hnext hplace (next?_of_meets hmeets) ▸ hmeets
  constructor
  · rintro rfl
    exact h
  · rintro ⟨place, hplace, hmeets⟩
    match result, h with
    | .ok (_, rest), ⟨hbehind, _⟩ =>
      exact absurd (hend hbehind rfl hplace hmeets) not_meets_behind
    | .error (.limit other), ⟨last, hlast, hother⟩ =>
      rw [meets_unique hother (hend hlast (next?_of_meets hother) hplace hmeets)]
    | .error (.malformed ..), ⟨last, hlast, hnext, hno⟩ =>
      exact absurd (hend hlast hnext hplace hmeets) (hno limit)

end LimitsLemmas

open LimitsLemmas

/-- The reader fails on a limit just if its walk comes to a place that meets it. -/
theorem readAll_limit_iff [Nesting] {text : List Char} {limit : Limit} :
    readAll text = .error (.limit limit) ↔
      text.head? ≠ some '\uFEFF' ∧
        ∃ place, Walk (.value [] (skip text)) place ∧ place.Meets limit := by
  have hskip := skip_length text
  have htells : Tells (.value [] (skip text)) [] _ :=
    (told (2 * text.length + 2)).value (Nat.zero_add Nesting.reading) (by omega)
  rw [← limit_iff_of_tells htells]
  unfold readAll
  by_cases hmark : text.head? = some '\uFEFF'
  · simp [hmark, throw, throwThe, MonadExceptOf.throw, bind, Except.bind]
  · simp only [hmark, beq_iff_eq, if_false, ne_eq, not_false_eq_true, true_and]
    cases readValue (2 * text.length + 2) Nesting.reading (skip text) with
    | error stop => simp [bind, Except.bind]
    | ok found =>
      obtain ⟨value, rest⟩ := found
      refine iff_of_false (fun h => ?_) nofun
      simp only [bind, Except.bind] at h
      split at h <;> cases h

end Reader

/-- A text meets a limit of the reader: on the walk over it there is a place that does. -/
def MeetsLimit [Nesting] (text : List Char) (limit : Limit) : Prop :=
  text.head? ≠ some '\uFEFF' ∧
    ∃ place, Reader.Walk (.value [] (Reader.skip text)) place ∧ place.Meets limit

/-- A text is refused for a limit just if it meets that limit. -/
theorem read_limit_iff [Nesting] {text : List Char} {limit : Limit} :
    read text = .error (.limit limit) ↔ MeetsLimit text limit := by
  rw [MeetsLimit, ← Reader.readAll_limit_iff]
  unfold read
  cases Reader.readAll text with
  | ok value => simp
  | error stop => cases stop <;> simp

/-- A text that meets the limit on digits has that many digits in a row. -/
theorem digits_of_meetsLimit [Nesting] {text : List Char} {count : Nat}
    (h : MeetsLimit text (.digits count)) :
    Text.maxDigits < count ∧
      ∃ digits, digits <:+: text ∧ digits.length = count ∧ ∀ c ∈ digits, c.isDigit = true := by
  obtain ⟨-, place, hwalk, hmeets⟩ := h
  cases hmeets with
  | digits hwhole =>
    obtain ⟨hlong, digits, hinfix, hdigits⟩ := Reader.digits_of_longWhole hwhole
    have hend := (Reader.walk_keeps hwalk).text.trans (Reader.WalkLemmas.skip_suffix text)
    exact ⟨hlong, digits, hinfix.trans hend.isInfix, hdigits⟩

/-- A text that meets the limit on nesting has more opening brackets than that. -/
theorem brackets_of_meetsLimit [Nesting] {text : List Char} {container : Container}
    (h : MeetsLimit text (.nesting container)) : Nesting.reading < Reader.brackets text := by
  obtain ⟨-, place, hwalk, hmeets⟩ := h
  cases hmeets with
  | nesting _ hdeep =>
    have hopen := (Reader.walk_keeps hwalk).open_le
    have hskip : Reader.brackets (Reader.skip text) ≤ Reader.brackets text :=
      Reader.WalkLemmas.brackets_le (Reader.WalkLemmas.skip_suffix text)
    simp only [Reader.Place.inside, Reader.Place.text, Reader.WalkLemmas.brackets_opening,
      List.length_nil] at hopen
    omega

end MagnetStream.Json
