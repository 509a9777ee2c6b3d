import Mathlib.Logic.Relation
import MagnetStream.Proofs.Json.Pieces

/-!
# Reading as a walk

The reader of JSON calls itself for what is nested, with fuel and with a count of how much deeper
values may be. Told without either, it walks over the text with the open containers on a stack
(`Place.next?`). No place has two that come next, so a walk has one end (`end_unique`). It may end
early, where the text meets a limit of the reader (`Place.Meets`): a whole number of too many
digits, or a bracket inside of as many containers as may be.

What a walk has passed stays behind it, and a container that it is in was opened by a bracket there
(`walk_keeps`).
-/

namespace MagnetStream.Json

def Container.opening : Container → Char
  | .array => '['
  | .object => '\x7b'

def Container.closing : Container → Char
  | .array => ']'
  | .object => '\x7d'

namespace Reader

/-- Where a walk stands: inside of open containers, the innermost first, before what is left of the
text. -/
inductive Place where
  /-- A value is to be read. -/
  | value (inside : List Container) (text : List Char)
  /-- A name is to be read, and the colon behind it. -/
  | name (inside : List Container) (text : List Char)
  /-- A value was read. -/
  | behind (inside : List Container) (text : List Char)

namespace Place

def text : Place → List Char
  | .value _ text => text
  | .name _ text => text
  | .behind _ text => text

def inside : Place → List Container
  | .value inside _ => inside
  | .name inside _ => inside
  | .behind inside _ => inside

/-- Before an item of a container: an object names its items. -/
def item (container : Container) (inside : List Container) (text : List Char) : Place :=
  match container with
  | .array => .value (container :: inside) text
  | .object => .name (container :: inside) text

/-- The way into a container, whose opening bracket was read: to its end at once, or to its first
item. -/
def enter? [Nesting] (container : Container) (inside : List Container) (text : List Char) :
    Option Place :=
  if Nesting.reading ≤ inside.length then none
  else if (skip text).head? = some container.closing then some (.behind inside (skip text).tail)
  else some (item container inside (skip text))

/-- The way on from an item of a container: to the end of the container, or to its next item. -/
def leave? (container : Container) (inside : List Container) (text : List Char) : Option Place :=
  if (skip text).head? = some container.closing then some (.behind inside (skip text).tail)
  else if (skip text).head? = some ',' then
    some (item container inside (skip (skip text).tail))
  else none

/-- The way on from a value. -/
def nextOfValue? [Nesting] (inside : List Container) (text : List Char) : Option Place :=
  match text with
  | '"' :: rest => (readString text.length ⟨[], none⟩ rest).toOption.map (.behind inside ·.2)
  | '[' :: rest => enter? .array inside rest
  | '\x7b' :: rest => enter? .object inside rest
  | text => (readScalar text).toOption.map (.behind inside ·.2)

/-- The way on from a name. -/
def nextOfName? (inside : List Container) (text : List Char) : Option Place :=
  match text with
  | '"' :: rest => do
    let (_, rest) ← (readString text.length ⟨[], none⟩ rest).toOption
    if (skip rest).head? = some ':' then some (.value inside (skip (skip rest).tail)) else none
  | _ => none

/-- Where a walk goes on; nowhere at its end. -/
def next? [Nesting] : Place → Option Place
  | .value inside text => nextOfValue? inside text
  | .name inside text => nextOfName? inside text
  | .behind (container :: inside) text => leave? container inside text
  | .behind [] _ => none

/-- What a walk meets at a place where it cannot go on: a container too many, or a whole number of
too many digits. -/
inductive Meets [Nesting] : Place → Limit → Prop
  | nesting (container : Container) {inside : List Container} {rest : List Char} :
      Nesting.reading ≤ inside.length →
      Meets (.value inside (container.opening :: rest)) (.nesting container)
  | digits {inside : List Container} {text : List Char} {count : Nat} : LongWhole text count →
      Meets (.value inside text) (.digits count)

end Place

/-- One place is on the walk from another. -/
abbrev Walk [Nesting] : Place → Place → Prop :=
  Relation.ReflTransGen fun place next => place.next? = some next

def brackets (text : List Char) : Nat := text.countP fun c => c == '[' || c == '\x7b'

/-- What one place keeps of another before it: its text is the end of the other, and every container
that is open was opened by a bracket. -/
structure Keeps (place next : Place) : Prop where
  text : next.text <:+ place.text
  open_le : next.inside.length + brackets next.text ≤ place.inside.length + brackets place.text

namespace WalkLemmas

open Place (item enter? leave? nextOfValue? nextOfName? next?)

variable {container : Container} {inside : List Container} {text rest : List Char}

/-! ## Single steps -/

theorem head?_ne {c : Char} (h : ∀ rest, text = c :: rest → False) : text.head? ≠ some c := by
  intro hhead
  obtain ⟨rest, htext⟩ := List.head?_eq_some_iff.mp hhead
  exact h rest htext

theorem enter?_closed [Nesting] (hdepth : inside.length < Nesting.reading)
    (h : skip text = container.closing :: rest) :
    enter? container inside text = some (.behind inside rest) := by
  simp [enter?, h, Nat.not_le_of_lt hdepth]

theorem enter?_item [Nesting] (hdepth : inside.length < Nesting.reading)
    (h : ∀ rest, skip text = container.closing :: rest → False) :
    enter? container inside text = some (item container inside (skip text)) := by
  simp [enter?, head?_ne h, Nat.not_le_of_lt hdepth]

theorem leave?_closed (h : skip text = container.closing :: rest) :
    leave? container inside text = some (.behind inside rest) := by
  simp [leave?, h]

theorem leave?_item (h : skip text = ',' :: rest) :
    leave? container inside text = some (item container inside (skip rest)) := by
  cases container <;> simp [leave?, h, Container.closing]

theorem leave?_none (hclose : ∀ rest, skip text = container.closing :: rest → False)
    (hcomma : ∀ rest, skip text = ',' :: rest → False) : leave? container inside text = none := by
  simp [leave?, head?_ne hclose, head?_ne hcomma]

/-- Before anything but a string, an array or an object, the walk goes on behind it. -/
theorem nextOfValue?_scalar [Nesting] (hs : ∀ rest, text = '"' :: rest → False)
    (ha : ∀ rest, text = '[' :: rest → False) (ho : ∀ rest, text = '\x7b' :: rest → False) :
    nextOfValue? inside text = (readScalar text).toOption.map (.behind inside ·.2) := by
  unfold nextOfValue?
  split
  · exact (hs _ rfl).elim
  · exact (ha _ rfl).elim
  · exact (ho _ rfl).elim
  · rfl

section Strings

variable {string : String} {stop : Stop} {after more : List Char}

theorem nextOfValue?_string [Nesting]
    (h : readString ('"' :: rest).length ⟨[], none⟩ rest = .ok (string, after)) :
    nextOfValue? inside ('"' :: rest) = some (.behind inside after) := by
  simp only [nextOfValue?, h, Except.toOption, Option.map_some]

theorem nextOfValue?_no_string [Nesting]
    (h : readString ('"' :: rest).length ⟨[], none⟩ rest = .error stop) :
    nextOfValue? inside ('"' :: rest) = none := by
  simp only [nextOfValue?, h, Except.toOption, Option.map_none]

theorem nextOfName?_colon
    (h : readString ('"' :: rest).length ⟨[], none⟩ rest = .ok (string, after))
    (hc : skip after = ':' :: more) :
    nextOfName? inside ('"' :: rest) = some (.value inside (skip more)) := by
  simp [nextOfName?, -List.length_cons, h, Except.toOption, hc]

theorem nextOfName?_no_colon
    (h : readString ('"' :: rest).length ⟨[], none⟩ rest = .ok (string, after))
    (hc : ∀ more, skip after = ':' :: more → False) :
    nextOfName? inside ('"' :: rest) = none := by
  simp [nextOfName?, -List.length_cons, h, Except.toOption, head?_ne hc]

theorem nextOfName?_no_string
    (h : readString ('"' :: rest).length ⟨[], none⟩ rest = .error stop) :
    nextOfName? inside ('"' :: rest) = none := by
  simp [nextOfName?, -List.length_cons, h, Except.toOption]

theorem nextOfName?_other (h : ∀ rest, text = '"' :: rest → False) :
    nextOfName? inside text = none := by
  unfold nextOfName?
  split
  · exact (h _ rfl).elim
  · rfl

end Strings

/-! ## The end of a walk -/

/-- A whole number of too many digits opens nothing. -/
theorem head_of_longWhole {c : Char} {count : Nat} (h : LongWhole (c :: rest) count) :
    c = '-' ∨ c.isDigit = true := by
  cases h with
  | plain h =>
    obtain ⟨_, _, ⟨⟩, hc⟩ := PiecesLemmas.startsDigit_of_longDigits h
    exact .inr hc
  | negative h => exact .inl rfl

theorem not_longWhole_opening {count : Nat} : ¬ LongWhole (container.opening :: rest) count := by
  intro h
  have hhead := head_of_longWhole h
  cases container <;> exact absurd hhead (by decide)

theorem next?_of_meets [Nesting] {place : Place} {limit : Limit} (h : place.Meets limit) :
    place.next? = none := by
  cases h with
  | nesting container hdeep =>
    cases container <;> exact if_pos hdeep
  | @digits _ text _ h =>
    have hother (c : Char) (hc : ¬ (c = '-' ∨ c.isDigit = true)) (rest : List Char)
        (htext : text = c :: rest) : False := hc (head_of_longWhole (htext ▸ h))
    rw [next?, nextOfValue?_scalar (hother '"' (by decide)) (hother '[' (by decide))
      (hother '\x7b' (by decide)), readScalar_limit_iff.mpr ⟨_, rfl, h⟩]
    rfl

theorem meets_unique [Nesting] {place : Place} {limit other : Limit} (h : place.Meets limit)
    (h' : place.Meets other) : limit = other := by
  cases h with
  | nesting container =>
    generalize htext : container.opening :: _ = text at h'
    cases h' with
    | nesting container' =>
      have hopening : container.opening = container'.opening := (List.cons.inj htext).1
      cases container <;> cases container' <;> first | rfl | exact absurd hopening (by decide)
    | digits h => exact absurd (htext ▸ h) not_longWhole_opening
  | digits h =>
    cases h' with
    | nesting => exact absurd h not_longWhole_opening
    | digits h' =>
      have hread := readScalar_limit_iff.mpr ⟨_, rfl, h⟩
      rw [readScalar_limit_iff.mpr ⟨_, rfl, h'⟩] at hread
      cases hread
      rfl

/-- Two places on a walk that both end it are one. -/
theorem end_unique [Nesting] {start place other : Place} (h : Walk start place)
    (hp : place.next? = none) (h' : Walk start other) (ho : other.next? = none) :
    place = other := by
  have hdet : Relator.RightUnique fun (place next : Place) => place.next? = some next :=
    fun _ _ _ hn hn' => Option.some.inj (hn.symm.trans hn')
  have hstay {p q : Place} (hp : p.next? = none) (hpq : Walk p q) : p = q := by
    cases hpq.cases_head with
    | inl heq => exact heq
    | inr hstep =>
      obtain ⟨_, hnext, -⟩ := hstep
      rw [hp] at hnext
      cases hnext
  rcases Relation.ReflTransGen.total_of_right_unique hdet h h' with hwalk | hwalk
  · exact hstay hp hwalk
  · exact (hstay ho hwalk).symm

/-! ## What a walk leaves -/

theorem brackets_le {rest text : List Char} (h : rest <:+ text) : brackets rest ≤ brackets text :=
  h.sublist.countP_le

theorem brackets_opening : brackets (container.opening :: rest) = brackets rest + 1 := by
  cases container <;> exact List.countP_cons_of_pos rfl

theorem skip_suffix (text : List Char) : skip text <:+ text := List.dropWhile_suffix _

theorem tail_skip_suffix (text : List Char) : (skip text).tail <:+ text :=
  (List.tail_suffix _).trans (skip_suffix text)

theorem keeps_of_suffix {place next : Place} (htext : next.text <:+ place.text)
    (hinside : next.inside.length ≤ place.inside.length) : Keeps place next :=
  ⟨htext, Nat.add_le_add hinside (brackets_le htext)⟩

theorem item_text : (item container inside text).text = text := by cases container <;> rfl

theorem item_inside : (item container inside text).inside = container :: inside := by
  cases container <;> rfl

theorem keeps_enter [Nesting] (container : Container) {next : Place}
    (h : enter? container inside rest = some next) :
    Keeps (.value inside (container.opening :: rest)) next := by
  have hrest (text : List Char) : text <:+ rest → text <:+ container.opening :: rest :=
    fun h => h.trans (List.suffix_cons _ _)
  unfold enter? at h
  split at h
  · cases h
  · split at h
    · cases h
      exact keeps_of_suffix (hrest _ (tail_skip_suffix rest)) (Nat.le_refl _)
    · cases h
      have hbrackets := brackets_le (skip_suffix rest)
      refine ⟨by rw [item_text]; exact hrest _ (skip_suffix rest), ?_⟩
      rw [item_text, item_inside]
      simp only [Place.text, Place.inside, List.length_cons, brackets_opening]
      omega

theorem keeps_leave {next : Place} (h : leave? container inside text = some next) :
    Keeps (.behind (container :: inside) text) next := by
  unfold leave? at h
  split at h
  · cases h
    exact keeps_of_suffix (tail_skip_suffix text) (Nat.le_succ _)
  · split at h
    · cases h
      refine keeps_of_suffix ?_ (by rw [item_inside]; exact Nat.le_refl _)
      rw [item_text]
      exact (skip_suffix _).trans (tail_skip_suffix text)
    · cases h

theorem keeps_behind {α : Type} {next : Place} {result : Except Stop (α × List Char)}
    (hshort : ∀ found after, result = .ok (found, after) → after <:+ text)
    (h : result.toOption.map (Place.behind inside ·.2) = some next) :
    Keeps (.value inside text) next := by
  cases result with
  | error stop => cases h
  | ok found =>
    cases h
    exact keeps_of_suffix (hshort _ _ rfl) (Nat.le_refl _)

theorem keeps_name {next : Place} (h : nextOfName? inside text = some next) :
    Keeps (.name inside text) next := by
  unfold nextOfName? at h
  split at h
  · next rest =>
    cases hread : readString (('"' :: rest).length) ⟨[], none⟩ rest with
    | error stop =>
      rw [hread] at h
      cases h
    | ok found =>
      obtain ⟨name, after⟩ := found
      have hafter : after <:+ '"' :: rest :=
        (readString_shortens hread).1.trans (List.suffix_cons _ _)
      simp only [hread, Except.toOption, Option.bind_eq_bind, Option.bind_some] at h
      split at h
      · cases h
        exact keeps_of_suffix (((skip_suffix _).trans (tail_skip_suffix _)).trans hafter)
          (Nat.le_refl _)
      · cases h
  · cases h

theorem keeps_value [Nesting] {next : Place} (h : nextOfValue? inside text = some next) :
    Keeps (.value inside text) next := by
  unfold nextOfValue? at h
  split at h
  · exact keeps_behind
      (fun _ _ hread => (readString_shortens hread).1.trans (List.suffix_cons _ _)) h
  · exact keeps_enter .array h
  · exact keeps_enter .object h
  · exact keeps_behind (fun _ _ hread => (readScalar_shortens hread).1) h

theorem next?_keeps [Nesting] {place next : Place} (h : place.next? = some next) :
    Keeps place next := by
  match place with
  | .value _ _ => exact keeps_value h
  | .name _ _ => exact keeps_name h
  | .behind (_ :: _) _ => exact keeps_leave h
  | .behind [] _ => cases h

end WalkLemmas

open WalkLemmas

theorem walk_keeps [Nesting] {start place : Place} (h : Walk start place) : Keeps start place := by
  induction h with
  | refl => exact ⟨List.suffix_rfl, Nat.le_refl _⟩
  | tail _ hstep ih =>
    have hnext := next?_keeps hstep
    exact ⟨hnext.text.trans ih.text, Nat.le_trans hnext.open_le ih.open_le⟩

end Reader

end MagnetStream.Json
