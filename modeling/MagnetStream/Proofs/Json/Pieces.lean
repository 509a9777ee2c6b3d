import Mathlib.Data.List.TakeDrop
import Mathlib.Data.List.TakeWhile
import MagnetStream.Json.Reader

/-!
# The pieces of a JSON text

What the readers of strings, numbers and words leave is the end of what they read
(`readString_shortens`, `readScalar_shortens`). They meet a limit at one kind of text only, a whole
number of too many digits (`readScalar_limit_iff`).
-/

namespace MagnetStream.Json.Reader

/-- Something was read from a text, and what is left is its end. -/
def Shortens (rest text : List Char) : Prop := rest <:+ text ∧ rest.length < text.length

def StartsDigit (text : List Char) : Prop := ∃ c rest, text = c :: rest ∧ c.isDigit = true

/-- A text starts with a fraction: a point and a digit. -/
inductive StartsFraction : List Char → Prop
  | point {rest : List Char} : StartsDigit rest → StartsFraction ('.' :: rest)

/-- A text starts with a power of ten: a mark, an optional sign and a digit. -/
inductive StartsPower : List Char → Prop
  | mark {e : Char} {sign rest : List Char} : e = 'e' ∨ e = 'E' →
      sign = [] ∨ sign = ['+'] ∨ sign = ['-'] → StartsDigit rest → StartsPower (e :: (sign ++ rest))

/-- A text goes on the number whose first digits stand before it. -/
def GoesOn (text : List Char) : Prop := StartsDigit text ∨ StartsFraction text ∨ StartsPower text

/-- A text starts with a whole number behind its sign, of more digits than are read. -/
structure LongDigits (text : List Char) (count : Nat) : Prop where
  split : ∃ digits rest, text = digits ++ rest ∧ digits.length = count ∧
    (∀ c ∈ digits, c.isDigit = true) ∧ digits.head? ≠ some '0' ∧ ¬ GoesOn rest
  long : Text.maxDigits < count

/-- A text starts with a whole number of more digits than are read. -/
inductive LongWhole : List Char → Nat → Prop
  | plain {text : List Char} {count : Nat} : LongDigits text count → LongWhole text count
  | negative {text : List Char} {count : Nat} : LongDigits text count →
      LongWhole ('-' :: text) count

namespace PiecesLemmas

theorem shortens_cons {rest text : List Char} (c : Char) (h : rest <:+ text) :
    Shortens rest (c :: text) :=
  ⟨h.trans (List.suffix_cons c text), Nat.lt_succ_of_le h.length_le⟩

theorem shortens_append (front : List Char) {rest text : List Char} (h : Shortens rest text) :
    Shortens rest (front ++ text) :=
  ⟨h.1.trans (List.suffix_append front text), by simpa using Nat.lt_add_left front.length h.2⟩

theorem shortens_of_suffix {rest middle text : List Char} (h : rest <:+ middle)
    (hm : Shortens middle text) : Shortens rest text :=
  ⟨h.trans hm.1, Nat.lt_of_le_of_lt h.length_le hm.2⟩

end PiecesLemmas

open PiecesLemmas

/-! ## Strings -/

theorem readString_shortens {opening : Nat} {chars : Chars} {text rest : List Char}
    {string : String} (h : readString opening chars text = .ok (string, rest)) :
    Shortens rest text := by
  fun_induction readString opening chars text with
  | case2 chars after =>
    cases h
    exact shortens_cons _ List.suffix_rfl
  | case4 chars a b c d after unit hunit hmore ih =>
    exact shortens_append ['\\', 'u', a, b, c, d] (ih h)
  | case7 chars c after hshort hu char hchar ih => exact shortens_append ['\\', c] (ih h)
  | case11 chars c after hquote hunit hshort hescape hslash hcontrol ih =>
    exact shortens_append [c] (ih h)
  | _ => cases h

theorem readString_no_limit {opening : Nat} {chars : Chars} {text : List Char} {limit : Limit} :
    readString opening chars text ≠ .error (.limit limit) := by
  fun_induction readString opening chars text with
  | case4 _ _ _ _ _ _ _ _ _ ih => exact ih
  | case7 _ _ _ _ _ _ _ ih => exact ih
  | case11 _ _ _ _ _ _ _ _ _ ih => exact ih
  | _ => nofun

namespace PiecesLemmas

/-! ## Numbers -/

/-- The digits before the point of a number: no digit follows a zero at the start. -/
def takeWhole : List Char → List Char × List Char
  | '0' :: rest => (['0'], rest)
  | text => Binary64.spanDigits text

theorem readNumber_eq (negative : Bool) (text : List Char) :
    readNumber negative text =
      let (whole, rest) := takeWhole text
      let (behind, rest) := takeFraction rest
      let (power, rest) := takePower rest
      if behind.isEmpty && power.isNone then
        if whole.length > Text.maxDigits then .error (.limit (.digits whole.length))
        else
          let n : Int := Binary64.natOfDigits whole
          .ok (.int (if negative then -n else n), rest)
      else
        let digits := Binary64.natOfDigits (whole ++ behind)
        .ok (.float (.ofDecimal negative digits (power.getD 0 - behind.length)), rest) := by
  unfold readNumber takeWhole
  rfl

theorem spanDigits_eq (text : List Char) :
    Binary64.spanDigits text = (text.takeWhile Char.isDigit, text.dropWhile Char.isDigit) :=
  List.span_eq_takeWhile_dropWhile ..

theorem spanDigits_of_digit {c : Char} (h : c.isDigit = true) (rest : List Char) :
    Binary64.spanDigits (c :: rest) =
      (c :: rest.takeWhile Char.isDigit, rest.dropWhile Char.isDigit) := by
  rw [spanDigits_eq, List.takeWhile_cons_of_pos h, List.dropWhile_cons_of_pos h]

theorem spanDigits_of_no_digit {text : List Char} (h : ¬ StartsDigit text) :
    Binary64.spanDigits text = ([], text) := by
  rw [spanDigits_eq]
  cases text with
  | nil => rfl
  | cons c rest =>
    have hc : ¬ c.isDigit = true := fun hdigit => h ⟨c, rest, rfl, hdigit⟩
    rw [List.takeWhile_cons_of_neg hc, List.dropWhile_cons_of_neg hc]

theorem takeWhole_cases (text : List Char) :
    (∃ rest, text = '0' :: rest ∧ takeWhole text = (['0'], rest)) ∨
      (text.head? ≠ some '0' ∧ takeWhole text = Binary64.spanDigits text) := by
  unfold takeWhole
  split
  · exact .inl ⟨_, rfl, rfl⟩
  · next hzero =>
    refine .inr ⟨fun h => ?_, rfl⟩
    obtain ⟨rest, rfl⟩ := List.head?_eq_some_iff.mp h
    exact hzero rest rfl

theorem takeWhole_shortens {c : Char} {text : List Char} (h : c.isDigit = true) :
    Shortens (takeWhole (c :: text)).2 (c :: text) := by
  rcases takeWhole_cases (c :: text) with ⟨rest, htext, hwhole⟩ | ⟨-, hwhole⟩
  · rw [hwhole, htext]
    exact shortens_cons _ List.suffix_rfl
  · rw [hwhole, spanDigits_of_digit h]
    exact shortens_cons _ (List.dropWhile_suffix _)

def takeSign : List Char → Bool × List Char
  | '-' :: digits => (true, digits)
  | '+' :: digits => (false, digits)
  | digits => (false, digits)

theorem takePower_cons (e : Char) (rest : List Char) :
    takePower (e :: rest) =
      if e == 'e' || e == 'E' then
        match Binary64.spanDigits (takeSign rest).2 with
        | ([], _) => (none, e :: rest)
        | (power, after) =>
          let n : Int := Binary64.natOfDigits power
          (some (if (takeSign rest).1 then -n else n), after)
      else (none, e :: rest) := by
  unfold takePower takeSign
  rfl

/-- A fraction is taken where there is one. -/
theorem takeFraction_cases (text : List Char) :
    (takeFraction text = ([], text) ∧ ¬ StartsFraction text) ∨
      ((takeFraction text).1 ≠ [] ∧ (takeFraction text).2 <:+ text ∧ StartsFraction text) := by
  unfold takeFraction
  split
  · next c rest =>
    by_cases hdigit : c.isDigit = true
    · rw [if_pos hdigit, spanDigits_of_digit hdigit]
      refine .inr ⟨List.cons_ne_nil _ _, ?_, .point ⟨c, rest, rfl, hdigit⟩⟩
      exact ((List.dropWhile_suffix _).trans (List.suffix_cons _ _)).trans (List.suffix_cons _ _)
    · rw [if_neg hdigit]
      refine .inl ⟨rfl, ?_⟩
      rintro ⟨_, _, ⟨⟩, h⟩
      exact hdigit h
  · next hother =>
    refine .inl ⟨rfl, ?_⟩
    rintro ⟨_, _, rfl, -⟩
    exact hother _ _ rfl

theorem takeSign_append {sign rest : List Char} (hs : sign = [] ∨ sign = ['+'] ∨ sign = ['-'])
    (hr : StartsDigit rest) : (takeSign (sign ++ rest)).2 = rest := by
  rcases hs with rfl | rfl | rfl
  · obtain ⟨c, after, rfl, hc⟩ := hr
    rw [List.nil_append]
    unfold takeSign
    split
    · next heq =>
      cases heq
      exact absurd hc (by decide)
    · next heq =>
      cases heq
      exact absurd hc (by decide)
    · rfl
  · rfl
  · rfl

theorem takeSign_split (text : List Char) :
    ∃ sign, (sign = [] ∨ sign = ['+'] ∨ sign = ['-']) ∧ text = sign ++ (takeSign text).2 := by
  unfold takeSign
  split
  · exact ⟨['-'], by simp⟩
  · exact ⟨['+'], by simp⟩
  · exact ⟨[], by simp⟩

/-- A power of ten is taken where there is one. -/
theorem takePower_cases (text : List Char) :
    (takePower text = (none, text) ∧ ¬ StartsPower text) ∨
      ((takePower text).1 ≠ none ∧ (takePower text).2 <:+ text ∧ StartsPower text) := by
  cases text with
  | nil => exact .inl ⟨rfl, nofun⟩
  | cons e rest =>
    rw [takePower_cons]
    split
    · next hmark =>
      by_cases hpower : StartsDigit (takeSign rest).2
      · obtain ⟨sign, hsign, hrest⟩ := takeSign_split rest
        have hstarts : StartsPower (e :: rest) :=
          hrest ▸ .mark (by simpa using hmark) hsign hpower
        obtain ⟨c, digits, hback, hdigit⟩ := hpower
        rw [hback] at hrest
        rw [hback, spanDigits_of_digit hdigit]
        refine .inr ⟨Option.some_ne_none _, ?_, hstarts⟩
        rw [hrest]
        exact (((List.dropWhile_suffix _).trans (List.suffix_cons c _)).trans
          (List.suffix_append sign _)).trans (List.suffix_cons e _)
      · rw [spanDigits_of_no_digit hpower]
        refine .inl ⟨rfl, ?_⟩
        rintro ⟨-, hsign, hdigit⟩
        exact hpower (by rwa [takeSign_append hsign hdigit])
    · next hmark =>
      refine .inl ⟨rfl, ?_⟩
      rintro ⟨he, -, -⟩
      exact hmark (by simpa using he)

/-- A number without fraction and power is a whole number. -/
theorem whole_iff (text : List Char) :
    ((takeFraction text).1.isEmpty && (takePower (takeFraction text).2).1.isNone) = true ↔
      ¬ StartsFraction text ∧ ¬ StartsPower text := by
  rcases takeFraction_cases text with ⟨hfraction, hno⟩ | ⟨hsome, -, hyes⟩
  · rw [hfraction]
    rcases takePower_cases text with ⟨hpower, hnone⟩ | ⟨hsome, -, hyes⟩
    · simp [hpower, hno, hnone]
    · simp [hsome, hyes]
  · simp [hsome, hyes]

theorem number_suffix (text : List Char) : (takePower (takeFraction text).2).2 <:+ text := by
  have hfraction : (takeFraction text).2 <:+ text := by
    rcases takeFraction_cases text with ⟨heq, -⟩ | ⟨-, h, -⟩
    · simp only [heq, List.suffix_rfl]
    · exact h
  rcases takePower_cases (takeFraction text).2 with ⟨heq, -⟩ | ⟨-, h, -⟩
  · rw [heq]
    exact hfraction
  · exact h.trans hfraction

theorem readNumber_rest {negative : Bool} {text rest : List Char} {value : Json}
    (h : readNumber negative text = .ok (value, rest)) : rest <:+ (takeWhole text).2 := by
  rw [readNumber_eq] at h
  dsimp only at h
  split at h
  · split at h
    · cases h
    · cases h
      exact number_suffix _
  · cases h
    exact number_suffix _

theorem readNumber_limit {negative : Bool} {text : List Char} {limit : Limit} :
    readNumber negative text = .error (.limit limit) ↔
      limit = .digits (takeWhole text).1.length ∧ Text.maxDigits < (takeWhole text).1.length ∧
        ¬ StartsFraction (takeWhole text).2 ∧ ¬ StartsPower (takeWhole text).2 := by
  rw [readNumber_eq, ← whole_iff]
  dsimp only
  split
  · next hwhole =>
    split
    · next hlong => simp [hwhole, hlong, eq_comm]
    · next hshort => simp [hshort]
  · next hwhole => simp [hwhole]

/-- All digits are taken, unless the first is a zero. -/
theorem takeWhole_append {digits rest : List Char} (hd : ∀ c ∈ digits, c.isDigit = true)
    (hz : digits.head? ≠ some '0') (hne : digits ≠ []) (hr : ¬ GoesOn rest) :
    takeWhole (digits ++ rest) = (digits, rest) := by
  have hspan := spanDigits_of_no_digit fun h => hr (.inl h)
  rw [spanDigits_eq, Prod.mk.injEq] at hspan
  rcases takeWhole_cases (digits ++ rest) with ⟨after, htext, -⟩ | ⟨-, hwhole⟩
  · cases digits with
    | nil => exact absurd rfl hne
    | cons c digits =>
      cases htext
      exact absurd rfl hz
  · rw [hwhole, spanDigits_eq, List.takeWhile_append_of_pos hd, List.dropWhile_append_of_pos hd,
      hspan.1, hspan.2, List.append_nil]

theorem longDigits_iff {text : List Char} {count : Nat} :
    LongDigits text count ↔ (takeWhole text).1.length = count ∧ Text.maxDigits < count ∧
      ¬ StartsFraction (takeWhole text).2 ∧ ¬ StartsPower (takeWhole text).2 := by
  constructor
  · rintro ⟨⟨digits, rest, rfl, hlength, hd, hz, hr⟩, hlong⟩
    have hne : digits ≠ [] := by
      rintro rfl
      exact absurd hlong (by simp [← hlength])
    rw [takeWhole_append hd hz hne hr]
    exact ⟨hlength, hlong, fun h => hr (.inr (.inl h)), fun h => hr (.inr (.inr h))⟩
  · rintro ⟨rfl, hlong, hfraction, hpower⟩
    rcases takeWhole_cases text with ⟨rest, -, hwhole⟩ | ⟨hzero, hwhole⟩
    · -- A zero is a row of its own.
      rw [hwhole] at hlong
      exact absurd hlong (Nat.not_lt_of_le (by decide : 1 ≤ Text.maxDigits))
    · rw [spanDigits_eq] at hwhole
      rw [hwhole] at hlong hfraction hpower ⊢
      have hdigit : ¬ StartsDigit (text.dropWhile Char.isDigit) := by
        rintro ⟨c, rest, hrest, hc⟩
        have hhead := List.head?_dropWhile_not Char.isDigit text
        rw [hrest] at hhead
        simp [hc] at hhead
      refine ⟨⟨_, _, List.takeWhile_append_dropWhile.symm, rfl,
        fun c hc => List.mem_takeWhile_imp hc, fun hhead => hzero ?_, ?_⟩, hlong⟩
      · rw [List.head?_takeWhile, Option.filter_eq_some_iff] at hhead
        exact hhead.1
      · rintro (h | h | h)
        exacts [hdigit h, hfraction h, hpower h]

/-! ## Words -/

theorem readWord?_shortens {text rest : List Char} {value : Json}
    (h : readWord? text = some (value, rest)) : Shortens rest text := by
  unfold readWord? at h
  split at h <;> cases h <;> exact shortens_cons _ (by simp [List.suffix_cons_iff])

theorem readWord?_of_digit {c : Char} (h : c.isDigit = true) (rest : List Char) :
    readWord? (c :: rest) = none ∧ readWord? ('-' :: c :: rest) = none := by
  constructor
  · unfold readWord?
    split <;> simp_all
  · unfold readWord?
    split <;> simp_all

theorem readScalar_of_digit {c : Char} (h : c.isDigit = true) (rest : List Char) :
    readScalar (c :: rest) = readNumber false (c :: rest) := by
  unfold readScalar
  rw [(readWord?_of_digit h rest).1]
  dsimp only
  split
  · next heq =>
    cases heq
    exact absurd h (by decide)
  · next heq =>
    cases heq
    rw [if_pos h]
  · next heq => cases heq

theorem readScalar_of_negative {c : Char} (h : c.isDigit = true) (rest : List Char) :
    readScalar ('-' :: c :: rest) = readNumber true (c :: rest) := by
  unfold readScalar
  rw [(readWord?_of_digit h rest).2]
  exact if_pos h

theorem readNumber_limit_iff {negative : Bool} {text : List Char} {limit : Limit} :
    readNumber negative text = .error (.limit limit) ↔
      ∃ count, limit = .digits count ∧ LongDigits text count := by
  simp only [readNumber_limit, longDigits_iff]
  constructor
  · rintro ⟨rfl, hlong, hends⟩
    exact ⟨_, rfl, rfl, hlong, hends⟩
  · rintro ⟨_, rfl, rfl, hlong, hends⟩
    exact ⟨rfl, hlong, hends⟩

theorem startsDigit_of_longDigits {text : List Char} {count : Nat} (h : LongDigits text count) :
    StartsDigit text := by
  obtain ⟨⟨digits, rest, rfl, rfl, hd, -, -⟩, hlong⟩ := h
  cases digits with
  | nil => exact absurd hlong (Nat.not_lt_zero _)
  | cons c digits => exact ⟨c, digits ++ rest, rfl, hd c List.mem_cons_self⟩

end PiecesLemmas

/-! ## Scalars -/

theorem readScalar_shortens {text rest : List Char} {value : Json}
    (h : readScalar text = .ok (value, rest)) : Shortens rest text := by
  unfold readScalar at h
  split at h
  · next hfound =>
    cases h
    exact readWord?_shortens hfound
  · split at h
    · split at h
      · next c after hdigit =>
        exact shortens_append ['-']
          (shortens_of_suffix (readNumber_rest h) (takeWhole_shortens hdigit))
      · cases h
    · split at h
      · next hdigit => exact shortens_of_suffix (readNumber_rest h) (takeWhole_shortens hdigit)
      · cases h
    · cases h

/-- Of all that is neither an array nor an object nor a string, only a whole number of too many
digits meets a limit. -/
theorem readScalar_limit_iff {text : List Char} {limit : Limit} :
    readScalar text = .error (.limit limit) ↔
      ∃ count, limit = .digits count ∧ LongWhole text count := by
  constructor
  · intro h
    unfold readScalar at h
    split at h
    · cases h
    · split at h
      · split at h
        · obtain ⟨count, hlimit, hlong⟩ := readNumber_limit_iff.mp h
          exact ⟨count, hlimit, .negative hlong⟩
        · cases h
      · split at h
        · obtain ⟨count, hlimit, hlong⟩ := readNumber_limit_iff.mp h
          exact ⟨count, hlimit, .plain hlong⟩
        · cases h
      · cases h
  · rintro ⟨count, hlimit, hwhole⟩
    cases hwhole with
    | plain hlong =>
      obtain ⟨c, rest, rfl, hc⟩ := startsDigit_of_longDigits hlong
      rw [readScalar_of_digit hc]
      exact readNumber_limit_iff.mpr ⟨count, hlimit, hlong⟩
    | negative hlong =>
      obtain ⟨c, rest, rfl, hc⟩ := startsDigit_of_longDigits hlong
      rw [readScalar_of_negative hc]
      exact readNumber_limit_iff.mpr ⟨count, hlimit, hlong⟩

/-- A whole number of too many digits is a row of that many digits. -/
theorem digits_of_longWhole {text : List Char} {count : Nat} (h : LongWhole text count) :
    Text.maxDigits < count ∧
      ∃ digits, digits <:+: text ∧ digits.length = count ∧ ∀ c ∈ digits, c.isDigit = true := by
  cases h with
  | plain h =>
    obtain ⟨⟨digits, rest, rfl, hlength, hd, -, -⟩, hlong⟩ := h
    exact ⟨hlong, digits, (List.prefix_append ..).isInfix, hlength, hd⟩
  | negative h =>
    obtain ⟨⟨digits, rest, rfl, hlength, hd, -, -⟩, hlong⟩ := h
    exact ⟨hlong, digits, List.infix_cons (List.prefix_append ..).isInfix, hlength, hd⟩

end MagnetStream.Json.Reader
