import MagnetStream.Text.Charset.Pairs

/-!
# Sets that switch by escapes

A text of seven bits can hold several sets of characters. An escape sequence puts a set into one of
two slots, and two control characters say which slot counts; where there is only one language to
switch to, they may be without meaning. Another set switches by a tilde and a brace.
-/

namespace MagnetStream.Text.Charset

/-- A set that can be switched to. -/
inductive Plane where
  | ascii
  /-- ASCII with a yen sign and an overline. -/
  | roman
  | japanese
  | korean
deriving DecidableEq

/-- A language: the sets that it switches to, by the bytes that name them in an escape, and whether
shifts between the slots count. -/
structure Language where
  planes : List (List Char × Plane)
  shifts : Bool

/-- What reading has come to: the sets in both slots, whether the second one counts, and whether an
escape of another kind goes on. -/
structure Slots where
  first : Plane
  second : Plane
  shifted : Bool
  strange : Bool

/-- What the next bytes of a text mean. -/
inductive Turn where
  | char (c : Char) (length : Nat) (slots : Slots)
  | quiet (length : Nat) (slots : Slots)
  | fault (length : Nat)
  | cut

/-- The number of bytes that a character of a set takes. -/
def Plane.width : Plane → Nat
  | .ascii | .roman => 1
  | .japanese | .korean => 2

/-- The character that bytes of a set write. -/
def Plane.read? : Plane → Nat → Nat → Option Char
  | .ascii, byte, _ => ascii? byte
  | .roman, byte, _ =>
    if byte == 0x5c then some (Char.ofNat 0xa5)
    else if byte == 0x7e then some (Char.ofNat 0x203e)
    else ascii? byte
  | .japanese, a, b => japanese? (a + 128) (b + 128)
  | .korean, a, b => korean? (a + 128) (b + 128)

def endsEscape (byte : UInt8) : Bool := 64 ≤ byte && byte ≤ 90

def maxEscape : Nat := 16

/-- The length of an escape of which some bytes are counted, if its end comes soon enough. The text
may be cut off before that. Three bytes that announce a revision are not looked at one by one. -/
def escapeLength (language : Language) (count : Nat) : List UInt8 → Except Unit (Option Nat)
  | [] => if count < maxEscape then .error () else .ok none
  | byte :: rest =>
    if maxEscape ≤ count then .ok none
    else if endsEscape byte then .ok (some (count + 1))
    else
      match byte.toNat == '&'.toNat && !language.shifts, rest with
      | true, 64 :: _ :: more => escapeLength language (count + 3) more
      | true, [64] => if count + 3 < maxEscape then .error () else .ok none
      | _, rest => escapeLength language (count + 1) rest

/-- The slot and the name of the set in an escape, without the mark in front. -/
def designation? (escape : List Char) : Option (Bool × List Char) :=
  match escape with
  | ['$', name] => some (false, ['$', name])
  | ['(', name] => some (false, [name])
  | [')', name] => some (true, [name])
  | ['$', '(', name] => some (false, ['$', name])
  | ['$', ')', name] => some (true, ['$', name])
  | [_, _, '\x1b', '$', 'B'] => some (false, ['$', 'B'])
  | _ => none

def readEscape (language : Language) (slots : Slots) (rest : List UInt8) : Turn :=
  match escapeLength language 1 rest with
  | .error () => .cut
  | .ok none => .fault 1
  | .ok (some length) =>
    let escape := (rest.take (length - 1)).map fun byte => Char.ofNat byte.toNat
    match designation? escape with
    | some (second, name) =>
      match if name == ['B'] then some Plane.ascii else language.planes.lookup name with
      | some plane =>
        .quiet length
          (if second then { slots with second := plane } else { slots with first := plane })
      | none => .fault length
    | none => .fault length

def startsSwitch (byte : UInt8) : Bool :=
  ['(', ')', '$', '.', '&'].any fun c => c.toNat == byte.toNat

def turn (language : Language) (slots : Slots) (byte : UInt8) (rest : List UInt8) : Turn :=
  let c := Char.ofNat byte.toNat
  if slots.strange then .char c 1 { slots with strange := !endsEscape byte }
  else if byte == 27 then
    match rest with
    | [] => .cut
    | next :: _ =>
      if startsSwitch next then readEscape language slots rest
      else .char c 1 { slots with strange := true }
  else if byte == 15 && language.shifts then .quiet 1 { slots with shifted := false }
  else if byte == 14 && language.shifts then .quiet 1 { slots with shifted := true }
  else if byte == 10 then .char c 1 { slots with shifted := false }
  else if byte < 32 then .char c 1 slots
  else if 128 ≤ byte then .fault 1
  else
    let plane := if slots.shifted then slots.second else slots.first
    if rest.length + 1 < plane.width then .cut
    else
      match plane.read? byte.toNat (rest.headD 0).toNat with
      | some c => .char c plane.width slots
      | none => .fault plane.width

/-- The most bytes that wait for the rest of an escape. -/
def maxWaiting : Nat := 8

/-- Reads a text that switches by escapes, with the mark for every fault. Nothing is read if too
many bytes wait for the rest of an escape. -/
def readTurns? (language : Language) (slots : Slots) : List UInt8 → Option (List Char)
  | [] => some []
  | byte :: rest =>
    match turn language slots byte rest with
    | .char c length slots => (readTurns? language slots (rest.drop (length - 1))).map (c :: ·)
    | .quiet length slots => readTurns? language slots (rest.drop (length - 1))
    | .fault length =>
      (readTurns? language slots (rest.drop (length - 1))).map (replacement :: ·)
    | .cut => if maxWaiting ≤ rest.length then none else some [replacement]
termination_by bytes => bytes.length
decreasing_by all_goals simp only [List.length_cons, List.length_drop]; omega

def readLanguage? (language : Language) : List UInt8 → Option (List Char) :=
  readTurns? language ⟨.ascii, .ascii, false, false⟩

/-- Japanese, which has no shifts. -/
def japaneseLanguage : Language :=
  ⟨[(['J'], .roman), (['$', 'B'], .japanese), (['$', '@'], .japanese)], false⟩

/-- Korean, which shifts to its own characters. -/
def koreanLanguage : Language := ⟨[(['$', 'C'], .korean)], true⟩

/-- Reads ASCII and simplified Chinese, which stands between a tilde with a brace and one with the
other brace. -/
def readBraced (inside : Bool) : List UInt8 → List Char
  | [] => []
  | [byte] =>
    if byte < 128 && byte.toNat != '~'.toNat && !inside then [Char.ofNat byte.toNat]
    else [replacement]
  | byte :: next :: rest =>
    let c := Char.ofNat next.toNat
    if byte.toNat == '~'.toNat then
      if !inside && c == '~' then '~' :: readBraced inside rest
      else if !inside && c == '\x7b' then readBraced true rest
      else if !inside && c == '\n' then readBraced inside rest
      else if inside && c == '\x7d' then readBraced false rest
      else replacement :: readBraced inside (next :: rest)
    else if 128 ≤ byte then replacement :: readBraced inside (next :: rest)
    else if !inside then Char.ofNat byte.toNat :: readBraced inside (next :: rest)
    else
      match simplified? (byte.toNat + 128) (next.toNat + 128) with
      | some c => c :: readBraced inside rest
      | none => replacement :: readBraced inside (next :: rest)

end MagnetStream.Text.Charset
