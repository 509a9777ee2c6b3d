import MagnetStream.Binary64.Decimal
import MagnetStream.Entries
import MagnetStream.Text.Integer
import MagnetStream.Text.Quoted

/-!
# JSON values

Whole numbers of any size and floating-point numbers are different values, members of an object keep
the order in which their names first stood, and no name stands twice.
-/

namespace MagnetStream

inductive Json where
  | null
  | bool (value : Bool)
  | int (value : Int)
  | float (value : Binary64)
  | str (text : String)
  | arr (items : List Json)
  | obj (members : List (String × Json))
deriving Repr, BEq, Inhabited

/-- How many arrays and objects may be open inside of each other while a value is read, while it is
written as JSON, and while it is shown. The stack of calls decides on all three: no number is laid
down here. -/
class Json.Nesting where
  reading : Nat
  writing : Nat
  showing : Nat

/-- Room as the program finds it where it is run, and for examples. -/
@[reducible] def Json.Nesting.usual : Json.Nesting := ⟨990, 990, 990⟩

namespace Json

def kindName : Json → String
  | null => "NoneType"
  | bool _ => "bool"
  | int _ => "int"
  | float _ => "float"
  | str _ => "str"
  | arr _ => "list"
  | obj _ => "dict"

def member? (name : String) : Json → Option Json
  | obj members => Entries.get? members name
  | _ => none

/-- Whether there is something in a value: not null, false, zero, or empty. -/
def isSomething : Json → Bool
  | null => false
  | bool b => b
  | int n => n != 0
  | float x => !x.isZero
  | str text => !text.isEmpty
  | arr items => !items.isEmpty
  | obj members => !members.isEmpty

mutual

/-- A value written out, texts in quotes. -/
def literal : Json → String
  | null => "None"
  | bool true => "True"
  | bool false => "False"
  | int n => toString n
  | float x => x.toText
  | str text => Text.quoted text
  | arr items => "[" ++ ", ".intercalate (literalItems items) ++ "]"
  | obj members => "\x7b" ++ ", ".intercalate (literalMembers members) ++ "\x7d"

def literalItems : List Json → List String
  | [] => []
  | item :: rest => literal item :: literalItems rest

/-- Every member of an object written out. -/
def literalMembers : List (String × Json) → List String
  | [] => []
  | (name, value) :: rest => (Text.quoted name ++ ": " ++ literal value) :: literalMembers rest

end

/-- A value as text: a text stands for itself, everything else is written out. -/
def display : Json → String
  | str text => text
  | value => literal value

mutual

/-- Whether values are open inside of each other at most so many times, and whole numbers have no
more digits than may be written. -/
def fits (room : Nat) : Json → Bool
  | int n => (Nat.toDigits 10 n.natAbs).length ≤ Text.maxDigits
  | arr items => 0 < room && itemsFit (room - 1) items
  | obj members => 0 < room && membersFit (room - 1) members
  | _ => true

def itemsFit (room : Nat) : List Json → Bool
  | [] => true
  | item :: rest => fits room item && itemsFit room rest

def membersFit (room : Nat) : List (String × Json) → Bool
  | [] => true
  | (_, value) :: rest => fits room value && membersFit room rest

end

/-- Whether a value can be shown as text. -/
def isShowable [Nesting] (value : Json) : Bool := value.fits Nesting.showing

mutual

/-- A value laid over another: two objects are merged member by member, everything else is
replaced. -/
def overlay (base : Json) : Json → Json
  | obj members =>
    match base with
    | obj old => obj (mergeMembers old members)
    | _ => obj members
  | other => other

/-- Lays every member of an object over the member of the same name, or adds it. -/
def mergeMembers (base : List (String × Json)) : List (String × Json) → List (String × Json)
  | [] => base
  | (name, value) :: rest =>
    let merged := match Entries.get? base name with
      | some old => overlay old value
      | none => value
    mergeMembers (Entries.insert base name merged) rest

end

end Json
end MagnetStream
