import MagnetStream.Failure

/-!
# Directories

A directory is written with slashes. Empty parts and single points do not count, two slashes in
front differ from one and from more, and a tilde in front stands for a home directory.
-/

namespace MagnetStream.Config

/-- The home directories that a tilde can stand for: the user's own and those of others. -/
structure Homes where
  own : String
  others : Entries String

/-- The home directory behind a tilde; the text after the tilde names its user. -/
def Homes.find? (homes : Homes) (user : String) : Option String :=
  if user.isEmpty then some homes.own else homes.others.get? user

/-- A directory: what stands in front of its first part, and its parts. -/
structure Directory where
  root : String
  parts : List String
deriving DecidableEq, Repr

namespace Directory

def counts (part : List Char) : Bool := !part.isEmpty && part != ['.']

/-- What stands in front: nothing, two slashes, or one. -/
def rootOf : List Char → String
  | '/' :: '/' :: '/' :: _ => "/"
  | '/' :: '/' :: _ => "//"
  | '/' :: _ => "/"
  | _ => ""

def ofText (text : String) : Directory :=
  ⟨rootOf text.toList,
    ((Text.splitOnChar '/' text.toList).filter counts).map String.ofList⟩

/-- The shortest text for a directory. -/
def toText (directory : Directory) : String :=
  if directory.root.isEmpty && directory.parts.isEmpty then "."
  else directory.root ++ "/".intercalate directory.parts

/-- The most bytes of the name of a file. -/
def maxName : Nat := 255

def tooManyBytes : Nat := 4096

/-- Whether a place cannot be looked up, since it is too long, or since a name in it is and there is
a directory to look it up in. -/
def meetsLongName (isDirectory : String → Bool) (place : Directory) : Bool :=
  tooManyBytes ≤ place.toText.utf8ByteSize ||
    match place.parts.findIdx? fun part => maxName < part.utf8ByteSize with
    | some index => isDirectory (toText ⟨place.root, place.parts.take index⟩)
    | none => false

/-- The directory that is written as a home, slashes at its end apart. A tilde in front of it leads
nowhere. -/
def ofHome (home : String) : Except Failure Directory :=
  match (Text.dropEndChar '/' home).toList with
  | [] => .ok (ofText "/")
  | '~' :: _ => .error .unknownHome
  | home => .ok (ofText (String.ofList home))

/-- Puts the home directory in place of a tilde in front. -/
def expand (homes : Homes) (directory : Directory) : Except Failure Directory :=
  match directory.root.isEmpty, directory.parts with
  | true, first :: rest =>
    match first.toList with
    | '~' :: user =>
      if user.contains '\x00' then .error .zeroInText
      else
        match homes.find? (String.ofList user) with
        | some home => (ofHome home).map fun home => ⟨home.root, home.parts ++ rest⟩
        | none => .error .unknownHome
    | _ => .ok directory
  | _, _ => .ok directory

end Directory

/-- The shortest text for the directory that a text writes, without a tilde in front. -/
def normalPath (homes : Homes) (text : String) : Except Failure String :=
  ((Directory.ofText text).expand homes).map Directory.toText

end MagnetStream.Config
