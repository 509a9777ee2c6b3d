import MagnetStream.Url.Label.Basic

/-!
# Host names

A host name is a row of labels between points. A point may have one of three other forms, and one
more point may stand at the end.
-/

namespace MagnetStream.Url.HostName

/-- The point and the three characters that stand for it. -/
def isPoint (c : Char) : Bool := ['.', '\u3002', '\uff0e', '\uff61'].contains c

/-- The labels of a name, and whether a point stands at its end. -/
def labels (name : List Char) : List (List Char) × Bool :=
  let labels := Text.splitOnChar '.' (name.map fun c => if isPoint c then '.' else c)
  if labels.getLast? == some [] then (labels.dropLast, true) else (labels, false)

/-- A name with each label brought into another form. -/
def mapLabels (form : List Char → Except NameFault (List Char)) (name : List Char) :
    Except NameFault (List Char) := do
  if Label.maxNameLength < name.length then throw .longName
  let (labels, pointed) := labels name
  let labels ← labels.mapM form
  return ['.'].intercalate (if pointed then labels ++ [[]] else labels)

def decode (name : List Char) : Except NameFault (List Char) := mapLabels Label.decode name

/-- A name in the form that goes over the wire. -/
def encode (name : List Char) : Except NameFault (List Char) := do
  let wire ← mapLabels Label.encode name
  if (if wire.getLast? == some '.' then 254 else 253) < wire.length then throw .longName
  return wire

end MagnetStream.Url.HostName
