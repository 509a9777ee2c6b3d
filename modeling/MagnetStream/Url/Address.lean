import MagnetStream.Text.Blank

/-!
# Addresses in brackets

A host in brackets is an IPv6 address, with an optional zone behind a percent sign, or an address of
a future version, which starts with `v`.
-/

namespace MagnetStream.Url

/-- The digits 0 to 9 and the letters a to f in either case. -/
def isHexDigit (c : Char) : Bool :=
  c.isDigit || ('a' ≤ c && c ≤ 'f') || ('A' ≤ c && c ≤ 'F')

/-- One of the four numbers of an IPv4 address: up to 255, without zeros in front. -/
def isOctet (text : List Char) : Bool :=
  !text.isEmpty && text.length ≤ 3 && text.all Char.isDigit &&
    (text.length == 1 || text.head? != some '0') &&
    text.foldl (fun n c => n * 10 + (c.toNat - 48)) 0 ≤ 255

def isIPv4 (text : List Char) : Bool :=
  let parts := Text.splitOnChar '.' text
  parts.length == 4 && parts.all isOctet

/-- One of the groups of an IPv6 address: up to four hexadecimal digits. -/
def isGroup (text : List Char) : Bool :=
  !text.isEmpty && text.length ≤ 4 && text.all isHexDigit

/-- The groups of an address whose last part may be an IPv4 address, which counts as two groups. -/
def expandLast? (parts : List (List Char)) : Option (List (List Char)) :=
  match parts.getLast? with
  | some last =>
    if last.contains '.' then
      if isIPv4 last then some (parts.dropLast ++ [['0'], ['0']]) else none
    else some parts
  | none => none

/-- Whether groups between colons make an address of eight groups. One run of groups may be left
out; it shows as an empty part, and at an end of the address as two. -/
def areGroups (parts : List (List Char)) : Bool :=
  let inner := (parts.drop 1).dropLast
  match inner.findIdx? List.isEmpty with
  | none => parts.length == 8 && parts.all isGroup
  | some index =>
    let gap := index + 1
    let front := parts.take gap
    let back := parts.drop (gap + 1)
    let front' := if front.head? == some [] then front.drop 1 else front
    let back' := if back.getLast? == some [] then back.dropLast else back
    inner.countP List.isEmpty == 1 &&
      (front'.length == front.length || front'.isEmpty) &&
      (back'.length == back.length || back'.isEmpty) &&
      front'.length + back'.length ≤ 7 && front'.all isGroup && back'.all isGroup

def isIPv6 (text : List Char) : Bool :=
  let (address, zone) := Text.splitAtChar '%' text
  let zoneFits := match zone with
    | none => true
    | some zone => !zone.isEmpty && !zone.contains '%'
  zoneFits &&
    match Text.splitOnChar ':' address with
    | parts =>
      3 ≤ parts.length &&
        match expandLast? parts with
        | some parts => parts.length ≤ 9 && areGroups parts
        | none => false

/-- Whether a text that starts with `v` is an address of a future version: a version in hexadecimal
digits, a point, and at least one character. -/
def isFutureAddress (text : List Char) : Bool :=
  let (version, rest) := (text.drop 1).span isHexDigit
  !version.isEmpty && rest.head? == some '.' && 2 ≤ rest.length

end MagnetStream.Url
