import MagnetStream.Text.Blank
import MagnetStream.Text.Charset.Escapes
import MagnetStream.Text.Charset.Fault
import MagnetStream.Text.Charset.Single
import MagnetStream.Text.Charset.Utf7

/-!
# Character sets

The character sets in which a text may come. Every name of a set is known in all its spellings: only
letters, digits and points count, and any marks between them are the same.
-/

namespace MagnetStream.Text

/-- A character set: how it is read, with the mark for everything that cannot be read. -/
inductive Charset where
  | reads (read : List UInt8 → List Char)
  | switches (language : Charset.Language)
  /-- UTF-16 with a mark in front that tells the order of bytes. -/
  | utf16
  /-- UTF-32 with a mark in front that tells the order of bytes. -/
  | utf32
  | fails (fault : CharsetFault)

namespace Charset

/-- Reads a set in which every byte is a character and that agrees with ASCII below 128. -/
def fromAscii (high : Nat → Char) (bytes : List UInt8) : List Char :=
  bytes.map fun byte => if byte < 128 then Char.ofNat byte.toNat else high (byte.toNat - 128)

def tableChars (lines : List String) : Array Char := (lines.flatMap String.toList).toArray

/-- Reads UTF-16, with the mark for every fault. -/
def readUtf16Lossy (order : ByteOrder) (bytes : List UInt8) : List Char :=
  (readUtf16 .refused order bytes).map (·.getD replacement)

/-- Reads UTF-32, with the mark for every fault. -/
def readUtf32Lossy (order : ByteOrder) (bytes : List UInt8) : List Char :=
  (readUnits32 .refused order bytes).map (·.getD replacement)

/-- Reads UTF-8 with a mark in front that does not count. -/
def readMarkedUtf8 : List UInt8 → List Char
  | 0xEF :: 0xBB :: 0xBF :: rest => decodeUtf8Lossy rest
  | bytes => decodeUtf8Lossy bytes

/-- The sets with tables of one byte, with their own name and their further names. -/
def singles : List (List String × List String × Charset) :=
  halfTables.map (fun (name, more, lines) =>
    let chars := tableChars lines
    ([name], more, .reads (fromAscii fun n => chars.getD n replacement))) ++
  wholeTables.map (fun (name, more, lines) =>
    let chars := tableChars lines
    ([name], more, .reads (·.map fun byte => chars.getD byte.toNat replacement)))

/-- All other sets, with their own names and their further names. -/
def others : List (List String × List String × Charset) := [
  (["ascii"], ["646", "ansi_x3.4_1968", "ansi_x3.4_1986", "ansi_x3_4_1968", "cp367", "csascii",
    "ibm367", "iso646_us", "iso_646.irv_1991", "iso_ir_6", "us", "us_ascii"], .reads (fromAscii
    fun _ => replacement)),
  (["latin_1", "iso8859_1", "charmap"], ["8859", "cp819", "csisolatin1", "ibm819", "iso8859",
    "iso8859_1", "iso_8859_1", "iso_8859_1_1987", "iso_ir_100", "l1", "latin", "latin1"],
    .reads (·.map fun byte => Char.ofNat byte.toNat)),
  (["utf_8"], ["cp65001", "u8", "utf", "utf8", "utf8_ucs2", "utf8_ucs4"], .reads
    decodeUtf8Lossy),
  (["utf_8_sig"], [], .reads readMarkedUtf8),
  (["utf_7"], ["u7", "unicode_1_1_utf_7", "utf7"], .reads (readUtf7 none)),
  (["utf_16"], ["u16", "utf16"], .utf16),
  (["utf_16_le"], ["unicodelittleunmarked", "utf_16le"], .reads (readUtf16Lossy .little)),
  (["utf_16_be"], ["unicodebigunmarked", "utf_16be"], .reads (readUtf16Lossy .big)),
  (["utf_32"], ["u32", "utf32"], .utf32),
  (["utf_32_le"], ["utf_32le"], .reads (readUtf32Lossy .little)),
  (["utf_32_be"], ["utf_32be"], .reads (readUtf32Lossy .big)),
  (["gb2312"], ["chinese", "csiso58gb231280", "euc_cn", "euccn", "eucgb2312_cn", "gb2312_1980",
    "gb2312_80", "iso_ir_58", "x_mac_simp_chinese"], .reads (readSteps (asciiStep simplified?))),
  (["gbk"], ["936", "cp936", "ms936"], .reads (readSteps (asciiStep extended?))),
  (["gb18030"], ["gb18030_2000"], .reads (readSteps nationalStep)),
  (["big5"], ["big5_tw", "csbig5", "x_mac_trad_chinese"], .reads (readSteps (asciiStep
    traditional?))),
  (["cp950"], ["950", "ms950"], .reads (readSteps (asciiStep vendorTraditional?))),
  (["euc_kr"], ["euckr", "korean", "ks_c_5601", "ks_c_5601_1987", "ks_x_1001", "ksc5601",
    "ksx1001", "x_mac_korean"], .reads (readSteps koreanStep)),
  (["cp949"], ["949", "ms949", "uhc"], .reads (readSteps (asciiStep extendedKorean?))),
  (["euc_jp"], ["eucjp", "u_jis", "ujis"], .reads (readSteps japaneseStep)),
  (["shift_jis"], ["csshiftjis", "s_jis", "shiftjis", "sjis", "x_mac_japanese"],
    .reads (readSteps shiftedStep)),
  (["cp932"], ["932", "ms932", "ms_kanji", "mskanji"], .reads (readSteps vendorShiftedStep)),
  (["iso2022_jp"], ["csiso2022jp", "iso2022jp", "iso_2022_jp"], .switches japaneseLanguage),
  (["iso2022_kr"], ["csiso2022kr", "iso2022kr", "iso_2022_kr"], .switches koreanLanguage),
  (["hz"], ["hz_gb", "hz_gb_2312", "hzgb"], .reads (readBraced false)),
  (["undefined"], [], .fails .undefined),
  (["idna"], [], .fails .strictOnly),
  (["rot_13"], ["rot13"], .fails .lettersOnly),
  (["base64_codec", "bz2_codec", "hex_codec", "quopri_codec", "uu_codec", "zlib_codec"],
    ["base64", "base_64", "bz2", "hex", "quopri", "quoted_printable", "quotedprintable", "uu",
    "zip", "zlib"], .fails .noText)]

def all : List (List String × List String × Charset) := others ++ singles

def counts (c : Char) : Bool :=
  ('a' ≤ c && c ≤ 'z') || ('A' ≤ c && c ≤ 'Z') || c.isDigit || c == '.'

/-- A name with one underscore for every row of marks between what counts, and none in front. -/
def plainName : List Char → List Char
  | [] => []
  | c :: rest =>
    match plainName rest with
    | [] => if counts c then [c] else []
    | next :: after =>
      if counts c then c :: next :: after
      else if next == '_' then next :: after
      else '_' :: next :: after

/-- The character set with a name. In a further name a point may stand for an underscore. -/
def ofName? (name : List Char) : Option Charset :=
  let plain := (plainName (lower name)).dropWhile (· == '_')
  let name := String.ofList plain
  let undotted := String.ofList (plain.map fun c => if c == '.' then '_' else c)
  ((all.find? fun (_, more, _) => more.contains name) <|>
    (all.find? fun (_, more, _) => more.contains undotted) <|>
    (all.find? fun (own, _, _) => own.contains name)).map (·.2.2)

/-- The text of bytes in a character set, with the mark for everything that cannot be read. A text
of no bytes is empty in every set. -/
def decode (charset : Charset) (bytes : List UInt8) : Except CharsetFault (List Char) :=
  if bytes.isEmpty then .ok []
  else
    match charset, bytes with
    | .reads read, bytes => .ok (read bytes)
    | .switches language, bytes =>
      match readLanguage? language bytes with
      | some text => .ok text
      | none => .error .overflow
    | .fails fault, _ => .error fault
    | .utf16, 0xFF :: 0xFE :: rest => .ok (readUtf16Lossy .little rest)
    | .utf16, 0xFE :: 0xFF :: rest => .ok (readUtf16Lossy .big rest)
    | .utf16, bytes =>
      if 2 ≤ bytes.length then .error (.unmarked 16) else .ok (readUtf16Lossy .little bytes)
    | .utf32, 0xFF :: 0xFE :: 0 :: 0 :: rest => .ok (readUtf32Lossy .little rest)
    | .utf32, 0 :: 0 :: 0xFE :: 0xFF :: rest => .ok (readUtf32Lossy .big rest)
    | .utf32, bytes =>
      if 4 ≤ bytes.length then .error (.unmarked 32) else .ok (readUtf32Lossy .little bytes)

end Charset
end MagnetStream.Text
