import JavaSurvey.Text.Codec
import JavaSurvey.Text.Utf16
import JavaSurvey.Text.Utf8

set_option autoImplicit false

namespace JavaSurvey

inductive Encoding where
  | utf8
  | latin1
  | ascii
  /-- With a byte order mark. -/
  | utf16Marked
  | utf16 (order : Utf16.ByteOrder)
  deriving DecidableEq, Repr, Inhabited

namespace Encoding

/-- Letters in lower case, digits and points; every run of other characters between them is one
underscore, and those at the ends are dropped. -/
def normalChars : List Char → List Char
  | [] => []
  | c :: rest =>
    if c.isAlphanum || c == '.' then c.toLower :: normalChars rest
    else match normalChars rest with
      | [] => []
      | '_' :: more => '_' :: more
      | more => '_' :: more

def normalName (s : String) : String :=
  String.ofList ((normalChars s.toList).dropWhile (· == '_'))

def firstNames : List (String × Encoding) :=
  [("utf_8", .utf8), ("latin_1", .latin1), ("ascii", .ascii), ("utf_16", .utf16Marked),
   ("utf_16_le", .utf16 .little), ("utf_16_be", .utf16 .big)]

def otherNames : List (String × Encoding) :=
  [("utf8", .utf8), ("u8", .utf8), ("utf", .utf8), ("utf8_ucs2", .utf8), ("utf8_ucs4", .utf8),
   ("cp65001", .utf8),
   ("latin1", .latin1), ("latin", .latin1), ("l1", .latin1), ("8859", .latin1),
   ("iso8859", .latin1), ("iso8859_1", .latin1), ("iso_8859_1", .latin1),
   ("iso_8859_1_1987", .latin1), ("iso_ir_100", .latin1), ("cp819", .latin1),
   ("ibm819", .latin1), ("csisolatin1", .latin1),
   ("us_ascii", .ascii), ("us", .ascii), ("646", .ascii), ("iso646_us", .ascii),
   ("iso_646.irv_1991", .ascii), ("iso_ir_6", .ascii), ("ansi_x3.4_1968", .ascii),
   ("ansi_x3_4_1968", .ascii), ("ansi_x3.4_1986", .ascii), ("cp367", .ascii),
   ("ibm367", .ascii), ("csascii", .ascii),
   ("utf16", .utf16Marked), ("u16", .utf16Marked),
   ("utf_16le", .utf16 .little), ("unicodelittleunmarked", .utf16 .little),
   ("utf_16be", .utf16 .big), ("unicodebigunmarked", .utf16 .big)]

/-- In all but the first names a point may stand for an underscore. -/
def ofName? (name : String) : Option Encoding :=
  let n := normalName name
  (firstNames ++ otherNames).lookup n <|>
    otherNames.lookup (n.map fun c => if c = '.' then '_' else c)

def asciiChar (b : UInt8) : Char :=
  if b.toNat < 0x80 then Char.ofNat b.toNat else Utf8.replacement

inductive DecodeError where
  | unmarked
  deriving DecidableEq, Repr, Inhabited

def DecodeError.message : DecodeError → String
  | .unmarked => "UTF-16 stream does not start with BOM"

/-- Less than two bytes hold no mark, and are not expected to. -/
def decodeMarked (bs : List UInt8) : Except DecodeError String :=
  match Utf16.mark? bs with
  | some (order, rest) => .ok (Utf16.decode order rest)
  | none => if bs.length < 2 then .ok (Utf16.decode .little bs) else .error .unmarked

def decode : Encoding → List UInt8 → Except DecodeError String
  | .utf8, bs => .ok (Utf8.decode bs)
  | .latin1, bs => .ok (String.ofList (bs.map fun b => Char.ofNat b.toNat))
  | .ascii, bs => .ok (String.ofList (bs.map asciiChar))
  | .utf16Marked, bs => decodeMarked bs
  | .utf16 order, bs => .ok (Utf16.decode order bs)

def binaryNames : List String :=
  ["base64_codec", "base64", "base_64", "bz2_codec", "bz2", "hex_codec", "hex", "quopri_codec",
   "quopri", "quoted_printable", "quotedprintable", "rot_13", "rot13", "uu_codec", "uu",
   "zlib_codec", "zlib", "zip"]

def codecs : Codecs := fun name =>
  if '\x00' ∈ name.toList then .error .refused
  else match ofName? name with
    | some e => .ok fun bs => (e.decode bs).mapError DecodeError.message
    | none => .error (if normalName name ∈ binaryNames then .notText else .unknown)

end Encoding

end JavaSurvey
