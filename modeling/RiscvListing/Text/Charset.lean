import RiscvListing.Fault

/-!
# Character encodings

The encodings in which a listing can be written. Lines are encoded one by one: a line that cannot be
encoded ends the text, and the lines before it stay. Some encodings start a text with a mark.

## Main definitions

* `Charset` and `Charset.ofName?` — the encodings and their names.
* `Charset.encodeLine` — the bytes of a line.
* `Charset.encode` — the bytes of the lines before the first that cannot be encoded.
-/

namespace RiscvListing

/-- An encoding of text. -/
inductive Charset where
  | utf8
  /-- UTF-8 with a mark at the start. -/
  | utf8Marked
  | ascii
  | latin1
  | utf16LittleEndian
  /-- UTF-16, the low byte first, with a mark at the start. -/
  | utf16Marked
  deriving Repr, DecidableEq

namespace Charset

/-- A name in lower case with an underscore for each run of other characters than letters, digits
and points between two of these. `begun` tells whether there is such a character in front, and
`parted` whether the name goes on behind a run of others. -/
def normalizedFrom : (begun parted : Bool) → List Char → List Char
  | _, _, [] => []
  | begun, parted, c :: rest =>
    if c.isAlphanum ∨ c = '.' then
      let letter := c.toLower :: normalizedFrom true false rest
      if begun ∧ parted then '_' :: letter else letter
    else normalizedFrom begun true rest

/-- A name in lower case with underscores between its parts. -/
def normalized (name : String) : List Char := normalizedFrom false false name.toList

/-- The encoding with a name of its own. -/
def ofOwnName? : String → Option Charset
  | "utf_8" => some utf8
  | "utf_8_sig" => some utf8Marked
  | "ascii" => some ascii
  | "latin_1" => some latin1
  | "utf_16_le" => some utf16LittleEndian
  | "utf_16" => some utf16Marked
  | _ => none

/-- The encoding with one of its other names. -/
def ofOtherName? : String → Option Charset
  | "u8" | "utf" | "utf8" | "utf8_ucs2" | "utf8_ucs4" | "cp65001" => some utf8
  | "646" | "ansi_x3.4_1968" | "ansi_x3_4_1968" | "ansi_x3.4_1986" | "cp367" | "csascii" | "ibm367"
  | "iso646_us" | "iso_646.irv_1991" | "iso_ir_6" | "us" | "us_ascii" => some ascii
  | "8859" | "cp819" | "csisolatin1" | "ibm819" | "iso8859" | "iso8859_1" | "iso_8859_1"
  | "iso_8859_1_1987" | "iso_ir_100" | "l1" | "latin" | "latin1" => some latin1
  | "unicodelittleunmarked" | "utf_16le" => some utf16LittleEndian
  | "u16" | "utf16" => some utf16Marked
  | _ => none

/-- The encoding with a name. In other names an underscore may be written as a point. -/
def ofName? (name : String) : Option Charset :=
  let name := normalized name
  (ofOtherName? (String.ofList name)).orElse fun _ =>
    (ofOtherName? (String.ofList (name.map fun c => if c = '.' then '_' else c))).orElse fun _ =>
      ofOwnName? (String.ofList name)

/-- The bytes that start a text. -/
def mark : Charset → List UInt8
  | utf8Marked => [0xef, 0xbb, 0xbf]
  | utf16Marked => [0xff, 0xfe]
  | _ => []

/-- The two bytes of a UTF-16 unit, the low byte first. -/
def unitBytes (n : Nat) : List UInt8 := [UInt8.ofNat n, UInt8.ofNat (n / 256)]

/-- The bytes of a character in UTF-16. -/
def utf16Bytes (c : Char) : List UInt8 :=
  if c.toNat < 0x10000 then unitBytes c.toNat
  else
    let rest := c.toNat - 0x10000
    unitBytes (0xd800 + rest / 0x400) ++ unitBytes (0xdc00 + rest % 0x400)

/-- The number of characters an encoding is limited to, and what it is called in messages. -/
def limit? : Charset → Option (Nat × String)
  | ascii => some (128, "ascii")
  | latin1 => some (256, "latin-1")
  | _ => none

/-- Whether an encoding has a code for a character. -/
def encodes (charset : Charset) (c : Char) : Bool :=
  match charset.limit? with
  | some (limit, _) => c.toNat < limit
  | none => true

/-- The bytes of a character that the encoding has a code for. -/
def characterBytes (charset : Charset) (c : Char) : List UInt8 :=
  match charset with
  | utf8 | utf8Marked => String.utf8EncodeChar c
  | ascii | latin1 => [UInt8.ofNat c.toNat]
  | utf16LittleEndian | utf16Marked => utf16Bytes c

/-- The fault of a line: its first run of characters that an encoding has no codes for. -/
def fault (charset : Charset) (line : List Char) : Fault :=
  let encoded := line.takeWhile charset.encodes
  let refused := (line.dropWhile charset.encodes).takeWhile fun c => !charset.encodes c
  let (limit, name) := charset.limit?.getD (0, "")
  .unencodable name (refused.headD ' ') encoded.length (encoded.length + refused.length - 1) limit

/-- The bytes of a line. -/
def encodeLine (charset : Charset) (line : String) : Except Fault (List UInt8) :=
  if line.toList.all charset.encodes then .ok (line.toList.flatMap charset.characterBytes)
  else .error (charset.fault line.toList)

/-- Adds the bytes of lines to what has been written, up to the first line that has none. -/
def encodeOnto (charset : Charset) (written : Array UInt8) :
    List String → Array UInt8 × Option Fault
  | [] => (written, none)
  | line :: rest =>
    match charset.encodeLine line with
    | .error fault => (written, some fault)
    | .ok bytes => charset.encodeOnto (written ++ bytes) rest

/-- The bytes of the lines before the first that has none, and the fault of that one. -/
def encode (charset : Charset) (lines : List String) : Array UInt8 × Option Fault :=
  charset.encodeOnto charset.mark.toArray lines

end Charset

end RiscvListing
