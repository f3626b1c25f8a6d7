import Mathlib.Data.List.TakeWhile
import RiscvListing.Text.Charset

/-!
# Encoded lines

Lines are encoded one by one up to the first that has a character without a code. What is written is
therefore the encoding of the lines in front of it, and an encoding without a limit writes them all.
A text can be cut into lines anywhere: its lines, encoded one after the other, give the bytes of the
text as a whole, and where an encoding has a mark, the mark is the first character of that text.

## Main definitions

* `Charset.accepts` — an encoding has a code for every character of a line.
* `Charset.lineBytes` — the bytes of a line.
* `Charset.textBytes` — the bytes of a text as a whole.

## Main results

* `Charset.encode_eq` — what is written, and the fault that ends the writing.
* `Charset.encode_snd_eq_none_iff` — when all lines are written.
* `Charset.textBytes_eq` — a text as a whole and its characters one by one.
* `Charset.encode_of_accepts`, `Charset.encode_of_refused` — what is written of a text.
-/

namespace RiscvListing.Charset

/-- An encoding has a code for every character of a line. -/
def accepts (charset : Charset) (line : String) : Bool := line.toList.all charset.encodes

/-- The bytes of a line that an encoding has codes for. -/
def lineBytes (charset : Charset) (line : String) : List UInt8 :=
  line.toList.flatMap charset.characterBytes

variable {charset : Charset} {line : String} {lines : List String}

theorem encodeLine_of_accepts (h : charset.accepts line = true) :
    charset.encodeLine line = .ok (charset.lineBytes line) :=
  if_pos h

theorem encodeLine_of_not_accepts (h : charset.accepts line = false) :
    charset.encodeLine line = .error (charset.fault line.toList) :=
  if_neg (Bool.not_eq_true _ ▸ h)

/-- An encoding without a limit has a code for every character. -/
theorem accepts_of_limit?_eq_none (h : charset.limit? = none) (line : String) :
    charset.accepts line = true := by
  have hencodes : ∀ c, charset.encodes c = true := by
    intro c
    rw [encodes, h]
  exact List.all_eq_true.mpr fun c _ => hencodes c

/-- What is written ends in front of the first line that is not accepted. -/
theorem encodeOnto_eq (charset : Charset) (written : Array UInt8) (lines : List String) :
    charset.encodeOnto written lines =
      (written ++ (lines.takeWhile charset.accepts).flatMap charset.lineBytes,
        (lines.dropWhile charset.accepts).head?.map fun line => charset.fault line.toList) := by
  induction lines generalizing written with
  | nil => simp [encodeOnto]
  | cons line rest ih =>
    cases h : charset.accepts line with
    | false => simp [encodeOnto, encodeLine_of_not_accepts h, h]
    | true =>
      rw [encodeOnto, encodeLine_of_accepts h]
      simp only [ih, List.takeWhile_cons_of_pos h, List.dropWhile_cons_of_pos h, List.flatMap_cons]
      exact Prod.ext (Array.ext' (by simp)) rfl

theorem encode_eq (charset : Charset) (lines : List String) :
    charset.encode lines =
      (charset.mark.toArray ++ (lines.takeWhile charset.accepts).flatMap charset.lineBytes,
        (lines.dropWhile charset.accepts).head?.map fun line => charset.fault line.toList) :=
  charset.encodeOnto_eq charset.mark.toArray lines

/-- All lines are written exactly if each of them is accepted. -/
theorem encode_snd_eq_none_iff :
    (charset.encode lines).2 = none ↔ ∀ line ∈ lines, charset.accepts line = true := by
  rw [encode_eq, Option.map_eq_none_iff, List.head?_eq_none_iff, List.dropWhile_eq_nil_iff]

/-! ### Texts as a whole -/

/-- The units of a character in UTF-16: its number, or two halves of a number that is too large. -/
def utf16Units (c : Char) : List Nat :=
  if c.toNat < 0x10000 then [c.toNat]
  else [0xd800 + (c.toNat - 0x10000) / 0x400, 0xdc00 + (c.toNat - 0x10000) % 0x400]

/-- The bytes of a text as a whole. Encodings with a mark put the character U+FEFF in front. -/
def textBytes : Charset → String → Array UInt8
  | utf8, text => text.toUTF8.data
  | utf8Marked, text => ("\uFEFF" ++ text).toUTF8.data
  | ascii, text | latin1, text => (text.toList.map fun c => UInt8.ofNat c.toNat).toArray
  | utf16LittleEndian, text => ((text.toList.flatMap utf16Units).flatMap unitBytes).toArray
  | utf16Marked, text =>
    ((("\uFEFF" ++ text).toList.flatMap utf16Units).flatMap unitBytes).toArray

theorem data_toUTF8 (text : String) :
    text.toUTF8.data = (text.toList.flatMap String.utf8EncodeChar).toArray := by
  have hbytes : text.toByteArray = text.toList.utf8Encode := by
    rw [← String.toByteArray_ofList, String.ofList_toList]
  rw [String.toUTF8_eq_toByteArray, hbytes, List.utf8Encode, List.data_toByteArray]

theorem flatMap_utf16Units (text : List Char) :
    (text.flatMap utf16Units).flatMap unitBytes = text.flatMap utf16Bytes := by
  rw [List.flatMap_assoc]
  congr 1
  funext c
  unfold utf16Units utf16Bytes
  split
  · rw [List.flatMap_singleton]
  · rw [List.flatMap_cons, List.flatMap_singleton]

/-- The bytes of a text are the mark and the bytes of its characters. -/
theorem textBytes_eq (charset : Charset) (text : String) :
    charset.textBytes text = (charset.mark ++ charset.lineBytes text).toArray := by
  unfold lineBytes
  cases charset with
  | utf8 => exact data_toUTF8 text
  | utf8Marked =>
    rw [textBytes, data_toUTF8, String.toList_append, List.flatMap_append]
    rfl
  | ascii | latin1 =>
    rw [textBytes, List.map_eq_flatMap]
    rfl
  | utf16LittleEndian =>
    rw [textBytes, flatMap_utf16Units]
    rfl
  | utf16Marked =>
    rw [textBytes, flatMap_utf16Units, String.toList_append, List.flatMap_append]
    rfl

theorem accepts_join (charset : Charset) (lines : List String) :
    charset.accepts (String.join lines) = lines.all charset.accepts := by
  unfold accepts
  rw [String.toList_join, List.all_flatMap]

theorem lineBytes_join (charset : Charset) (lines : List String) :
    charset.lineBytes (String.join lines) = lines.flatMap charset.lineBytes := by
  unfold lineBytes
  rw [String.toList_join, List.flatMap_assoc]

/-- What is written of lines that are all accepted is their text as a whole. -/
theorem mark_append_flatMap (charset : Charset) (lines : List String) :
    charset.mark.toArray ++ lines.flatMap charset.lineBytes =
      charset.textBytes (String.join lines) := by
  rw [textBytes_eq, lineBytes_join]
  exact Array.ext' (by simp)

theorem encode_of_accepts (h : charset.accepts (String.join lines) = true) :
    charset.encode lines = (charset.textBytes (String.join lines), none) := by
  rw [accepts_join, List.all_eq_true] at h
  have hfront : lines.takeWhile charset.accepts = lines := List.takeWhile_eq_self_iff.mpr h
  have hrest : lines.dropWhile charset.accepts = [] := List.dropWhile_eq_nil_iff.mpr h
  rw [encode_eq, hfront, hrest, mark_append_flatMap]
  rfl

theorem encode_of_refused {written rest : List String}
    (hwritten : ∀ other ∈ written, charset.accepts other = true)
    (hline : charset.accepts line = false) :
    charset.encode (written ++ line :: rest) =
      (charset.textBytes (String.join written), some (charset.fault line.toList)) := by
  have hneg : ¬charset.accepts line = true := Bool.not_eq_true _ ▸ hline
  rw [encode_eq, List.takeWhile_append_of_pos hwritten, List.takeWhile_cons_of_neg hneg,
    List.append_nil, List.dropWhile_append_of_pos hwritten, List.dropWhile_cons_of_neg hneg,
    mark_append_flatMap]
  rfl

/-- A text that is not accepted has a first line that is not. -/
theorem exists_first_refused (h : charset.accepts (String.join lines) = false) :
    ∃ written line rest, lines = written ++ line :: rest ∧
      (∀ other ∈ written, charset.accepts other = true) ∧ charset.accepts line = false := by
  rw [accepts_join, List.all_eq_false] at h
  obtain ⟨refused, hmem, hrefused⟩ := h
  obtain ⟨line, hfind⟩ : ∃ line, lines.find? (fun other => !charset.accepts other) = some line := by
    rw [← Option.isSome_iff_exists, List.find?_isSome]
    exact ⟨refused, hmem, by simpa using hrefused⟩
  obtain ⟨hline, written, rest, hlines, hwritten⟩ := List.find?_eq_some_iff_append.mp hfind
  exact ⟨written, line, rest, hlines, by simpa using hwritten, by simpa using hline⟩

end RiscvListing.Charset
