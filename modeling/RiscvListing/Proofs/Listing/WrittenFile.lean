import RiscvListing.Listing
import RiscvListing.Proofs.Text.Charset

/-!
# The file of a listing

A listing is put together in two ways, as one text and as the pieces that are written one after the
other. Both give the same text. The file therefore holds the encoding of the whole text if the
encoding has a code for each of its characters. Otherwise the writing fails, and the file holds the
encoding of the pieces in front of the first one that has a character without a code; a name with
the end of a line in it is still one piece.

## Main definitions

* `Charset.offered` — the encodings of listings under their usual names.

## Main results

* `Listing.join_pieces` — the pieces of a listing are its text.
* `Listing.file_of_accepts`, `Listing.file_of_refused` — what is left in the file.
* `Listing.file_holds_encoding` — what is left in the file, for each of the encodings.
-/

namespace RiscvListing

/-- The encodings of listings under their usual names. -/
def Charset.offered : List (String × Charset) :=
  [("utf-8", .utf8), ("ascii", .ascii), ("latin-1", .latin1), ("utf-16-le", .utf16LittleEndian),
   ("utf-16", .utf16Marked), ("utf-8-sig", .utf8Marked)]

theorem Charset.ofName?_of_mem_offered {encoding : String} {charset : Charset}
    (h : (encoding, charset) ∈ offered) : ofName? encoding = some charset := by
  have hall : ∀ row ∈ offered, ofName? row.1 = some row.2 := by decide +kernel
  exact hall (encoding, charset) h

namespace Listing

variable {encoding : String} {charset : Charset} {lines : List CodeLine} {symbols : List Symbol}

/-- The pieces that are written are the text of the listing. -/
theorem join_pieces (lines : List CodeLine) (symbols : List Symbol) :
    String.join (pieces lines symbols) = render lines symbols := by
  have hcode : lines.map (fun line => lineOf line ++ "\n") =
      (lines.map lineOf).map (· ++ "\n") := by
    rw [List.map_map]
    rfl
  rw [pieces, hcode, List.cons_append, String.join_cons, String.join_append, String.join_cons,
    String.join_cons, render, codeBlock, symbolBlock, block, block]
  simp only [String.append_assoc]

theorem file_of_ofName? (h : Charset.ofName? encoding = some charset) :
    file encoding lines symbols = charset.encode (pieces lines symbols) := by
  rw [file, h]

/-- A listing whose characters all have codes is written to its end. -/
theorem file_of_accepts (hname : Charset.ofName? encoding = some charset)
    (h : charset.accepts (render lines symbols) = true) :
    file encoding lines symbols = (charset.textBytes (render lines symbols), none) := by
  rw [← join_pieces] at h ⊢
  rw [file_of_ofName? hname, Charset.encode_of_accepts h]

/-- A character without a code ends the writing in front of its piece. -/
theorem file_of_refused (hname : Charset.ofName? encoding = some charset)
    (h : charset.accepts (render lines symbols) = false) :
    ∃ written piece rest, pieces lines symbols = written ++ piece :: rest ∧
      (∀ other ∈ written, charset.accepts other = true) ∧ charset.accepts piece = false ∧
      file encoding lines symbols =
        (charset.textBytes (String.join written), some (charset.fault piece.toList)) := by
  rw [← join_pieces] at h
  obtain ⟨written, piece, rest, hpieces, hwritten, hpiece⟩ := Charset.exists_first_refused h
  refine ⟨written, piece, rest, hpieces, hwritten, hpiece, ?_⟩
  rw [file_of_ofName? hname, hpieces, Charset.encode_of_refused hwritten hpiece]

/-- In each of the encodings, the pieces that are written are the text of the listing, and the
writing succeeds exactly if the encoding has a code for every character of that text. The file then
holds the encoding of the text. Otherwise it holds the encoding of the pieces in front of the first
one that has a character without a code. -/
theorem file_holds_encoding (encoding : String) (charset : Charset)
    (hencoding : (encoding, charset) ∈ Charset.offered) (lines : List CodeLine)
    (symbols : List Symbol) :
    String.join (pieces lines symbols) = render lines symbols ∧
      ((file encoding lines symbols).2 = none ↔
        charset.accepts (render lines symbols) = true) ∧
      (charset.accepts (render lines symbols) = true →
        (file encoding lines symbols).1 = charset.textBytes (render lines symbols)) ∧
      (charset.accepts (render lines symbols) = false →
        ∃ written piece rest, pieces lines symbols = written ++ piece :: rest ∧
          (∀ other ∈ written, charset.accepts other = true) ∧ charset.accepts piece = false ∧
          (file encoding lines symbols).2 = some (charset.fault piece.toList) ∧
          (file encoding lines symbols).1 = charset.textBytes (String.join written)) := by
  have hname := Charset.ofName?_of_mem_offered hencoding
  refine ⟨join_pieces lines symbols, ?_, fun h => ?_, fun h => ?_⟩
  · rw [file_of_ofName? hname, Charset.encode_snd_eq_none_iff, ← join_pieces, Charset.accepts_join,
      List.all_eq_true]
  · rw [file_of_accepts hname h]
  · obtain ⟨written, piece, rest, hpieces, hwritten, hpiece, hfile⟩ := file_of_refused hname h
    rw [hfile]
    exact ⟨written, piece, rest, hpieces, hwritten, hpiece, rfl, rfl⟩

/-- A name with the end of a line in it, and one that is not ASCII. -/
def broken : List Symbol := [{ name := "a\nb" }, { name := "é" }]

theorem file_holds_encoding_broken :
    ("ascii", Charset.ascii) ∈ Charset.offered ∧
      Charset.ascii.accepts (render [] broken) = false ∧
      ∃ written piece rest, pieces [] broken = written ++ piece :: rest ∧
        (∀ other ∈ written, Charset.ascii.accepts other = true) ∧
        Charset.ascii.accepts piece = false ∧
        (file "ascii" [] broken).2 = some (Charset.ascii.fault piece.toList) ∧
        (file "ascii" [] broken).1 = Charset.ascii.textBytes (String.join written) := by
  have hmem : ("ascii", Charset.ascii) ∈ Charset.offered := by decide
  have hrefused : Charset.ascii.accepts (render [] broken) = false := by
    rw [← join_pieces, Charset.accepts_join]
    decide +kernel
  exact ⟨hmem, hrefused, (file_holds_encoding "ascii" .ascii hmem [] broken).2.2.2 hrefused⟩

end Listing

end RiscvListing
