import Mathlib.Algebra.Order.Ring.Int
import Mathlib.Data.List.Forall2
import RiscvListing.Listing
import RiscvListing.Proofs.CodeLine
import RiscvListing.Proofs.Number.Numeral

/-!
# Reading a listing

The columns of a line of code can be told apart: an address has eight digits, a label has no blanks,
and a label that is not empty is indented less than an instruction without one. The lines of a block
can be told apart because no line is empty or holds the end of a line.

## Main definitions

* `Listing.IsSolid` — a text without blanks and ends of lines.
* `CodeLine.IsReadable` — a line whose columns can be told apart.

## Main results

* `Listing.codeRow_injective` — the columns of a line of code.
* `Listing.lines_eq_of_block` — the lines of a block in front of an empty line.
* `CodeLine.text_injective` — the mnemonic and the operands in a text.
* `CodeLine.IsReadable.lineOf_injective` — what a line of code shows.
* `CodeLine.forall₂_of_codeBlock` — what the lines of code in a listing show.
-/

namespace RiscvListing

/-! ### Separators -/

namespace Listing

/-- A text without blanks and ends of lines. -/
def IsSolid (text : String) : Prop := ' ' ∉ text.toList ∧ '\n' ∉ text.toList

/-- What stands in front of the first separator, and what stands behind it. -/
theorem eq_and_eq_of_append_cons {c : Char} {front front' rest rest' : List Char}
    (hfront : c ∉ front) (hfront' : c ∉ front') (h : front ++ c :: rest = front' ++ c :: rest') :
    front = front' ∧ rest = rest' := by
  induction front generalizing front' with
  | nil =>
    cases front' with
    | nil => exact ⟨rfl, (List.cons.inj h).2⟩
    | cons a front' => exact absurd ((List.cons.inj h).1 ▸ List.mem_cons_self) hfront'
  | cons a front ih =>
    cases front' with
    | nil => exact absurd ((List.cons.inj h).1 ▸ List.mem_cons_self) hfront
    | cons a' front' =>
      obtain ⟨rfl, htail⟩ := List.cons.inj h
      obtain ⟨rfl, hrest⟩ := ih (List.not_mem_of_not_mem_cons hfront)
        (List.not_mem_of_not_mem_cons hfront') htail
      exact ⟨rfl, hrest⟩

/-- The indentation of a text that does not begin with a blank. -/
theorem eq_and_eq_of_replicate_append {count count' : Nat} {a a' : Char} {rest rest' : List Char}
    (ha : a ≠ ' ') (ha' : a' ≠ ' ')
    (h : List.replicate count ' ' ++ a :: rest = List.replicate count' ' ' ++ a' :: rest') :
    count = count' ∧ a :: rest = a' :: rest' := by
  induction count generalizing count' with
  | zero =>
    cases count' with
    | zero => exact ⟨rfl, h⟩
    | succ count' => exact absurd (List.cons.inj h).1 ha
  | succ count ih =>
    cases count' with
    | zero => exact absurd (List.cons.inj h).1.symm ha'
    | succ count' =>
      obtain ⟨rfl, hrest⟩ := ih (List.cons.inj h).2
      exact ⟨rfl, hrest⟩

/-! ### Rows -/

theorem toList_codeRow (address : Int) (label text : String) :
    (codeRow address label text).toList = (Numeral.hex 8 address).toList ++
      ' ' :: (List.replicate (10 - label.toList.length) ' ' ++
        (label.toList ++ ' ' :: text.toList)) := by
  simp [codeRow, Text.alignRight, List.leftpad, toString]

/-- A row without a label is indented by eleven blanks, a row with one by less than ten. -/
theorem columns_injective {label label' rest rest' : List Char} {c c' : Char}
    (hlabel : ' ' ∉ label) (hlabel' : ' ' ∉ label') (hc : c ≠ ' ') (hc' : c' ≠ ' ')
    (h : List.replicate (10 - label.length) ' ' ++ (label ++ ' ' :: c :: rest) =
      List.replicate (10 - label'.length) ' ' ++ (label' ++ ' ' :: c' :: rest')) :
    label = label' ∧ c :: rest = c' :: rest' := by
  -- An empty label leaves ten blanks, and the blank behind it counts to the indentation.
  have hnone : ∀ text : List Char, List.replicate 10 ' ' ++ ' ' :: text =
      List.replicate 11 ' ' ++ text := fun _ => rfl
  cases label with
  | nil =>
    cases label' with
    | nil => exact ⟨rfl, (List.cons.inj (List.append_cancel_left h)).2⟩
    | cons a' label' =>
      have ha' : a' ≠ ' ' := fun heq => hlabel' (heq ▸ List.mem_cons_self)
      have hcount := (eq_and_eq_of_replicate_append hc ha' ((hnone _).symm.trans h)).1
      omega
  | cons a label =>
    have ha : a ≠ ' ' := fun heq => hlabel (heq ▸ List.mem_cons_self)
    cases label' with
    | nil =>
      have hcount := (eq_and_eq_of_replicate_append ha hc' (h.trans (hnone _))).1
      omega
    | cons a' label' =>
      have ha' : a' ≠ ' ' := fun heq => hlabel' (heq ▸ List.mem_cons_self)
      have hbody := (eq_and_eq_of_replicate_append ha ha' h).2
      exact eq_and_eq_of_append_cons hlabel hlabel' hbody

/-- The address, the label and the text of a line of code can be read from it. -/
theorem codeRow_injective {address address' : Nat} {label label' text text' : String}
    {c c' : Char} {rest rest' : List Char} (haddress : address < 2 ^ 32)
    (haddress' : address' < 2 ^ 32) (hlabel : ' ' ∉ label.toList) (hlabel' : ' ' ∉ label'.toList)
    (htext : text.toList = c :: rest) (htext' : text'.toList = c' :: rest') (hc : c ≠ ' ')
    (hc' : c' ≠ ' ') (h : codeRow address label text = codeRow address' label' text') :
    address = address' ∧ label = label' ∧ text = text' := by
  have hchars := congrArg String.toList h
  rw [toList_codeRow, toList_codeRow] at hchars
  -- Both addresses take eight digits, so the columns behind them begin at the same place.
  have hlength : (Numeral.hex 8 address).toList.length =
      (Numeral.hex 8 address').toList.length := by
    rw [Numeral.length_hex (by decide) haddress, Numeral.length_hex (by decide) haddress']
  obtain ⟨hhex, hcolumns⟩ := List.append_inj hchars hlength
  have hnumber := congrArg Numeral.value hhex
  rw [Numeral.value_hex, Numeral.value_hex] at hnumber
  have hbehind := (List.cons.inj hcolumns).2
  rw [htext, htext'] at hbehind
  obtain ⟨hl, ht⟩ := columns_injective hlabel hlabel' hc hc' hbehind
  rw [← htext, ← htext'] at ht
  exact ⟨hnumber, String.toList_inj.mp hl, String.toList_inj.mp ht⟩

/-! ### Blocks -/

theorem block_cons_append (line : String) (lines : List String) (rest : List Char) :
    (block (line :: lines)).toList ++ rest =
      line.toList ++ '\n' :: ((block lines).toList ++ rest) := by
  rw [block, List.map_cons, String.join_cons, String.toList_append, String.toList_append, block,
    List.append_assoc, List.append_assoc]
  rfl

/-- An empty line ends a block, so the lines in front of it are those of the block. -/
theorem lines_eq_of_block {lines lines' : List String} {rest rest' : List Char}
    (hlines : ∀ line ∈ lines, line ≠ "" ∧ '\n' ∉ line.toList)
    (hlines' : ∀ line ∈ lines', line ≠ "" ∧ '\n' ∉ line.toList)
    (h : (block lines).toList ++ '\n' :: rest = (block lines').toList ++ '\n' :: rest') :
    lines = lines' := by
  induction lines generalizing lines' with
  | nil =>
    cases lines' with
    | nil => rfl
    | cons line' lines' =>
      -- The empty line would be the first line of the other block.
      obtain ⟨hne, hend⟩ := hlines' line' List.mem_cons_self
      rw [block_cons_append] at h
      have hempty : [] = line'.toList := (eq_and_eq_of_append_cons List.not_mem_nil hend h).1
      exact absurd (String.toList_eq_nil_iff.mp hempty.symm) hne
  | cons line lines ih =>
    obtain ⟨hne, hend⟩ := hlines line List.mem_cons_self
    rw [block_cons_append] at h
    cases lines' with
    | nil =>
      have hempty : line.toList = [] := (eq_and_eq_of_append_cons hend List.not_mem_nil h).1
      exact absurd (String.toList_eq_nil_iff.mp hempty) hne
    | cons line' lines' =>
      obtain ⟨-, hend'⟩ := hlines' line' List.mem_cons_self
      rw [block_cons_append] at h
      obtain ⟨hline, hrest⟩ := eq_and_eq_of_append_cons hend hend' h
      have htail := ih (fun other hother => hlines other (List.mem_cons_of_mem _ hother))
        (fun other hother => hlines' other (List.mem_cons_of_mem _ hother)) hrest
      rw [String.toList_inj.mp hline, htail]

end Listing

/-! ### Lines of code -/

open Listing

theorem Instruction.mnemonic_isSolid (i : Instruction) : i.mnemonic ≠ "" ∧ IsSolid i.mnemonic := by
  unfold IsSolid
  cases i with
  | jal => simp only [mnemonic]; decide
  | jalr => simp only [mnemonic]; decide
  | upper op | branch op | load op | store op | immediate op | shift op | register op
  | environment op | csr op | csrImmediate op =>
    simp only [mnemonic]
    cases op <;> decide

theorem Instruction.newline_not_mem_operands (i : Instruction) {target : String}
    (h : '\n' ∉ target.toList) : '\n' ∉ (i.operands target).toList := by
  have hdecimal := Numeral.not_mem_decimal (c := '\n') (by decide) (by decide)
  have hname := Register.not_mem_name (c := '\n') (by decide)
  cases i <;> simp [operands, toString, hdecimal, hname, h]

namespace CodeLine

theorem toList_text (line : CodeLine) :
    line.text.toList =
      if line.operands = "" then line.mnemonic.toList
      else line.mnemonic.toList ++ ' ' :: line.operands.toList := by
  unfold text
  split
  · rfl
  · simp [toString]

/-- The mnemonic and the operands of a line can be read from its text. -/
theorem text_injective {line line' : CodeLine} (hline : ' ' ∉ line.mnemonic.toList)
    (hline' : ' ' ∉ line'.mnemonic.toList) (h : line.text = line'.text) :
    line.mnemonic = line'.mnemonic ∧ line.operands = line'.operands := by
  have hchars := congrArg String.toList h
  rw [toList_text, toList_text] at hchars
  split at hchars
  · rename_i hempty
    split at hchars
    · rename_i hempty'
      exact ⟨String.toList_inj.mp hchars, hempty.trans hempty'.symm⟩
    · -- A mnemonic alone has no blank, and a mnemonic with operands has one.
      exact absurd (hchars ▸ List.mem_append_right _ List.mem_cons_self) hline
  · split at hchars
    · exact absurd (hchars.symm ▸ List.mem_append_right _ List.mem_cons_self) hline'
    · obtain ⟨hmnemonic, hoperands⟩ := eq_and_eq_of_append_cons hline hline' hchars
      exact ⟨String.toList_inj.mp hmnemonic, String.toList_inj.mp hoperands⟩

/-- The address is a number of 32 bits, label and mnemonic have no blanks, and nothing holds the end
of a line. -/
structure IsReadable (line : CodeLine) : Prop where
  address_nonneg : 0 ≤ line.address
  address_lt : line.address < 2 ^ 32
  label : IsSolid line.label
  mnemonic_ne : line.mnemonic ≠ ""
  mnemonic : IsSolid line.mnemonic
  operands : '\n' ∉ line.operands.toList

theorem IsReadable.exists_text_eq_cons {line : CodeLine} (h : line.IsReadable) :
    ∃ c rest, line.text.toList = c :: rest ∧ c ≠ ' ' := by
  obtain ⟨c, rest, hcons⟩ :=
    List.exists_cons_of_ne_nil fun hnil => h.mnemonic_ne (String.toList_eq_nil_iff.mp hnil)
  have hc : c ≠ ' ' := fun heq => h.mnemonic.1 (by rw [hcons, heq]; exact List.mem_cons_self)
  rw [toList_text, hcons]
  split
  · exact ⟨c, rest, rfl, hc⟩
  · exact ⟨c, _, List.cons_append, hc⟩

/-- Everything but the word itself can be read from a line. -/
theorem IsReadable.lineOf_injective {line line' : CodeLine} (h : line.IsReadable)
    (h' : line'.IsReadable) (heq : lineOf line = lineOf line') :
    line.address = line'.address ∧ line.label = line'.label ∧ line.mnemonic = line'.mnemonic ∧
      line.operands = line'.operands := by
  obtain ⟨c, rest, htext, hc⟩ := h.exists_text_eq_cons
  obtain ⟨c', rest', htext', hc'⟩ := h'.exists_text_eq_cons
  obtain ⟨address, haddress⟩ := Int.eq_ofNat_of_zero_le h.address_nonneg
  obtain ⟨address', haddress'⟩ := Int.eq_ofNat_of_zero_le h'.address_nonneg
  have hlt := h.address_lt
  have hlt' := h'.address_lt
  rw [lineOf, lineOf, haddress, haddress'] at heq
  obtain ⟨hnumber, hlabel, hshown⟩ := codeRow_injective (by omega) (by omega) h.label.1 h'.label.1
    htext htext' hc hc' heq
  obtain ⟨hmnemonic, hoperands⟩ := text_injective h.mnemonic.1 h'.mnemonic.1 hshown
  exact ⟨by rw [haddress, haddress', hnumber], hlabel, hmnemonic, hoperands⟩

theorem IsReadable.lineOf_ne_empty {line : CodeLine} (h : line.IsReadable) :
    lineOf line ≠ "" ∧ '\n' ∉ (lineOf line).toList := by
  have hhex := Numeral.not_mem_hex (c := '\n') (by decide) (by decide) 8 line.address
  have htext : '\n' ∉ line.text.toList := by
    rw [toList_text]
    split
    · exact h.mnemonic.2
    · simp [h.mnemonic.2, h.operands]
  constructor
  · intro hempty
    have hchars := toList_codeRow line.address line.label line.text
    rw [← lineOf, hempty] at hchars
    simp at hchars
  · rw [lineOf, toList_codeRow]
    simp [hhex, htext, h.label.2]

/-- Two blocks of code in front of empty lines show the same line by line. -/
theorem forall₂_of_codeBlock {lines lines' : List CodeLine} {rest rest' : List Char}
    (hlines : ∀ line ∈ lines, line.IsReadable) (hlines' : ∀ line ∈ lines', line.IsReadable)
    (h : (codeBlock lines).toList ++ '\n' :: rest = (codeBlock lines').toList ++ '\n' :: rest') :
    List.Forall₂ (fun line line' => lineOf line = lineOf line') lines lines' := by
  have hsame : lines.map lineOf = lines'.map lineOf := by
    refine lines_eq_of_block ?_ ?_ h
    · intro text htext
      obtain ⟨line, hline, rfl⟩ := List.mem_map.mp htext
      exact (hlines line hline).lineOf_ne_empty
    · intro text htext
      obtain ⟨line, hline, rfl⟩ := List.mem_map.mp htext
      exact (hlines' line hline).lineOf_ne_empty
  have hrows : List.Forall₂ (· = ·) (lines.map lineOf) (lines'.map lineOf) :=
    List.forall₂_eq_eq_eq ▸ hsame
  rwa [List.forall₂_map_left_iff, List.forall₂_map_right_iff] at hrows

end CodeLine

end RiscvListing
