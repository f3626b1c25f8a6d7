import RiscvListing.Image.Draft
import RiscvListing.Proofs.Disassembly.Result
import RiscvListing.Proofs.Image.Container
import RiscvListing.Proofs.Label

/-!
# The two passes over the code

The labels of the code are found in one pass and shown in another. The second pass meets every jump
that the first one noted, so each jump is shown with the label that its target is shown with.

## Main results

* `Disassembly.Of.accounts` — the labels of a disassembly account for all of its code.
* `Disassembly.passes_agree` — jumps are counted, and lead to the labels that are shown.
-/

namespace RiscvListing

/-- The operands of a jump end in the label that is noted at its address. -/
theorem CodeLine.operands_eq_append_of_decode {jumps labels : AddressMap String}
    {address word offset : Int} {line : CodeLine} {label : String}
    (h : decode jumps labels address word = .ok line)
    (hjump : (Word.ofInt word).jumpOffset? = some offset)
    (hlabel : jumps.get? address = some label) :
    ∃ front, line.operands = front ++ ", " ++ label := by
  obtain ⟨i, hi, rfl⟩ := decode_eq_ok_iff.mp h
  rw [Instruction.jumpOffset?_of_decode? hi] at hjump
  obtain ⟨front, hfront⟩ := Instruction.operands_eq_append hjump
  refine ⟨front, ?_⟩
  rw [← hfront, ofInstruction, targetLabel, hlabel]

theorem CodeLine.label_of_decode {jumps labels : AddressMap String} {address word : Int}
    {line : CodeLine} {label : String} (h : decode jumps labels address word = .ok line)
    (hlabel : labels.get? address = some label) : line.label = label := by
  obtain ⟨i, -, rfl⟩ := decode_eq_ok_iff.mp h
  rw [ofInstruction, hlabel, Option.getD_some]

namespace Disassembly

variable {settings : Settings} {source : Source} {container : Container}
  {words : List (Int × Int)} {d : Disassembly}

theorem Of.container_of (h : Of settings source container words d) :
    container.Of source.content :=
  Container.outcome_read_eq_ok_iff.mp h.container_eq

theorem Of.nodup_addresses (h : Of settings source container words d) :
    (words.map Prod.fst).Nodup :=
  h.container_of.nodup_addresses_codeWords h.words_eq

theorem Of.accounts (h : Of settings source container words d) : d.resolution.Accounts words :=
  Resolution.accounts_of_resolve h.resolved h.nodup_addresses

theorem Of.mem_words (h : Of settings source container words d) {line : CodeLine}
    (hline : line ∈ d.lines) : (line.address, line.word) ∈ words :=
  h.items_eq ▸ List.mem_map_of_mem hline

/-- In a disassembly that succeeds, the jumps and branches of the code are counted, and each of them
is noted at its own address. The target of each has a label; the operands end in this label, and
every line at the target is shown with it. -/
theorem passes_agree (settings : Settings) (source : Source) (journal : Journal) (d : Disassembly)
    (h : ((disassemble settings source).outcome journal).1 = .ok d) :
    ∃ container words, (Container.read source.content).outcome = .ok container ∧
      container.codeWords source.content = .ok words ∧
      d.lines.map (fun line => (line.address, line.word)) = words ∧
      d.resolution.counter = words.countP (fun item =>
        (Word.ofInt item.2).opcode = Opcode.jal ∨ (Word.ofInt item.2).opcode = Opcode.branch) ∧
      d.resolution.jumps.size = d.resolution.counter ∧ d.resolution.jumps.keys.Nodup ∧
      ∀ line ∈ d.lines, (Word.ofInt line.word).opcode = Opcode.jal ∨
          (Word.ofInt line.word).opcode = Opcode.branch →
        ∃ offset label, (Word.ofInt line.word).jumpOffset? = some offset ∧
          d.resolution.labels.get? (jumpTarget line.address offset) = some label ∧
          d.resolution.jumps.get? line.address = some label ∧
          (∃ front, line.operands = front ++ ", " ++ label) ∧
          ∀ other ∈ d.lines, other.address = jumpTarget line.address offset →
            other.label = label := by
  obtain ⟨container, words, hof⟩ := of_disassemble h
  have haccounts := hof.accounts
  refine ⟨container, words, hof.container_eq, hof.words_eq, hof.items_eq, ?_, haccounts.size_jumps,
    haccounts.nodup_keys_jumps hof.nodup_addresses, ?_⟩
  · rw [haccounts.counter_eq]
    exact List.countP_congr fun item _ => by rw [Word.isJump_iff, decide_eq_true_iff]
  · intro line hline hopcode
    obtain ⟨offset, hoffset⟩ := Option.isSome_iff_exists.mp ((Word.isJump_iff _).mpr hopcode)
    obtain ⟨label, htarget, hnoted⟩ := haccounts.linked _ (hof.mem_words hline) offset hoffset
    refine ⟨offset, label, hoffset, htarget, hnoted, ?_, ?_⟩
    · exact CodeLine.operands_eq_append_of_decode (hof.decoded line hline) hoffset hnoted
    · intro other hother haddress
      exact CodeLine.label_of_decode (hof.decoded other hother) (haddress ▸ htarget)

/-- A branch on the last word of the address space and a jump on the first, both to the first. -/
def acrossZero : Source where
  shown := "acrossZero"
  name := "acrossZero"
  path := "/acrossZero"
  content := Draft.toBytes { words := [0x00000263#32, 0x0000006f#32], base := 0xFFFFFFFC#32 }

theorem passes_agree_acrossZero :
    ∃ d, ((disassemble {} acrossZero).outcome ⟨.info, none, #[]⟩).1 = .ok d ∧
      d.lines.map CodeLine.operands = ["zero, zero, 2, LOC_00000", "zero, 0, LOC_00000"] ∧
      d.resolution.counter = 2 ∧ d.resolution.jumps.size = d.resolution.counter ∧
      d.resolution.jumps.keys.Nodup := by
  have hshown : (result {} acrossZero).map
      (fun d => (d.lines.map CodeLine.operands, d.resolution.counter)) =
        .ok (["zero, zero, 2, LOC_00000", "zero, 0, LOC_00000"], 2) := by decide +kernel
  obtain ⟨d, hresult, hparts⟩ := Fault.map_eq_ok_iff.mp hshown
  obtain ⟨hoperands, hcounter⟩ := Prod.mk.inj hparts
  have hd := (disassemble_yields {} acrossZero ⟨.info, none, #[]⟩).trans hresult
  obtain ⟨_, _, -, -, -, -, hsize, hnodup, -⟩ :=
    passes_agree {} acrossZero ⟨.info, none, #[]⟩ d hd
  exact ⟨d, hd, hoperands, hcounter, hsize, hnodup⟩

end Disassembly

end RiscvListing
