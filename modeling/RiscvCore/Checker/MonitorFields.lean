import RiscvCore.Checker.ReferenceModel
import RiscvCore.Dv.MemMonitor
import RiscvCore.Units.Decode

/-!
# What the monitor passes on

The immediate that the monitor decodes is the one that `imm_gen` makes of the word, but for
the negative offsets of branches and of `JAL`, which `decode_immediate` extends by a zero
(`decoded_imm_eq_iff`). The scoreboard does not read these: up to them, the transaction
names the instruction that the word encodes (`instr_decoded`).
-/

namespace RiscvCore.Checker

open Rtl Dv RiscvCore.Units

/-- The instruction that the fields of the monitor's transaction name: offsets as decoded. -/
def observed (w : Data) : Rv32i.Instr → Rv32i.Instr
  | .branch o a b _ => .branch o a b (decodeImmediate w .b)
  | .jal d _ => .jal d (decodeImmediate w .j)
  | i => i

section Immediates

variable (w : Data)

theorem decodeImmediate_i : decodeImmediate w .i = Rv32i.iImm w := immI_eq w

theorem decodeImmediate_s : decodeImmediate w .s = Rv32i.sImm w := immS_eq w

theorem decodeImmediate_u : decodeImmediate w .u = Rv32i.uImm w := immU_eq w

theorem decodeImmediate_b : decodeImmediate w .b = ((immB w).setWidth 31).setWidth 32 := by
  ext i hi
  simp only [decodeImmediate, immB, BitVec.getElem_setWidth, BitVec.getLsbD_setWidth,
    BitVec.getLsbD_append, BitVec.getLsbD_replicate, BitVec.getLsbD_extractLsb']
  grind

theorem decodeImmediate_j : decodeImmediate w .j = ((immJ w).setWidth 31).setWidth 32 := by
  ext i hi
  simp only [decodeImmediate, immJ, BitVec.getElem_setWidth, BitVec.getLsbD_setWidth,
    BitVec.getLsbD_append, BitVec.getLsbD_replicate, BitVec.getLsbD_extractLsb']
  grind

theorem decoded_imm_val :
    (decoded w).imm.val = decodeImmediate w (getImmType (Opcode.ofBits (Rv32i.opcode w))) := rfl

end Immediates

/-! ### The immediate -/

section SignBit

variable (w : Data)

/-- Only a word with a clear sign bit survives being cut to 31 bits. -/
theorem setWidth_eq_self_iff : (w.setWidth 31).setWidth 32 = w ↔ w.msb = false := by
  rw [BitVec.msb_eq_false_iff_two_mul_lt, ← BitVec.toNat_inj, BitVec.toNat_setWidth,
    BitVec.toNat_setWidth]
  omega

theorem immB_msb : (immB w).msb = w.msb := by
  simp only [BitVec.msb_eq_getLsbD_last, immB, BitVec.getLsbD_append, BitVec.getLsbD_extractLsb',
    BitVec.getLsbD_replicate]
  grind

theorem immJ_msb : (immJ w).msb = w.msb := by
  simp only [BitVec.msb_eq_getLsbD_last, immJ, BitVec.getLsbD_append, BitVec.getLsbD_extractLsb',
    BitVec.getLsbD_replicate]
  grind

end SignBit

/-- The word has an offset that the monitor extends by a zero where `imm_gen` extends it by a
sign bit of one: that of a backward branch or `JAL`. -/
def BackwardOffset (w : Data) : Prop :=
  (opcodeField w = some .branch ∨ opcodeField w = some .jal) ∧ w.msb = true

/-- **The monitor decodes the design's immediate exactly if the offset is not backward.** -/
theorem decoded_imm_eq_iff (w : Data) :
    (opcodeField w ≠ some .rType → (decoded w).imm = .known (immGen w)) ↔ ¬ BackwardOffset w := by
  have himm : (decoded w).imm = .known (immGen w) ↔
      decodeImmediate w (getImmType (opcodeField w)) = immGen w :=
    ⟨fun h => congrArg Logic.val h, congrArg Logic.known⟩
  rw [himm, immGen, BackwardOffset]
  cases hop : opcodeField w with
  | none => simp [getImmType, decodeImmediate_i, immI_eq]
  | some o =>
    cases o with
    | rType => simp
    | iType => simp [getImmType, decodeImmediate_i, immI_eq]
    | load => simp [getImmType, decodeImmediate_i, immI_eq]
    | jalr => simp [getImmType, decodeImmediate_i, immI_eq]
    | store => simp [getImmType, decodeImmediate_s, immS_eq]
    | lui => simp [getImmType, decodeImmediate_u, immU_eq]
    | auipc => simp [getImmType, decodeImmediate_u, immU_eq]
    | branch => simp [getImmType, decodeImmediate_b, setWidth_eq_self_iff, immB_msb]
    | jal => simp [getImmType, decodeImmediate_j, setWidth_eq_self_iff, immJ_msb]

/-- For `beq x0, x0, -4` the monitor decodes an offset of nearly `2 ^ 31`. -/
theorem not_decoded_imm_eq :
    ¬ ∀ w : Data, opcodeField w ≠ some .rType → (decoded w).imm = .known (immGen w) := by
  intro h
  exact absurd (h 0xFE000EE3#32 (by decide)) (by decide)

/-- **The monitor's fields name the instruction on the bus.** -/
theorem instr_decoded {w : Data} {i : Rv32i.Instr} (h : Rv32i.decode w = some i) :
    instr (decoded w) = some (observed w i) := by
  have hopc : ∀ o : Opcode, Rv32i.opcode w = o.bits → Opcode.ofBits (decoded w).opcode = some o :=
    fun o => (Opcode.ofBits_eq_some_iff _ o).mpr
  have himm : ∀ o : Opcode, Rv32i.opcode w = o.bits →
      (decoded w).imm.val = decodeImmediate w (getImmType (some o)) := by
    intro o ho
    rw [decoded_imm_val, ho, Opcode.ofBits_bits]
  unfold instr
  cases i with
  | op o d a b =>
    obtain ⟨hop, ho, rfl, rfl, rfl⟩ := Rv32i.encodes_of_decode h
    rw [hopc .rType hop]
    exact Option.map_eq_some_iff.mpr ⟨o, ho, rfl⟩
  | opImm o d a imm =>
    obtain ⟨hop, ho, rfl, rfl, rfl⟩ := Rv32i.encodes_of_decode h
    rw [hopc .iType hop, himm .iType hop, getImmType, decodeImmediate_i]
    exact Option.map_eq_some_iff.mpr ⟨o, ho, rfl⟩
  | load o d a imm =>
    obtain ⟨hop, ho, rfl, rfl, rfl⟩ := Rv32i.encodes_of_decode h
    rw [hopc .load hop, himm .load hop, getImmType, decodeImmediate_i]
    exact Option.map_eq_some_iff.mpr ⟨o, ho, rfl⟩
  | store o a b imm =>
    obtain ⟨hop, ho, rfl, rfl, rfl⟩ := Rv32i.encodes_of_decode h
    rw [hopc .store hop, himm .store hop, getImmType, decodeImmediate_s]
    exact Option.map_eq_some_iff.mpr ⟨o, ho, rfl⟩
  | branch o a b imm =>
    obtain ⟨hop, ho, rfl, rfl, rfl⟩ := Rv32i.encodes_of_decode h
    rw [hopc .branch hop, himm .branch hop, getImmType]
    exact Option.map_eq_some_iff.mpr ⟨o, ho, rfl⟩
  | jal d imm =>
    obtain ⟨hop, rfl, rfl⟩ := Rv32i.encodes_of_decode h
    rw [hopc .jal hop, himm .jal hop, getImmType]
    rfl
  | jalr d a imm =>
    obtain ⟨hop, hf3, rfl, rfl, rfl⟩ := Rv32i.encodes_of_decode h
    rw [hopc .jalr hop, himm .jalr hop, getImmType, decodeImmediate_i]
    exact if_pos hf3
  | lui d imm =>
    obtain ⟨hop, rfl, rfl⟩ := Rv32i.encodes_of_decode h
    rw [hopc .lui hop, himm .lui hop, getImmType, decodeImmediate_u]
    rfl
  | auipc d imm =>
    obtain ⟨hop, rfl, rfl⟩ := Rv32i.encodes_of_decode h
    rw [hopc .auipc hop, himm .auipc hop, getImmType, decodeImmediate_u]
    rfl

/-- The scoreboard expects the same of either. -/
theorem expected_observed (mirror : Address → Data4) (pc wbData : Data4) (w : Data)
    (i : Rv32i.Instr) : expected mirror pc wbData (observed w i) = expected mirror pc wbData i := by
  cases i <;> rfl

end RiscvCore.Checker
