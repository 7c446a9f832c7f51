import RiscvCore.Foundation.Rv32iFormats
import RiscvCore.Rtl.IdStage

/-!
# The decode stage by itself

What `id_stage` makes of an instruction word, against the encodings of RV32I. The fields
and the five immediates are those of `Rv32i`; so `imm_gen` inverts the encoding of every
immediate (`immGen_invertsEncoding`). `cu` looks at less than the encodings fix: of the
words that encode nothing, it leaves the state alone exactly for those whose opcode is
unknown (`inert_of_illegal_iff`).
-/

namespace RiscvCore.Units

open Rtl
open Rv32i.Format (replicate_append_eq_signExtend signExtend_append)

section Fields

variable (w : Data)

theorem opcodeField_eq_some_iff (o : Opcode) :
    opcodeField w = some o ↔ Rv32i.opcode w = o.bits := Opcode.ofBits_eq_some_iff _ _

/-! ### Immediates -/

/-- A field at the top of a word has the word's sign. -/
theorem msb_extractLsb'_top {k l : ℕ} (hl : 0 < l) (h : k + l = 32) :
    (w.extractLsb' 31 1).msb = (w.extractLsb' k l).msb := by
  simp [BitVec.msb_extractLsb', hl, h]

theorem immI_eq : immI w = Rv32i.iImm w :=
  replicate_append_eq_signExtend (msb_extractLsb'_top w (by decide) (by decide))

theorem immS_eq : immS w = Rv32i.sImm w := by
  rw [immS, replicate_append_eq_signExtend (msb_extractLsb'_top w (by decide) (by decide)),
    signExtend_append _ _ (by decide)]
  rfl

theorem immB_eq : immB w = Rv32i.bImm w := by
  rw [immB, replicate_append_eq_signExtend rfl, signExtend_append _ _ (by decide),
    signExtend_append _ _ (by decide), signExtend_append _ _ (by decide),
    signExtend_append _ _ (by decide)]
  rfl

theorem immJ_eq : immJ w = Rv32i.jImm w := by
  rw [immJ, replicate_append_eq_signExtend rfl, signExtend_append _ _ (by decide),
    signExtend_append _ _ (by decide), signExtend_append _ _ (by decide),
    signExtend_append _ _ (by decide)]
  rfl

theorem immU_eq : immU w = Rv32i.uImm w := rfl

end Fields

/-- The format of the immediate that an opcode has. -/
def immFormat : Opcode → Option Rv32i.Format
  | .iType | .load | .jalr => some .i
  | .store => some .s
  | .branch => some .b
  | .lui | .auipc => some .u
  | .jal => some .j
  | .rType => none

/-- `imm_gen` reads the immediate of the opcode's format. -/
theorem immGen_eq_imm {o : Opcode} {f : Rv32i.Format} {w : Data} (ho : immFormat o = some f)
    (hw : opcodeField w = some o) : immGen w = f.imm w := by
  rw [immGen, hw]
  cases o <;> cases ho
  case iType | load | jalr => exact immI_eq w
  case store => exact immS_eq w
  case branch => exact immB_eq w
  case lui | auipc => exact immU_eq w
  case jal => exact immJ_eq w

theorem opcodeField_place (f : Rv32i.Format) (v w : Data) :
    opcodeField (f.place v w) = opcodeField w :=
  congrArg Opcode.ofBits (f.opcode_place v w)

/-- What it means that `imm_gen` inverts the encoding of the immediates of a format. -/
structure InvertsEncoding (f : Rv32i.Format) : Prop where
  /-- The word that encodes `v` has the remaining bits it is made with, the opcode among them. -/
  remaining : ∀ v w, f.place v w &&& ~~~f.mask = w &&& ~~~f.mask
  opcode : ∀ v w, opcodeField (f.place v w) = opcodeField w
  /-- The immediate of the word that encodes `v` is `v`, with its sign. -/
  encoded : ∀ o, immFormat o = some f → ∀ v, f.Representable v → ∀ w, opcodeField w = some o →
    (immGen (f.place (BitVec.ofInt 32 v) w)).toInt = v
  /-- Encoding the immediate of a word, with whatever remaining bits, gives the word's
  immediate bits. -/
  recovered : ∀ o, immFormat o = some f → ∀ w, opcodeField w = some o →
    ∀ w', f.place (immGen w) w' &&& f.mask = w &&& f.mask
  injective : ∀ o o', immFormat o = some f → immFormat o' = some f → ∀ w w',
    opcodeField w = some o → opcodeField w' = some o' → immGen w = immGen w' →
      w &&& f.mask = w' &&& f.mask

/-- **`imm_gen` inverts the encoding**, in every format. -/
theorem immGen_invertsEncoding (f : Rv32i.Format) : InvertsEncoding f where
  remaining := f.place_and_not_mask
  opcode := opcodeField_place f
  encoded o ho v hv w hw := by
    have hplace : opcodeField (f.place (BitVec.ofInt 32 v) w) = some o := by
      rw [opcodeField_place, hw]
    rw [immGen_eq_imm ho hplace]
    exact f.toInt_imm_place hv w
  recovered o ho w hw w' := by
    rw [immGen_eq_imm ho hw, f.place_and_mask, ← f.and_mask]
  injective o o' ho ho' w w' hw hw' h := by
    rw [immGen_eq_imm ho hw, immGen_eq_imm ho' hw'] at h
    exact f.and_mask_inj h

/-! ### Illegal words -/

/-- None of the controls that change the state or the program counter is asserted. -/
def Inert (o : IdOut) : Prop :=
  o.regWe = false ∧ o.memWe = false ∧ o.branch = false ∧ o.jump = false

/-- An instruction is inert exactly if its opcode is unknown: every member of `opcode_e`
asserts a control. -/
theorem inert_iff (rf : RegFile) (w pc : Data) (exRdAddr : Address) (exMemRead : Bool) :
    Inert (idStage rf w pc exRdAddr exMemRead) ↔ opcodeField w = none := by
  show (cuOf w).regWe = false ∧ (cuOf w).memWe = false ∧ (cuOf w).branch = false ∧
    (cuOf w).jump = false ↔ _
  unfold cuOf
  cases opcodeField w with
  | none => exact iff_of_true ⟨rfl, rfl, rfl, rfl⟩ rfl
  | some o => cases o <;> simp [cu, cuDefault]

/-- **Exactly the illegal words with a known opcode have effects.** -/
theorem inert_of_illegal_iff (rf : RegFile) (w pc : Data) (exRdAddr : Address)
    (exMemRead : Bool) :
    (Rv32i.decode w = none → Inert (idStage rf w pc exRdAddr exMemRead)) ↔
      Rv32i.decode w ≠ none ∨ opcodeField w = none := by
  rw [inert_iff, Decidable.imp_iff_not_or]

/-- `mul x1, x2, x3`, which is no RV32I instruction, writes a register: it is executed as an
addition. -/
theorem not_inert_of_illegal :
    ¬ ∀ (rf : RegFile) (w pc : Data) (exRdAddr : Address) (exMemRead : Bool),
      Rv32i.decode w = none → Inert (idStage rf w pc exRdAddr exMemRead) := by
  intro h
  have hmul := h (fun _ => 0#32) 0x023100B3#32 0#32 0#5 false (by decide)
  exact absurd hmul.1 (by decide)

end RiscvCore.Units
