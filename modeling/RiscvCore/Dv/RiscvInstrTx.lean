import RiscvCore.Foundation.FourState
import RiscvCore.Rtl.RiscvTypesPkg

/-!
# The transaction

`dv/env/riscv_instr_tx.sv`: the object that the monitor hands to the scoreboard, and the
constraints under which the random sequence generates one. The opcode and function fields
are bit patterns, since a cast puts any pattern into a variable of an enumeration type; the
three words are four-state, since a field that is never assigned keeps the unknown value
it is created with.
-/

namespace RiscvCore.Dv

open Rtl

/-- A `data_t` variable of the test environment. -/
abbrev Data4 := Logic 32

/-- `riscv_instr_tx`. -/
structure RiscvInstrTx where
  opcode : BitVec 7
  rs1 : Address
  rs2 : Address
  rd : Address
  funct3 : BitVec 3
  funct7 : BitVec 7
  imm : Data4
  pc : Data4
  wbData : Data4
  deriving DecidableEq

/-! ### The constraints -/

namespace RiscvInstrTx

variable (tx : RiscvInstrTx)

/-- `c_legal_opcodes`. -/
def cLegalOpcodes : Prop :=
  Opcode.ofBits tx.opcode ∈
    [some .rType, some .iType, some .load, some .store, some .branch, some .lui, some .auipc]

/-- `c_avoid_x0_dest`. The expression before `dist` is the comparison, which is 0 or 1; as a
constraint, the list of weights says which values it may have. -/
def cAvoidX0Dest : Prop :=
  let e := if tx.rd = regZero then 1 else 0
  e = 1 ∨ 1 ≤ e ∧ e ≤ 31

/-- `c_structural_fields`. -/
def cStructuralFields : Prop :=
  -- `funct3 inside {…}` lists all members, which is every pattern of three bits
  (Opcode.ofBits tx.opcode = some .rType →
    if Funct3.ofBits tx.funct3 = .addSub ∨ Funct3.ofBits tx.funct3 = .srlSra then
      Funct7.ofBits tx.funct7 = some .base ∨ Funct7.ofBits tx.funct7 = some .variant
    else Funct7.ofBits tx.funct7 = some .base) ∧
  (Opcode.ofBits tx.opcode = some .iType ∧
      (Funct3.ofBits tx.funct3 = .sll ∨ Funct3.ofBits tx.funct3 = .srlSra) →
    tx.imm.val.extractLsb' 5 27 = 0#27 ∧
      if Funct3.ofBits tx.funct3 = .srlSra then
        Funct7.ofBits tx.funct7 = some .base ∨ Funct7.ofBits tx.funct7 = some .variant
      else Funct7.ofBits tx.funct7 = some .base) ∧
  (Opcode.ofBits tx.opcode = some .load ∨ Opcode.ofBits tx.opcode = some .store →
    tx.imm.val.extractLsb' 0 2 = 0#2 ∧ tx.imm.val.extractLsb' 12 20 = 0#20)

/-- `c_intermittent_branches`. -/
def cIntermittentBranches : Prop :=
  Opcode.ofBits tx.opcode = some .branch →
    tx.imm.val.extractLsb' 0 2 = 0#2 ∧ (-64 ≤ tx.imm.val.toInt ∧ tx.imm.val.toInt ≤ 64) ∧
      tx.imm.val ≠ 0#32

instance : Decidable tx.cLegalOpcodes := by unfold cLegalOpcodes; infer_instance

instance : Decidable tx.cAvoidX0Dest := by unfold cAvoidX0Dest; infer_instance

instance : Decidable tx.cStructuralFields := by unfold cStructuralFields; infer_instance

instance : Decidable tx.cIntermittentBranches := by unfold cIntermittentBranches; infer_instance

/-- A transaction that `randomize` may produce: its random fields hold known values, those of an
enumeration type only its members, and satisfy the constraints. -/
structure Randomized : Prop where
  funct7 : Funct7.ofBits tx.funct7 ≠ none
  imm : tx.imm.IsKnown
  legalOpcodes : tx.cLegalOpcodes
  avoidX0Dest : tx.cAvoidX0Dest
  structuralFields : tx.cStructuralFields
  intermittentBranches : tx.cIntermittentBranches

end RiscvInstrTx

end RiscvCore.Dv
