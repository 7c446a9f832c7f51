import Mathlib.Data.BitVec
import Mathlib.Logic.Function.Basic

/-!
# The common package

`rtl/common/riscv_types_pkg.sv`: the words, the register addresses and the
enumerations that every module of the core imports.

An enumeration is an inductive type. The casts `opcode_e'(…)`, `funct3_e'(…)` and
`funct7_e'(…)` of the decode stage are the functions `ofBits`: the nine members of
`opcode_e` and the two of `funct7_e` do not use up their bits, so a cast gives an
`Option`, with `none` for a pattern that no member has; `funct3_e` has all eight.
The codes of the enumerations that are never cast from bits (`alu_ctrl_e`,
`bc_ctrl_e`, `fwd_ctrl_e`, `wb_sel_e`, `lsu_op_e`) are not kept.
-/

namespace RiscvCore.Rtl

/-- `data_t`. -/
abbrev Data := BitVec 32

/-- `address_t`: a register number. -/
abbrev Address := BitVec 5

/-- `REG_ZERO`. -/
abbrev regZero : Address := 0#5

/-- `INSTR_NOP`, which is `addi x0, x0, 0`. -/
def instrNop : Data := 0x13#32

/-- `alu_ctrl_e`. -/
inductive AluCtrl where
  | add | sub | and | or | xor | sll | srl | sra | slt | sltu | copyB
  deriving DecidableEq, Repr

/-- `bc_ctrl_e`. -/
inductive BcCtrl where
  | beq | bne | blt | bge | bltu | bgeu
  deriving DecidableEq, Repr

/-- `fwd_ctrl_e`: where an operand of the EX stage is taken from. -/
inductive FwdCtrl where
  /-- The value latched from the register file. -/
  | idEx
  /-- The write-back stage. -/
  | wb
  /-- The memory stage. -/
  | mem
  deriving DecidableEq, Repr

/-- `opcode_e`. -/
inductive Opcode where
  | rType | iType | load | store | branch | jal | jalr | lui | auipc
  deriving DecidableEq, Repr

/-- The code of an opcode. -/
def Opcode.bits : Opcode → BitVec 7
  | .rType => 0b0110011#7
  | .iType => 0b0010011#7
  | .load => 0b0000011#7
  | .store => 0b0100011#7
  | .branch => 0b1100011#7
  | .jal => 0b1101111#7
  | .jalr => 0b1100111#7
  | .lui => 0b0110111#7
  | .auipc => 0b0010111#7

/-- `opcode_e'(b)`. -/
def Opcode.ofBits (b : BitVec 7) : Option Opcode :=
  if b = Opcode.rType.bits then some .rType
  else if b = Opcode.iType.bits then some .iType
  else if b = Opcode.load.bits then some .load
  else if b = Opcode.store.bits then some .store
  else if b = Opcode.branch.bits then some .branch
  else if b = Opcode.jal.bits then some .jal
  else if b = Opcode.jalr.bits then some .jalr
  else if b = Opcode.lui.bits then some .lui
  else if b = Opcode.auipc.bits then some .auipc
  else none

/-- A pattern casts to a member exactly when it is the member's code. -/
theorem Opcode.ofBits_eq_some_iff (b : BitVec 7) (o : Opcode) :
    Opcode.ofBits b = some o ↔ b = o.bits := by
  constructor
  · intro h
    unfold Opcode.ofBits at h
    -- one branch for each member, and none left
    iterate 9
      obtain ⟨hb, ho⟩ | ⟨-, h⟩ := ite_eq_iff.mp h
      · obtain rfl := Option.some.inj ho
        exact hb
    cases h
  · rintro rfl
    cases o <;> decide

@[simp] theorem Opcode.ofBits_bits (o : Opcode) : Opcode.ofBits o.bits = some o :=
  (Opcode.ofBits_eq_some_iff _ _).mpr rfl

/-- `funct3_e`. -/
inductive Funct3 where
  | addSub | sll | slt | sltu | xor | srlSra | or | and
  deriving DecidableEq, Repr

/-- `funct3_e'(b)`. -/
def Funct3.ofBits (b : BitVec 3) : Funct3 :=
  if b = 0b000#3 then .addSub
  else if b = 0b001#3 then .sll
  else if b = 0b010#3 then .slt
  else if b = 0b011#3 then .sltu
  else if b = 0b100#3 then .xor
  else if b = 0b101#3 then .srlSra
  else if b = 0b110#3 then .or
  else .and

/-- `funct7_e`. -/
inductive Funct7 where
  /-- `F7_BASE`. -/
  | base
  /-- `F7_VARIANT`: subtraction and arithmetic shift. -/
  | variant
  deriving DecidableEq, Repr

/-- `funct7_e'(b)`. -/
def Funct7.ofBits (b : BitVec 7) : Option Funct7 :=
  if b = 0b0000000#7 then some .base
  else if b = 0b0100000#7 then some .variant
  else none

/-- `lsu_op_e`. -/
inductive LsuOp where
  | byte | half | word | byteU | halfU
  deriving DecidableEq, Repr

/-- `wb_sel_e`. -/
inductive WbSel where
  | alu | mem | pc4
  deriving DecidableEq, Repr

/-! ### The fields of an instruction word -/

/-- `instr_i[19:15]`. -/
def rs1Field (w : Data) : Address := w.extractLsb' 15 5

/-- `instr_i[24:20]`. -/
def rs2Field (w : Data) : Address := w.extractLsb' 20 5

/-- `instr_i[11:7]`. -/
def rdField (w : Data) : Address := w.extractLsb' 7 5

/-- `opcode_e'(instr_i[6:0])`. -/
def opcodeField (w : Data) : Option Opcode := Opcode.ofBits (w.extractLsb' 0 7)

/-- `funct3_e'(instr_i[14:12])`. -/
def funct3Field (w : Data) : Funct3 := Funct3.ofBits (w.extractLsb' 12 3)

/-- `funct7_e'(instr_i[31:25])`. -/
def funct7Field (w : Data) : Option Funct7 := Funct7.ofBits (w.extractLsb' 25 7)

end RiscvCore.Rtl
