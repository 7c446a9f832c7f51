import RiscvCore.Rtl.RiscvTypesPkg

/-!
# Instruction decode

`rtl/id`: the control unit `cu`, the immediate generator `immGen`, the register
file `rf`, the hazard detection unit `hdu`, and `idStage`, which wires them. A
module's combinational outputs are a structure; the register file is a function
from addresses to words with the `always_ff` block as `rfNext`.

A reset is taken at clock edges, as in the other stages; what the read ports find while
`rst_ni` is low is `rfShown`.
-/

namespace RiscvCore.Rtl

/-! ### The control unit -/

/-- The outputs of `cu`. -/
structure CuOut where
  aluCtrl : AluCtrl
  /-- Whether operand B is the immediate. -/
  aluSrc : Bool
  /-- Whether the result is memory data. -/
  memToReg : Bool
  /-- The register file's write enable. -/
  regWe : Bool
  /-- The data memory's write enable. -/
  memWe : Bool
  branch : Bool
  jump : Bool
  deriving DecidableEq, Repr

/-- The default state at the top of the control logic. -/
def cuDefault : CuOut := ⟨.add, false, false, false, false, false, false⟩

/-- `cu`. -/
def cu (opcode : Option Opcode) (funct3 : Funct3) (funct7 : Option Funct7) : CuOut :=
  match opcode with
  | some .rType =>
      { cuDefault with
        regWe := true
        aluCtrl := match funct3 with
          | .addSub => if funct7 = some .variant then .sub else .add
          | .srlSra => if funct7 = some .variant then .sra else .srl
          | .sll => .sll
          | .slt => .slt
          | .sltu => .sltu
          | .xor => .xor
          | .or => .or
          | .and => .and }
  | some .iType =>
      { cuDefault with
        regWe := true
        aluSrc := true
        aluCtrl := match funct3 with
          | .addSub => .add
          | .srlSra => if funct7 = some .variant then .sra else .srl
          | .sll => .sll
          | .slt => .slt
          | .sltu => .sltu
          | .xor => .xor
          | .or => .or
          | .and => .and }
  | some .load =>
      { cuDefault with regWe := true, aluSrc := true, memToReg := true, aluCtrl := .add }
  | some .store => { cuDefault with aluSrc := true, memWe := true, aluCtrl := .add }
  | some .branch =>
      { cuDefault with
        branch := true
        aluCtrl := match funct3 with
          | .addSub => .sub
          | .slt | .sltu => .slt
          | .sll | .xor | .srlSra | .or | .and => .sub }
  | some .jal => { cuDefault with regWe := true, jump := true, aluSrc := false, aluCtrl := .add }
  | some .jalr => { cuDefault with regWe := true, jump := true, aluSrc := true, aluCtrl := .add }
  | some .lui => { cuDefault with regWe := true, aluSrc := true, aluCtrl := .copyB }
  | some .auipc => { cuDefault with regWe := true, aluSrc := true, aluCtrl := .add }
  | none => cuDefault

/-- The controls of a whole instruction word, as `id_stage` feeds them to `cu`. -/
def cuOf (w : Data) : CuOut := cu (opcodeField w) (funct3Field w) (funct7Field w)

section CuOf

variable (w : Data)

/-- Which opcodes assert the controls that do not depend on the function fields. -/
theorem cuOf_controls :
    (cuOf w).branch = decide (opcodeField w = some .branch) ∧
      (cuOf w).jump = decide (opcodeField w = some .jal ∨ opcodeField w = some .jalr) ∧
      (cuOf w).memWe = decide (opcodeField w = some .store) ∧
      (cuOf w).memToReg = decide (opcodeField w = some .load) := by
  unfold cuOf cu cuDefault
  cases opcodeField w with
  | none => exact ⟨rfl, rfl, rfl, rfl⟩
  | some o => cases o <;> exact ⟨rfl, rfl, rfl, rfl⟩

@[simp] theorem cuOf_branch : (cuOf w).branch = decide (opcodeField w = some .branch) :=
  (cuOf_controls w).1

@[simp] theorem cuOf_jump :
    (cuOf w).jump = decide (opcodeField w = some .jal ∨ opcodeField w = some .jalr) :=
  (cuOf_controls w).2.1

@[simp] theorem cuOf_memWe : (cuOf w).memWe = decide (opcodeField w = some .store) :=
  (cuOf_controls w).2.2.1

@[simp] theorem cuOf_memToReg : (cuOf w).memToReg = decide (opcodeField w = some .load) :=
  (cuOf_controls w).2.2.2

end CuOf

/-! ### The immediate generator -/

/-- `{{20{inst_i[31]}}, inst_i[31:20]}`. -/
def immI (inst : Data) : Data := (inst.extractLsb' 31 1).replicate 20 ++ inst.extractLsb' 20 12

/-- `{{20{inst_i[31]}}, inst_i[31:25], inst_i[11:7]}`. -/
def immS (inst : Data) : Data :=
  (inst.extractLsb' 31 1).replicate 20 ++ inst.extractLsb' 25 7 ++ inst.extractLsb' 7 5

/-- `{{19{inst_i[31]}}, inst_i[31], inst_i[7], inst_i[30:25], inst_i[11:8], 1'b0}`. -/
def immB (inst : Data) : Data :=
  (inst.extractLsb' 31 1).replicate 19 ++ inst.extractLsb' 31 1 ++ inst.extractLsb' 7 1 ++
    inst.extractLsb' 25 6 ++ inst.extractLsb' 8 4 ++ 0#1

/-- `{inst_i[31:12], 12'b0}`. -/
def immU (inst : Data) : Data := inst.extractLsb' 12 20 ++ 0#12

/-- `{{11{inst_i[31]}}, inst_i[31], inst_i[19:12], inst_i[20], inst_i[30:21], 1'b0}`. -/
def immJ (inst : Data) : Data :=
  (inst.extractLsb' 31 1).replicate 11 ++ inst.extractLsb' 31 1 ++ inst.extractLsb' 12 8 ++
    inst.extractLsb' 20 1 ++ inst.extractLsb' 21 10 ++ 0#1

/-- `imm_gen`. -/
def immGen (inst : Data) : Data :=
  match opcodeField inst with
  | some .iType | some .load | some .jalr => immI inst
  | some .store => immS inst
  | some .branch => immB inst
  | some .lui | some .auipc => immU inst
  | some .jal => immJ inst
  | some .rType => 0#32
  | none => immI inst

/-! ### The register file -/

/-- `rf_reg`. -/
abbrev RegFile := Address → Data

/-- A read port of `rf`. -/
def rfRead (rf : RegFile) (a : Address) : Data := if a = 0#5 then 0#32 else rf a

/-- The outputs of `rf`. -/
structure RfOut where
  rs1Data : Data
  rs2Data : Data

/-- The read ports of `rf`. -/
def rfOut (rf : RegFile) (rs1Addr rs2Addr : Address) : RfOut :=
  ⟨rfRead rf rs1Addr, rfRead rf rs2Addr⟩

/-- The `always_ff` block of `rf`. -/
def rfNext (rstN : Bool) (rdAddr : Address) (rdData : Data) (rdWe : Bool) (rf : RegFile) : RegFile :=
  if rstN = false then fun _ => 0#32
  else if rdWe = true ∧ rdAddr ≠ 0#5 then Function.update rf rdAddr rdData
  else rf

/-- The registers as the read ports find them: the `always_ff` block also runs at
`negedge rst_ni`, so they are zero as long as the reset is low. -/
def rfShown (rstN : Bool) (rf : RegFile) : RegFile := if rstN = false then fun _ => 0#32 else rf

@[simp] theorem rfRead_zero (rf : RegFile) : rfRead rf 0#5 = 0#32 := rfl

/-! ### The hazard detection unit -/

/-- The outputs of `hdu`. -/
structure HduOut where
  pcWrite : Bool
  ifIdWrite : Bool
  stall : Bool
  deriving DecidableEq, Repr

/-- `hdu`. -/
def hdu (rs1AddrId rs2AddrId rdAddrEx : Address) (memReadEx : Bool) : HduOut :=
  if (memReadEx = true ∧ rdAddrEx ≠ regZero) ∧ (rdAddrEx = rs1AddrId ∨ rdAddrEx = rs2AddrId) then
    ⟨false, false, true⟩
  else ⟨true, true, false⟩

/-! ### The stage -/

/-- The outputs of `id_stage`. -/
structure IdOut where
  aluCtrl : AluCtrl
  operandA : Data
  operandB : Data
  rs1Addr : Address
  rs2Addr : Address
  rdAddr : Address
  aluSrc : Bool
  memWe : Bool
  regWe : Bool
  branch : Bool
  jump : Bool
  memToReg : Bool
  stall : Bool
  pcWrite : Bool
  ifIdWrite : Bool

/-- `id_stage`, less the write port of its register file, which is `rfNext`. -/
def idStage (rf : RegFile) (instr pc : Data) (exRdAddr : Address) (exMemRead : Bool) : IdOut where
  aluCtrl := (cuOf instr).aluCtrl
  operandA := if opcodeField instr = some .auipc then pc else rfRead rf (rs1Field instr)
  operandB := if (cuOf instr).aluSrc = true then immGen instr else rfRead rf (rs2Field instr)
  rs1Addr := rs1Field instr
  rs2Addr := rs2Field instr
  rdAddr := rdField instr
  aluSrc := (cuOf instr).aluSrc
  memWe := (cuOf instr).memWe
  regWe := (cuOf instr).regWe
  branch := (cuOf instr).branch
  jump := (cuOf instr).jump
  memToReg := (cuOf instr).memToReg
  stall := (hdu (rs1Field instr) (rs2Field instr) exRdAddr exMemRead).stall
  pcWrite := (hdu (rs1Field instr) (rs2Field instr) exRdAddr exMemRead).pcWrite
  ifIdWrite := (hdu (rs1Field instr) (rs2Field instr) exRdAddr exMemRead).ifIdWrite

end RiscvCore.Rtl
