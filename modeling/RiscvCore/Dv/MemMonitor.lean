import RiscvCore.Dv.RiscvInstrTx

/-!
# The monitor

`dv/env/memory_agent/mem_monitor.sv`: one transaction for each cycle in which the sampled
bus carries a valid instruction.
-/

namespace RiscvCore.Dv

open Rtl

/-- A sample of `core_if` by `mon_cb`: the instruction bus and the write-back port. -/
structure MonCb where
  imemAddr : Data
  imemRdata : Data
  imemValid : Bool
  wbRegAddr : Address
  wbRegData : Data
  wbRegWe : Bool
  deriving DecidableEq

/-- `imm_src_e`. -/
inductive ImmSrc where
  | i | s | b | u | j
  deriving DecidableEq, Repr

/-- `get_imm_type`. -/
def getImmType (op : Option Opcode) : ImmSrc :=
  match op with
  | some .iType | some .load | some .jalr => .i
  | some .store => .s
  | some .branch => .b
  | some .lui | some .auipc => .u
  | some .jal => .j
  | some .rType | none => .i

/-- `decode_immediate`. The concatenations for branches and `JAL` have 31 bits, and the
assignment extends them by a zero. -/
def decodeImmediate (instr : Data) (kind : ImmSrc) : Data :=
  match kind with
  | .i => (instr.extractLsb' 31 1).replicate 20 ++ instr.extractLsb' 20 12
  | .s => (instr.extractLsb' 31 1).replicate 20 ++ instr.extractLsb' 25 7 ++ instr.extractLsb' 7 5
  | .b =>
      ((instr.extractLsb' 31 1).replicate 19 ++ instr.extractLsb' 7 1 ++ instr.extractLsb' 25 6 ++
        instr.extractLsb' 8 4 ++ 0#1).setWidth 32
  | .u => instr.extractLsb' 12 20 ++ 0#12
  | .j =>
      ((instr.extractLsb' 31 1).replicate 11 ++ instr.extractLsb' 12 8 ++ instr.extractLsb' 20 1 ++
        instr.extractLsb' 21 10 ++ 0#1).setWidth 32

/-- The fields that `collect_transaction` fills in; `pc` and `wb_data` are not among them. -/
def decoded (instr : Data) : RiscvInstrTx where
  opcode := instr.extractLsb' 0 7
  funct3 := instr.extractLsb' 12 3
  funct7 := instr.extractLsb' 25 7
  rd := rdField instr
  rs1 := rs1Field instr
  rs2 := rs2Field instr
  imm := .known (decodeImmediate instr (getImmType (opcodeField instr)))
  pc := .allX 32
  wbData := .allX 32

/-- `collect_transaction`: what is written to the analysis port after a sample. -/
def collectTransaction (cb : MonCb) : Option RiscvInstrTx :=
  if cb.imemValid = true then some (decoded cb.imemRdata) else none

end RiscvCore.Dv
