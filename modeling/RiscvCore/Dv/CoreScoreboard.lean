import RiscvCore.Dv.RiscvInstrTx
import Mathlib.Logic.Function.Basic

/-!
# The scoreboard

`dv/env/core_scoreboard.sv`: a mirror of the register file, advanced by a reference model
of the instruction set, the counters behind the verdict, and the messages of each call of
`write` and of the report phase, with the values they print.
-/

namespace RiscvCore.Dv

open Rtl

/-- `core_scoreboard`. -/
structure CoreScoreboard where
  registerFileMirror : Address → Data4
  matchCount : BitVec 32
  mismatchCount : BitVec 32
  completedInstrs : BitVec 32

/-- The scoreboard after `build_phase`. -/
def CoreScoreboard.build : CoreScoreboard := ⟨fun _ => .known 0#32, 0#32, 0#32, 0#32⟩

/-! ### The reference model -/

/-- `(p) ? 32'h1 : 32'h0`. -/
def flag (p : Option Bool) : Data4 := .mux p (.known 1#32) (.known 0#32)

/-- `expected_data` of an `OP_R_TYPE` transaction, with `a` and `b` its sources. -/
def rTypeData (funct3 : Funct3) (funct7 : Option Funct7) (a b : Data4) : Data4 :=
  match funct3 with
  | .addSub => if funct7 = some .variant then a - b else a + b
  | .sll => a <<< b.extract 0 5
  | .slt => flag (a.compare BitVec.slt b)
  | .sltu => flag (a.compare BitVec.ult b)
  | .xor => a ^^^ b
  | .srlSra => if funct7 = some .variant then a.sshiftRight (b.extract 0 5) else a >>> b.extract 0 5
  | .or => a ||| b
  | .and => a &&& b

/-- `expected_data` of an `OP_I_TYPE` transaction, with `a` its source. -/
def iTypeData (funct3 : Funct3) (funct7 : Option Funct7) (a imm : Data4) : Data4 :=
  match funct3 with
  | .addSub => a + imm
  | .sll => a <<< imm.extract 0 5
  | .slt => flag (a.compare BitVec.slt imm)
  | .sltu => flag (a.compare BitVec.ult imm)
  | .xor => a ^^^ imm
  | .srlSra =>
      if funct7 = some .variant then a.sshiftRight (imm.extract 0 5) else a >>> imm.extract 0 5
  | .or => a ||| imm
  | .and => a &&& imm

/-- `is_writeback_instr`. -/
def isWritebackInstr (tx : RiscvInstrTx) : Bool :=
  match Opcode.ofBits tx.opcode with
  | some .rType | some .iType | some .lui | some .auipc | some .load | some .jal | some .jalr =>
      tx.rd != regZero
  | some .store | some .branch | none => false

/-- `expected_data`. -/
def expectedData (mirror : Address → Data4) (tx : RiscvInstrTx) : Data4 :=
  match Opcode.ofBits tx.opcode with
  | some .rType =>
      rTypeData (Funct3.ofBits tx.funct3) (Funct7.ofBits tx.funct7) (mirror tx.rs1) (mirror tx.rs2)
  | some .iType =>
      iTypeData (Funct3.ofBits tx.funct3) (Funct7.ofBits tx.funct7) (mirror tx.rs1) tx.imm
  | some .lui => tx.imm
  | some .auipc => tx.pc + tx.imm
  | some .load => tx.wbData
  | some .jal | some .jalr => tx.pc + .known 4#32
  | some .store | some .branch | none => .known 0#32

namespace CoreScoreboard

/-- The transaction fails the check: it writes back, and `wb_data !== expected_data`. -/
def Mismatch (s : CoreScoreboard) (tx : RiscvInstrTx) : Prop :=
  isWritebackInstr tx = true ∧ tx.wbData ≠ expectedData s.registerFileMirror tx

instance (s : CoreScoreboard) (tx : RiscvInstrTx) : Decidable (s.Mismatch tx) := by
  unfold Mismatch; infer_instance

/-- `write`; `none` is a null pointer. -/
def write (s : CoreScoreboard) (tx : Option RiscvInstrTx) : CoreScoreboard :=
  match tx with
  | none => s
  | some tx =>
      if isWritebackInstr tx = true then
        if tx.wbData ≠ expectedData s.registerFileMirror tx then
          { s with
            completedInstrs := s.completedInstrs + 1#32
            mismatchCount := s.mismatchCount + 1#32 }
        else
          { s with
            completedInstrs := s.completedInstrs + 1#32
            matchCount := s.matchCount + 1#32
            registerFileMirror := Function.update s.registerFileMirror tx.rd
              (expectedData s.registerFileMirror tx) }
      else { s with completedInstrs := s.completedInstrs + 1#32 }

end CoreScoreboard

/-! ### Messages -/

/-- The messages, with the values they print. `SB_UNKNOWN_FUNCT3` is not among them: every
pattern of three known bits is a member of `funct3_e`. -/
inductive Message where
  /-- `SB_NULL_TX`, an error. -/
  | nullTx
  /-- `SB_UNHANDLED_OPCODE`, a warning. -/
  | unhandledOpcode (opcode : BitVec 7)
  /-- `SB_MISMATCH`, an error. -/
  | mismatch (pc : Data4) (rd : Address) (expected actual : Data4)
  /-- `SB_MATCH`. -/
  | matched (pc : Data4) (rd : Address) (val : Data4)
  /-- `SB_NO_WB`. -/
  | noWb (pc : Data4) (opcode : BitVec 7)
  /-- `SB_REPORT`. -/
  | report (completedInstrs matchCount mismatchCount : BitVec 32)
  /-- `SB_STATUS_FAIL`, which is fatal. -/
  | statusFail
  deriving DecidableEq

namespace CoreScoreboard

/-- The messages of a call of `write`, with those of every verbosity shown: `SB_MATCH` and
`SB_NO_WB` are `UVM_HIGH`. -/
def messages (s : CoreScoreboard) (tx : Option RiscvInstrTx) : List Message :=
  match tx with
  | none => [.nullTx]
  | some tx =>
      (if Opcode.ofBits tx.opcode = none then [.unhandledOpcode tx.opcode] else []) ++
      (if isWritebackInstr tx = true then
        if tx.wbData ≠ expectedData s.registerFileMirror tx then
          [.mismatch tx.pc tx.rd (expectedData s.registerFileMirror tx) tx.wbData]
        else [.matched tx.pc tx.rd tx.wbData]
      else [.noWb tx.pc tx.opcode])

/-- `report_phase`. -/
def reportPhase (s : CoreScoreboard) : List Message :=
  .report s.completedInstrs s.matchCount s.mismatchCount ::
    if s.mismatchCount ≠ 0#32 then [.statusFail] else []

end CoreScoreboard

end RiscvCore.Dv
