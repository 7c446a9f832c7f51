import RiscvCore.Rtl.RiscvTypesPkg

/-!
# Execute

`rtl/ex`: the arithmetic unit `alu`, the branch comparator `bc`, the address
generation unit `agu`, the forwarding unit `fwd`, and `exStage`, which wires them.
-/

namespace RiscvCore.Rtl

/-! ### The arithmetic unit -/

/-- The outputs of `alu`. -/
structure AluOut where
  result : Data
  zero : Bool
  negative : Bool
  overflow : Bool
  deriving DecidableEq, Repr

/-- The `result` signal of `alu`. -/
def aluResult (aluCtrl : AluCtrl) (opA opB : Data) : Data :=
  match aluCtrl with
  | .add => opA + opB
  | .sub => opA - opB
  | .and => opA &&& opB
  | .or => opA ||| opB
  | .xor => opA ^^^ opB
  | .sll => opA <<< (opB.extractLsb' 0 5).toNat
  | .srl => opA >>> (opB.extractLsb' 0 5).toNat
  | .sra => opA.sshiftRight (opB.extractLsb' 0 5).toNat
  -- `'1` is a word of ones, not the number one
  | .slt => if opA.slt opB = true then BitVec.allOnes 32 else 0#32
  | .sltu => if opA.ult opB = true then BitVec.allOnes 32 else 0#32
  | .copyB => opB

/-- `add_overflow`. -/
def addOverflow (opA opB result : Data) : Bool :=
  (opA.getLsbD 31 == opB.getLsbD 31) && (result.getLsbD 31 != opA.getLsbD 31)

/-- `sub_overflow`. -/
def subOverflow (opA opB result : Data) : Bool :=
  (opA.getLsbD 31 != opB.getLsbD 31) && (result.getLsbD 31 != opA.getLsbD 31)

/-- `alu`. -/
def alu (aluCtrl : AluCtrl) (opA opB : Data) : AluOut where
  result := aluResult aluCtrl opA opB
  zero := aluResult aluCtrl opA opB == 0#32
  negative := (aluResult aluCtrl opA opB).getLsbD 31
  overflow := match aluCtrl with
    | .add => addOverflow opA opB (aluResult aluCtrl opA opB)
    | .sub => subOverflow opA opB (aluResult aluCtrl opA opB)
    | _ => false

/-! ### The branch comparator -/

/-- `bc`. -/
def bc (bcCtrl : BcCtrl) (opA opB : Data) : Bool :=
  match bcCtrl with
  | .beq => opA == opB
  | .bne => opA != opB
  | .blt => opA.slt opB
  | .bge => opB.sle opA
  | .bltu => opA.ult opB
  | .bgeu => opB.ule opA

/-! ### The address generation unit -/

/-- `{sum[DATA_WIDTH-1:ALIGN_WIDTH], {ALIGN_WIDTH{1'b0}}}`: a sum with bit 0 cleared. -/
def alignTarget (sum : Data) : Data := sum.extractLsb' 1 31 ++ 0#1

/-- `agu`. -/
def agu (pc imm opA : Data) (jalrSel : Bool) : Data :=
  alignTarget ((if jalrSel = true then opA else pc) + imm)

/-! ### The forwarding unit -/

/-- `compute_fwd_ctrl`: the memory stage overrides the write-back stage. -/
def computeFwdCtrl (opAddr rdAddrMem : Address) (regWeMem : Bool) (rdAddrWb : Address)
    (regWeWb : Bool) : FwdCtrl :=
  if regWeMem = true ∧ rdAddrMem ≠ regZero ∧ rdAddrMem = opAddr then .mem
  else if regWeWb = true ∧ rdAddrWb ≠ regZero ∧ rdAddrWb = opAddr then .wb
  else .idEx

/-- The outputs of `fwd`. -/
structure FwdOut where
  fwdA : FwdCtrl
  fwdB : FwdCtrl

/-- `fwd`. -/
def fwd (opAAddr opBAddr rdAddrMem : Address) (regWeMem : Bool) (rdAddrWb : Address)
    (regWeWb : Bool) : FwdOut where
  fwdA := computeFwdCtrl opAAddr rdAddrMem regWeMem rdAddrWb regWeWb
  fwdB := computeFwdCtrl opBAddr rdAddrMem regWeMem rdAddrWb regWeWb

/-- `compute_mux_fwd_ctrl`. -/
def computeMuxFwdCtrl (muxFwdCtrl : FwdCtrl) (aluResultMem wbData op : Data) : Data :=
  match muxFwdCtrl with
  | .mem => aluResultMem
  | .wb => wbData
  | .idEx => op

/-! ### The stage -/

/-- The inputs of `ex_stage`. -/
structure ExIn where
  aluCtrl : AluCtrl
  opA : Data
  opB : Data
  opAAddr : Address
  opBAddr : Address
  bcCtrl : BcCtrl
  pc : Data
  imm : Data
  jalrSel : Bool
  rdAddrMem : Address
  rdAddrWb : Address
  regWeMem : Bool
  regWeWb : Bool
  aluResultMem : Data
  wbData : Data

/-- The forwarding selections of the stage. -/
def ExIn.fwd (i : ExIn) : FwdOut :=
  Rtl.fwd i.opAAddr i.opBAddr i.rdAddrMem i.regWeMem i.rdAddrWb i.regWeWb

/-- `op_a_fwd`. -/
def ExIn.opAFwd (i : ExIn) : Data := computeMuxFwdCtrl i.fwd.fwdA i.aluResultMem i.wbData i.opA

/-- `op_b_fwd`. -/
def ExIn.opBFwd (i : ExIn) : Data := computeMuxFwdCtrl i.fwd.fwdB i.aluResultMem i.wbData i.opB

/-- The outputs of `ex_stage`. -/
structure ExOut where
  aluResult : Data
  bcTaken : Bool
  targetAddr : Data
  aluZero : Bool
  aluNegative : Bool
  aluOverflow : Bool

/-- `ex_stage`. -/
def exStage (i : ExIn) : ExOut where
  aluResult := (alu i.aluCtrl i.opAFwd i.opBFwd).result
  bcTaken := bc i.bcCtrl i.opAFwd i.opBFwd
  targetAddr := agu i.pc i.imm i.opAFwd i.jalrSel
  aluZero := (alu i.aluCtrl i.opAFwd i.opBFwd).zero
  aluNegative := (alu i.aluCtrl i.opAFwd i.opBFwd).negative
  aluOverflow := (alu i.aluCtrl i.opAFwd i.opBFwd).overflow

end RiscvCore.Rtl
