import RiscvCore.Rtl.CoreTop
import RiscvCore.Units.Decode

/-!
# One instruction, against the instruction set

What the decode stage makes of an instruction word is compared with `Rv32i.decode`: for
the instructions that only compute (`Computes`) the ALU, fed with the operands that decode
selects, produces the value the instruction set prescribes. The set-less-than instructions
are not among them: the ALU returns a word of ones for true.
-/

namespace RiscvCore.Pipeline

open Rtl RiscvCore.Units

/-- The register state that the read ports of a register file show. -/
def regState (rf : RegFile) : Rv32i.Regs := ⟨rfRead rf, rfRead_zero rf⟩

/-! ### The decode stage -/

/-- What ID hands to EX for the contents `x` of the IF/ID register. -/
def issue (rf : RegFile) (x : PrIfId) : PrIdEx where
  pc := x.pc
  regData1 := if opcodeField x.instr = some .auipc then x.pc else rfRead rf (rs1Field x.instr)
  regData2 :=
    if (cuOf x.instr).aluSrc = true then immGen x.instr else rfRead rf (rs2Field x.instr)
  imm := if (cuOf x.instr).aluSrc = true then immGen x.instr else rfRead rf (rs2Field x.instr)
  aluOp := (cuOf x.instr).aluCtrl
  rdAddr := rdField x.instr
  regWriteEn := (cuOf x.instr).regWe
  memToReg := (cuOf x.instr).memToReg

theorem idExIn_eq_issue (c : Core) : c.idExIn = issue c.rf c.ifId := rfl

/-- The ALU's result on the operands that ID hands over. -/
def value (rf : RegFile) (x : PrIfId) : Data :=
  aluResult (issue rf x).aluOp (issue rf x).regData1 (issue rf x).regData2

/-- A load hands over its base and its offset, to be added. -/
theorem issue_of_load (rf : RegFile) {x : PrIfId} {o : Rv32i.LoadOp} {d a : Rv32i.Reg} {imm : Data}
    (h : Rv32i.decode x.instr = some (.load o d a imm)) :
    (issue rf x).aluOp = .add ∧ (issue rf x).regData1 = rfRead rf a ∧
      (issue rf x).regData2 = imm ∧ (issue rf x).rdAddr = d ∧ (issue rf x).regWriteEn = true := by
  obtain ⟨hop, -, rfl, rfl, rfl⟩ := Rv32i.encodes_of_decode h
  have hopc := (opcodeField_eq_some_iff _ .load).mpr hop
  have hcu : cuOf x.instr =
      { cuDefault with regWe := true, aluSrc := true, memToReg := true, aluCtrl := .add } := by
    rw [cuOf, hopc]; rfl
  have himm : immGen x.instr = Rv32i.iImm x.instr := by rw [immGen, hopc]; exact immI_eq _
  refine ⟨?_, ?_, ?_, rfl, ?_⟩
  · rw [issue, hcu]
  · rw [issue, hopc]
    rfl
  · rw [issue, hcu, himm]
    rfl
  · rw [issue, hcu]

/-! ### The computing instructions -/

/-- The instructions that only compute a register: register-register and
register-immediate operations but the set-less-thans, `LUI` and `AUIPC`. -/
def Computes : Rv32i.Instr → Prop
  | .op o _ _ _ => o ≠ .slt ∧ o ≠ .sltu
  | .opImm o _ _ _ => o ≠ .slt ∧ o ≠ .sltu
  | .lui _ _ => True
  | .auipc _ _ => True
  | _ => False

/-- The ALU control for an operation. -/
def aluCtrlOf : Rv32i.AluOp → AluCtrl
  | .add => .add
  | .sub => .sub
  | .sll => .sll
  | .slt => .slt
  | .sltu => .sltu
  | .xor => .xor
  | .srl => .srl
  | .sra => .sra
  | .or => .or
  | .and => .and

theorem aluResult_aluCtrlOf {o : Rv32i.AluOp} (h : o ≠ .slt ∧ o ≠ .sltu) (a b : Data) :
    aluResult (aluCtrlOf o) a b = o.eval a b := by
  cases o with
  | slt => exact absurd rfl h.1
  | sltu => exact absurd rfl h.2
  | _ => rfl

/-- `cu` selects the operation an `OP` instruction names. -/
theorem cu_aluCtrl_of_ofOp {f3 : BitVec 3} {f7 : BitVec 7} {o : Rv32i.AluOp}
    (h : Rv32i.AluOp.ofOp f3 f7 = some o) :
    (cu (some .rType) (Funct3.ofBits f3) (Funct7.ofBits f7)).aluCtrl = aluCtrlOf o := by
  obtain ⟨rfl, rfl⟩ := Rv32i.AluOp.codes_of_ofOp h
  cases o <;> rfl

/-- `cu` selects the operation an `OP-IMM` instruction names. -/
theorem cu_aluCtrl_of_ofOpImm {f3 : BitVec 3} {f7 : BitVec 7} {o : Rv32i.AluOp}
    (h : Rv32i.AluOp.ofOpImm f3 f7 = some o) :
    (cu (some .iType) (Funct3.ofBits f3) (Funct7.ofBits f7)).aluCtrl = aluCtrlOf o := by
  obtain ⟨hsub, rfl, hshift⟩ := Rv32i.AluOp.codes_of_ofOpImm h
  cases o with
  | sub => exact absurd rfl hsub
  | sll | srl | sra =>
    obtain rfl := hshift (by simp)
    rfl
  | add | slt | sltu | xor | or | and => rfl

section Value

variable (rf : RegFile) {x : PrIfId} {o : Rv32i.AluOp} {d a b : Rv32i.Reg} {imm : Data}

/-- The ALU's result for a register-register operation, which is written. -/
theorem value_of_op (h : Rv32i.decode x.instr = some (.op o d a b)) :
    value rf x = aluResult (aluCtrlOf o) (rfRead rf a) (rfRead rf b) ∧
      rdField x.instr = d ∧ (issue rf x).regWriteEn = true := by
  obtain ⟨hop, ho, rfl, rfl, rfl⟩ := Rv32i.encodes_of_decode h
  have hopc := (opcodeField_eq_some_iff _ .rType).mpr hop
  have hctrl : (cuOf x.instr).aluCtrl = aluCtrlOf o := by
    rw [cuOf, hopc]; exact cu_aluCtrl_of_ofOp ho
  have hsrc : (cuOf x.instr).aluSrc = false := by rw [cuOf, hopc]; rfl
  have hwe : (cuOf x.instr).regWe = true := by rw [cuOf, hopc]; rfl
  refine ⟨?_, rfl, hwe⟩
  simp only [value, issue, hctrl, hsrc, hopc]
  rfl

/-- The ALU's result for a register-immediate operation, which is written. -/
theorem value_of_opImm (h : Rv32i.decode x.instr = some (.opImm o d a imm)) :
    value rf x = aluResult (aluCtrlOf o) (rfRead rf a) imm ∧
      rdField x.instr = d ∧ (issue rf x).regWriteEn = true := by
  obtain ⟨hop, ho, rfl, rfl, rfl⟩ := Rv32i.encodes_of_decode h
  have hopc := (opcodeField_eq_some_iff _ .iType).mpr hop
  have hctrl : (cuOf x.instr).aluCtrl = aluCtrlOf o := by
    rw [cuOf, hopc]; exact cu_aluCtrl_of_ofOpImm ho
  have hsrc : (cuOf x.instr).aluSrc = true := by rw [cuOf, hopc]; rfl
  have hwe : (cuOf x.instr).regWe = true := by rw [cuOf, hopc]; rfl
  have himm : immGen x.instr = Rv32i.iImm x.instr := by rw [immGen, hopc]; exact immI_eq _
  refine ⟨?_, rfl, hwe⟩
  simp only [value, issue, hctrl, hsrc, hopc, himm]
  rfl

end Value

section Compute

variable {rf : RegFile} {R : Rv32i.Regs} {x : PrIfId} {i : Rv32i.Instr}

/-- A computing instruction neither redirects nor loads. -/
theorem opcodeField_of_computes (hi : Rv32i.decode x.instr = some i) (hc : Computes i) :
    opcodeField x.instr = some .rType ∨ opcodeField x.instr = some .iType ∨
      opcodeField x.instr = some .lui ∨ opcodeField x.instr = some .auipc := by
  simp only [opcodeField_eq_some_iff]
  cases i with
  | op o d a b => exact .inl (Rv32i.encodes_of_decode hi).1
  | opImm o d a imm => exact .inr (.inl (Rv32i.encodes_of_decode hi).1)
  | lui d imm => exact .inr (.inr (.inl (Rv32i.encodes_of_decode hi).1))
  | auipc d imm => exact .inr (.inr (.inr (Rv32i.encodes_of_decode hi).1))
  | load _ _ _ _ | store _ _ _ _ | branch _ _ _ _ | jal _ _ | jalr _ _ _ => exact hc.elim

/-- **The datapath computes what the instruction set says**: with the registers `R` in the
register file, a computing instruction at `x.pc` writes its destination with the ALU's
result. -/
theorem result_of_computes (hR : ∀ a, rfRead rf a = R.get a)
    (hi : Rv32i.decode x.instr = some i) (hc : Computes i) (ld : Rv32i.LoadOp → Data → Data) :
    i.result ld x.pc R = some (rdField x.instr, value rf x) ∧ (issue rf x).regWriteEn = true := by
  cases i with
  | op o d a b =>
    obtain ⟨hv, rfl, hwe⟩ := value_of_op rf hi
    rw [hv, aluResult_aluCtrlOf hc, hR, hR]
    exact ⟨rfl, hwe⟩
  | opImm o d a imm =>
    obtain ⟨hv, rfl, hwe⟩ := value_of_opImm rf hi
    rw [hv, aluResult_aluCtrlOf hc, hR]
    exact ⟨rfl, hwe⟩
  | lui d imm =>
    obtain ⟨hop, rfl, rfl⟩ := Rv32i.encodes_of_decode hi
    have hopc := (opcodeField_eq_some_iff _ .lui).mpr hop
    have himm : immGen x.instr = Rv32i.uImm x.instr := by rw [immGen, hopc]; rfl
    have hcu : cuOf x.instr = { cuDefault with regWe := true, aluSrc := true, aluCtrl := .copyB } := by
      rw [cuOf, hopc]; rfl
    refine ⟨?_, by simp only [issue, hcu]⟩
    simp only [Rv32i.Instr.result, value, issue, hcu, himm, aluResult]
    rfl
  | auipc d imm =>
    obtain ⟨hop, rfl, rfl⟩ := Rv32i.encodes_of_decode hi
    have hopc := (opcodeField_eq_some_iff _ .auipc).mpr hop
    have himm : immGen x.instr = Rv32i.uImm x.instr := by rw [immGen, hopc]; rfl
    have hcu : cuOf x.instr = { cuDefault with regWe := true, aluSrc := true, aluCtrl := .add } := by
      rw [cuOf, hopc]; rfl
    refine ⟨?_, by simp only [issue, hcu]⟩
    simp only [Rv32i.Instr.result, value, issue, hcu, himm, hopc, aluResult]
    rfl
  | load _ _ _ _ | store _ _ _ _ | branch _ _ _ _ | jal _ _ | jalr _ _ _ => exact hc.elim

end Compute

end RiscvCore.Pipeline
