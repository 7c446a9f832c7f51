import RiscvCore.Checker.MonitorFields
import RiscvCore.Pipeline.Datapath

/-!
# The datapath and the reference model

For the instructions that only compute, the value that the ALU makes of a word with the
controls and operands of the decode stage is compared with what the scoreboard expects for
the same fields, with the register file as mirror. The two agree but for a set-less-than
that is true: the ALU answers with a word of ones, the scoreboard expects the number one.
-/

namespace RiscvCore.Checker

open Rtl Dv Logic Pipeline

/-- The transaction of the word `w` at `pc`. -/
def txAt (w pc : Data) : RiscvInstrTx := { decoded w with pc := known pc }

/-- R-type, OP-IMM, `LUI` and `AUIPC`. -/
def Calculates : Rv32i.Instr → Prop
  | .op _ _ _ _ => True
  | .opImm _ _ _ _ => True
  | .lui _ _ => True
  | .auipc _ _ => True
  | _ => False

/-- The operation is a set-less-than, and its first operand is the smaller one. -/
def Less : Rv32i.AluOp → Data → Data → Prop
  | .slt, a, b => a.toInt < b.toInt
  | .sltu, a, b => a.toNat < b.toNat
  | _, _, _ => False

/-- The instruction is a set-less-than that is true. -/
def SetsLess (rf : RegFile) : Rv32i.Instr → Prop
  | .op o _ a b => Less o (rf a) (rf b)
  | .opImm o _ a imm => Less o (rf a) imm
  | _ => False

/-- The ALU computes an operation of the instruction set, unless it is a true set-less-than. -/
theorem aluResult_eq_eval_iff (o : Rv32i.AluOp) (a b : Data) :
    aluResult (aluCtrlOf o) a b = o.eval a b ↔ ¬ Less o a b := by
  have hne : BitVec.allOnes 32 ≠ 1#32 := by decide
  cases o with
  | slt =>
    simp only [aluCtrlOf, aluResult, Rv32i.AluOp.eval, Less, BitVec.slt, decide_eq_true_eq]
    split_ifs with h
    · exact iff_of_false hne (not_not_intro h)
    · exact iff_of_true rfl h
  | sltu =>
    simp only [aluCtrlOf, aluResult, Rv32i.AluOp.eval, Less, BitVec.ult, decide_eq_true_eq]
    split_ifs with h
    · exact iff_of_false hne (not_not_intro h)
    · exact iff_of_true rfl h
  | _ => exact iff_of_true rfl id

section Agreement

variable {rf : RegFile} (h0 : rf 0#5 = 0#32)
include h0

theorem rfRead_eq (a : Address) : rfRead rf a = rf a := by
  unfold rfRead
  split_ifs with ha
  · rw [ha, h0]
  · rfl

/-- What the scoreboard expects of a word is what the instruction set prescribes. -/
theorem expectedData_txAt {w : Data} {i : Rv32i.Instr} (hw : Rv32i.decode w = some i)
    (hi : Calculates i) {pc : Data} {d : Address} {v : Data}
    (hr : i.result (fun _ _ => 0#32) pc (regState rf) = some (d, v)) :
    expectedData (fun a => known (rf a)) (txAt w pc) = known v := by
  have hm : (fun a => known (rf a)) = fun a => known ((regState rf).get a) := by
    funext a
    exact congrArg known (rfRead_eq h0 a).symm
  have hload : ∀ o e a imm, i = .load o e a imm → (txAt w pc).wbData.IsKnown := by
    rintro o e a imm rfl
    exact hi.elim
  have he : expected (fun a => known (rf a)) (known pc) (txAt w pc).wbData (observed w i) =
      some (d, known v) := by
    rw [expected_observed, hm]
    refine (expected_known (regState rf) pc (txAt w pc).wbData i hload).trans ?_
    exact Option.map_eq_some_iff.mpr ⟨(d, v), hr, rfl⟩
  have hinstr : instr (txAt w pc) = some (observed w i) := instr_decoded hw
  have hf := fields_of_instr hinstr rfl fun a => known (rf a)
  rw [show (txAt w pc).pc = known pc from rfl, he] at hf
  exact hf.2.2

end Agreement

/-- **The datapath agrees with the reference model but for a true set-less-than.** -/
theorem value_eq_expectedData_iff (rf : RegFile) (w pc : Data) (i : Rv32i.Instr)
    (hw : Rv32i.decode w = some i) (hi : Calculates i) (h0 : rf 0#5 = 0#32) :
    known (value rf ⟨pc, w⟩) = expectedData (fun a => known (rf a)) (txAt w pc) ↔
      ¬ SetsLess rf i := by
  cases i with
  | op o d a b =>
    obtain ⟨hv, -, -⟩ := value_of_op rf (x := ⟨pc, w⟩) hw
    rw [hv, expectedData_txAt h0 hw hi rfl, known_inj]
    show aluResult (aluCtrlOf o) (rfRead rf a) (rfRead rf b) =
      o.eval (rfRead rf a) (rfRead rf b) ↔ _
    rw [rfRead_eq h0, rfRead_eq h0]
    exact aluResult_eq_eval_iff o _ _
  | opImm o d a imm =>
    obtain ⟨hv, -, -⟩ := value_of_opImm rf (x := ⟨pc, w⟩) hw
    rw [hv, expectedData_txAt h0 hw hi rfl, known_inj]
    show aluResult (aluCtrlOf o) (rfRead rf a) imm = o.eval (rfRead rf a) imm ↔ _
    rw [rfRead_eq h0]
    exact aluResult_eq_eval_iff o _ _
  | lui _ _ | auipc _ _ =>
    obtain ⟨hr, -⟩ := result_of_computes (R := regState rf) (fun _ => rfl) (x := ⟨pc, w⟩) hw trivial
      (fun _ _ => 0#32)
    rw [expectedData_txAt h0 hw hi hr]
    exact iff_of_true rfl id
  | load _ _ _ _ | store _ _ _ _ | branch _ _ _ _ | jal _ _ | jalr _ _ _ => exact hi.elim

/-- `slti x1, x0, 1`. -/
theorem value_eq_expectedData_iff_slti :
    known (value (fun _ => 0#32) ⟨0#32, 0x00102093#32⟩) =
        expectedData (fun _ => known 0#32) (txAt 0x00102093#32 0#32) ↔
      ¬ SetsLess (fun _ => 0#32) (.opImm .slt 1#5 0#5 1#32) :=
  value_eq_expectedData_iff (fun _ => 0#32) 0x00102093#32 0#32 _ (by decide) trivial rfl

/-- The ALU answers with a word of ones. -/
theorem value_ne_expectedData_slti :
    ¬ (Rv32i.decode 0x00102093#32 = some (.opImm .slt 1#5 0#5 1#32) →
      known (value (fun _ => 0#32) ⟨0#32, 0x00102093#32⟩) =
        expectedData (fun _ => known 0#32) (txAt 0x00102093#32 0#32)) := by
  decide +kernel

end RiscvCore.Checker
