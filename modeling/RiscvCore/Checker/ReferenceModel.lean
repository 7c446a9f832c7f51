import RiscvCore.Foundation.Rv32i
import RiscvCore.Dv.CoreScoreboard

/-!
# The reference model

The reference model of the scoreboard against the instruction set. A transaction's fields
name an instruction (`instr`), and for each kind of instruction `expected` says what the
scoreboard expects in terms of four-state words. `fields_of_instr` connects it to the `case`
statements of the source, and `expected_known` to `Rv32i.Instr.result`: on known words the
reference model is right.
-/

namespace RiscvCore.Checker

open Rtl Dv Logic

/-- The instruction that the fields of a transaction name. -/
def instr (tx : RiscvInstrTx) : Option Rv32i.Instr :=
  match Opcode.ofBits tx.opcode with
  | some .rType => (Rv32i.AluOp.ofOp tx.funct3 tx.funct7).map fun o => .op o tx.rd tx.rs1 tx.rs2
  | some .iType =>
      (Rv32i.AluOp.ofOpImm tx.funct3 tx.funct7).map fun o => .opImm o tx.rd tx.rs1 tx.imm.val
  | some .load => (Rv32i.LoadOp.ofFunct3 tx.funct3).map fun o => .load o tx.rd tx.rs1 tx.imm.val
  | some .store => (Rv32i.StoreOp.ofFunct3 tx.funct3).map fun o => .store o tx.rs1 tx.rs2 tx.imm.val
  | some .branch =>
      (Rv32i.BranchOp.ofFunct3 tx.funct3).map fun o => .branch o tx.rs1 tx.rs2 tx.imm.val
  | some .jal => some (.jal tx.rd tx.imm.val)
  | some .jalr => if tx.funct3 = 0b000#3 then some (.jalr tx.rd tx.rs1 tx.imm.val) else none
  | some .lui => some (.lui tx.rd tx.imm.val)
  | some .auipc => some (.auipc tx.rd tx.imm.val)
  | none => none

/-! ### Operations -/

/-- The operations of the instruction set on four-state words. -/
def eval4 (o : Rv32i.AluOp) (a b : Data4) : Data4 :=
  match o with
  | .add => a + b
  | .sub => a - b
  | .sll => a <<< b.extract 0 5
  | .slt => flag (a.compare BitVec.slt b)
  | .sltu => flag (a.compare BitVec.ult b)
  | .xor => a ^^^ b
  | .srl => a >>> b.extract 0 5
  | .sra => a.sshiftRight (b.extract 0 5)
  | .or => a ||| b
  | .and => a &&& b

/-- On known words they are the instruction set's. -/
theorem eval4_known (o : Rv32i.AluOp) (v w : Data) :
    eval4 o (known v) (known w) = known (o.eval v w) := by
  cases o with
  | slt =>
    simp only [eval4, compare_known, flag, mux_some, Rv32i.AluOp.eval, BitVec.slt,
      decide_eq_true_eq]
    exact (apply_ite known _ _ _).symm
  | sltu =>
    simp only [eval4, compare_known, flag, mux_some, Rv32i.AluOp.eval, BitVec.ult,
      decide_eq_true_eq]
    exact (apply_ite known _ _ _).symm
  | add | sub | sll | xor | srl | sra | or | and => simp [eval4, Rv32i.AluOp.eval]

/-- The cases for `OP_R_TYPE` are the operations that the fields name. -/
theorem rTypeData_of_ofOp {f3 : BitVec 3} {f7 : BitVec 7} {o : Rv32i.AluOp}
    (h : Rv32i.AluOp.ofOp f3 f7 = some o) (a b : Data4) :
    rTypeData (Funct3.ofBits f3) (Funct7.ofBits f7) a b = eval4 o a b := by
  obtain ⟨rfl, rfl⟩ := Rv32i.AluOp.codes_of_ofOp h
  cases o <;> rfl

/-- The cases for `OP_I_TYPE` are the operations that the fields name. -/
theorem iTypeData_of_ofOpImm {f3 : BitVec 3} {f7 : BitVec 7} {o : Rv32i.AluOp}
    (h : Rv32i.AluOp.ofOpImm f3 f7 = some o) (a imm : Data4) :
    iTypeData (Funct3.ofBits f3) (Funct7.ofBits f7) a imm = eval4 o a imm := by
  obtain ⟨hsub, rfl, hshift⟩ := Rv32i.AluOp.codes_of_ofOpImm h
  cases o with
  | sub => exact absurd rfl hsub
  | sll | srl | sra =>
    obtain rfl := hshift (by simp)
    rfl
  | add | slt | sltu | xor | or | and => rfl

/-! ### Transactions -/

/-- The register that the reference model expects an instruction to write, and with what: for
`pc` and `wbData` the fields of the transaction. -/
def expected (mirror : Address → Data4) (pc wbData : Data4) :
    Rv32i.Instr → Option (Address × Data4)
  | .op o d a b => some (d, eval4 o (mirror a) (mirror b))
  | .opImm o d a imm => some (d, eval4 o (mirror a) (known imm))
  | .lui d imm => some (d, known imm)
  | .auipc d imm => some (d, pc + known imm)
  | .load _ d _ _ => some (d, wbData)
  | .jal d _ => some (d, pc + known 4#32)
  | .jalr d _ _ => some (d, pc + known 4#32)
  | .store _ _ _ _ => none
  | .branch _ _ _ _ => none

/-- The mirror after an expected write; a write to `x0` is none. -/
def advance (mirror : Address → Data4) : Option (Address × Data4) → Address → Data4
  | some (d, v) => if d = 0#5 then mirror else Function.update mirror d v
  | none => mirror

/-- A register is expected to be written by the instructions that write it. -/
theorem expected_map_fst (mirror : Address → Data4) (pc wbData : Data4) (i : Rv32i.Instr) :
    (expected mirror pc wbData i).map Prod.fst = i.dest := by
  cases i <;> rfl

theorem dest_eq_some_iff (mirror : Address → Data4) (pc wbData : Data4) {i : Rv32i.Instr}
    {d : Address} : i.dest = some d ↔ ∃ v, expected mirror pc wbData i = some (d, v) := by
  rw [← expected_map_fst mirror pc wbData, Option.map_eq_some_iff]
  constructor
  · rintro ⟨⟨d, v⟩, he, rfl⟩
    exact ⟨v, he⟩
  · rintro ⟨v, he⟩
    exact ⟨(d, v), he, rfl⟩

/-- **On known words the reference model is right.** -/
theorem expected_known (R : Rv32i.Regs) (pc : Data) (wbData : Data4) (i : Rv32i.Instr)
    (hload : ∀ o d a imm, i = .load o d a imm → wbData.IsKnown) :
    expected (fun a => known (R.get a)) (known pc) wbData i =
      (i.result (fun _ _ => wbData.val) pc R).map fun x => (x.1, known x.2) := by
  cases i with
  | op o d a b => simp [expected, Rv32i.Instr.result, eval4_known]
  | opImm o d a imm => simp [expected, Rv32i.Instr.result, eval4_known]
  | load o d a imm =>
    simp only [expected, Rv32i.Instr.result, Option.map_some]
    rw [← (hload o d a imm rfl).eq_known]
  | lui d imm | auipc d imm | jal d imm | jalr d a imm => simp [expected, Rv32i.Instr.result]
  | store o a b imm | branch o a b imm => rfl

section Fields

variable {tx : RiscvInstrTx} {i : Rv32i.Instr} (h : instr tx = some i) (himm : tx.imm.IsKnown)
  (mirror : Address → Data4)
include h himm

/-- **What `write` makes of the fields**, by the instruction they name. -/
theorem fields_of_instr :
    match expected mirror tx.pc tx.wbData i with
    | some (d, v) => tx.rd = d ∧ isWritebackInstr tx = (d != 0#5) ∧ expectedData mirror tx = v
    | none => isWritebackInstr tx = false := by
  unfold instr at h
  unfold isWritebackInstr expectedData
  cases hop : Opcode.ofBits tx.opcode with
  | none =>
    rw [hop] at h
    cases h
  | some op =>
    rw [hop] at h
    cases op with
    | rType =>
      obtain ⟨o, ho, rfl⟩ := Option.map_eq_some_iff.mp h
      exact ⟨rfl, rfl, rTypeData_of_ofOp ho _ _⟩
    | iType =>
      obtain ⟨o, ho, rfl⟩ := Option.map_eq_some_iff.mp h
      refine ⟨rfl, rfl, ?_⟩
      rw [← himm.eq_known]
      exact iTypeData_of_ofOpImm ho _ _
    | load =>
      obtain ⟨o, -, rfl⟩ := Option.map_eq_some_iff.mp h
      exact ⟨rfl, rfl, rfl⟩
    | store =>
      obtain ⟨o, -, rfl⟩ := Option.map_eq_some_iff.mp h
      rfl
    | branch =>
      obtain ⟨o, -, rfl⟩ := Option.map_eq_some_iff.mp h
      rfl
    | jal =>
      obtain rfl := Option.some.inj h
      exact ⟨rfl, rfl, rfl⟩
    | jalr =>
      simp only at h
      split_ifs at h
      obtain rfl := Option.some.inj h
      exact ⟨rfl, rfl, rfl⟩
    | lui =>
      obtain rfl := Option.some.inj h
      exact ⟨rfl, rfl, himm.eq_known⟩
    | auipc =>
      obtain rfl := Option.some.inj h
      refine ⟨rfl, rfl, ?_⟩
      rw [← himm.eq_known]

/-- The check fails for a register other than `x0` whose expected value is not on `wb_data`. -/
theorem mismatch_iff (s : CoreScoreboard) : s.Mismatch tx ↔
    ∃ d v, expected s.registerFileMirror tx.pc tx.wbData i = some (d, v) ∧ d ≠ 0#5 ∧
      tx.wbData ≠ v := by
  have hf := fields_of_instr h himm s.registerFileMirror
  unfold CoreScoreboard.Mismatch
  rcases he : expected s.registerFileMirror tx.pc tx.wbData i with _ | ⟨d, v⟩
  · rw [he] at hf
    simp [show isWritebackInstr tx = false from hf]
  · rw [he] at hf
    obtain ⟨-, hwb, hv⟩ := hf
    simp [hwb, hv]

/-- A transaction that passes the check advances the mirror by what was expected. -/
theorem mirror_write {s : CoreScoreboard} (hm : ¬ s.Mismatch tx) :
    (s.write (some tx)).registerFileMirror =
      advance s.registerFileMirror (expected s.registerFileMirror tx.pc tx.wbData i) := by
  have hf := fields_of_instr h himm s.registerFileMirror
  unfold CoreScoreboard.Mismatch at hm
  rcases he : expected s.registerFileMirror tx.pc tx.wbData i with _ | ⟨d, v⟩
  · rw [he] at hf
    simp [CoreScoreboard.write, advance, show isWritebackInstr tx = false from hf]
  · rw [he] at hf
    obtain ⟨rfl, hwb, rfl⟩ := hf
    by_cases h0 : tx.rd = 0#5
    · simp [CoreScoreboard.write, advance, hwb, h0]
    · have hv : tx.wbData = expectedData s.registerFileMirror tx := by simpa [hwb, h0] using hm
      simp [CoreScoreboard.write, advance, hwb, h0, ← hv]

end Fields

/-! ### The count of mismatches -/

section Count

variable {s : CoreScoreboard} {tx : RiscvInstrTx}

theorem mismatchCount_write_of_mismatch (h : s.Mismatch tx) :
    (s.write (some tx)).mismatchCount = s.mismatchCount + 1#32 := by
  simp only [CoreScoreboard.write, if_pos h.1, if_pos h.2]

theorem mismatchCount_write_of_not_mismatch (h : ¬ s.Mismatch tx) :
    (s.write (some tx)).mismatchCount = s.mismatchCount := by
  unfold CoreScoreboard.Mismatch at h
  simp only [CoreScoreboard.write]
  split_ifs with hwb hne
  · exact absurd ⟨hwb, hne⟩ h
  · rfl
  · rfl

end Count

end RiscvCore.Checker
