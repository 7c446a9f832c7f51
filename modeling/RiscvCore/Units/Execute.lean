import RiscvCore.Rtl.ExStage
import RiscvCore.Rtl.IdStage

/-!
# The execute stage by itself

Two properties of `ex_stage` and its units that do not depend on how the core wires them.
`flagsAreExact` ties the result and the flags of `alu` to the sum or difference of its
operands as integers, and so to the branch comparator. `exStage_afterPending` says that
forwarding to operands that were read from a register file is the same as reading them after
the two pending writes.
-/

namespace RiscvCore.Units

open Rtl

/-! ### The flags -/

/-- The result and the flags of `o` are those of the integer `x`. -/
structure Exact (x : ℤ) (o : AluOut) : Prop where
  /-- The result is `x` modulo `2 ^ 32`. -/
  result : o.result = BitVec.ofInt 32 x
  overflow : o.overflow = true ↔ ¬ (-2 ^ 31 ≤ x ∧ x ≤ 2 ^ 31 - 1)
  sign : (o.negative ^^ o.overflow) = true ↔ x < 0
  zero : o.zero = true ↔ (2 ^ 32 : ℤ) ∣ x

section Flags

variable (a b : Data)

/-- The flags are exact if the result is, and overflow is what it should be. -/
theorem exact_of_overflow {x : ℤ} {o : AluOut} (hx : -2 ^ 32 ≤ x ∧ x < 2 ^ 32)
    (hres : o.result = BitVec.ofInt 32 x) (hneg : o.negative = o.result.msb)
    (hzero : o.zero = (o.result == 0#32))
    (hovf : o.overflow = true ↔ ¬ (-2 ^ 31 ≤ x ∧ x ≤ 2 ^ 31 - 1)) : Exact x o where
  result := hres
  overflow := hovf
  sign := by
    have hn : o.negative = true ↔ x.bmod (2 ^ 32) < 0 := by
      rw [hneg, hres, BitVec.msb_eq_toInt, BitVec.toInt_ofInt, decide_eq_true_iff]
    rw [Bool.xor_iff_ne, ne_eq, Bool.eq_iff_iff, hn, hovf, Int.bmod_def]
    omega
  zero := by
    have hz : BitVec.ofInt 32 x = 0#32 ↔ x.bmod (2 ^ 32) = 0 := by
      rw [← BitVec.toInt_inj, BitVec.toInt_ofInt, BitVec.toInt_zero]
    rw [hzero, beq_iff_eq, hres, hz]
    exact Int.dvd_iff_bmod_eq_zero.symm

theorem addOverflow_eq : addOverflow a b (a + b) = a.saddOverflow b := by
  rw [BitVec.saddOverflow_eq]
  rfl

theorem subOverflow_eq : subOverflow a b (a - b) = a.ssubOverflow b := by
  rw [BitVec.ssubOverflow_eq]
  show ((a.msb != b.msb) && ((a - b).msb != a.msb)) = _
  cases a.msb <;> cases b.msb <;> cases (a - b).msb <;> rfl

/-- Sums and differences of two words have at most 33 bits. -/
theorem toInt_add_sub_range : (-2 ^ 32 ≤ a.toInt + b.toInt ∧ a.toInt + b.toInt < 2 ^ 32) ∧
    (-2 ^ 32 ≤ a.toInt - b.toInt ∧ a.toInt - b.toInt < 2 ^ 32) := by
  have ha := a.le_toInt
  have ha' := a.toInt_lt
  have hb := b.le_toInt
  have hb' := b.toInt_lt
  omega

theorem exact_add : Exact (a.toInt + b.toInt) (alu .add a b) := by
  refine exact_of_overflow (toInt_add_sub_range a b).1 ?_ rfl rfl ?_
  · rw [BitVec.ofInt_add, BitVec.ofInt_toInt, BitVec.ofInt_toInt]
    rfl
  · show addOverflow a b (a + b) = true ↔ _
    rw [addOverflow_eq, BitVec.saddOverflow, Bool.or_eq_true, decide_eq_true_iff,
      decide_eq_true_iff]
    omega

theorem exact_sub : Exact (a.toInt - b.toInt) (alu .sub a b) := by
  refine exact_of_overflow (toInt_add_sub_range a b).2 ?_ rfl rfl ?_
  · rw [← BitVec.toInt_inj, BitVec.toInt_ofInt]
    exact BitVec.toInt_sub
  · show subOverflow a b (a - b) = true ↔ _
    rw [subOverflow_eq, BitVec.ssubOverflow, Bool.or_eq_true, decide_eq_true_iff,
      decide_eq_true_iff]
    omega

end Flags

/-- The result and the flags of a sum and of a difference, and what the latter says of the
comparisons. -/
structure FlagsAreExact (a b : Data) : Prop where
  add : Exact (a.toInt + b.toInt) (alu .add a b)
  sub : Exact (a.toInt - b.toInt) (alu .sub a b)
  blt : ((alu .sub a b).negative ^^ (alu .sub a b).overflow) = bc .blt a b
  beq : (alu .sub a b).zero = bc .beq a b

/-- **Arithmetic and flags are exact**, for all operands. -/
theorem flagsAreExact (a b : Data) : FlagsAreExact a b where
  add := exact_add a b
  sub := exact_sub a b
  blt := by
    rw [Bool.eq_iff_iff, (exact_sub a b).sign]
    show _ ↔ a.slt b = true
    rw [BitVec.slt, decide_eq_true_iff]
    omega
  beq := by
    rw [Bool.eq_iff_iff]
    show (a - b == 0#32) = true ↔ (a == b) = true
    rw [beq_iff_eq, beq_iff_eq]
    exact sub_eq_zero

/-! ### Forwarding -/

/-- The registers `R` after the pending writes: first the one in WB, then the one in MEM, as
the register file makes them. -/
def afterPending (R : RegFile) (i : ExIn) : RegFile :=
  rfNext true i.rdAddrMem i.aluResultMem i.regWeMem
    (rfNext true i.rdAddrWb i.wbData i.regWeWb R)

/-- The outputs of `ex_stage` with its units working on `x` and `y`. -/
def onOperands (i : ExIn) (x y : Data) : ExOut where
  aluResult := (alu i.aluCtrl x y).result
  bcTaken := bc i.bcCtrl x y
  targetAddr := agu i.pc i.imm x i.jalrSel
  aluZero := (alu i.aluCtrl x y).zero
  aluNegative := (alu i.aluCtrl x y).negative
  aluOverflow := (alu i.aluCtrl x y).overflow

/-- A register after an enabled write. -/
theorem rfNext_apply (d : Address) (v : Data) (we : Bool) (R : RegFile) (a : Address) :
    rfNext true d v we R a = if we = true ∧ d ≠ regZero ∧ d = a then v else R a := by
  unfold rfNext
  by_cases hw : we = true ∧ d ≠ 0#5
  · by_cases hd : d = a
    · subst hd
      simp [hw]
    · simp [hw, hd, Function.update_of_ne (Ne.symm hd)]
  · have hn : ¬ (we = true ∧ d ≠ regZero ∧ d = a) := fun h => hw ⟨h.1, h.2.1⟩
    simp only [if_neg hw, if_neg hn, Bool.true_eq_false, if_false]

/-- **The operand mux reads after the pending writes.** -/
theorem mux_eq_afterPending (R : RegFile) (i : ExIn) (a : Address) :
    computeMuxFwdCtrl (computeFwdCtrl a i.rdAddrMem i.regWeMem i.rdAddrWb i.regWeWb)
      i.aluResultMem i.wbData (R a) = afterPending R i a := by
  rw [afterPending, rfNext_apply, rfNext_apply, computeFwdCtrl]
  split_ifs <;> rfl

/-- **Forwarding equals reading after the pending writes**: on operands read from `R`, all
units of the stage work on what is read from `R` after the writes in WB and in MEM. -/
theorem exStage_afterPending (R : RegFile) (i : ExIn) :
    exStage { i with opA := R i.opAAddr, opB := R i.opBAddr } =
      onOperands i (afterPending R i i.opAAddr) (afterPending R i i.opBAddr) := by
  rw [← mux_eq_afterPending, ← mux_eq_afterPending]
  rfl

end RiscvCore.Units
