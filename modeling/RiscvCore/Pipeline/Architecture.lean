import RiscvCore.Pipeline.InOrderRefinement

/-!
# Programs with loops

When the in-order machine of the core does what the instruction set says. The set-less-thans,
linking jumps and loads of anything but the loaded address are out of its reach. A jump or
branch works if the instruction before it is its *front*: one whose address and second
operand sum up to the target, and, for a branch, whose operands are equal exactly if the
branch is to be taken. `Obeys` is this contract for one instruction, and `steps_before` the run.

With the timing contract of `InOrder` the two levels compose: `executes_rv32i` says that the
core runs such a program, loops, forwarded results, branches and jumps included, as the
instruction set prescribes.
-/

namespace RiscvCore.Pipeline

open Rtl InOrder RiscvCore.Units

/-! ### Registers -/

section Retire

variable {rf : RegFile} {R : Rv32i.Regs} {x : PrIfId} {i : Rv32i.Instr}
  {ld : Rv32i.LoadOp → Data → Data}

/-- An instruction whose result the datapath computes. -/
theorem Holds.retire_of_result (h : Holds rf R)
    (hres : i.result ld x.pc R = some (rdField x.instr, value rf x))
    (hwe : (cuOf x.instr).regWe = true) : Holds (Pipeline.retire rf x) (i.retire ld x.pc R) := by
  intro a
  rw [retire_apply, Rv32i.Instr.retire, hres]
  show _ = (R.set (rdField x.instr) (value rf x)).get a
  by_cases h0 : rdField x.instr = 0#5
  · rw [if_neg fun hw => hw.2.2 (hw.2.1.symm.trans h0), h0, Rv32i.Regs.get_set_zero, h]
  by_cases ha : a = rdField x.instr
  · subst ha
    rw [if_pos ⟨hwe, rfl, h0⟩, Rv32i.Regs.get_set_self h0]
  · rw [if_neg fun hw => ha hw.2.1.symm, Rv32i.Regs.get_set_of_ne ha, h]

/-- An instruction that writes nothing. -/
theorem Holds.retire_of_silent (h : Holds rf R) (hs : ∀ a, ¬ Writes x.instr a)
    (hd : ∀ d, i.dest = some d → d = 0#5) :
    Holds (Pipeline.retire rf x) (i.retire ld x.pc R) := by
  intro a
  rw [retire_apply, if_neg (hs a), Rv32i.Instr.retire_eq_self hd, h]

end Retire

/-! ### The contract -/

section Contract

variable (M : Data → Data) (ld : Rv32i.LoadOp → Data → Data) (s : InOrder)

/-- What the instruction set asks of the machine for the next instruction, `i`. -/
def Obeys : Rv32i.Instr → Prop
  | .op o _ _ _ => o ≠ .slt ∧ o ≠ .sltu
  | .opImm o _ _ _ => o ≠ .slt ∧ o ≠ .sltu
  | .lui _ _ => True
  | .auipc _ _ => True
  -- a load writes back its address
  | .load o d a imm => d = 0#5 ∨ ld o (rfRead s.regs a + imm) = rfRead s.regs a + imm
  | .store _ _ _ _ => True
  | .branch o a b imm =>
      if o.Holds (rfRead s.regs a) (rfRead s.regs b) then
        s.front.regData1 = s.front.regData2 ∧ s.target = s.pc + imm
      else s.front.regData1 ≠ s.front.regData2 ∧ btbHit s.btb s.pc = false
  | .jal d imm => d = 0#5 ∧ s.target = s.pc + imm
  | .jalr d a imm => d = 0#5 ∧ s.target = Rv32i.evenPart (rfRead s.regs a + imm)

instance (i : Rv32i.Instr) : Decidable (Obeys ld s i) := by
  cases i <;> unfold Obeys <;> infer_instance

/-- **The functional contract** for the next instruction: it is one, the machine obeys it, and it
is not behind a load of one of its registers. -/
def Conforms : Prop :=
  (∃ i ∈ Rv32i.decode (M s.pc), Obeys ld s i) ∧ ¬ LoadUse s.last.instr (M s.pc)

instance : Decidable (Conforms M ld s) := by unfold Conforms; infer_instance

end Contract

/-! ### One instruction -/

/-- What the machine keeps: `x0` is zero, and the buffer holds control-flow instructions. -/
structure Sane (M : Data → Data) (s : InOrder) : Prop where
  zero : s.prior 0#5 = 0#32
  btb : ∀ j, (s.btb j).valid = true → IsControl (M (s.btb j).tag)

namespace Sane

variable {M : Data → Data} {s : InOrder}

theorem init : Sane M .init where
  zero := rfl
  btb j h := by simp [InOrder.init, btbReset] at h

theorem regs_zero (h : Sane M s) : s.regs 0#5 = 0#32 := by
  rw [InOrder.regs, retire_apply, if_neg fun hw => hw.2.2 rfl, h.zero]

theorem step (h : Sane M s) : Sane M (InOrder.step M s) := by
  rw [InOrder.step]
  split_ifs with hm
  · refine ⟨h.regs_zero, fun j hj => ?_⟩
    simp only [redirect] at hj ⊢
    by_cases he : j = btbIdx 4 s.pc
    · subst he
      rw [Function.update_self]
      exact hm.isControl
    · rw [Function.update_of_ne he] at hj ⊢
      exact h.btb j hj
  · exact ⟨h.regs_zero, h.btb⟩

theorem before (M : Data → Data) (n : ℕ) : Sane M (before M n) :=
  Timed.state_of_invariant (m := machine M) init (fun _ h => h.step) n

/-- Nothing else is predicted. -/
theorem nextFetch_eq (h : Sane M s) (hc : ¬ IsControl (M s.pc)) :
    nextFetch s.btb s.pc = s.pc + 4#32 := by
  refine if_neg fun hit => hc ?_
  have htag : (s.btb (btbIdx 4 s.pc)).valid = true ∧ (s.btb (btbIdx 4 s.pc)).tag = s.pc := by
    simpa [btbHit] using hit
  have hctl := h.btb _ htag.1
  rwa [htag.2] at hctl

end Sane

section Step

variable {M : Data → Data} {ld : Rv32i.LoadOp → Data → Data} {s : InOrder} {R : Rv32i.Regs}
  {i : Rv32i.Instr}

/-- After an instruction that does not redirect. -/
theorem step_of_advance (hm : ¬ s.Redirects (M s.pc)) (hlu : ¬ LoadUse s.last.instr (M s.pc)) :
    (step M s).pc = nextFetch s.btb s.pc ∧ (step M s).regs = retire s.regs ⟨s.pc, M s.pc⟩ := by
  rw [step, if_neg hm]
  exact ⟨if_neg hlu, rfl⟩

/-- After one that does. -/
theorem step_of_redirects (hm : s.Redirects (M s.pc)) :
    (step M s).pc = s.target ∧ (step M s).regs = s.regs := by
  rw [step, if_pos hm]
  exact ⟨rfl, retire_bubble _⟩

/-- An instruction other than a jump or branch, whose registers come out right. -/
theorem step_of_not_isControl (hs : Sane M s) (hc : ¬ IsControl (M s.pc))
    (hlu : ¬ LoadUse s.last.instr (M s.pc)) (hpc : i.nextPc s.pc R = s.pc + 4#32)
    (hr : Holds (retire s.regs ⟨s.pc, M s.pc⟩) (i.retire ld s.pc R)) :
    (step M s).pc = i.nextPc s.pc R ∧ Holds (step M s).regs (i.retire ld s.pc R) := by
  obtain ⟨h1, h2⟩ := step_of_advance (fun hm => hc hm.isControl) hlu
  rw [h1, h2, hpc, hs.nextFetch_eq hc]
  exact ⟨rfl, hr⟩

/-- A redirect to the right place by an instruction that writes nothing. -/
theorem step_of_goal (hm : s.Redirects (M s.pc)) (hh : Holds s.regs R)
    (ht : s.target = i.nextPc s.pc R) (hd : ∀ d, i.dest = some d → d = 0#5) :
    (step M s).pc = i.nextPc s.pc R ∧ Holds (step M s).regs (i.retire ld s.pc R) := by
  obtain ⟨h1, h2⟩ := step_of_redirects hm
  rw [h1, h2, Rv32i.Instr.retire_eq_self hd]
  exact ⟨ht, hh⟩

/-- **One instruction of the machine is one of the instruction set.** -/
theorem step_of_obeys (hs : Sane M s) (hh : Holds s.regs R)
    (hi : Rv32i.decode (M s.pc) = some i) (ho : Obeys ld s i)
    (hlu : ¬ LoadUse s.last.instr (M s.pc)) :
    (step M s).pc = i.nextPc s.pc R ∧ Holds (step M s).regs (i.retire ld s.pc R) := by
  by_cases hc : Computes i
  · obtain ⟨hres, hwe⟩ := result_of_computes (x := ⟨s.pc, M s.pc⟩) hh.rfRead hi hc ld
    exact step_of_not_isControl hs (not_isControl_of_computes hi hc) hlu
      (nextPc_of_computes hc _ _) (hh.retire_of_result hres hwe)
  cases i with
  | op _ _ _ _ | opImm _ _ _ _ | lui _ _ | auipc _ _ => exact (hc ho).elim
  | load o d a imm =>
    have hop := (opcodeField_eq_some_iff _ .load).mpr (Rv32i.encodes_of_decode hi).1
    refine step_of_not_isControl hs (by simp [IsControl, hop]) hlu rfl ?_
    obtain ⟨halu, h1, h2, hd, hwe⟩ := issue_of_load s.regs (x := ⟨s.pc, M s.pc⟩) hi
    obtain rfl | haddr := ho
    · refine hh.retire_of_silent (fun b hb => hb.2.2 (hb.2.1.symm.trans hd)) ?_
      rintro d ⟨⟩
      rfl
    · refine hh.retire_of_result ?_ hwe
      rw [value, halu, h1, h2, ← hd, Rv32i.Instr.result, Rv32i.effAddr, ← hh.rfRead, haddr]
      rfl
  | store o a b imm =>
    have hop := (opcodeField_eq_some_iff _ .store).mpr (Rv32i.encodes_of_decode hi).1
    refine step_of_not_isControl hs (by simp [IsControl, hop]) hlu rfl ?_
    refine hh.retire_of_silent (fun b hb => ?_) fun d hd => by cases hd
    have hwe := hb.1
    rw [cuOf, hop] at hwe
    exact Bool.false_ne_true hwe
  | branch o a b imm =>
    have hop := (opcodeField_eq_some_iff _ .branch).mpr (Rv32i.encodes_of_decode hi).1
    have hnext : (Rv32i.Instr.branch o a b imm).nextPc s.pc R =
        if o.Holds (rfRead s.regs a) (rfRead s.regs b) then s.pc + imm else s.pc + 4#32 := by
      rw [Rv32i.Instr.nextPc, hh.rfRead, hh.rfRead]
    simp only [Obeys] at ho
    split_ifs at ho hnext with htaken
    · exact step_of_goal (.inl ⟨hop, ho.1⟩) hh (ho.2.trans hnext.symm) fun d hd => by cases hd
    · -- falls through, and was not predicted
      have hm : ¬ s.Redirects (M s.pc) := by
        rintro (⟨-, heq⟩ | hj)
        · exact ho.1 heq
        · simp [hop] at hj
      have hwe : (cuOf (M s.pc)).regWe = false := by
        rw [cuOf, hop]
        rfl
      obtain ⟨h1, h2⟩ := step_of_advance hm hlu
      rw [h1, h2, hnext, nextFetch, if_neg (by simp [ho.2])]
      refine ⟨rfl, hh.retire_of_silent (fun c hc => ?_) fun d hd => by cases hd⟩
      exact Bool.false_ne_true (hwe.symm.trans hc.1)
  | jal d imm =>
    have hop := (opcodeField_eq_some_iff _ .jal).mpr (Rv32i.encodes_of_decode hi).1
    obtain ⟨rfl, ht⟩ := ho
    exact step_of_goal (.inr (.inl hop)) hh ht fun d hd => (Option.some.inj hd).symm
  | jalr d a imm =>
    have hop := (opcodeField_eq_some_iff _ .jalr).mpr (Rv32i.encodes_of_decode hi).1
    obtain ⟨rfl, ht⟩ := ho
    rw [hh.rfRead] at ht
    exact step_of_goal (.inr (.inr hop)) hh ht fun d hd => (Option.some.inj hd).symm

end Step

/-! ### The run -/

/-- The in-order machine runs a conforming program as the instruction set does. -/
theorem steps_before {M : Data → Data} {ld : Rv32i.LoadOp → Data → Data} {n : ℕ}
    (h : ∀ k < n, Conforms M ld (before M k)) :
    ∃ R, Rv32i.steps M ld n .init = some ⟨(before M n).pc, R⟩ ∧ Holds (before M n).regs R := by
  induction n with
  | zero =>
    refine ⟨.zero, rfl, fun a => ?_⟩
    show retire (fun _ => 0#32) .bubble a = 0#32
    rw [retire_bubble]
  | succ n ih =>
    obtain ⟨R, hR, hh⟩ := ih fun k hk => h k (Nat.lt_succ_of_lt hk)
    obtain ⟨⟨i, hi, ho⟩, hlu⟩ := h n (Nat.lt_succ_self n)
    obtain ⟨hpc, hregs⟩ := step_of_obeys (.before M n) hh hi ho hlu
    refine ⟨i.retire ld (before M n).pc R, ?_, hregs⟩
    rw [Rv32i.steps, hR, Option.bind_some, Rv32i.step, Option.mem_def.mp hi, Option.map_some, ← hpc]
    rfl

/-- **The core executes RV32I**, as far as the program keeps to the timing contract and to the
functional one: instruction `n` of the instruction set's run is decoded in its turn, and three
cycles later the register file holds the registers it finds. -/
theorem executes_rv32i (imem : Imem) (M : Data → Data) (D : ℕ → Data)
    (ld : Rv32i.LoadOp → Data → Data) (n : ℕ)
    (ht : ∀ k ≤ n, (before M k).Timely (M (before M k).pc))
    (hc : ∀ k < n, Conforms M ld (before M k)) :
    ∃ s, Rv32i.steps M ld n .init = some s ∧
      ((Run.program imem M D).st (turn M n)).ifId = ⟨s.pc, M s.pc⟩ ∧
      ∀ a, ((Run.program imem M D).st (turn M n + 3)).rf a = s.regs.get a := by
  obtain ⟨R, hR, hh⟩ := steps_before hc
  have hd := (decoding_turn imem D (n := n) fun k hk => ht k (Nat.le_of_lt hk)).1
  refine ⟨_, hR, hd.ifId, fun a => ?_⟩
  rw [rf_turn_add_three ht]
  exact hh a

theorem executes_rv32i_countTo16 :
    ∃ s, Rv32i.steps (image countTo16) (fun _ _ => 0#32) 21 .init = some s ∧
      ((Run.ofWords countTo16).st (turn (image countTo16) 21)).ifId =
        ⟨s.pc, image countTo16 s.pc⟩ ∧
      ∀ a, ((Run.ofWords countTo16).st (turn (image countTo16) 21 + 3)).rf a = s.regs.get a :=
  executes_rv32i _ _ _ _ 21 (by decide +kernel) (by decide +kernel)

end RiscvCore.Pipeline
