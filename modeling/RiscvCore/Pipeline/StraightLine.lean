import RiscvCore.Pipeline.Datapath
import RiscvCore.Pipeline.Forwarding
import RiscvCore.Pipeline.Sequential

/-!
# Straight-line programs without hazards

A program of computing instructions in which no instruction names, in a raw source
field, a register written by one of the three before it, followed by NOPs. The core
needs neither forwarding nor stalls for it, and `straightLine_refines` says that it
computes what the sequential machine of the instruction set computes: four cycles after
an instruction is fetched the register file has its result.

The proof runs the datapath without a pipeline (`retired`): the register file after each
instruction, computed with the operands of its own turn. In cycle `t` the core's
register file is the one before instruction `t` of the stream `flow`, which begins with
the bubbles of an empty pipeline, and WB, MEM, EX and ID hold what instructions `t` to
`t + 3` of it make of the register files before them (`Staged`).
-/

namespace RiscvCore.Pipeline

open Rtl

/-! ### The datapath without a pipeline -/

/-- The instructions passing through WB: three bubbles, then what passes through ID. -/
def flow (M : Data → Data) : ℕ → PrIfId
  | 0 | 1 | 2 => .bubble
  | k + 3 => slot M k

/-- The register file after the instruction `x` has written its result. -/
def retire (rf : RegFile) (x : PrIfId) : RegFile :=
  if (issue rf x).regWriteEn = true ∧ rdField x.instr ≠ 0#5 then
    Function.update rf (rdField x.instr) (value rf x)
  else rf

/-- The register file before instruction `k` of the stream. -/
def retired (M : Data → Data) : ℕ → RegFile
  | 0 => fun _ => 0#32
  | k + 1 => retire (retired M k) (flow M k)

/-- The word `w` writes no register that `v` names in a raw source field, `x0` apart. -/
def NoHazard (w v : Data) : Prop :=
  rdField w ≠ 0#5 → rs1Field v ≠ rdField w ∧ rs2Field v ≠ rdField w

instance (w v : Data) : Decidable (NoHazard w v) := by unfold NoHazard; infer_instance

section Retire

variable {rf rf' : RegFile} {x y : PrIfId}

theorem retire_of_ne {a : Address} (h : a ≠ rdField x.instr ∨ rdField x.instr = 0#5) :
    retire rf x a = rf a := by
  unfold retire
  split_ifs with hw
  · exact Function.update_of_ne (h.resolve_right hw.2) _ _
  · rfl

/-- Register files that agree on the source fields issue the same. -/
theorem issue_congr (h1 : rfRead rf (rs1Field x.instr) = rfRead rf' (rs1Field x.instr))
    (h2 : rfRead rf (rs2Field x.instr) = rfRead rf' (rs2Field x.instr)) :
    issue rf x = issue rf' x := by
  simp [issue, h1, h2]

/-- An instruction without a hazard issues the same before and after another retires. -/
theorem issue_retire (h : NoHazard y.instr x.instr) : issue (retire rf y) x = issue rf x := by
  have hread : ∀ a, (rdField y.instr ≠ 0#5 → a ≠ rdField y.instr) →
      rfRead (retire rf y) a = rfRead rf a := by
    intro a ha
    unfold rfRead
    split_ifs
    · rfl
    · by_cases h0 : rdField y.instr = 0#5
      · exact retire_of_ne (.inr h0)
      · exact retire_of_ne (.inl (ha h0))
  exact issue_congr (hread _ fun h0 => (h h0).1) (hread _ fun h0 => (h h0).2)

theorem noHazard_bubble (v : Data) : NoHazard 0#32 v := fun h => absurd (by decide) h

theorem retire_bubble (rf : RegFile) : retire rf .bubble = rf := by
  funext a
  exact retire_of_ne (.inr (by decide))

/-- The register file of the empty pipeline. -/
theorem retired_of_le {M : Data → Data} {k : ℕ} (h : k ≤ 4) : retired M k = fun _ => 0#32 := by
  match k, h with
  | 0, _ => rfl
  | 1, _ | 2, _ | 3, _ | 4, _ => simp [retired, flow, slot, retire_bubble]

end Retire

/-! ### The pipeline -/

/-- Cycle `t` of a hazard-free run: what each stage holds. -/
structure Staged (M : Data → Data) (r : Run) (t : ℕ) : Prop where
  seq : Sequential M r t
  idEx : (r.st t).idEx = issue (retired M (t + 2)) (flow M (t + 2))
  memAlu : (r.st t).exMem.aluResult = value (retired M (t + 1)) (flow M (t + 1))
  memRd : (r.st t).exMem.rdAddr = rdField (flow M (t + 1)).instr
  memWe : (r.st t).exMem.regWriteEn = (cuOf (flow M (t + 1)).instr).regWe
  wbAlu : (r.st t).memWb.aluResult = value (retired M t) (flow M t)
  wbRd : (r.st t).memWb.rdAddr = rdField (flow M t).instr
  wbWe : (r.st t).memWb.regWriteEn = (cuOf (flow M t).instr).regWe
  rf : (r.st t).rf = retired M t

namespace Staged

variable {M : Data → Data} {r : Run} {t : ℕ}

/-- The empty pipeline holds bubbles. -/
theorem zero : Staged M r 0 := by
  have h2 : retired M 2 = fun _ => 0#32 := retired_of_le (by decide)
  have h1 : retired M 1 = fun _ => 0#32 := retired_of_le (by decide)
  refine ⟨.zero, ?_, ?_, ?_, ?_, ?_, ?_, ?_, rfl⟩
  · show PrIdEx.bubble = issue (retired M 2) .bubble
    rw [h2]; decide
  · show (0#32 : Data) = value (retired M 1) .bubble
    rw [h1]; decide
  · show (0#5 : Address) = rdField 0#32
    decide
  · show false = (cuOf 0#32).regWe
    decide
  · show (0#32 : Data) = value (fun _ => 0#32) .bubble
    decide
  · show (0#5 : Address) = rdField 0#32
    decide
  · show false = (cuOf 0#32).regWe
    decide

/-- A register that is the destination neither in MEM nor in WB is not pending. -/
theorem not_pending_of_ne (h : Staged M r t) {a : Address}
    (h1 : rdField (flow M (t + 1)).instr ≠ 0#5 → a ≠ rdField (flow M (t + 1)).instr)
    (h0 : rdField (flow M t).instr ≠ 0#5 → a ≠ rdField (flow M t).instr) :
    ¬ Pending (r.st t) a := by
  rintro ⟨ha, ⟨-, hm⟩ | ⟨-, hw⟩⟩
  · have hrd := hm.symm.trans h.memRd
    exact h1 (fun hz => ha (hrd.trans hz)) hrd
  · have hrd := hw.symm.trans h.wbRd
    exact h0 (fun hz => ha (hrd.trans hz)) hrd

/-- What ID names is in flight neither in MEM nor in WB, so nothing is forwarded. -/
theorem not_pending (h : Staged M r t)
    (h1 : NoHazard (flow M (t + 1)).instr (flow M (t + 3)).instr)
    (h0 : NoHazard (flow M t).instr (flow M (t + 3)).instr) :
    ¬ Pending (r.st t) (rs1Field (r.st t).ifId.instr) ∧
      ¬ Pending (r.st t) (rs2Field (r.st t).ifId.instr) := by
  rw [h.seq.ifId]
  constructor
  · exact h.not_pending_of_ne (fun hd => (h1 hd).1) (fun hd => (h0 hd).1)
  · exact h.not_pending_of_ne (fun hd => (h1 hd).2) (fun hd => (h0 hd).2)

/-- **A cycle without hazards keeps the stages in step.** -/
theorem succ (hx : r.Executes M) (h : Staged M r t) (hm : (r.st t).exMispredict = false)
    (hs : (r.st t).hduStall = false)
    (h2 : NoHazard (flow M (t + 2)).instr (flow M (t + 3)).instr)
    (h1 : NoHazard (flow M (t + 1)).instr (flow M (t + 3)).instr)
    (h0 : NoHazard (flow M t).instr (flow M (t + 3)).instr) : Staged M r (t + 1) := by
  obtain ⟨hp1, hp2⟩ := h.not_pending h1 h0
  have hr := (hx t).1
  refine ⟨h.seq.succ hx hm hs, ?_, ?_, ?_, ?_, ?_, ?_, ?_, ?_⟩
  · -- the operands read now are those of the instruction's own turn
    rw [Run.idEx_load hr hm, idExIn_eq_issue, h.rf, h.seq.ifId]
    show issue (retired M t) (flow M (t + 3)) = issue (retired M (t + 3)) (flow M (t + 3))
    rw [retired, issue_retire h2, retired, issue_retire h1, retired, issue_retire h0]
  · rw [Run.exMem_load hr]
    show (r.st t).ex.aluResult = _
    rw [Core.ex_aluResult, Core.exIn_opAFwd, Core.exIn_opBFwd, forward_of_not_pending hp1,
      forward_of_not_pending hp2, h.idEx]
    rfl
  · rw [Run.exMem_load hr]
    exact congrArg PrIdEx.rdAddr h.idEx
  · rw [Run.exMem_load hr]
    exact congrArg PrIdEx.regWriteEn h.idEx
  · rw [Run.memWb_load hr]
    exact h.memAlu
  · rw [Run.memWb_load hr]
    exact h.memRd
  · rw [Run.memWb_load hr]
    exact h.memWe
  · rw [Run.st_succ, Core.next_rf _ hr, h.wbAlu, h.wbRd, h.wbWe, h.rf]
    rfl

end Staged

/-! ### Programs -/

/-- A program of computing instructions. -/
def StraightLine (p : List Data) : Prop := ∀ w ∈ p, ∃ i, Rv32i.decode w = some i ∧ Computes i

/-- No instruction names, in a raw source field, the destination of one of the three
before it, `x0` apart. -/
def HazardFree (p : List Data) : Prop :=
  ∀ i < p.length, ∀ j < i, i ≤ j + 3 → NoHazard (p.getD j instrNop) (p.getD i instrNop)

instance (p : List Data) : Decidable (HazardFree p) := by unfold HazardFree; infer_instance

section Program

variable {p : List Data}

theorem decode_instrNop : Rv32i.decode instrNop = some (.opImm .add 0#5 0#5 0#32) := by decide

/-- Every word of the image computes. -/
theorem computes_image (hp : StraightLine p) (a : Data) :
    ∃ i, Rv32i.decode (image p a) = some i ∧ Computes i := by
  rcases image_mem_or p a with h | h
  · exact hp _ h
  · rw [h]
    exact ⟨_, decode_instrNop, by decide, by decide⟩

theorem not_isControl_of_computes {w : Data} {i : Rv32i.Instr} (hi : Rv32i.decode w = some i)
    (hc : Computes i) : ¬ IsControl w := by
  have hop := opcodeField_of_computes (x := ⟨0#32, w⟩) hi hc
  unfold IsControl
  rcases hop with h | h | h | h <;> simp [h]

theorem not_loadUse_of_computes {w v : Data} {i : Rv32i.Instr} (hi : Rv32i.decode w = some i)
    (hc : Computes i) : ¬ LoadUse w v := by
  have hop := opcodeField_of_computes (x := ⟨0#32, w⟩) hi hc
  rintro ⟨hl, -⟩
  rcases hop with h | h | h | h <;> simp [h] at hl

/-- The words of the image are those of the program, then NOPs. -/
theorem word_image {k : ℕ} (hk : k < 2 ^ 30) : word (image p) k = p.getD k instrNop := by
  have h : (BitVec.ofNat 32 (4 * k)).toNat / 4 = k := by
    rw [BitVec.toNat_ofNat, Nat.mod_eq_of_lt (by omega)]
    omega
  rw [word, image, h]

/-- A NOP names no register but `x0`. -/
theorem noHazard_instrNop (w : Data) : NoHazard w instrNop := by
  intro h
  rw [show rs1Field instrNop = 0#5 by decide, show rs2Field instrNop = 0#5 by decide]
  exact ⟨h.symm, h.symm⟩

/-- Instructions of the stream at most three apart have no hazard. -/
theorem noHazard_flow (hz : HazardFree p) {k d : ℕ} (hd : 0 < d) (hd3 : d ≤ 3)
    (hk : k + d < 2 ^ 30) : NoHazard (flow (image p) k).instr (flow (image p) (k + d)).instr := by
  rcases k with _ | _ | _ | _ | k
  · exact noHazard_bubble _
  · exact noHazard_bubble _
  · exact noHazard_bubble _
  · exact noHazard_bubble _
  · have hkd : (flow (image p) (k + 4 + d)).instr = p.getD (k + d) instrNop := by
      rw [show k + 4 + d = (k + d) + 1 + 3 by omega]
      exact word_image (by omega)
    have hk0 : (flow (image p) (k + 4)).instr = p.getD k instrNop := word_image (by omega)
    rw [hkd, hk0]
    by_cases hlt : k + d < p.length
    · exact hz (k + d) hlt k (by omega) (by omega)
    · rw [List.getD_eq_default _ _ (Nat.le_of_not_lt hlt)]
      exact noHazard_instrNop _

variable {imem : Imem} {D : ℕ → Data}

/-- The stages stay in step throughout a straight-line program without hazards. -/
theorem staged_image (hp : StraightLine p) (hz : HazardFree p) {t : ℕ} (ht : t + 3 < 2 ^ 30) :
    Staged (image p) (.program imem (image p) D) t := by
  have hx := Run.executes_program imem (image p) D
  induction t with
  | zero => exact .zero
  | succ t ih =>
    have h := ih (by omega)
    have hcf : ControlFree (image p) := fun i =>
      have ⟨_, hi, hc⟩ := computes_image hp (BitVec.ofNat 32 (4 * i))
      not_isControl_of_computes hi hc
    have hm := h.seq.not_exMispredict (not_isControl_slot hcf t)
    have hs : ((Run.program imem (image p) D).st t).hduStall = false := by
      rw [← Bool.not_eq_true, h.seq.hduStall_iff]
      exact not_loadUse_slot fun i _ =>
        have ⟨_, hi, hc⟩ := computes_image hp (BitVec.ofNat 32 (4 * i))
        not_loadUse_of_computes hi hc
    exact h.succ hx hm hs (noHazard_flow (d := 1) hz (by omega) (by omega) (by omega))
      (noHazard_flow (d := 2) hz (by omega) (by omega) (by omega))
      (noHazard_flow (d := 3) hz (by omega) (by omega) (by omega))

/-! ### The sequential machine -/

/-- A register file holds a register state. -/
def Holds (rf : RegFile) (R : Rv32i.Regs) : Prop := ∀ a, rf a = R.get a

theorem Holds.rfRead {rf : RegFile} {R : Rv32i.Regs} (h : Holds rf R) (a : Address) :
    rfRead rf a = R.get a := by
  unfold Rtl.rfRead
  split_ifs with h0
  · rw [h0, R.get_zero]
  · exact h a

/-- Retiring a computing instruction is one step of the instruction set. -/
theorem Holds.retire {rf : RegFile} {R : Rv32i.Regs} (h : Holds rf R) {x : PrIfId}
    {i : Rv32i.Instr} (hi : Rv32i.decode x.instr = some i) (hc : Computes i)
    (ld : Rv32i.LoadOp → Data → Data) : Holds (retire rf x) (i.retire ld x.pc R) := by
  obtain ⟨hres, hwe⟩ := result_of_computes h.rfRead hi hc ld
  intro a
  rw [Rv32i.Instr.retire, hres]
  show _ = (R.set (rdField x.instr) (value rf x)).get a
  by_cases h0 : rdField x.instr = 0#5
  · rw [retire_of_ne (.inr h0), h0, Rv32i.Regs.get_set_zero]
    exact h a
  by_cases ha : a = rdField x.instr
  · subst ha
    rw [Pipeline.retire, if_pos ⟨hwe, h0⟩, Function.update_self, Rv32i.Regs.get_set_self h0]
  · rw [retire_of_ne (.inl ha), Rv32i.Regs.get_set_of_ne ha]
    exact h a

theorem nextPc_of_computes {i : Rv32i.Instr} (hc : Computes i) (pc : Data) (R : Rv32i.Regs) :
    i.nextPc pc R = pc + 4#32 := by
  cases i with
  | branch _ _ _ _ | jal _ _ | jalr _ _ _ => exact hc.elim
  | _ => rfl

/-- The sequential machine has, after `k` instructions, the register file that the
datapath without a pipeline has. -/
theorem steps_image (hp : StraightLine p) (ld : Rv32i.LoadOp → Data → Data) (k : ℕ) :
    ∃ R, Rv32i.steps (image p) ld k .init = some ⟨BitVec.ofNat 32 (4 * k), R⟩ ∧
      Holds (retired (image p) (k + 4)) R := by
  induction k with
  | zero => exact ⟨.zero, rfl, fun a => by rw [retired_of_le le_rfl]; rfl⟩
  | succ k ih =>
    obtain ⟨R, hR, hh⟩ := ih
    obtain ⟨i, hi, hc⟩ := computes_image hp (BitVec.ofNat 32 (4 * k))
    refine ⟨i.retire ld (BitVec.ofNat 32 (4 * k)) R, ?_,
      hh.retire (x := slot (image p) (k + 1)) hi hc ld⟩
    rw [Rv32i.steps, hR, Option.bind_some, Rv32i.step, hi, Option.map_some,
      nextPc_of_computes hc, ← BitVec.ofNat_add]
    rfl

end Program

/-- **Straight-line refinement**: `p.length + 4` edges after reset the register file is the
register state of executing the program sequentially. -/
theorem straightLine_refines (imem : Imem) (p : List Data) (D : ℕ → Data)
    (ld : Rv32i.LoadOp → Data → Data) (hn : p.length ≤ 2 ^ 29) (hp : StraightLine p)
    (hz : HazardFree p) :
    ∃ s, Rv32i.steps (image p) ld p.length .init = some s ∧
      ∀ a, ((Run.program imem (image p) D).st (p.length + 4)).rf a = s.regs.get a := by
  obtain ⟨R, hR, hh⟩ := steps_image hp ld p.length
  refine ⟨_, hR, fun a => ?_⟩
  rw [(staged_image hp hz (by omega)).rf]
  exact hh a

/-- `lui x1, 10; addi x2, x0, 5; auipc x3, 0; nop; nop; sub x4, x1, x2`. -/
def spaced : List Data :=
  [0x0000A0B7#32, 0x00500113#32, 0x00000197#32, instrNop, instrNop, 0x40208233#32]

/-- The difference is in `x4` ten edges after reset. -/
theorem straightLine_refines_spaced :
    ∃ s, Rv32i.steps (image spaced) (fun _ _ => 0#32) 6 .init = some s ∧
      ∀ a, ((Run.ofWords spaced).st 10).rf a = s.regs.get a := by
  refine straightLine_refines _ spaced _ _ (by decide) ?_ (by decide)
  simp only [StraightLine, spaced, List.forall_mem_cons, List.not_mem_nil, false_imp_iff,
    implies_true, and_true]
  exact ⟨⟨.lui 1#5 0xA000#32, by decide, trivial⟩,
    ⟨.opImm .add 2#5 0#5 5#32, by decide, by decide, by decide⟩,
    ⟨.auipc 3#5 0#32, by decide, trivial⟩,
    ⟨_, decode_instrNop, by decide, by decide⟩, ⟨_, decode_instrNop, by decide, by decide⟩,
    ⟨.op .sub 4#5 1#5 2#5, by decide, by decide, by decide⟩⟩

end RiscvCore.Pipeline
