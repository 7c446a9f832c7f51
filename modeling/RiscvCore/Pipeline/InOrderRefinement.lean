import RiscvCore.Pipeline.InOrder
import RiscvCore.Pipeline.LiveResults

/-!
# The pipeline refines the in-order machine

The core in the cycle in which an instruction is in ID, against the machine about to execute
it (`InTurn`): EX holds the last instruction with the operands it was issued with, and
the register file with the live results of WB and MEM is the registers before that one.
After a redirect the core is for a cycle between two instructions (`Between`).

The step lemmas are `InTurn.next_of_redirects`, `Between.next` and `InTurn.next_of_advance`;
`followsInOrder` is the run.
-/

namespace RiscvCore.Pipeline

open Rtl InOrder

/-! ### An edge of the core -/

instance (c : Core) (a : Address) : Decidable (ExWrites c a) := by unfold ExWrites; infer_instance

section Edge

variable {c : Core} {imem : Imem} {i : CoreIn} {a : Address}

/-- A pending register is forwarded whatever was latched. -/
theorem forward_congr_of_pending (h : Pending c a) (v v' : Data) :
    c.forward a v = c.forward a v' := by
  obtain ⟨h0, hw⟩ := h
  by_cases hm : MemWrites c a
  · rw [forward_of_memWrites h0 hm, forward_of_memWrites h0 hm]
  · have hwb := hw.resolve_left hm
    rw [forward_of_wbWrites h0 hwb hm, forward_of_wbWrites h0 hwb hm]

theorem liveWb_next (hr : i.rstN = true) (a : Address) : liveWb (c.next imem i) a = liveMem c a := by
  simp only [liveWb, liveMem, WbWrites, MemWrites, Core.next_memWb _ hr]
  rfl

theorem next_rf_of_not_wbWrites (hr : i.rstN = true) (hw : ¬ (a ≠ 0#5 ∧ WbWrites c a)) :
    (c.next imem i).rf a = c.rf a := by
  rw [next_rf_eq_live _ hr]
  show (liveWb c a).getD (c.rf a) = c.rf a
  rw [liveWb, if_neg hw]
  rfl

/-- The register file with the live results of WB and MEM, after an edge: the result of EX
has joined them. -/
theorem next_forward_rf (hr : i.rstN = true) (a : Address) :
    (c.next imem i).forward a ((c.next imem i).rf a) =
      if a ≠ 0#5 ∧ ExWrites c a then c.ex.aluResult else c.forward a (c.rf a) := by
  have hm : liveMem (c.next imem i) a =
      if a ≠ 0#5 ∧ ExWrites c a then some c.ex.aluResult else none := by
    simp only [liveMem, MemWrites, ExWrites, Core.next_exMem _ hr]
    rfl
  rw [forward_eq_live, forward_eq_live, hm, liveWb_next hr, next_rf_eq_live _ hr]
  split_ifs <;> rfl

end Edge

/-! ### The relation -/

/-- The core has the next instruction of the machine in ID. -/
structure InTurn (M : Data → Data) (c : Core) (s : InOrder) : Prop where
  ifId : c.ifId = ⟨s.pc, M s.pc⟩
  idPc : c.ifStage.idPc = s.pc
  fetch : c.ifStage.pc = nextFetch s.btb s.pc
  btb : c.ifStage.btb = s.btb
  prior : ∀ a, c.forward a (c.rf a) = s.prior a
  /-- EX holds the last instruction, issued from the register file of the cycle before. -/
  ex : ∃ rf, c.idEx = issue rf s.last ∧ ∀ a, ¬ Writes s.w3 a → rf a = c.rf a
  mem : ∀ a, a ≠ 0#5 ∧ MemWrites c a ↔ Writes s.w1 a
  wb : ∀ a, a ≠ 0#5 ∧ WbWrites c a ↔ Writes s.w2 a

/-- The core has a bubble in ID, and one in EX, and fetches the next instruction. -/
structure Between (c : Core) (s : InOrder) : Prop where
  ifId : c.ifId = .bubble
  idEx : c.idEx = .bubble
  pc : c.ifStage.pc = s.pc
  btb : c.ifStage.btb = s.btb
  prior : ∀ a, c.forward a (c.rf a) = s.prior a
  last : s.last = .bubble
  w1 : s.w1 = 0#32
  mem : ∀ a, a ≠ 0#5 ∧ MemWrites c a ↔ Writes s.w2 a
  wb : ∀ a, a ≠ 0#5 ∧ WbWrites c a ↔ Writes s.w3 a

theorem not_writes_zero (a : Address) : ¬ Writes 0#32 a := fun h => absurd h.1 (by decide)

namespace InTurn

variable {M : Data → Data} {c : Core} {s : InOrder} (h : InTurn M c s)
include h

/-! ### What the wires say -/

/-- The registers that are forwarded are those that fly. -/
theorem pending_iff (b : Address) : Pending c b ↔ s.Flies b := by
  rw [Pending, and_or_left, h.mem, h.wb]
  rfl

theorem read_of_ready {rf : RegFile} (hrf : ∀ a, ¬ Writes s.w3 a → rf a = c.rf a) {o : Source}
    (ho : s.Ready o) : o.read rf = o.read s.prior := by
  cases o with
  | val v => rfl
  | reg a =>
    obtain ⟨hf, h3⟩ := ho
    have hnp : ¬ Pending c a := fun hp => hf ((h.pending_iff a).mp hp)
    show rfRead rf a = rfRead s.prior a
    rw [rfRead, rfRead, hrf a h3, ← h.prior a, forward_of_not_pending hnp]

/-- **An operand that reaches EX is the in-order one.** -/
theorem forward_of_reaches {rf : RegFile} (hrf : ∀ a, ¬ Writes s.w3 a → rf a = c.rf a)
    {b : Address} {o : Source} (hb : s.Reaches b o) :
    c.forward b (o.read rf) = o.read s.prior := by
  cases o with
  | val v => exact forward_of_not_pending (fun hp => hb ((h.pending_iff b).mp hp)) v
  | reg a =>
    obtain ⟨hf, rfl⟩ | ⟨hf, h3, hnb⟩ := hb
    · -- the register flies: what was latched does not matter
      have hp := (h.pending_iff b).mpr hf
      rw [forward_congr_of_pending hp _ (c.rf b), h.prior]
      simp [Source.read, rfRead, hp.1]
    · rw [forward_of_not_pending fun hp => hnb ((h.pending_iff b).mp hp)]
      exact h.read_of_ready hrf ⟨hf, h3⟩

theorem operands {w : Data} (hw : c.ifId.instr = w)
    (hr : s.Reaches (rs1Field w) (sourceA s.last) ∧ s.Reaches (rs2Field w) (sourceB s.last)) :
    c.exIn.opAFwd = s.front.regData1 ∧ c.exIn.opBFwd = s.front.regData2 := by
  obtain ⟨rf, hex, hrf⟩ := h.ex
  rw [Core.exIn_opAFwd, Core.exIn_opBFwd, hw, hex, front, issue_regData1, issue_regData2,
    issue_regData1, issue_regData2]
  exact ⟨h.forward_of_reaches hrf hr.1, h.forward_of_reaches hrf hr.2⟩

theorem exMispredict_iff (ht : s.Timely (M s.pc)) :
    c.exMispredict = true ↔ s.Redirects (M s.pc) := by
  have hw : c.ifId.instr = M s.pc := congrArg PrIfId.instr h.ifId
  rw [Core.exMispredict_iff, hw, Redirects]
  refine or_congr_left (and_congr_right fun hb => ?_)
  obtain ⟨hA, hB⟩ := h.operands hw (ht.operands (.inr hb))
  rw [hA, hB]

theorem hduStall_iff : c.hduStall = true ↔ LoadUse s.last.instr (M s.pc) := by
  obtain ⟨rf, hex, -⟩ := h.ex
  have hl : c.idEx.memToReg = true ↔ opcodeField s.last.instr = some .load := by
    rw [hex]
    show (cuOf s.last.instr).memToReg = true ↔ _
    rw [cuOf_memToReg, decide_eq_true_eq]
  rw [Core.hduStall_iff, hl, hex, h.ifId]
  rfl

theorem target_eq (ht : s.Timely (M s.pc)) (hm : s.Redirects (M s.pc)) :
    alignTarget (c.idEx.pc + c.idEx.imm) = s.target := by
  obtain ⟨rf, hex, hrf⟩ := h.ex
  rw [hex, issue_imm, h.read_of_ready hrf (ht.target hm), ← issue_imm]
  rfl

theorem regs_eq (ht : s.Timely (M s.pc)) (a : Address) :
    (if a ≠ 0#5 ∧ ExWrites c a then c.ex.aluResult else c.forward a (c.rf a)) = s.regs a := by
  have hw : c.ifId.instr = M s.pc := congrArg PrIfId.instr h.ifId
  obtain ⟨rf, hex, -⟩ := h.ex
  have hx : a ≠ 0#5 ∧ ExWrites c a ↔ Writes s.last.instr a := by
    rw [ExWrites, hex, Writes]
    show a ≠ 0#5 ∧ (cuOf s.last.instr).regWe = true ∧ rdField s.last.instr = a ↔ _
    tauto
  rw [InOrder.regs, retire_apply, h.prior]
  by_cases ha : Writes s.last.instr a
  · obtain ⟨hwe, rfl, h0⟩ := ha
    obtain ⟨hA, hB⟩ := h.operands hw (ht.operands (.inl ⟨hwe, rfl, h0⟩))
    rw [if_pos (hx.mpr ⟨hwe, rfl, h0⟩), if_pos ⟨hwe, rfl, h0⟩, Core.ex_aluResult, hA, hB, hex]
    rfl
  · rw [if_neg fun hc => ha (hx.mp hc), if_neg ha]

/-! ### The edge -/

variable {imem : Imem} {i : CoreIn} (hr : i.rstN = true)
include hr

theorem next_mem (a : Address) :
    a ≠ 0#5 ∧ MemWrites (c.next imem i) a ↔ Writes s.last.instr a := by
  obtain ⟨rf, hex, -⟩ := h.ex
  rw [MemWrites, Core.next_exMem _ hr]
  show a ≠ 0#5 ∧ c.idEx.regWriteEn = true ∧ c.idEx.rdAddr = a ↔ _
  rw [hex, Writes]
  show a ≠ 0#5 ∧ (cuOf s.last.instr).regWe = true ∧ rdField s.last.instr = a ↔ _
  tauto

theorem next_wb (a : Address) : a ≠ 0#5 ∧ WbWrites (c.next imem i) a ↔ Writes s.w1 a := by
  rw [← h.mem, WbWrites, Core.next_memWb _ hr]
  rfl

/-- **A redirect.** -/
theorem next_of_redirects (ht : s.Timely (M s.pc)) (hm : s.Redirects (M s.pc)) :
    Between (c.next imem i) s.redirect := by
  have hmis := (h.exMispredict_iff ht).mpr hm
  refine ⟨?_, ?_, ?_, ?_, fun a => ?_, rfl, rfl, h.next_mem hr, h.next_wb hr⟩
  · rw [Core.next_ifId _ hr, if_pos hmis]
  · rw [Core.next_idEx _ hr, if_pos hmis]
  · rw [Core.next_pc _ hr, if_pos hmis, h.target_eq ht hm]
    rfl
  · rw [Core.next_btb _ hr, if_pos hmis, h.target_eq ht hm, h.btb, h.idPc]
    rfl
  · rw [next_forward_rf hr, h.regs_eq ht]
    rfl

/-- **An instruction that does not redirect.** -/
theorem next_of_advance (hM : i.instrData = M c.ifStage.pc) (ht : s.Timely (M s.pc))
    (hm : ¬ s.Redirects (M s.pc)) : InTurn M (c.next imem i) (s.advance (M s.pc)) := by
  have hmis : c.exMispredict ≠ true := fun hc => hm ((h.exMispredict_iff ht).mp hc)
  have hprior : ∀ a, (c.next imem i).forward a ((c.next imem i).rf a) = s.regs a := by
    intro a
    rw [next_forward_rf hr, h.regs_eq ht]
  have hex : ∃ rf, (c.next imem i).idEx = issue rf ⟨s.pc, M s.pc⟩ ∧
      ∀ a, ¬ Writes s.w2 a → rf a = (c.next imem i).rf a := by
    refine ⟨c.rf, ?_, fun a ha => ?_⟩
    · rw [Core.next_idEx _ hr, if_neg hmis, idExIn_eq_issue, h.ifId]
    · exact (next_rf_of_not_wbWrites hr fun hw => ha ((h.wb a).mp hw)).symm
  by_cases hs : c.hduStall = true
  · -- the instruction is still in ID
    have hlu := h.hduStall_iff.mp hs
    have hpc : (s.advance (M s.pc)).pc = s.pc := if_pos hlu
    refine ⟨?_, ?_, ?_, ?_, hprior, hex, h.next_mem hr, h.next_wb hr⟩
    · rw [Core.next_ifId _ hr, if_neg hmis, if_pos hs, h.ifId, hpc]
    · rw [Core.next_idPc _ hr, if_neg hmis, if_pos hs, h.idPc, hpc]
    · have hno : btbHit c.ifStage.btb c.ifStage.pc = false := by
        rw [h.btb, h.fetch]
        exact ht.held hlu
      rw [Core.next_pc _ hr, if_neg hmis, if_neg (by simp [hno]), if_pos hs, h.fetch, hpc]
      rfl
    · rw [Core.next_btb _ hr, if_neg hmis, h.btb]
      rfl
  · have hpc : (s.advance (M s.pc)).pc = c.ifStage.pc := by
      rw [h.fetch]
      exact if_neg fun hlu => hs (h.hduStall_iff.mpr hlu)
    refine ⟨?_, ?_, ?_, ?_, hprior, hex, h.next_mem hr, h.next_wb hr⟩
    · rw [Core.next_ifId _ hr, if_neg hmis, if_neg hs, hM, hpc]
    · rw [Core.next_idPc _ hr, if_neg hmis, if_neg hs, hpc]
    · rw [Core.next_pc _ hr, if_neg hmis, if_neg hs, hpc, h.btb]
      rfl
    · rw [Core.next_btb _ hr, if_neg hmis, h.btb]
      rfl

end InTurn

namespace Between

variable {M : Data → Data} {c : Core} {s : InOrder}

theorem reset : Between .reset .init where
  ifId := rfl
  idEx := rfl
  pc := rfl
  btb := rfl
  prior _ := forward_of_not_pending (fun h => h.2.elim (fun hm => absurd hm.1 Bool.false_ne_true)
    fun hw => absurd hw.1 Bool.false_ne_true) _
  last := rfl
  w1 := rfl
  mem a := iff_of_false (fun h => absurd h.2.1 Bool.false_ne_true) (not_writes_zero a)
  wb a := iff_of_false (fun h => absurd h.2.1 Bool.false_ne_true) (not_writes_zero a)

variable (h : Between c s) {imem : Imem} {i : CoreIn}
include h

/-- **The cycle between**: the next instruction enters ID. -/
theorem next (hr : i.rstN = true) (hM : i.instrData = M c.ifStage.pc) :
    InTurn M (c.next imem i) s := by
  obtain ⟨hs, hm⟩ : c.hduStall ≠ true ∧ c.exMispredict ≠ true := by
    simp [Run.quiet_of_bubble h.ifId]
  have hx : ∀ a, ¬ ExWrites c a := by
    intro a ha
    rw [ExWrites, h.idEx] at ha
    exact absurd ha.1 Bool.false_ne_true
  refine ⟨?_, ?_, ?_, ?_, fun a => ?_, ⟨c.rf, ?_, fun a ha => ?_⟩, fun a => ?_, fun a => ?_⟩
  · rw [Core.next_ifId _ hr, if_neg hm, if_neg hs, hM, h.pc]
  · rw [Core.next_idPc _ hr, if_neg hm, if_neg hs, h.pc]
  · rw [Core.next_pc _ hr, if_neg hm, if_neg hs, h.btb, h.pc]
    rfl
  · rw [Core.next_btb _ hr, if_neg hm, h.btb]
  · rw [next_forward_rf hr, if_neg fun ha => hx a ha.2, h.prior]
  · rw [Core.next_idEx _ hr, if_neg hm, idExIn_eq_issue, h.ifId, h.last]
  · exact (next_rf_of_not_wbWrites hr fun hw => ha ((h.wb a).mp hw)).symm
  · rw [h.w1, MemWrites, Core.next_exMem _ hr]
    exact iff_of_false (fun ha => hx a ha.2) (not_writes_zero a)
  · rw [← h.mem, WbWrites, Core.next_memWb _ hr]
    rfl

end Between

/-! ### The run -/

section Run

variable {imem : Imem} {M : Data → Data} {D : ℕ → Data} {t : ℕ} {s : InOrder}

/-- The run has, in cycle `t`, the next instruction of the machine in ID. -/
def Decoding (r : Run) (M : Data → Data) (t : ℕ) (s : InOrder) : Prop :=
  InTurn M (r.st t) s ∧ (r.idAt t).isSome = true

theorem Between.decoding (h : Between ((Run.program imem M D).st t) s) :
    Decoding (.program imem M D) M (t + 1) s := by
  obtain ⟨hs, hm⟩ := Run.quiet_of_bubble h.ifId
  refine ⟨?_, ?_⟩
  · rw [Run.st_succ]
    exact h.next rfl rfl
  · rw [(Run.enters_iff.mpr ⟨rfl, hm, hs⟩ : (Run.program imem M D).idAt (t + 1) = some t)]
    rfl

theorem InTurn.between (h : InTurn M ((Run.program imem M D).st t) s) (ht : s.Timely (M s.pc))
    (hm : s.Redirects (M s.pc)) : Between ((Run.program imem M D).st (t + 1)) s.redirect := by
  rw [Run.st_succ]
  exact h.next_of_redirects rfl ht hm

theorem InTurn.idAt_succ (h : InTurn M ((Run.program imem M D).st t) s) (ht : s.Timely (M s.pc))
    (hm : s.Redirects (M s.pc)) : (Run.program imem M D).idAt (t + 1) = none :=
  if_pos (.inr ((h.exMispredict_iff ht).mpr hm))

/-- **The core takes the machine's steps**, each in its time. -/
theorem realizes (imem : Imem) (M : Data → Data) (D : ℕ → Data) :
    (machine M).Realizes (Decoding (.program imem M D) M) fun s => s.Timely (M s.pc) := by
  rintro t s ⟨h, hid⟩ ht
  show Decoding _ M (t + if s.Redirects (M s.pc) then 2 else 1) (step M s)
  rw [step]
  split_ifs with hm
  · exact (h.between ht hm).decoding
  · refine ⟨?_, ?_⟩
    · rw [Run.st_succ]
      exact h.next_of_advance rfl rfl ht hm
    · have hmis : ((Run.program imem M D).st t).exMispredict ≠ true :=
        fun hc => hm ((h.exMispredict_iff ht).mp hc)
      rw [Run.idAt, if_neg (by simp [hmis])]
      split_ifs
      · exact hid
      · rfl

theorem decoding_turn (imem : Imem) (D : ℕ → Data) {n : ℕ}
    (h : ∀ k < n, (before M k).Timely (M (before M k).pc)) :
    Decoding (.program imem M D) M (turn M n) (before M n) :=
  (realizes imem M D).run (Between.decoding (t := 0) .reset) h

end Run

/-- The core follows the machine through instruction `n`. -/
structure FollowsInOrder (r : Run) (M : Data → Data) (n : ℕ) : Prop where
  /-- The instruction is decoded in its turn. -/
  decodes : (r.idAt (turn M n)).isSome = true ∧
    (r.st (turn M n)).ifId = ⟨(before M n).pc, M (before M n).pc⟩
  /-- So far, no other is. -/
  only : ∀ t ≤ turn M n, (r.idAt t).isSome = true → ∃ k ≤ n, t = turn M k
  /-- The data memory has been written in the turns of the stores. -/
  stores : ∀ t ≤ turn M n, (r.st t).dmemWe = true ↔
    ∃ k ≤ n, t = turn M k ∧ opcodeField (M (before M k).pc) = some .store
  /-- Three cycles later the register file is the registers that it should find. -/
  regs : (r.st (turn M n + 3)).rf = (before M n).regs

section Follows

variable {imem : Imem} {M : Data → Data} {D : ℕ → Data}

/-- Two edges bring the live results of MEM and WB into the register file. -/
theorem rf_add_two (t : ℕ) (a : Address) :
    ((Run.program imem M D).st (t + 2)).rf a =
      ((Run.program imem M D).st t).forward a (((Run.program imem M D).st t).rf a) := by
  rw [Run.st_succ, next_rf_eq_live _ rfl]
  show (liveWb _ a).getD (((Run.program imem M D).st (t + 1)).rf a) = _
  rw [Run.st_succ, liveWb_next rfl, next_rf_eq_live _ rfl, forward_eq_live]

variable {n : ℕ} (h : ∀ k ≤ n, (before M k).Timely (M (before M k).pc))
include h

/-- ID is occupied in the turns of the instructions only. -/
theorem exists_turn_of_idAt {t : ℕ} (ht : t ≤ turn M n)
    (hid : ((Run.program imem M D).idAt t).isSome = true) : ∃ k ≤ n, t = turn M k := by
  rcases t with _ | t
  · exact absurd hid Bool.false_ne_true
  obtain ⟨k, hle, hlt⟩ := Timed.exists_clock_le (s := init) (machine_cost_pos M) t
  have hkn : k ≤ n := by
    refine ((Timed.clock_strictMono (s := init) (machine_cost_pos M)).le_iff_le).mp (hle.trans ?_)
    have := turn.eq_1 M n
    omega
  obtain he | hgt := Nat.eq_or_lt_of_le hle
  · exact ⟨k, hkn, by rw [turn]; omega⟩
  · -- the cycle after a redirect
    exfalso
    rw [Timed.clock_succ] at hlt
    have hcost : 1 < (machine M).cost (before M k) := by
      show 1 < (machine M).cost ((machine M).state init k)
      omega
    have hm : (before M k).Redirects (M (before M k).pc) := by
      by_contra hno
      exact absurd hcost (by simp [machine, hno])
    have hd := (decoding_turn imem D (n := k) fun j hj => h j (by omega)).1
    have hnone := hd.idAt_succ (h k hkn) hm
    have ht1 : t + 1 = turn M k + 1 := by
      have hc2 : (machine M).cost ((machine M).state init k) = 2 := if_pos hm
      rw [turn]
      omega
    rw [ht1, hnone] at hid
    exact absurd hid Bool.false_ne_true

theorem dmemWe_iff_turn (imem : Imem) (D : ℕ → Data) {t : ℕ} (ht : t ≤ turn M n) :
    ((Run.program imem M D).st t).dmemWe = true ↔
      ∃ k ≤ n, t = turn M k ∧ opcodeField (M (before M k).pc) = some .store := by
  have hturn : ∀ k ≤ n, ((Run.program imem M D).st (turn M k)).ifId.instr = M (before M k).pc :=
    fun k hk => congrArg PrIfId.instr (decoding_turn imem D fun j hj => h j (by omega)).1.ifId
  rw [Core.dmemWe_eq, decide_eq_true_eq]
  constructor
  · intro hst
    have hid : ((Run.program imem M D).idAt t).isSome = true := by
      rw [Option.isSome_iff_ne_none]
      intro hnone
      rw [Run.ifId_of_idAt_none hnone] at hst
      exact absurd hst (by decide)
    obtain ⟨k, hk, rfl⟩ := exists_turn_of_idAt h ht hid
    exact ⟨k, hk, rfl, hturn k hk ▸ hst⟩
  · rintro ⟨k, hk, rfl, hst⟩
    rw [hturn k hk]
    exact hst

/-- Three cycles after its turn the instruction has found its registers. -/
theorem rf_turn_add_three (imem : Imem) (D : ℕ → Data) :
    ((Run.program imem M D).st (turn M n + 3)).rf = (before M n).regs := by
  have hd := (decoding_turn imem D (n := n) fun k hk => h k (Nat.le_of_lt hk)).1
  funext a
  rw [show turn M n + 3 = turn M n + 1 + 2 by omega, rf_add_two, Run.st_succ, next_forward_rf rfl]
  exact hd.regs_eq (h n le_rfl) a

end Follows

/-- **The pipeline refines the in-order machine**: as long as the program keeps to the timing
contract. -/
theorem followsInOrder (imem : Imem) (M : Data → Data) (D : ℕ → Data) (n : ℕ)
    (h : ∀ k ≤ n, (before M k).Timely (M (before M k).pc)) :
    FollowsInOrder (.program imem M D) M n := by
  obtain ⟨hd, hid⟩ := decoding_turn imem D (n := n) fun k hk => h k (Nat.le_of_lt hk)
  exact ⟨⟨hid, hd.ifId⟩, fun t ht => exists_turn_of_idAt h ht,
    fun t ht => dmemWe_iff_turn h imem D ht, rf_turn_add_three h imem D⟩

/-- A loop that adds 8 to `x1` until it is 16, with results forwarded to `x3` and `x4`, and
then a loop that does nothing:
`addi x2, x0, 16; nop; nop; nop; addi x1, x1, 8; addi x3, x1, 5; xor x4, x1, x3; add x0, x1, x3;
nop; addi x0, x1, 16; beq x1, x2, 12; addi x0, x0, -28; jal x0, -32; nop; jal x0, -4`. -/
def countTo16 : List Data :=
  [0x01000113#32, instrNop, instrNop, instrNop, 0x00808093#32, 0x00508193#32, 0x0030C233#32,
    0x00308033#32, instrNop, 0x01008013#32, 0x00208663#32, 0xFE400013#32, 0xFE1FF06F#32, instrNop,
    0xFFDFF06F#32]

/-- The branch is taken the second time round. -/
theorem followsInOrder_countTo16 : FollowsInOrder (.ofWords countTo16) (image countTo16) 21 :=
  followsInOrder _ _ _ 21 (by decide +kernel)

end RiscvCore.Pipeline
