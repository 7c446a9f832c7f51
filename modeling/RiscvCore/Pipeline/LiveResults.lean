import RiscvCore.Pipeline.Forwarding

/-!
# Live results

A result in MEM or in WB is live if its instruction writes a register other than `x0`. The
register file and the forwarding unit guard every use of a result by both conditions, so
they see no more of the two stages than their live results: `liveMem` and `liveWb` are that
view, and `forward_eq_live` and `next_rf_eq_live` say that it is enough.

`forgetsDead_of_agree` is the consequence for two runs: the data of a dead result reaches
nothing but the data bus, and that only while the instruction is in MEM.
-/

namespace RiscvCore.Pipeline

open Rtl

/-! ### The view -/

section Live

variable (c : Core)

/-- The result for register `a` that is live in MEM. -/
def liveMem (a : Address) : Option Data :=
  if a ≠ 0#5 ∧ MemWrites c a then some c.exMem.aluResult else none

/-- The result for register `a` that is live in WB. -/
def liveWb (a : Address) : Option Data :=
  if a ≠ 0#5 ∧ WbWrites c a then some c.memWb.aluResult else none

/-- **The forwarding unit picks the newest live result.** -/
theorem forward_eq_live (a : Address) (v : Data) :
    c.forward a v = (liveMem c a).getD ((liveWb c a).getD v) := by
  by_cases hm : a ≠ 0#5 ∧ MemWrites c a
  · rw [forward_of_memWrites hm.1 hm.2, liveMem, if_pos hm]
    rfl
  by_cases hw : a ≠ 0#5 ∧ WbWrites c a
  · rw [forward_of_wbWrites hw.1 hw.2 fun h => hm ⟨hw.1, h⟩, liveMem, if_neg hm, liveWb, if_pos hw]
    rfl
  · have hp : ¬ Pending c a := by
      rintro ⟨h0, h | h⟩
      · exact hm ⟨h0, h⟩
      · exact hw ⟨h0, h⟩
    rw [forward_of_not_pending hp, liveMem, if_neg hm, liveWb, if_neg hw]
    rfl

/-- **The register file takes the live result in WB.** -/
theorem next_rf_eq_live {imem : Imem} {i : CoreIn} (hr : i.rstN = true) :
    (c.next imem i).rf = fun a => (liveWb c a).getD (c.rf a) := by
  funext a
  rw [Core.next_rf _ hr, liveWb]
  by_cases hw : a ≠ 0#5 ∧ WbWrites c a
  · obtain ⟨h0, hwe, rfl⟩ := hw
    rw [if_pos ⟨hwe, h0⟩, Function.update_self, if_pos ⟨h0, hwe, rfl⟩]
    rfl
  · rw [if_neg hw]
    split_ifs with h
    · refine Function.update_of_ne ?_ _ _
      rintro rfl
      exact hw ⟨h.2, h.1, rfl⟩
    · rfl

/-- The same registers written with the same result make the same view of a stage. -/
theorem view_congr {p p' : Address → Prop} [DecidablePred p] [DecidablePred p'] {v v' : Data}
    (hw : ∀ a, a ≠ 0#5 → (p a ↔ p' a)) (hv : ∀ a, a ≠ 0#5 → p a → v = v') :
    (fun a => if a ≠ 0#5 ∧ p a then some v else none) =
      fun a => if a ≠ 0#5 ∧ p' a then some v' else none := by
  funext a
  by_cases hl : a ≠ 0#5 ∧ p a
  · rw [if_pos hl, if_pos ⟨hl.1, (hw a hl.1).mp hl.2⟩, hv a hl.1 hl.2]
  · rw [if_neg hl, if_neg fun h => hl ⟨h.1, (hw a h.1).mpr h.2⟩]

variable {c} {c' : Core}

theorem liveMem_congr (hw : ∀ a, a ≠ 0#5 → (MemWrites c a ↔ MemWrites c' a))
    (hv : ∀ a, a ≠ 0#5 → MemWrites c a → c.exMem.aluResult = c'.exMem.aluResult) :
    liveMem c = liveMem c' := view_congr hw hv

theorem liveWb_congr (hw : ∀ a, a ≠ 0#5 → (WbWrites c a ↔ WbWrites c' a))
    (hv : ∀ a, a ≠ 0#5 → WbWrites c a → c.memWb.aluResult = c'.memWb.aluResult) :
    liveWb c = liveWb c' := view_congr hw hv

theorem forward_congr (hm : liveMem c = liveMem c') (hw : liveWb c = liveWb c') (a : Address)
    (v : Data) : c.forward a v = c'.forward a v := by
  rw [forward_eq_live, forward_eq_live, hm, hw]

theorem next_rf_congr (hrf : c.rf = c'.rf) (hw : liveWb c = liveWb c') (imem : Imem)
    (i : CoreIn) : (c.next imem i).rf = (c'.next imem i).rf := by
  cases hr : i.rstN with
  | false => rw [Core.next_of_reset _ hr, Core.next_of_reset _ hr]
  | true => rw [next_rf_eq_live _ hr, next_rf_eq_live _ hr, hrf, hw]

/-- The fetch stage sees the stall, the redirect and the target. -/
theorem next_ifStage_congr (hif : c.ifStage = c'.ifStage) (hs : c.hduStall = c'.hduStall)
    (hm : c.exMispredict = c'.exMispredict) (ht : c.ex.targetAddr = c'.ex.targetAddr)
    (imem : Imem) (i : CoreIn) : (c.next imem i).ifStage = (c'.next imem i).ifStage := by
  simp only [Core.next, Core.ifIn, hif, hs, hm, ht]

end Live

/-! ### Dead results -/

/-- Two states that agree on everything but the data of dead results in MEM and WB. -/
structure AgreeButDead (c c' : Core) : Prop where
  ifStage : c.ifStage = c'.ifStage
  ifId : c.ifId = c'.ifId
  rf : c.rf = c'.rf
  idEx : c.idEx = c'.idEx
  memRd : c.exMem.rdAddr = c'.exMem.rdAddr
  memWe : c.exMem.regWriteEn = c'.exMem.regWriteEn
  memLoad : c.exMem.memToReg = c'.exMem.memToReg
  /-- A live result in MEM is the same in both. -/
  mem : c.exMem.regWriteEn = true → c.exMem.rdAddr ≠ 0#5 → c.exMem = c'.exMem
  wbRd : c.memWb.rdAddr = c'.memWb.rdAddr
  wbWe : c.memWb.regWriteEn = c'.memWb.regWriteEn
  wbLoad : c.memWb.memToReg = c'.memWb.memToReg
  /-- A live result in WB is the same in both. -/
  wb : c.memWb.regWriteEn = true → c.memWb.rdAddr ≠ 0#5 → c.memWb = c'.memWb

namespace AgreeButDead

variable {c c' : Core}

protected theorem refl (c : Core) : AgreeButDead c c :=
  ⟨rfl, rfl, rfl, rfl, rfl, rfl, rfl, fun _ _ => rfl, rfl, rfl, rfl, fun _ _ => rfl⟩

variable (h : AgreeButDead c c')
include h

theorem liveMem_eq : liveMem c = liveMem c' := by
  refine liveMem_congr (fun a _ => ?_) fun a h0 hw => ?_
  · rw [MemWrites, MemWrites, h.memRd, h.memWe]
  · rw [h.mem hw.1 (hw.2 ▸ h0)]

theorem liveWb_eq : liveWb c = liveWb c' := by
  refine liveWb_congr (fun a _ => ?_) fun a h0 hw => ?_
  · rw [WbWrites, WbWrites, h.wbRd, h.wbWe]
  · rw [h.wb hw.1 (hw.2 ▸ h0)]

theorem hduStall : c.hduStall = c'.hduStall := by
  rw [Bool.eq_iff_iff, Core.hduStall_iff, Core.hduStall_iff, h.idEx, h.ifId]

theorem opAFwd : c.exIn.opAFwd = c'.exIn.opAFwd := by
  rw [Core.exIn_opAFwd, Core.exIn_opAFwd, h.ifId, h.idEx, forward_congr h.liveMem_eq h.liveWb_eq]

theorem opBFwd : c.exIn.opBFwd = c'.exIn.opBFwd := by
  rw [Core.exIn_opBFwd, Core.exIn_opBFwd, h.ifId, h.idEx, forward_congr h.liveMem_eq h.liveWb_eq]

theorem exMispredict : c.exMispredict = c'.exMispredict := by
  rw [Bool.eq_iff_iff, Core.exMispredict_iff, Core.exMispredict_iff, h.ifId, h.opAFwd, h.opBFwd]

theorem targetAddr : c.ex.targetAddr = c'.ex.targetAddr := by
  rw [Core.ex_targetAddr, Core.ex_targetAddr, h.idEx]

theorem idExIn : c.idExIn = c'.idExIn := by
  simp only [Core.idExIn, Core.id, h.rf, h.ifId, h.idEx]

/-- The result that EX makes does not depend on dead results. -/
theorem exMemIn : c.exMemIn = c'.exMemIn := by
  simp only [Core.exMemIn, Core.ex_aluResult, h.opAFwd, h.opBFwd, h.idEx]

variable (imem : Imem) (i : CoreIn)

/-- After an edge the states agree in MEM altogether. -/
theorem next_exMem : (c.next imem i).exMem = (c'.next imem i).exMem := by
  cases hr : i.rstN with
  | false => rw [Core.next_of_reset _ hr, Core.next_of_reset _ hr]
  | true => rw [Core.next_exMem _ hr, Core.next_exMem _ hr, h.exMemIn]

/-- **The step**: an edge preserves the agreement. -/
theorem next : AgreeButDead (c.next imem i) (c'.next imem i) := by
  have hmem := h.next_exMem imem i
  have hif := next_ifStage_congr h.ifStage h.hduStall h.exMispredict h.targetAddr imem i
  have hrf := next_rf_congr h.rf h.liveWb_eq imem i
  cases hr : i.rstN with
  | false =>
    rw [Core.next_of_reset _ hr, Core.next_of_reset _ hr]
    exact .refl _
  | true =>
    refine ⟨hif, ?_, hrf, ?_, congrArg PrExMem.rdAddr hmem, congrArg PrExMem.regWriteEn hmem,
      congrArg PrExMem.memToReg hmem, fun _ _ => hmem, ?_, ?_, ?_, ?_⟩
    · rw [Core.next_ifId _ hr, Core.next_ifId _ hr, h.exMispredict, h.hduStall, h.ifId, h.ifStage]
    · rw [Core.next_idEx _ hr, Core.next_idEx _ hr, h.exMispredict, h.idExIn]
    all_goals rw [Core.next_memWb _ hr, Core.next_memWb _ hr]
    · exact h.memRd
    · exact h.memWe
    · exact h.memLoad
    · intro hwe h0
      rw [Core.memWbIn, Core.memWbIn, Core.mem, Core.mem, h.mem hwe h0, Core.id, Core.id, h.ifId,
        h.rf, h.idEx]

/-- With MEM the same altogether, an edge leaves no difference. -/
theorem next_eq (hmem : c.exMem = c'.exMem) : c.next imem i = c'.next imem i := by
  have hn := h.next imem i
  have hwb : (c.next imem i).memWb = (c'.next imem i).memWb := by
    cases hr : i.rstN with
    | false => rw [Core.next_of_reset _ hr, Core.next_of_reset _ hr]
    | true =>
      rw [Core.next_memWb _ hr, Core.next_memWb _ hr, Core.memWbIn, Core.memWbIn, Core.mem,
        Core.mem, hmem, Core.id, Core.id, h.ifId, h.rf, h.idEx]
  have heta : ∀ d : Core, d = ⟨d.ifStage, d.ifId, d.rf, d.idEx, d.exMem, d.memWb⟩ := fun _ => rfl
  rw [heta (c.next imem i), heta (c'.next imem i), hn.ifStage, hn.ifId, hn.rf, hn.idEx,
    h.next_exMem imem i, hwb]

end AgreeButDead

/-- What two runs of the core have in common in a cycle if dead results do not leak: all
that is not in MEM and WB, the fetch address and the write enable of the data bus. -/
structure SameFront (s s' : Core) : Prop where
  rf : s.rf = s'.rf
  ifStage : s.ifStage = s'.ifStage
  ifId : s.ifId = s'.ifId
  idEx : s.idEx = s'.idEx
  instrAddr : s.instrAddr = s'.instrAddr
  dmemWe : s.dmemWe = s'.dmemWe

theorem AgreeButDead.sameFront {s s' : Core} (h : AgreeButDead s s') : SameFront s s' :=
  ⟨h.rf, h.ifStage, h.ifId, h.idEx, congrArg IfStage.pc h.ifStage, by simp [h.ifId]⟩

/-- Every edge preserves the agreement, whatever the input. -/
theorem lockstep_agreeButDead (imem : Imem) :
    Machine.Lockstep (coreTop imem) (coreTop imem) AgreeButDead := fun i _ _ h => h.next imem i

/-- Two runs that forget a difference in dead results: the front of the pipeline never shows
it, the data bus only in the first cycle, and from the third on there is none. -/
structure ForgetsDead (s s' : ℕ → Core) : Prop where
  front : ∀ n, SameFront (s n) (s' n)
  bus : ∀ n, 1 ≤ n → (s n).dmemAddr = (s' n).dmemAddr ∧ (s n).dmemWdata = (s' n).dmemWdata
  same : ∀ n, 2 ≤ n → s n = s' n

/-- **Dead results do not leak**: states that differ in the data of dead results only, and
the same inputs from then on. -/
theorem forgetsDead_of_agree (imem : Imem) (i : ℕ → CoreIn) {c c' : Core}
    (h : AgreeButDead c c') :
    ForgetsDead ((coreTop imem).runFrom c (Machine.stream i))
      ((coreTop imem).runFrom c' (Machine.stream i)) := by
  have hag := (lockstep_agreeButDead imem).runFrom i h
  have h2 : (coreTop imem).runFrom c (Machine.stream i) 2 =
      (coreTop imem).runFrom c' (Machine.stream i) 2 :=
    (hag 1).next_eq imem (i 1) (h.next_exMem imem (i 0))
  have heq : ∀ n, 2 ≤ n → (coreTop imem).runFrom c (Machine.stream i) n =
      (coreTop imem).runFrom c' (Machine.stream i) n := fun n =>
    Machine.runFrom_eq_of_le h2 fun _ _ => rfl
  refine ⟨fun n => (hag n).sameFront, fun n hn => ?_, heq⟩
  obtain rfl | hn := Nat.eq_or_lt_of_le hn
  · have hmem := h.next_exMem imem (i 0)
    exact ⟨congrArg PrExMem.aluResult hmem, congrArg PrExMem.regData2 hmem⟩
  · rw [heq n hn]
    exact ⟨rfl, rfl⟩

/-- The empty pipeline with `v` left over in MEM, for `x0`, and in WB, for `x3` but with the
write enable down. -/
def leftover (v : Data) : Core :=
  { Core.reset with
    exMem := ⟨v, v, 0#5, true, false⟩
    memWb := ⟨v, v, 3#5, false, false⟩ }

/-- With `addi x3, x3, 1` on the instruction bus in every cycle. -/
theorem forgetsDead_of_agree_leftover :
    ForgetsDead
      ((coreTop fun _ => 0#32).runFrom (leftover 1#32)
        (Machine.stream fun _ => ⟨true, 0x00118193#32, 0#32⟩))
      ((coreTop fun _ => 0#32).runFrom (leftover 2#32)
        (Machine.stream fun _ => ⟨true, 0x00118193#32, 0#32⟩)) :=
  forgetsDead_of_agree _ _
    ⟨rfl, rfl, rfl, rfl, rfl, rfl, rfl, fun _ h => absurd rfl h, rfl, rfl, rfl,
      fun h => absurd h Bool.false_ne_true⟩

end RiscvCore.Pipeline
