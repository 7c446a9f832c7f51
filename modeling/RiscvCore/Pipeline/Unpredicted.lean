import RiscvCore.Pipeline.Provenance

/-!
# The core without its predictor

`core_top` beside the same core with the branch target buffer kept empty. A prediction steers fetch
for one cycle; in the next one either the instruction it was made for redirects, which
flushes what was fetched and sets the program counter whatever was predicted, or the prediction
stands, right or wrong.

So the predictor is invisible in exactly the runs in which every prediction that is followed
is overruled in the next cycle or goes where fetch would have gone anyway
(`predictorInvisible_iff`). The two cores agree cycle for cycle then: the predictor does not
make the core any faster either. A program without conditional branches and without loads has only
such runs (`predictorInvisible_of_jumps`).
-/

namespace RiscvCore.Pipeline

open Rtl

/-! ### The core -/

/-- The state with an empty branch target buffer. -/
def unpredicted (c : Core) : Core := { c with ifStage := { c.ifStage with btb := btbReset } }

/-- `core_top` with a branch target buffer that is emptied at every edge. -/
def coreTopUnpredicted (imem : Imem) : Machine Core CoreIn where
  init := .reset
  next i c := unpredicted (c.next imem i)

/-- Its state in a cycle of a run of the program `M`. -/
def Run.unpredictedSt (imem : Imem) (M : Data → Data) (D : ℕ → Data) (t : ℕ) : Core :=
  (coreTopUnpredicted imem).run (Run.program imem M D).bus t

/-- Where fetch goes on in a cycle without redirect and prediction. -/
def fallThrough (c : Core) : Data :=
  if c.hduStall = true then c.ifStage.pc else c.ifStage.pc + 4#32

/-- The states of the two cores are the same but for the branch target buffer and, in a cycle with a
redirect, the program counter. -/
structure SameButFetch (c p : Core) : Prop where
  /-- Only the fetch stage may differ, -/
  rest : p = { c with ifStage := p.ifStage }
  idInstr : p.ifStage.idInstr = c.ifStage.idInstr
  idPc : p.ifStage.idPc = c.ifStage.idPc
  pc : c.exMispredict = false → p.ifStage.pc = c.ifStage.pc
  btb : p.ifStage.btb = btbReset

namespace SameButFetch

variable {c p : Core} (h : SameButFetch c p)
include h

/-! The wires do not see the fetch stage. -/

theorem exMispredict : p.exMispredict = c.exMispredict := by rw [h.rest]; rfl

theorem hduStall : p.hduStall = c.hduStall := by rw [h.rest]; rfl

theorem idExIn : p.idExIn = c.idExIn := by rw [h.rest]; rfl

theorem exMemIn : p.exMemIn = c.exMemIn := by rw [h.rest]; rfl

theorem ifId : p.ifId = c.ifId := by rw [h.rest]

theorem idEx : p.idEx = c.idEx := by rw [h.rest]

variable (imem : Imem) {i j : CoreIn} (hi : i.rstN = true) (hj : j.rstN = true)
  (hd : j.dmemRdata = i.dmemRdata)
  (hb : c.exMispredict = false → j.instrData = i.instrData)
include hi hj hd hb

omit hb in
/-- Behind the decode stage an edge keeps the states together. -/
theorem next_back : (p.next imem j).rf = (c.next imem i).rf ∧
    (p.next imem j).idEx = (c.next imem i).idEx ∧ (p.next imem j).exMem = (c.next imem i).exMem ∧
      (p.next imem j).memWb = (c.next imem i).memWb := by
  refine ⟨?_, ?_, ?_, ?_⟩
  · rw [Core.next_rf _ hj, Core.next_rf _ hi, h.rest]
  · rw [Core.next_idEx _ hj, Core.next_idEx _ hi, h.exMispredict, h.idExIn]
  · rw [Core.next_exMem _ hj, Core.next_exMem _ hi, h.exMemIn]
  · rw [Core.next_memWb _ hj, Core.next_memWb _ hi, hd, h.rest]
    rfl

omit hd in
/-- So does the instruction that is decoded next. -/
theorem next_ifId : (p.next imem j).ifId = (c.next imem i).ifId := by
  rw [Core.next_ifId _ hj, Core.next_ifId _ hi, h.exMispredict, h.hduStall, h.ifId]
  cases hm : c.exMispredict with
  | true => rfl
  | false => rw [h.pc hm, hb hm]

/-- **The step**: the states stay together if the program counters do where it matters. -/
theorem next_iff : SameButFetch (c.next imem i) (unpredicted (p.next imem j)) ↔
    ((c.next imem i).exMispredict = false →
      (p.next imem j).ifStage.pc = (c.next imem i).ifStage.pc) := by
  refine ⟨fun hn => hn.pc, fun hpc => ?_⟩
  obtain ⟨hrf, hex, hmem, hwb⟩ := h.next_back imem hi hj hd
  have hid := h.next_ifId imem hi hj hb
  refine ⟨?_, ?_, ?_, hpc, rfl⟩
  · show Core.mk _ (p.next imem j).ifId (p.next imem j).rf (p.next imem j).idEx
        (p.next imem j).exMem (p.next imem j).memWb = _
    rw [hid, hrf, hex, hmem, hwb]
    rfl
  · show (p.next imem j).ifStage.idInstr = _
    rw [Core.next_idInstr _ hj, Core.next_idInstr _ hi, h.exMispredict, h.hduStall, h.idInstr]
    cases hm : c.exMispredict with
    | true => rfl
    | false => rw [h.pc hm]
  · show (p.next imem j).ifStage.idPc = _
    rw [Core.next_idPc _ hj, Core.next_idPc _ hi, h.exMispredict, h.hduStall, h.idPc]
    cases hm : c.exMispredict with
    | true => rfl
    | false => rw [h.pc hm]

omit hd hb in
/-- The program counters after a redirect, and after a cycle without. -/
theorem next_pc_eq_iff : (p.next imem j).ifStage.pc = (c.next imem i).ifStage.pc ↔
    (c.exMispredict = false → btbHit c.ifStage.btb c.ifStage.pc = true →
      btbPredictTarget c.ifStage.btb c.ifStage.pc = fallThrough c) := by
  have hmiss : btbHit p.ifStage.btb p.ifStage.pc = false := by
    rw [h.btb]
    rfl
  rw [Core.next_pc _ hj, Core.next_pc _ hi, h.exMispredict, h.hduStall, h.idEx,
    if_neg (c := btbHit p.ifStage.btb p.ifStage.pc = true) (by simp [hmiss])]
  cases hm : c.exMispredict with
  | true => simp
  | false =>
    rw [h.pc hm]
    show fallThrough c = _ ↔ _
    cases hit : btbHit c.ifStage.btb c.ifStage.pc with
    | true => simp [eq_comm]
    | false => simp [fallThrough]

end SameButFetch

/-! ### Runs -/

section Runs

variable (imem : Imem) (M : Data → Data) (D : ℕ → Data)

/-- **The predictor is invisible**: cycle for cycle the core is where it would be without. -/
def PredictorInvisible : Prop :=
  ∀ t, SameButFetch ((Run.program imem M D).st t) (Run.unpredictedSt imem M D t)

/-- Every prediction that is followed goes where fetch would have gone, or is overruled in the next
cycle. -/
def PredictionsHarmless (r : Run) : Prop :=
  ∀ t, (r.st t).exMispredict = false → btbHit (r.st t).ifStage.btb (r.st t).ifStage.pc = true →
    btbPredictTarget (r.st t).ifStage.btb (r.st t).ifStage.pc = fallThrough (r.st t) ∨
      (r.st (t + 1)).exMispredict = true

variable {imem M D}

/-- What keeps the two cores together for one more cycle. -/
theorem SameButFetch.succ_iff {t : ℕ}
    (h : SameButFetch ((Run.program imem M D).st t) (Run.unpredictedSt imem M D t)) :
    SameButFetch ((Run.program imem M D).st (t + 1)) (Run.unpredictedSt imem M D (t + 1)) ↔
      (((Run.program imem M D).st t).exMispredict = false →
        btbHit ((Run.program imem M D).st t).ifStage.btb
            ((Run.program imem M D).st t).ifStage.pc = true →
          btbPredictTarget ((Run.program imem M D).st t).ifStage.btb
              ((Run.program imem M D).st t).ifStage.pc = fallThrough ((Run.program imem M D).st t) ∨
            ((Run.program imem M D).st (t + 1)).exMispredict = true) := by
  have hb : ((Run.program imem M D).st t).exMispredict = false →
      M (Run.unpredictedSt imem M D t).ifStage.pc = M ((Run.program imem M D).st t).ifStage.pc :=
    fun hm => congrArg M (h.pc hm)
  rw [Run.st_succ]
  refine (h.next_iff imem (i := ⟨true, M ((Run.program imem M D).st t).ifStage.pc, D t⟩)
    (j := ⟨true, M (Run.unpredictedSt imem M D t).ifStage.pc, D t⟩) rfl rfl rfl hb).trans ?_
  rw [h.next_pc_eq_iff imem rfl rfl]
  simp only [← Bool.not_eq_true, Run.inp_program]
  tauto

/-- Harmless predictions keep the two cores together. -/
theorem PredictionsHarmless.sameButFetch (h : PredictionsHarmless (.program imem M D)) (t : ℕ) :
    SameButFetch ((Run.program imem M D).st t) (Run.unpredictedSt imem M D t) := by
  induction t with
  | zero => exact ⟨rfl, rfl, rfl, fun _ => rfl, rfl⟩
  | succ t ih => exact ih.succ_iff.mpr (h t)

/-- **The predictor is invisible exactly if its predictions are harmless.** -/
theorem predictorInvisible_iff (imem : Imem) (M : Data → Data) (D : ℕ → Data) :
    PredictorInvisible imem M D ↔ PredictionsHarmless (.program imem M D) := by
  refine ⟨fun h t => ?_, fun h => h.sameButFetch⟩
  exact (h t).succ_iff.mp (h (t + 1))

end Runs

/-! ### Programs -/

section Jumps

variable {M : Data → Data} {imem : Imem} {D : ℕ → Data}

/-- Without loads that write a register nothing stalls. -/
theorem not_hduStall_of_noLoad
    (hl : ∀ a, opcodeField (M a) = some .load → rdField (M a) = 0#5) (t : ℕ) :
    ((Run.program imem M D).st t).hduStall = false := by
  rw [← Bool.not_eq_true, Core.hduStall_iff]
  rintro ⟨hload, h0, -⟩
  rcases t with _ | t
  · exact absurd hload Bool.false_ne_true
  obtain ⟨hex, hop⟩ := (Run.program imem M D).load_of_memToReg t hload
  rw [hex] at h0
  obtain hbub | hM := (Provenance.program imem M D t).ifId
  · rw [hbub] at hop
    exact absurd hop (by decide)
  · rw [hM] at hop
    refine h0 ?_
    show rdField ((Run.program imem M D).st t).ifId.instr = 0#5
    rw [hM]
    exact hl _ hop

/-- **Programs whose control flow is all jumps**, without loads: each jump is predicted only to be
overruled. -/
theorem predictorInvisible_of_jumps (imem : Imem) (M : Data → Data) (D : ℕ → Data)
    (hb : ∀ a, opcodeField (M a) ≠ some .branch)
    (hl : ∀ a, opcodeField (M a) = some .load → rdField (M a) = 0#5) :
    PredictorInvisible imem M D := by
  refine PredictionsHarmless.sameButFetch fun t hm hit => .inr ?_
  obtain ⟨hctl, -⟩ := (Provenance.program imem M D t).of_btbHit hit
  rw [Core.exMispredict_iff, Run.ifId_load rfl hm (not_hduStall_of_noLoad hl t)]
  exact .inr (hctl.resolve_left (hb _))

/-- `addi x1, x1, 1; addi x0, x0, -4; jal x0, -8`: the jump is predicted from the second round
on. -/
def countForever : List Data := [0x00108093#32, 0xFFC00013#32, 0xFF9FF06F#32]

theorem predictorInvisible_of_jumps_countForever :
    PredictorInvisible (fun _ => 0#32) (image countForever) fun _ => 0#32 := by
  have hw : ∀ a, image countForever a ∈ instrNop :: countForever := fun a =>
    List.mem_cons.mpr (image_mem_or countForever a).symm
  have hall : ∀ w ∈ instrNop :: countForever, opcodeField w ≠ some .branch ∧
      (opcodeField w = some .load → rdField w = 0#5) := by
    simp only [countForever, List.forall_mem_cons, List.not_mem_nil, false_imp_iff, implies_true,
      and_true]
    decide
  exact predictorInvisible_of_jumps _ _ _ (fun a => (hall _ (hw a)).1) fun a => (hall _ (hw a)).2

end Jumps

end RiscvCore.Pipeline
