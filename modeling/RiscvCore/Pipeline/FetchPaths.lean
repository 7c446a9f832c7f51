import RiscvCore.Pipeline.Run

/-!
# The two fetch paths

An instruction is fetched twice: `if_stage` reads its local memory into an IF/ID register
of its own, and `pr_if_id`, from which the core decodes, takes the word on the instruction
bus. With one image behind both, the registers always hold the same program counter, but
the local memory is indexed by five bits of it only. They hold the same instructions
exactly if every word that is latched has its equal in the first 32 words of the image
(`pathsAgree_iff`), and so while the program counter stays below 128 (`pathsAgree_of_lt`).
-/

namespace RiscvCore.Pipeline

open Rtl

/-- The word of an image of 1024 words at a byte address. -/
def wordAt (M : Imem) (a : Data) : Data := M (a.extractLsb' 2 10)

/-- The image `M` is served on the instruction bus, at the addresses that it has. -/
def Serves (M : Imem) (c : Core) (i : CoreIn) : Prop :=
  c.instrAddr.toNat < 4096 → i.instrData = wordAt M c.instrAddr

/-- The same instruction, or each path's bubble. -/
def SameInstr (x y : Data) : Prop := x = y ∨ x = instrNop ∧ y = 0#32

/-- The two IF/ID registers agree. -/
structure PathsAgree (c : Core) : Prop where
  pc : c.ifStage.idPc = c.ifId.pc
  instr : SameInstr c.ifStage.idInstr c.ifId.instr

/-! ### An edge -/

namespace PathsAgree

variable {c : Core} {M : Imem} {i : CoreIn}

theorem reset : PathsAgree .reset := ⟨rfl, .inr ⟨rfl, rfl⟩⟩

/-- A reset or a flush puts a bubble in both registers. -/
theorem next_of_flush (h : i.rstN = false ∨ c.exMispredict = true) : PathsAgree (c.next M i) := by
  cases hr : i.rstN with
  | false =>
    rw [Core.next_of_reset _ hr]
    exact reset
  | true =>
    have hm : c.exMispredict = true := by simpa [hr] using h
    refine ⟨?_, .inr ?_⟩
    · rw [Core.next_idPc _ hr, Core.next_ifId _ hr, if_pos hm, if_pos hm]
      rfl
    · rw [Core.next_idInstr _ hr, Core.next_ifId _ hr, if_pos hm, if_pos hm]
      exact ⟨rfl, rfl⟩

/-- A stall holds both. -/
theorem next_of_stall (h : PathsAgree c) (hr : i.rstN = true) (hm : c.exMispredict = false)
    (hs : c.hduStall = true) : PathsAgree (c.next M i) := by
  refine ⟨?_, ?_⟩
  · rw [Core.next_idPc _ hr, Core.next_ifId _ hr]
    simpa [hm, hs] using h.pc
  · rw [Core.next_idInstr _ hr, Core.next_ifId _ hr]
    simpa [hm, hs] using h.instr

/-- Otherwise both load, and what they load decides. -/
theorem next_of_load (hr : i.rstN = true) (hm : c.exMispredict = false)
    (hs : c.hduStall = false) :
    PathsAgree (c.next M i) ↔ SameInstr (imem M c.ifStage.pc) i.instrData := by
  have hpc : (c.next M i).ifStage.idPc = (c.next M i).ifId.pc := by
    rw [Core.next_idPc _ hr, Core.next_ifId _ hr]
    simp [hm, hs]
  have hinstr : SameInstr (c.next M i).ifStage.idInstr (c.next M i).ifId.instr ↔
      SameInstr (imem M c.ifStage.pc) i.instrData := by
    rw [Core.next_idInstr _ hr, Core.next_ifId _ hr]
    simp [hm, hs]
  exact ⟨fun h => hinstr.mp h.instr, fun h => ⟨hpc, hinstr.mpr h⟩⟩

end PathsAgree

/-! ### The local memory -/

/-- The local memory holds the image's first 32 words. -/
theorem imem_eq_wordAt (M : Imem) {a : Data} (h : a.toNat < 128) : imem M a = wordAt M a := by
  have hidx : (a.extractLsb' 2 5).setWidth 10 = a.extractLsb' 2 10 := by
    apply BitVec.eq_of_toNat_eq
    simp [Nat.shiftRight_eq_div_pow]
    omega
  rw [imem, hidx, wordAt]

/-! ### A run -/

section Run

variable {r : Run} {t : ℕ}

/-- Only an edge at which the registers load can end their agreement. -/
theorem PathsAgree.succ (h : PathsAgree (r.st t))
    (hload : r.Enters t → PathsAgree (r.st (t + 1))) : PathsAgree (r.st (t + 1)) := by
  by_cases hf : (r.inp t).rstN = false ∨ (r.st t).exMispredict = true
  · rw [r.st_succ]
    exact .next_of_flush hf
  · simp only [not_or, Bool.not_eq_false, Bool.not_eq_true] at hf
    cases hs : (r.st t).hduStall with
    | true =>
      rw [r.st_succ]
      exact h.next_of_stall hf.1 hf.2 hs
    | false => exact hload (Run.enters_iff.mpr ⟨hf.1, hf.2, hs⟩)

/-- After an edge at which they load, the registers agree if the words do. -/
theorem pathsAgree_succ_iff (ht : r.Enters t) (hserve : Serves r.imem (r.st t) (r.inp t))
    (hpc : (r.st t).ifStage.pc.toNat < 4096) : PathsAgree (r.st (t + 1)) ↔
      SameInstr (imem r.imem (r.st t).ifStage.pc) (wordAt r.imem (r.st t).ifStage.pc) := by
  obtain ⟨hr, hm, hs⟩ := Run.enters_iff.mp ht
  rw [r.st_succ, PathsAgree.next_of_load hr hm hs, hserve hpc]
  rfl

/-- The registers agree as long as every load keeps them so. -/
theorem pathsAgree_of_loads (h : ∀ t, r.Enters t → PathsAgree (r.st (t + 1))) (t : ℕ) :
    PathsAgree (r.st t) := by
  induction t with
  | zero => exact .reset
  | succ t ih => exact ih.succ (h t)

end Run

/-- A program that stays within the first 32 words is fetched alike. -/
theorem pathsAgree_of_lt (r : Run) (hserve : ∀ t, Serves r.imem (r.st t) (r.inp t))
    (hpc : ∀ t, (r.st t).ifStage.pc.toNat < 128) (t : ℕ) : PathsAgree (r.st t) := by
  refine pathsAgree_of_loads (fun t ht => ?_) t
  have hlt := hpc t
  exact (pathsAgree_succ_iff ht (hserve t) (by omega)).mpr (.inl (imem_eq_wordAt r.imem hlt))

/-- **The fetch paths agree exactly if the words that are latched do**, in every run of an image
whose program counter stays within it. -/
theorem pathsAgree_iff (r : Run) (hserve : ∀ t, Serves r.imem (r.st t) (r.inp t))
    (hpc : ∀ t, (r.st t).ifStage.pc.toNat < 4096) :
    (∀ t, PathsAgree (r.st t)) ↔ ∀ t, r.Enters t →
      SameInstr (imem r.imem (r.st t).ifStage.pc) (wordAt r.imem (r.st t).ifStage.pc) := by
  constructor
  · intro h t ht
    exact (pathsAgree_succ_iff ht (hserve t) (hpc t)).mp (h (t + 1))
  · intro h
    exact pathsAgree_of_loads fun t ht =>
      (pathsAgree_succ_iff ht (hserve t) (hpc t)).mpr (h t ht)

/-! ### A program that runs beyond word 31 -/

/-- `addi x0, x0, 128; jal x0, 0`, which jumps to address 128, and `jal x0, 0` at address 132,
which jumps back to 128; the other words are zero. -/
def farLoop : Imem := fun a =>
  if a = 0#10 then 0x08000013#32 else if a = 1#10 ∨ a = 33#10 then 0x0000006F#32 else 0#32

/-- The image in the local memory and on the bus. -/
def farLoopRun : Run := .program farLoop (wordAt farLoop) fun _ => 0#32

theorem serves_farLoopRun (t : ℕ) :
    Serves farLoopRun.imem (farLoopRun.st t) (farLoopRun.inp t) := fun _ => rfl

/-- The loop takes three cycles. -/
theorem farLoopRun_recurs : farLoopRun.st 9 = farLoopRun.st 6 := by
  have hif : (farLoopRun.st 9).ifStage = (farLoopRun.st 6).ifStage := by
    refine IfStage.ext (by decide +kernel) ?_ (by decide +kernel) (by decide +kernel)
    funext i
    revert i
    decide +kernel
  have hrf : (farLoopRun.st 9).rf = (farLoopRun.st 6).rf := by
    funext a
    revert a
    decide +kernel
  exact Core.ext hif (by decide +kernel) hrf (by decide +kernel) (by decide +kernel)
    (by decide +kernel)

theorem pc_farLoopRun (t : ℕ) : (farLoopRun.st t).ifStage.pc.toNat < 4096 := by
  refine Machine.forall_run_of_recurs (m := coreTop farLoop) (e := farLoopRun.bus) (j := 6) (p := 3)
    (P := fun c => c.ifStage.pc.toNat < 4096) (by decide) farLoopRun_recurs (fun _ _ => rfl)
    (fun t ht => ?_) t
  have hlt : ∀ t, t < 9 → (farLoopRun.st t).ifStage.pc.toNat < 4096 := by decide +kernel
  exact hlt t ht

theorem pathsAgree_iff_farLoop :
    (∀ t, PathsAgree (farLoopRun.st t)) ↔ ∀ t, farLoopRun.Enters t →
      SameInstr (imem farLoopRun.imem (farLoopRun.st t).ifStage.pc)
        (wordAt farLoopRun.imem (farLoopRun.st t).ifStage.pc) :=
  pathsAgree_iff farLoopRun serves_farLoopRun pc_farLoopRun

/-- In cycle 4, `if_stage` holds word 0 for the address 128. -/
theorem not_pathsAgree : ¬ ∀ r : Run, (∀ t, Serves r.imem (r.st t) (r.inp t)) →
    (∀ t, (r.st t).ifStage.pc.toNat < 4096) → ∀ t, PathsAgree (r.st t) := by
  intro h
  have h4 := (h farLoopRun serves_farLoopRun pc_farLoopRun 4).instr
  revert h4
  unfold SameInstr
  decide +kernel

end RiscvCore.Pipeline
