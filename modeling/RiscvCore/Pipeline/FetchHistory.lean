import RiscvCore.Pipeline.Provenance
import RiscvCore.Units.TargetBuffer

/-!
# Where fetch goes

The branch target buffer inside the core, in every run. The buffer of the fetch stage is `btb` of
`Units.TargetBuffer` under the redirects of the run (`btb_eq_bufferAt`; `bufferShownAt_btbIn` for
what it shows with the reset released), so what it predicts is what the core did: fetch goes on from
an address to where it went on from there the last time, if that was a redirect, unless one from an
address that shares the entry, or a reset, came in between (`fetches`). Nothing else is remembered:
not whether a branch was taken since, nor the operands.
-/

namespace RiscvCore.Pipeline

open Rtl RiscvCore.Units

/-- The inputs of the buffer in a cycle of a run. -/
def btbIn (r : Run) (t : ℕ) : BtbIn where
  rstN := (r.inp t).rstN
  update := (r.st t).exMispredict
  actualPc := (r.st t).ifStage.idPc
  actualTarget := (r.st t).ex.targetAddr

/-- In cycle `t` the core remembers the redirect in cycle `s` of the instruction at `pc`. -/
structure Remembers (r : Run) (t : ℕ) (pc : Data) (s : ℕ) : Prop where
  lt : s < t
  redirect : (r.st s).exMispredict = true
  here : (r.st s).ifId.pc = pc
  noReset : ∀ v, s ≤ v → v < t → (r.inp v).rstN = true
  last : ∀ v, s < v → v < t → (r.st v).exMispredict = true →
    btbIdx 4 (r.st v).ifId.pc ≠ btbIdx 4 pc

section Buffer

variable {r : Run} {t s : ℕ} {pc : Data}

/-- The two IF/ID registers have the same program counter. -/
theorem idPc_eq (r : Run) (t : ℕ) : (r.st t).ifStage.idPc = (r.st t).ifId.pc := by
  induction t with
  | zero => rfl
  | succ t ih =>
    cases hr : (r.inp t).rstN with
    | false =>
      rw [Run.st_succ_of_reset r hr]
      rfl
    | true =>
      rw [Run.st_succ, Core.next_idPc _ hr, Core.next_ifId _ hr, ih]
      split_ifs <;> rfl

theorem btb_eq_bufferAt (r : Run) (t : ℕ) : (r.st t).ifStage.btb = bufferAt 4 (btbIn r) t := by
  induction t with
  | zero => rfl
  | succ t ih =>
    rw [Run.st_succ]
    show btbNext (r.inp t).rstN (r.st t).exMispredict (r.st t).ifStage.idPc (r.st t).ex.targetAddr
        (r.st t).ifStage.btb = _
    rw [ih]
    rfl

variable (hr : (r.inp t).rstN = true)
include hr

theorem bufferShownAt_btbIn : bufferShownAt 4 (btbIn r) t = (r.st t).ifStage.btb := by
  rw [btb_eq_bufferAt]
  exact if_neg (by simp [btbIn, hr])

/-- What is remembered is the last update of the entry. -/
theorem remembers_iff : Remembers r t pc s ↔
    LastUpdate 4 (btbIn r) t pc s ∧ (btbIn r s).actualPc = pc := by
  have hwrites : ∀ v, (btbPort 4 (btbIn r v)).Writes (btbIdx 4 pc) ↔
      (r.inp v).rstN = true ∧ (r.st v).exMispredict = true ∧
        btbIdx 4 (r.st v).ifId.pc = btbIdx 4 pc := by
    intro v
    rw [← idPc_eq]
    rfl
  have hpc : (btbIn r s).actualPc = (r.st s).ifId.pc := idPc_eq r s
  rw [hpc]
  constructor
  · rintro ⟨hlt, hm, rfl, hres, hlast⟩
    refine ⟨⟨⟨hlt, (hwrites s).mpr ⟨hres s le_rfl hlt, hm, rfl⟩, fun v hv hvt => ?_⟩, hr⟩, rfl⟩
    refine ⟨hres v (Nat.le_of_lt hv) hvt, fun hw => ?_⟩
    obtain ⟨-, hmv, hidx⟩ := (hwrites v).mp hw
    exact hlast v hv hvt hmv hidx
  · rintro ⟨⟨⟨hlt, hw, hsince⟩, -⟩, rfl⟩
    obtain ⟨hrs, hm, -⟩ := (hwrites s).mp hw
    refine ⟨hlt, hm, rfl, fun v hv hvt => ?_, fun v hv hvt hmv hidx => ?_⟩
    · rcases Nat.eq_or_lt_of_le hv with rfl | hgt
      · exact hrs
      · exact (hsince v hgt hvt).1
    · exact (hsince v hv hvt).2 ((hwrites v).mpr ⟨(hsince v hv hvt).1, hmv, hidx⟩)

/-- A remembered redirect is what is predicted: where fetch went from it. -/
theorem Remembers.predicts (h : Remembers r t pc s) : btbHit (r.st t).ifStage.btb pc = true ∧
    btbPredictTarget (r.st t).ifStage.btb pc = (r.st (s + 1)).ifStage.pc := by
  obtain ⟨hu, hpc⟩ := (remembers_iff hr).mp h
  have hhit := (btbHit_iff_of_lastUpdate hu).mpr hpc
  rw [← bufferShownAt_btbIn hr]
  refine ⟨hhit, ?_⟩
  rw [btbPredictTarget, if_pos hhit, entry_of_lastUpdate hu,
    Run.pc_redirect (h.noReset s le_rfl h.lt) h.redirect]
  rfl

/-- Nothing else is. -/
theorem not_btbHit_of_not_remembers (h : ∀ s, ¬ Remembers r t pc s) :
    ¬ btbHit (r.st t).ifStage.btb pc = true := by
  rw [← bufferShownAt_btbIn hr]
  intro hhit
  by_cases hu : ∃ s, LastUpdate 4 (btbIn r) t pc s
  · obtain ⟨s, hs⟩ := hu
    exact h s ((remembers_iff hr).mpr ⟨hs, (btbHit_iff_of_lastUpdate hs).mp hhit⟩)
  · exact not_btbHit_of_not_lastUpdate (not_exists.mp hu) hhit

end Buffer

/-- Where fetch goes on after cycle `t`, by what the core did before. -/
structure Fetches (r : Run) (t : ℕ) : Prop where
  /-- To the target of a redirect, -/
  redirect : (r.st t).exMispredict = true →
    (r.st (t + 1)).ifStage.pc = alignTarget ((r.st t).idEx.pc + (r.st t).idEx.imm)
  /-- or, stalled or not, to where it went from the redirect that is remembered, -/
  again : (r.st t).exMispredict = false → ∀ s, Remembers r t (r.st t).ifStage.pc s →
    (r.st (t + 1)).ifStage.pc = (r.st (s + 1)).ifStage.pc
  /-- or straight ahead. -/
  ahead : (r.st t).exMispredict = false → (∀ s, ¬ Remembers r t (r.st t).ifStage.pc s) →
    (r.st (t + 1)).ifStage.pc =
      if (r.st t).hduStall = true then (r.st t).ifStage.pc else (r.st t).ifStage.pc + 4#32

/-- **Fetch does again what the core did last.** -/
theorem fetches (r : Run) (t : ℕ) (hr : (r.inp t).rstN = true) : Fetches r t where
  redirect := Run.pc_redirect hr
  again hm s hs := by
    obtain ⟨hhit, htarget⟩ := hs.predicts hr
    rw [Run.st_succ, Core.next_pc _ hr, if_neg (by simp [hm]), if_pos hhit, htarget]
  ahead hm hno := by
    have hmiss := not_btbHit_of_not_remembers hr hno
    rw [Run.st_succ, Core.next_pc _ hr, if_neg (by simp [hm]), if_neg hmiss]

/-- In cycle 2 the jump that redirected in cycle 1 is fetched again. -/
theorem fetches_selfJump : Fetches (.ofWords selfJump) 2 := fetches _ 2 rfl

end RiscvCore.Pipeline
