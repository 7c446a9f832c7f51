import RiscvCore.Pipeline.Operands

/-!
# Branches and jumps

The redirect of `core_top` mixes two instructions. Whether there is one is decided by the
opcode of the instruction in ID, but the comparator and the address generator are in EX
and work on the operands, the program counter and the second operand of the instruction
there, the one in front. The comparator always tests equality, the base is always the
program counter, and the flush that a redirect causes hits the ID/EX register too, so a
jump never reaches EX and never links.

## What is proved

* `resolvesBranches_iff` — a branch resolves correctly exactly where the instruction in
  front of it happens to hold the right operands and the right target.
* `performsJumps_iff` — a jump is correct exactly where, besides, it has nothing to link.
-/

namespace RiscvCore.Pipeline

open Rtl RiscvCore.Units

/-- A conditional branch. -/
def IsBranch : Rv32i.Instr → Prop
  | .branch _ _ _ _ => True
  | _ => False

/-- `JAL` or `JALR`. -/
def IsJump : Rv32i.Instr → Prop
  | .jal _ _ => True
  | .jalr _ _ _ => True
  | _ => False

/-- A conditional branch, fetched in cycle `u` without a hit, in ID in the next. -/
structure BranchAt (r : Run) (u : ℕ) (i : Rv32i.Instr) : Prop extends Decodes r u i where
  branch : IsBranch i
  noHit : btbHit (r.st u).ifStage.btb (r.st u).ifStage.pc = false

/-- A jump, fetched in cycle `u`, in ID in the next. -/
structure JumpAt (r : Run) (u : ℕ) (i : Rv32i.Instr) : Prop extends Decodes r u i where
  jump : IsJump i

/-- Where the instruction `i`, fetched in cycle `u`, sends control: by the instruction set,
from its address and the register file's values while it is in ID. -/
def goal (r : Run) (u : ℕ) (i : Rv32i.Instr) : Data :=
  i.nextPc (r.st u).ifStage.pc (regState (r.st (u + 1)).rf)

/-- The target that EX computes, from the instruction in EX. -/
def exTarget (c : Core) : Data := alignTarget (c.idEx.pc + c.idEx.imm)

/-- Where a branch in ID sends control: to the target of the instruction in EX if that
instruction's operands are equal, and on to the next address if not. -/
def resolved (c : Core) : Data :=
  if c.idEx.regData1 = c.idEx.regData2 then exTarget c else c.ifId.pc + 4#32

section Redirect

variable {r : Run} {u : ℕ}

theorem JumpAt.exMispredict {i : Rv32i.Instr} (h : JumpAt r u i) :
    (r.st (u + 1)).exMispredict = true := by
  rw [Core.exMispredict_iff, Run.ifId_of_idAt h.enters]
  cases i with
  | jal d imm =>
    have hop := (Rv32i.encodes_of_decode h.decode).1
    exact .inr (.inl ((opcodeField_eq_some_iff _ .jal).mpr hop))
  | jalr d a imm =>
    have hop := (Rv32i.encodes_of_decode h.decode).1
    exact .inr (.inr ((opcodeField_eq_some_iff _ .jalr).mpr hop))
  | _ => exact h.jump.elim

/-- A jump is flushed in the cycle in which it redirects: it issues in none. -/
theorem JumpAt.not_issues {i : Rv32i.Instr} (h : JumpAt r u i) {s : ℕ} (hs : r.idAt s = some u) :
    ¬ r.Issues s := by
  have hm := h.exMispredict
  rintro ⟨-, hms, -⟩
  rcases Nat.lt_or_ge (u + 1) s with hlt | hge
  · -- it left ID in cycle `u + 1`
    have hstay := Run.idAt_of_le (v := u + 2) hs (by omega) hlt
    rw [Run.idAt, if_pos (.inr hm)] at hstay
    cases hstay
  · have hlt := Run.lt_of_idAt hs
    obtain rfl : s = u + 1 := by omega
    rw [hms] at hm
    cases hm

variable (hr : ∀ t, (r.inp t).rstN = true)
include hr

/-- After a redirect the instruction at the target enters ID next, behind one bubble. -/
theorem nextEnters_of_exMispredict (hm : (r.st (u + 1)).exMispredict = true) :
    r.NextEnters u (exTarget (r.st (u + 1))) := by
  obtain ⟨hs, hm2⟩ := Run.quiet_of_bubble (Run.ifId_flush (hr (u + 1)) hm)
  refine ⟨u + 2, by omega, Run.enters_iff.mpr ⟨hr _, hm2, hs⟩, Run.pc_redirect (hr _) hm, ?_⟩
  intro v huv hv he
  obtain rfl : v = u + 1 := by omega
  rw [(Run.enters_iff.mp he).2.1] at hm
  cases hm

theorem nextEnters_of_quiet (he : r.Enters u)
    (hit : btbHit (r.st u).ifStage.btb (r.st u).ifStage.pc = false)
    (hm : (r.st (u + 1)).exMispredict = false) (hs : (r.st (u + 1)).hduStall = false) :
    r.NextEnters u ((r.st u).ifStage.pc + 4#32) := by
  obtain ⟨-, hm0, hs0⟩ := Run.enters_iff.mp he
  refine ⟨u + 1, by omega, Run.enters_iff.mpr ⟨hr _, hm, hs⟩, ?_, fun v _ _ => by omega⟩
  rw [Run.st_succ, Core.next_pc _ (hr u), if_neg (by simp [hm0]), if_neg (by simp [hit]),
    if_neg (by simp [hs0])]

/-- **What a branch does**, whatever it compares. -/
theorem BranchAt.nextEnters {i : Rv32i.Instr} (h : BranchAt r u i) :
    r.NextEnters u (resolved (r.st (u + 1))) := by
  have hid := Run.ifId_of_idAt h.enters
  cases i with
  | branch o a b imm =>
    obtain ⟨hop, -, rfl, rfl, -⟩ := Rv32i.encodes_of_decode h.decode
    have hopc := (opcodeField_eq_some_iff _ .branch).mpr hop
    have ha : Settled (r.st (u + 1)) (rs1Field (r.st (u + 1)).ifId.instr) :=
      hid ▸ settled_of_distant (h.distant _ (.head _))
    have hb : Settled (r.st (u + 1)) (rs2Field (r.st (u + 1)).ifId.instr) :=
      hid ▸ settled_of_distant (h.distant _ (.tail _ (.head _)))
    have hmis : (r.st (u + 1)).exMispredict = true ↔
        (r.st (u + 1)).idEx.regData1 = (r.st (u + 1)).idEx.regData2 := by
      rw [Core.exMispredict_iff, Core.exIn_opAFwd, Core.exIn_opBFwd, ha.forward, hb.forward, hid]
      simp [hopc]
    unfold resolved
    split_ifs with heq
    · exact nextEnters_of_exMispredict hr (hmis.mpr heq)
    · have hm : (r.st (u + 1)).exMispredict = false := by
        rw [← Bool.not_eq_true, hmis]
        exact heq
      rw [hid]
      exact nextEnters_of_quiet hr h.enters h.noHit hm (not_hduStall_of_settled ha hb)
  | _ => exact h.branch.elim

/-- **What a jump does.** -/
theorem JumpAt.nextEnters {i : Rv32i.Instr} (h : JumpAt r u i) :
    r.NextEnters u (exTarget (r.st (u + 1))) :=
  nextEnters_of_exMispredict hr h.exMispredict

end Redirect

/-! ### Branches -/

/-- **Conditional branches** resolve as the instruction set says. -/
def ResolvesBranches (r : Run) : Prop := ∀ u i, BranchAt r u i → r.NextEnters u (goal r u i)

/-- The instruction in front of every branch sends control where the branch should: if its
operands are equal its target is the address, and if not the address is the next. -/
def FrontResolves (r : Run) : Prop :=
  ∀ u i, BranchAt r u i → resolved (r.st (u + 1)) = goal r u i

/-- **Branches resolve correctly exactly where the instruction in front of each makes them.** -/
theorem resolvesBranches_iff (imem : Imem) (M : Data → Data) (D : ℕ → Data) :
    ResolvesBranches (.program imem M D) ↔ FrontResolves (.program imem M D) :=
  forall₃_congr fun _ _ h => (h.nextEnters fun _ => rfl).iff_eq _

/-- `addi x1, x0, 5; beq x0, x0, 8`. -/
def branchBehind : List Data := [0x00500093#32, 0x00000463#32]

/-- The branch at address 4 compares the operands of the `addi` in EX, zero and five, and
falls through. -/
theorem not_resolvesBranches_branchBehind : ¬ ResolvesBranches (.ofWords branchBehind) := by
  intro h
  have hb : BranchAt (.ofWords branchBehind) 1 (.branch .beq 0#5 0#5 8#32) :=
    { enters := by unfold Run.Enters; decide +kernel
      decode := by decide +kernel
      distant := by simp only [Rv32i.Instr.sources, List.forall_mem_cons]; decide +kernel
      branch := trivial
      noHit := by decide +kernel }
  have heq := (hb.nextEnters fun _ => rfl).unique (h 1 _ hb)
  revert heq
  decide +kernel

/-! ### Jumps -/

/-- The instruction fetched in cycle `u` writes `v` to register `a`, once. -/
def LinksOnce (r : Run) (u : ℕ) (a : Address) (v : Data) : Prop :=
  ∃! s, r.idAt s = some u ∧ r.WritesBack s a v

/-- **Jumps** go where the instruction set says and link. -/
def PerformsJumps (r : Run) : Prop :=
  ∀ u i, JumpAt r u i → r.NextEnters u (goal r u i) ∧
    (rdField (r.inp u).instrData ≠ 0#5 →
      LinksOnce r u (rdField (r.inp u).instrData) ((r.st u).ifStage.pc + 4#32))

/-- No jump links, and in front of each is an instruction with its target. -/
def FrontTargets (r : Run) : Prop :=
  ∀ u i, JumpAt r u i →
    exTarget (r.st (u + 1)) = goal r u i ∧ rdField (r.inp u).instrData = 0#5

/-- **Jumps are correct exactly where none links and the instruction in front of each has
its target.** -/
theorem performsJumps_iff (imem : Imem) (M : Data → Data) (D : ℕ → Data) :
    PerformsJumps (.program imem M D) ↔ FrontTargets (.program imem M D) := by
  refine forall₃_congr fun u i h => and_congr ((h.nextEnters fun _ => rfl).iff_eq _) ?_
  refine ⟨fun hl => ?_, fun h0 hne => absurd h0 hne⟩
  by_contra hne
  obtain ⟨s, ⟨hs, hi, -⟩, -⟩ := hl hne
  exact h.not_issues hs hi

/-- `jal x1, 8`. -/
def jumpLink : List Data := [0x008000EF#32]

/-- The jump goes back to address 0, the target of the bubble in EX, and does not link. -/
theorem not_performsJumps_jumpLink : ¬ PerformsJumps (.ofWords jumpLink) := by
  intro h
  have hj : JumpAt (.ofWords jumpLink) 0 (.jal 1#5 8#32) :=
    { enters := by unfold Run.Enters; decide +kernel
      decode := by decide +kernel
      distant := by simp [Rv32i.Instr.sources]
      jump := trivial }
  have heq := (hj.nextEnters fun _ => rfl).unique (h 0 _ hj).1
  revert heq
  decide +kernel

end RiscvCore.Pipeline
