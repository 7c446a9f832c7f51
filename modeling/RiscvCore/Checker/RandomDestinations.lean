import RiscvCore.Checker.GeneratedTransactions
import RiscvCore.Checker.RegisterTrace

/-!
# The destinations of the random sequence

The constraint on the destination weighs the values of a comparison, which is 0 or 1, as if
they were register numbers. Only 1 is among the values listed, so that every generated
transaction has the destination `x0` (`cAvoidX0Dest_iff`) and a transaction stays one only
with that destination (`randomized_setRd_iff`). A program of such words never changes a
register (`regs_of_randomWords`), and a scoreboard that hears nothing else counts instructions,
but compares no value (`feed_randomWords`).
-/

namespace RiscvCore.Checker

open Rtl Dv Logic

theorem cAvoidX0Dest_iff (tx : RiscvInstrTx) : tx.cAvoidX0Dest ↔ tx.rd = regZero := by
  unfold RiscvInstrTx.cAvoidX0Dest
  by_cases h : tx.rd = regZero <;> simp [h]

/-- **A generated transaction may be given the destination `x0` and no other.** The other
constraints do not read the destination. -/
theorem randomized_setRd_iff (tx : RiscvInstrTx) (h : tx.Randomized) (r : Address) :
    ({ tx with rd := r } : RiscvInstrTx).Randomized ↔ r = regZero := by
  constructor
  · intro hr
    exact (cAvoidX0Dest_iff _).mp hr.avoidX0Dest
  · rintro rfl
    exact ⟨h.funct7, h.imm, h.legalOpcodes, (cAvoidX0Dest_iff _).mpr rfl, h.structuralFields,
      h.intermittentBranches⟩

theorem randomized_setRd_iff_addi :
    ({ generated .iType 5#32 with rd := 1#5 } : RiscvInstrTx).Randomized ↔ 1#5 = regZero :=
  randomized_setRd_iff (generated .iType 5#32)
    ⟨by decide, rfl, by decide, by decide, by decide, by decide⟩ 1#5

/-- `addi x0, x1, 5` is generated, `addi x1, x1, 5` is not. -/
theorem not_randomized_setRd : ¬ ∀ (tx : RiscvInstrTx) (r : Address), tx.Randomized →
    ({ tx with rd := r } : RiscvInstrTx).Randomized := by
  intro h
  have haddi := h (generated .iType 5#32) 1#5
    ⟨by decide, rfl, by decide, by decide, by decide, by decide⟩
  exact absurd haddi.avoidX0Dest (by decide)

/-! ### Words -/

/-- The monitor decodes the word as the opcode and the fields of a generated transaction. -/
def RandomWord (w : Data) : Prop :=
  ∃ tx : RiscvInstrTx, tx.Randomized ∧ ∃ o, Opcode.ofBits tx.opcode = some o ∧
    (decoded w).opcode = tx.opcode ∧ SameFields o tx (decoded w)

/-- The scoreboard takes none of them for an instruction that writes back. -/
theorem isWritebackInstr_decoded {w : Data} (h : RandomWord w) :
    isWritebackInstr (decoded w) = false := by
  obtain ⟨tx, htx, o, ho, hop, hfields⟩ := h
  have hrd : formatHas Rv32i.Format.hasRd o = true → ((decoded w).rd != regZero) = false := by
    intro hhas
    rw [hfields.rd hhas, (cAvoidX0Dest_iff tx).mp htx.avoidX0Dest]
    rfl
  unfold isWritebackInstr
  rw [hop, ho]
  cases o with
  | rType | iType | load | lui | auipc | jal | jalr => exact hrd rfl
  | store | branch => rfl

theorem dest_eq_zero {w : Data} {i : Rv32i.Instr} (h : RandomWord w)
    (hi : Rv32i.decode w = some i) {d : Rv32i.Reg} (hd : i.dest = some d) : d = 0#5 := by
  obtain ⟨v, he⟩ :=
    (dest_eq_some_iff (fun _ => known 0#32) (decoded w).pc (decoded w).wbData).mp hd
  have hfields := fields_of_instr (instr_decoded hi) rfl fun _ => known 0#32
  rw [expected_observed, he, isWritebackInstr_decoded h] at hfields
  obtain ⟨-, hwb, -⟩ := hfields
  simpa using hwb.symm

/-- **A random program never changes a register.** -/
theorem regs_of_randomWords {M : Data → Data} (hM : ∀ a, RandomWord (M a))
    (ld : Rv32i.LoadOp → Data → Data) {n : ℕ} {s s' : Rv32i.Arch}
    (h : Rv32i.steps M ld n s = some s') : s'.regs = s.regs :=
  Rv32i.regs_of_steps (fun a _ _ hi hd => dest_eq_zero (hM a) hi hd) ld h

/-! ### The scoreboard -/

theorem write_of_not_writeback (s : CoreScoreboard) {tx : RiscvInstrTx}
    (h : isWritebackInstr tx = false) :
    s.write (some tx) = { s with completedInstrs := s.completedInstrs + 1#32 } := by
  simp [CoreScoreboard.write, h]

/-- **The scoreboard of a random program checks nothing**: there is no match, no mismatch and no
register in its mirror that is not zero, however many instructions it hears. -/
theorem feed_randomWords (ws : List Data) (h : ∀ w ∈ ws, RandomWord w) :
    feed (ws.map decoded) =
      { CoreScoreboard.build with completedInstrs := BitVec.ofNat 32 ws.length } := by
  induction ws using List.reverseRecOn with
  | nil => rfl
  | append_singleton ws w ih =>
    have hprefix : feed (ws.map decoded) = _ := ih fun v hv => h v (List.mem_append_left _ hv)
    have hlast := isWritebackInstr_decoded (h w (by simp))
    unfold feed at hprefix ⊢
    rw [List.map_append, List.foldl_append, hprefix, List.length_append, BitVec.ofNat_add]
    exact write_of_not_writeback _ hlast

theorem reportPhase_randomWords (ws : List Data) (h : ∀ w ∈ ws, RandomWord w) :
    (feed (ws.map decoded)).reportPhase = [.report (BitVec.ofNat 32 ws.length) 0#32 0#32] := by
  rw [feed_randomWords ws h]
  rfl

end RiscvCore.Checker
