import RiscvCore.Pipeline.Run

/-!
# Where fetched instructions and predictions come from

With a read-only instruction memory `M` behind the instruction bus, whatever the data
bus and the reset pin do: the two IF/ID registers agree on the program counter, the one
`core_top` decodes from holds a bubble or the instruction of its address, and the branch
target buffer holds only even targets of control-flow instructions, each entry at its
own index. The four facts are one invariant (`Provenance`): an entry is written with the
other register's program counter, and is about a control-flow instruction only because
the decoded one is the instruction at that address.
-/

namespace RiscvCore.Pipeline

open Rtl

/-- A control-flow instruction: `OP_BRANCH`, `OP_JAL` or `OP_JALR`. -/
def IsControl (w : Data) : Prop :=
  opcodeField w = some .branch ∨ opcodeField w = some .jal ∨ opcodeField w = some .jalr

instance (w : Data) : Decidable (IsControl w) := by unfold IsControl; infer_instance

/-- An even address. -/
def IsEven (a : Data) : Prop := a.toNat % 2 = 0

theorem isEven_alignTarget (s : Data) : IsEven (alignTarget s) := by
  have h : (alignTarget s).toNat = (s.extractLsb' 1 31).toNat <<< 1 ||| (0#1).toNat :=
    BitVec.toNat_append _ _
  rw [IsEven, h, Nat.shiftLeft_eq]
  simp

theorem IsEven.add_four {a : Data} (h : IsEven a) : IsEven (a + 4#32) := by
  unfold IsEven at *
  rw [BitVec.toNat_add]
  simp only [BitVec.reduceToNat]
  omega

/-- An instruction that redirects is a control-flow instruction. -/
theorem isControl_of_exMispredict {c : Core} (h : c.exMispredict = true) :
    IsControl c.ifId.instr := by
  rcases (Core.exMispredict_iff c).mp h with ⟨hb, -⟩ | hj
  · exact .inl hb
  · exact .inr hj

/-- No other instruction redirects. -/
theorem not_exMispredict_of_not_isControl {c : Core} (h : ¬ IsControl c.ifId.instr) :
    c.exMispredict = false := by
  rw [← Bool.not_eq_true]
  exact fun hm => h (isControl_of_exMispredict hm)

/-- A load redirects nothing. -/
theorem not_exMispredict_of_load {c : Core} (h : opcodeField c.ifId.instr = some .load) :
    c.exMispredict = false :=
  not_exMispredict_of_not_isControl (by simp [IsControl, h])

/-- The instruction memory behind the bus is `M`. -/
def ReadOnly (M : Data → Data) (c : Core) (i : CoreIn) : Prop := i.instrData = M c.instrAddr

/-- What a valid entry at index `i` of the buffer is. -/
structure EntryOk (M : Data → Data) (i : BitVec 4) (e : BtbEntry) : Prop where
  index : e.tag.extractLsb' 2 4 = i
  control : IsControl (M e.tag)
  even : IsEven e.target

/-- **The invariant of fetch.** -/
structure Provenance (M : Data → Data) (c : Core) : Prop where
  idPc : c.ifStage.idPc = c.ifId.pc
  ifId : c.ifId = ⟨0#32, 0#32⟩ ∨ c.ifId.instr = M c.ifId.pc
  entry : ∀ i, (c.ifStage.btb i).valid = true → EntryOk M i (c.ifStage.btb i)
  even : IsEven c.ifStage.pc

namespace Provenance

variable {M : Data → Data} {c : Core} {imem : Imem} {i : CoreIn}

theorem reset : Provenance M .reset where
  idPc := rfl
  ifId := .inl rfl
  entry i h := by simp [Core.reset, IfStage.reset, btbReset] at h
  even := rfl

/-- A redirecting instruction is not the bubble, so it is the one at its address. -/
theorem control_at_ifId (h : Provenance M c) (hm : c.exMispredict = true) :
    IsControl (M c.ifId.pc) := by
  rcases h.ifId with h0 | hM
  · exact absurd hm (by simp [(Run.quiet_of_bubble (c := c) h0).2])
  · exact hM ▸ isControl_of_exMispredict hm

/-- A hit is at the address of a control-flow instruction, and predicts an even target. -/
theorem of_btbHit (h : Provenance M c) (hit : btbHit c.ifStage.btb c.ifStage.pc = true) :
    IsControl (M c.ifStage.pc) ∧ IsEven (btbPredictTarget c.ifStage.btb c.ifStage.pc) := by
  have htag : (c.ifStage.btb (btbIdx 4 c.ifStage.pc)).valid = true ∧
      (c.ifStage.btb (btbIdx 4 c.ifStage.pc)).tag = c.ifStage.pc := by
    simpa [btbHit] using hit
  have he := h.entry _ htag.1
  refine ⟨htag.2 ▸ he.control, ?_⟩
  rw [btbPredictTarget, if_pos hit]
  exact he.even

theorem next_pc_even (h : Provenance M c) (hr : i.rstN = true) :
    IsEven (c.next imem i).ifStage.pc := by
  rw [Core.next_pc _ hr]
  split_ifs with hm hit hs
  · exact isEven_alignTarget _
  · exact (h.of_btbHit hit).2
  · exact h.even
  · exact h.even.add_four

theorem next_entry (h : Provenance M c) (hr : i.rstN = true) (j : BitVec 4)
    (hv : ((c.next imem i).ifStage.btb j).valid = true) :
    EntryOk M j ((c.next imem i).ifStage.btb j) := by
  rw [Core.next_btb _ hr] at hv ⊢
  split_ifs at hv ⊢ with hm
  · by_cases hj : j = btbIdx 4 c.ifStage.idPc
    · subst hj
      rw [Function.update_self]
      exact ⟨rfl, h.idPc ▸ h.control_at_ifId hm, isEven_alignTarget _⟩
    · rw [Function.update_of_ne hj] at hv ⊢
      exact h.entry j hv
  · exact h.entry j hv

/-- Every clock edge preserves the invariant. -/
theorem next (h : Provenance M c) (hi : ReadOnly M c i) : Provenance M (c.next imem i) := by
  cases hr : i.rstN with
  | false =>
    rw [Core.next_of_reset _ hr]
    exact reset
  | true =>
    refine ⟨?_, ?_, h.next_entry hr, h.next_pc_even hr⟩
    · rw [Core.next_idPc _ hr, Core.next_ifId _ hr]
      split_ifs
      · rfl
      · exact h.idPc
      · rfl
    · rw [Core.next_ifId _ hr]
      split_ifs
      · exact .inl rfl
      · exact h.ifId
      · exact .inr hi

theorem isInductive (imem : Imem) (M : Data → Data) :
    (coreTop imem).Inductive (ReadOnly M) (Provenance M) :=
  ⟨reset, fun _ _ hi h => h.next hi⟩

/-- The invariant along a run of a program. -/
theorem program (imem : Imem) (M : Data → Data) (D : ℕ → Data) (t : ℕ) :
    Provenance M ((Run.program imem M D).st t) :=
  (isInductive imem M).run (e := (Run.program imem M D).bus) (fun _ _ => rfl) t

end Provenance

/-- **Predictor and fetch provenance**: every reachable state satisfies the invariant, so
no hit occurs at the address of an instruction that is not a control-flow one. -/
theorem provenance_of_reachable (imem : Imem) (M : Data → Data) {c : Core}
    (h : (coreTop imem).Reachable (ReadOnly M) c) :
    Provenance M c ∧ (btbHit c.ifStage.btb c.ifStage.pc = true → IsControl (M c.ifStage.pc)) :=
  have hc := (Provenance.isInductive imem M).reachable h
  ⟨hc, fun hit => (hc.of_btbHit hit).1⟩

/-- `jal x0, 0`. -/
def selfJump : List Data := [0x0000006F#32]

/-- In cycle 2 the jump is in the buffer, and is fetched again with a hit. -/
theorem provenance_of_reachable_selfJump :
    Provenance (image selfJump) ((Run.ofWords selfJump).st 2) ∧
      (btbHit ((Run.ofWords selfJump).st 2).ifStage.btb ((Run.ofWords selfJump).st 2).ifStage.pc =
          true →
        IsControl (image selfJump ((Run.ofWords selfJump).st 2).ifStage.pc)) :=
  provenance_of_reachable _ _ <|
    Machine.reachable_run (e := (Run.ofWords selfJump).bus) (fun _ _ => rfl) 2

end RiscvCore.Pipeline
