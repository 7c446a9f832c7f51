import RiscvCore.Pipeline.Sequential

/-!
# The load-use interlock

The hazard detection unit holds the program counter and the IF/ID register when the
instruction in ID names the destination of a load in EX; its stall signal is meant to
put a NOP into EX in the same cycle. `core_top` ties the stall input of the ID/EX
register to zero and does not flush it, so the held instruction goes on to EX and is
still in ID in the next cycle.

## What is proved

* `interlocks_iff` — the interlock does what it should in exactly the runs whose stalled
  instructions neither write a register nor load, and, for a branch-free program, in
  which no load-use pair occurs at all.
* `neverStallsTwice_iff` — a stall lasts one cycle in exactly the runs in which no load
  that names its own destination as a source is stalled.
-/

namespace RiscvCore.Pipeline

open Rtl

/-! ### Issue -/

/-- The instructions that enter EX at the first `t` edges, bubbles left out. -/
def issued (r : Run) : ℕ → List PrIfId
  | 0 => []
  | t + 1 => issued r t ++ if r.Issues t then [(r.st t).ifId] else []

/-- The first `k` instructions of a program, with their addresses. -/
def programPrefix (M : Data → Data) (k : ℕ) : List PrIfId :=
  (List.range k).map fun i => slot M (i + 1)

/-- The instructions entering EX are those of the program in order, each once: after any
number of edges they are a prefix of the program, and every prefix is reached. -/
def IssuesProgram (r : Run) (M : Data → Data) : Prop :=
  (∀ t, ∃ k, issued r t = programPrefix M k) ∧ ∀ k, ∃ t, issued r t = programPrefix M k

/-- **The interlock**: a stall puts a bubble into EX, and a branch-free program issues in
order, each instruction once. -/
def Interlocks (r : Run) : Prop :=
  (∀ t, (r.inp t).rstN = true → (r.st t).hduStall = true → (r.st t).exMispredict = false →
    (r.st (t + 1)).idEx.regWriteEn = false ∧ (r.st (t + 1)).idEx.memToReg = false) ∧
  ∀ M, r.Executes M → ControlFree M → IssuesProgram r M

/-- Only instructions that neither write a register nor load are stalled, and a
branch-free program has no load-use pair. -/
def StallsHarmlessly (r : Run) : Prop :=
  (∀ t, (r.inp t).rstN = true → (r.st t).hduStall = true → (r.st t).exMispredict = false →
    (cuOf (r.st t).ifId.instr).regWe = false ∧ opcodeField (r.st t).ifId.instr ≠ some .load) ∧
  ∀ M, r.Executes M → ControlFree M → ∀ i, ¬ LoadUse (word M i) (word M (i + 1))

section Issue

variable {r : Run} {M : Data → Data}

theorem programPrefix_succ (M : Data → Data) (k : ℕ) :
    programPrefix M (k + 1) = programPrefix M k ++ [slot M (k + 1)] := by
  simp [programPrefix, List.range_succ]

@[simp] theorem length_programPrefix (M : Data → Data) (k : ℕ) :
    (programPrefix M k).length = k := by
  simp [programPrefix]

/-- In an undisturbed run the instruction behind the first `t` that have issued is in ID. -/
theorem issued_of_sequential (hx : r.Executes M) (hc : ControlFree M) {n : ℕ}
    (h : ∀ t ≤ n, Sequential M r t) : ∀ t ≤ n, issued r (t + 1) = programPrefix M t := by
  intro t ht
  have hm := (h t ht).not_exMispredict (not_isControl_slot hc t)
  have hi := (h t ht).issues_iff hx hm
  induction t with
  | zero => simp [issued, hi, programPrefix]
  | succ t ih =>
    have hm' := (h t (by omega)).not_exMispredict (not_isControl_slot hc t)
    rw [issued, ih (by omega) hm' ((h t (by omega)).issues_iff hx hm'), if_pos (hi.mpr (by omega)),
      (h (t + 1) ht).ifId, programPrefix_succ]

/-- Without load-use pairs a branch-free program issues in order. -/
theorem issuesProgram_of_noLoadUse (hx : r.Executes M) (hc : ControlFree M)
    (hn : ∀ i, ¬ LoadUse (word M i) (word M (i + 1))) : IssuesProgram r M := by
  have hseq : ∀ t, Sequential M r t := fun t =>
    Sequential.of_noLoadUse hx hc (fun i _ => hn i) t le_rfl
  have hiss : ∀ t, issued r (t + 1) = programPrefix M t := fun t =>
    issued_of_sequential hx hc (fun t _ => hseq t) t le_rfl
  refine ⟨fun t => ?_, fun k => ⟨k + 1, hiss k⟩⟩
  cases t with
  | zero => exact ⟨0, rfl⟩
  | succ t => exact ⟨t, hiss t⟩

theorem slot_ne_succ (M : Data → Data) (k : ℕ) : slot M (k + 1) ≠ slot M (k + 2) := by
  intro h
  have hpc : BitVec.ofNat 32 (4 * k) = BitVec.ofNat 32 (4 * k) + 4#32 := by
    rw [← BitVec.ofNat_add]
    exact congrArg PrIfId.pc h
  simp at hpc

/-- The first load-use pair of a branch-free program issues its second instruction twice. -/
theorem not_issuesProgram_of_loadUse (hx : r.Executes M) (hc : ControlFree M) {i : ℕ}
    (hfst : ∀ j < i, ¬ LoadUse (word M j) (word M (j + 1)))
    (hi : LoadUse (word M i) (word M (i + 1))) : ¬ IssuesProgram r M := by
  have hseq : ∀ t ≤ i + 2, Sequential M r t :=
    Sequential.of_noLoadUse hx hc fun j hj => hfst j (by omega)
  have h2 := hseq (i + 2) le_rfl
  have hm2 := h2.not_exMispredict (not_isControl_slot hc _)
  have hs2 : (r.st (i + 2)).hduStall = true := h2.hduStall_iff.mpr hi
  -- the stalled instruction is issued, and is still in ID
  have hid : (r.st (i + 3)).ifId = slot M (i + 2) := by
    rw [Run.ifId_hold (hx _).1 hm2 hs2, h2.ifId]
  have hat : r.idAt (i + 3) = some (i + 1) := by
    rw [Run.idAt, if_neg (by simp [(hx _).1, hm2]), if_pos hs2, h2.idAt]
    rfl
  have hm3 : (r.st (i + 3)).exMispredict = false :=
    not_exMispredict_of_not_isControl (hid ▸ not_isControl_slot hc (i + 2))
  have hiss3 : r.Issues (i + 3) := ⟨(hx _).1, hm3, by rw [hat]; rfl⟩
  have hlist : issued r (i + 4) = programPrefix M (i + 2) ++ [slot M (i + 2)] := by
    rw [issued, issued_of_sequential hx hc hseq (i + 2) le_rfl, if_pos hiss3, hid]
  rintro ⟨hall, -⟩
  obtain ⟨k, hk⟩ := hall (i + 4)
  have hlen : k = i + 3 := by
    have := congrArg List.length (hk.symm.trans hlist)
    simpa using this
  rw [hlist, hlen, programPrefix_succ M (i + 2)] at hk
  have hlast := (List.append_inj' hk rfl).2
  exact slot_ne_succ M (i + 1) (by simpa using hlast)

theorem idEx_of_stall {t : ℕ} (hr : (r.inp t).rstN = true) (hm : (r.st t).exMispredict = false) :
    ((r.st (t + 1)).idEx.regWriteEn = false ∧ (r.st (t + 1)).idEx.memToReg = false) ↔
      (cuOf (r.st t).ifId.instr).regWe = false ∧ opcodeField (r.st t).ifId.instr ≠ some .load := by
  rw [Run.idEx_load hr hm]
  have h : (r.st t).idExIn.memToReg = (cuOf (r.st t).ifId.instr).memToReg := rfl
  rw [h, cuOf_memToReg, decide_eq_false_iff_not]
  rfl

end Issue

/-- **The interlock works in exactly the runs in which it has nothing to hold back.** -/
theorem interlocks_iff (r : Run) : Interlocks r ↔ StallsHarmlessly r := by
  unfold Interlocks StallsHarmlessly
  refine and_congr (forall_congr' fun t => ?_) (forall₃_congr fun M hx hc => ?_)
  · exact forall₃_congr fun hr _ hm => idEx_of_stall hr hm
  · refine ⟨fun h => ?_, issuesProgram_of_noLoadUse hx hc⟩
    by_contra hpair
    simp only [not_forall, not_not] at hpair
    classical
    exact not_issuesProgram_of_loadUse hx hc (fun j hj => Nat.find_min hpair hj)
      (Nat.find_spec hpair) h

/-- `lw x1, 0(x0); add x4, x1, x1`: the load-use pair of `sim/hazard_load.mem`, but with `x0` for
the base. The load there, `0000a083`, is `lw x1, 0(x1)`, from its own destination. -/
def hazardLoad : List Data := [0x00002083#32, 0x00108233#32]

/-- The stalled `add` is in EX one cycle after the stall, with its register write. -/
theorem not_interlocks_hazardLoad : ¬ Interlocks (.ofWords hazardLoad) := by
  intro h
  have h1 := (h.1 2 rfl (by decide +kernel) (by decide +kernel)).1
  revert h1
  decide +kernel

/-! ### The length of a stall -/

/-- **A stall lasts one cycle**: it is not asserted in two consecutive cycles in which the
same instruction is in ID, so no instruction stays in ID for ever. -/
def NeverStallsTwice (r : Run) : Prop :=
  (∀ t u, r.idAt t = some u → r.idAt (t + 1) = some u →
    ¬ ((r.st t).hduStall = true ∧ (r.st (t + 1)).hduStall = true)) ∧
  ∀ t u, r.idAt t = some u → ∃ t', t < t' ∧ r.idAt t' ≠ some u

/-- A load that names its own destination, not `x0`, in a raw source field. -/
def SelfLoad (w : Data) : Prop := LoadUse w w

instance (w : Data) : Decidable (SelfLoad w) := by unfold SelfLoad; infer_instance

section Stall

variable {r : Run} {t u : ℕ}

/-- A bubble is not stalled. -/
theorem idAt_of_hduStall (h : (r.st t).hduStall = true) : ∃ u, r.idAt t = some u := by
  cases hid : r.idAt t with
  | none =>
    have hq := (Run.quiet_of_bubble (Run.ifId_of_idAt_none hid)).1
    rw [h] at hq
    cases hq
  | some u => exact ⟨u, rfl⟩

/-- Behind a stalled instruction in EX, the same instruction in ID is stalled exactly when
it is a load from its own destination. -/
theorem hduStall_succ_iff (hr : (r.inp t).rstN = true) (hm : (r.st t).exMispredict = false)
    (hs : (r.st t).hduStall = true) :
    (r.st (t + 1)).hduStall = true ↔ SelfLoad (r.st t).ifId.instr := by
  rw [Core.hduStall_iff, Run.idEx_load hr hm, Run.ifId_hold hr hm hs]
  have h : (r.st t).idExIn.memToReg = (cuOf (r.st t).ifId.instr).memToReg := rfl
  rw [h, cuOf_memToReg, decide_eq_true_eq]
  rfl

theorem idAt_hold (hr : (r.inp t).rstN = true) (hm : (r.st t).exMispredict = false)
    (hs : (r.st t).hduStall = true) : r.idAt (t + 1) = r.idAt t := by
  rw [Run.idAt, if_neg (by simp [hr, hm]), if_pos hs]

theorem hduStall_of_idAt (h : r.idAt t = some u) (h' : r.idAt (t + 1) = some u) :
    (r.inp t).rstN = true ∧ (r.st t).exMispredict = false ∧ (r.st t).hduStall = true := by
  obtain ⟨hr, hm, ⟨-, rfl⟩ | ⟨hs, -⟩⟩ := Run.idAt_succ_eq_some h'
  · exact absurd (Run.lt_of_idAt h) (Nat.lt_irrefl _)
  · exact ⟨hr, hm, hs⟩

end Stall

/-- **A stall lasts one cycle in exactly the runs in which no load from its own
destination is stalled.** -/
theorem neverStallsTwice_iff (r : Run) : NeverStallsTwice r ↔
    ∀ t, (r.inp t).rstN = true → (r.st t).hduStall = true → ¬ SelfLoad (r.st t).ifId.instr := by
  constructor
  · rintro ⟨hnot, -⟩ t hr hs hself
    have hm := not_exMispredict_of_load hself.1
    obtain ⟨u, hu⟩ := idAt_of_hduStall hs
    exact hnot t u hu ((idAt_hold hr hm hs).trans hu)
      ⟨hs, (hduStall_succ_iff hr hm hs).mpr hself⟩
  · intro h
    have hnot : ∀ t u, r.idAt t = some u → r.idAt (t + 1) = some u →
        ¬ ((r.st t).hduStall = true ∧ (r.st (t + 1)).hduStall = true) := by
      rintro t u hu hu' ⟨hs, hs'⟩
      obtain ⟨hr, hm, -⟩ := hduStall_of_idAt hu hu'
      exact h t hr hs ((hduStall_succ_iff hr hm hs).mp hs')
    refine ⟨hnot, fun t u hu => ?_⟩
    by_contra hstay
    simp only [not_exists, not_and, not_not] at hstay
    have h1 := hstay (t + 1) (by omega)
    have h2 := hstay (t + 2) (by omega)
    exact hnot t u hu h1 ⟨(hduStall_of_idAt hu h1).2.2, (hduStall_of_idAt h1 h2).2.2⟩

/-- `lw x1, 0(x0); lw x1, 0(x1)`. -/
def selfLoad : List Data := [0x00002083#32, 0x0000A083#32]

/-- The second load is stalled behind the first and then behind its own copy in EX. -/
theorem not_neverStallsTwice_selfLoad : ¬ NeverStallsTwice (.ofWords selfLoad) := by
  intro h
  exact h.1 2 1 (by decide +kernel) (by decide +kernel) (by decide +kernel)

end RiscvCore.Pipeline
