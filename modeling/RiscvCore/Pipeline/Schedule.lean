import RiscvCore.Pipeline.Architecture

/-!
# Scheduled programs

A discipline on the words of a program, whatever the values and wherever its jumps and branches
go, under which the timing contract holds in every state the program reaches. No word names, in a
raw source field, a register that one of the three words before it in memory writes; and the two
words before a jump or branch write nothing. The second rule takes care of the ways that words come
together which are not neighbours in memory: behind a redirect, and behind a branch that is
predicted and not taken.

`followsInOrder_of_scheduled` is the consequence for the core: it follows the in-order machine for
ever.
-/

namespace RiscvCore.Pipeline

open Rtl InOrder

/-- The word `w` writes no register. -/
def Silent (w : Data) : Prop := ¬ Writes w (rdField w)

instance (w : Data) : Decidable (Silent w) := by unfold Silent; infer_instance

/-- The word `v` names no register that `w` writes. -/
def Clear (w v : Data) : Prop :=
  Writes w (rdField w) → rs1Field v ≠ rdField w ∧ rs2Field v ≠ rdField w

instance (w v : Data) : Decidable (Clear w v) := by unfold Clear; infer_instance

/-- **The discipline.** -/
structure Scheduled (M : Data → Data) : Prop where
  /-- Neighbours are clear of each other. -/
  apart : ∀ a, Clear (M a) (M (a + 4#32)) ∧ Clear (M a) (M (a + 8#32)) ∧ Clear (M a) (M (a + 12#32))
  /-- What comes just before a jump or branch is silent. -/
  drained : ∀ a, IsControl (M (a + 4#32)) ∨ IsControl (M (a + 8#32)) → Silent (M a)

section Words

variable {w v : Data} {a : Address}

theorem Silent.not_writes (h : Silent w) (a : Address) : ¬ Writes w a := by
  rintro ⟨hwe, rfl, h0⟩
  exact h ⟨hwe, rfl, h0⟩

theorem Silent.clear (h : Silent w) (v : Data) : Clear w v := fun hw => absurd hw h

theorem silent_zero : Silent 0#32 := not_writes_zero _

theorem Clear.not_writes_rs1 (h : Clear w v) : ¬ Writes w (rs1Field v) := by
  rintro ⟨hwe, hrd, h0⟩
  exact (h ⟨hwe, rfl, hrd ▸ h0⟩).1 hrd.symm

theorem Clear.not_writes_rs2 (h : Clear w v) : ¬ Writes w (rs2Field v) := by
  rintro ⟨hwe, hrd, h0⟩
  exact (h ⟨hwe, rfl, hrd ▸ h0⟩).2 hrd.symm

/-- A load writes its destination, so a load-use pair is not clear. -/
theorem Clear.not_loadUse (h : Clear w v) : ¬ LoadUse w v := by
  rintro ⟨hop, h0, hrs⟩
  have hwe : (cuOf w).regWe = true := by
    rw [cuOf, hop]
    rfl
  obtain ⟨h1, h2⟩ := h ⟨hwe, rfl, h0⟩
  exact hrs.elim (fun he => h1 he.symm) fun he => h2 he.symm

/-- A branch writes nothing. -/
theorem silent_of_branch (h : opcodeField w = some .branch) : Silent w := by
  rintro ⟨hwe, -, -⟩
  rw [cuOf, h] at hwe
  exact Bool.false_ne_true hwe

end Words

/-! ### The window -/

/-- What a scheduled program keeps: each word in flight is clear of the words that it will be in
flight with, if fetch goes on straight ahead. -/
structure Spaced (M : Data → Data) (s : InOrder) : Prop where
  last : Clear s.last.instr (M s.pc) ∧ Clear s.last.instr (M (s.pc + 4#32)) ∧
    Clear s.last.instr (M (s.pc + 8#32))
  w1 : Clear s.w1 s.last.instr ∧ Clear s.w1 (M s.pc) ∧ Clear s.w1 (M (s.pc + 4#32))
  w2 : Clear s.w2 s.last.instr ∧ Clear s.w2 (M s.pc)
  w3 : Clear s.w3 s.last.instr
  /-- Before a jump or branch the window is empty. -/
  control : IsControl (M s.pc) → Silent s.last.instr ∧ Silent s.w1
  /-- One word earlier it is about to be. -/
  ahead : IsControl (M (s.pc + 4#32)) → Silent s.last.instr

namespace Spaced

variable {M : Data → Data} {s : InOrder}

/-- A window of silent words is spaced, wherever fetch goes on. -/
theorem of_silent (hl : Silent s.last.instr) (h1 : Silent s.w1) (h2 : Silent s.w2)
    (h3 : Clear s.w3 s.last.instr) : Spaced M s where
  last := ⟨hl.clear _, hl.clear _, hl.clear _⟩
  w1 := ⟨h1.clear _, h1.clear _, h1.clear _⟩
  w2 := ⟨h2.clear _, h2.clear _⟩
  w3 := h3
  control _ := ⟨hl, h1⟩
  ahead _ := hl

theorem init : Spaced M .init :=
  of_silent silent_zero silent_zero silent_zero (silent_zero.clear _)

variable (h : Spaced M s)
include h

/-- A register that the last instruction reads had been written in time. -/
theorem ready_of_eq {a : Address} (ha : a = rs1Field s.last.instr ∨ a = rs2Field s.last.instr) :
    ¬ s.Flies a ∧ ¬ Writes s.w3 a := by
  rcases ha with rfl | rfl
  · exact ⟨fun hf => hf.elim h.w1.1.not_writes_rs1 h.w2.1.not_writes_rs1, h.w3.not_writes_rs1⟩
  · exact ⟨fun hf => hf.elim h.w1.1.not_writes_rs2 h.w2.1.not_writes_rs2, h.w3.not_writes_rs2⟩

/-- **A spaced window is timely.** -/
theorem timely : s.Timely (M s.pc) where
  operands _ := by
    have hf1 : ¬ s.Flies (rs1Field (M s.pc)) := fun hf =>
      hf.elim h.w1.2.1.not_writes_rs1 h.w2.2.not_writes_rs1
    have hf2 : ¬ s.Flies (rs2Field (M s.pc)) := fun hf =>
      hf.elim h.w1.2.1.not_writes_rs2 h.w2.2.not_writes_rs2
    constructor
    · unfold sourceA
      split_ifs
      · exact hf1
      · obtain ⟨hr, h3⟩ := h.ready_of_eq (.inl rfl)
        exact .inr ⟨hr, h3, hf1⟩
    · unfold sourceB
      split_ifs
      · exact hf2
      · obtain ⟨hr, h3⟩ := h.ready_of_eq (.inr rfl)
        exact .inr ⟨hr, h3, hf2⟩
  target _ := by
    unfold sourceB
    split_ifs
    · trivial
    · exact h.ready_of_eq (.inr rfl)
  held hlu := absurd hlu h.last.1.not_loadUse

/-- Straight ahead, the window moves on by a word. -/
theorem advance (hM : Scheduled M) (hpc : (s.advance (M s.pc)).pc = s.pc + 4#32) :
    Spaced M (s.advance (M s.pc)) := by
  have h4 : ∀ a : Data, a + 4#32 + 4#32 = a + 8#32 := fun a => by rw [BitVec.add_assoc]; rfl
  have h8 : ∀ a : Data, a + 4#32 + 8#32 = a + 12#32 := fun a => by rw [BitVec.add_assoc]; rfl
  obtain ⟨ha4, ha8, ha12⟩ := hM.apart s.pc
  refine ⟨?_, ?_, ?_, h.w2.2, ?_, ?_⟩
  · rw [hpc, h4, h8]
    exact ⟨ha4, ha8, ha12⟩
  · rw [hpc, h4]
    exact h.last
  · rw [hpc]
    exact h.w1.2
  · rw [hpc]
    exact fun hc => ⟨hM.drained s.pc (.inl hc), h.ahead hc⟩
  · rw [hpc, h4]
    exact fun hc => hM.drained s.pc (.inr hc)

/-- **Every instruction keeps the window spaced.** -/
theorem step (hM : Scheduled M) (hs : Sane M s) : Spaced M (InOrder.step M s) := by
  rw [InOrder.step]
  split_ifs with hm
  · -- the window is empty, and two bubbles follow
    obtain ⟨hl, h1⟩ := h.control hm.isControl
    exact of_silent silent_zero silent_zero hl (h1.clear _)
  · have hlu := h.last.1.not_loadUse
    by_cases hc : IsControl (M s.pc)
    · -- a branch that is not taken, perhaps predicted
      have hb : opcodeField (M s.pc) = some .branch := by
        obtain hb | hj := hc
        · exact hb
        · exact absurd (.inr hj) hm
      obtain ⟨hl, h1⟩ := h.control hc
      exact of_silent (silent_of_branch hb) hl h1 h.w2.2
    · exact h.advance hM ((if_neg hlu).trans (hs.nextFetch_eq hc))

end Spaced

/-- The window of a scheduled program is always spaced. -/
theorem spaced_before {M : Data → Data} (hM : Scheduled M) (n : ℕ) : Spaced M (before M n) := by
  have h : Sane M (before M n) ∧ Spaced M (before M n) := by
    refine Timed.state_of_invariant (m := machine M) (I := fun s => Sane M s ∧ Spaced M s)
      ⟨Sane.init, Spaced.init⟩ ?_ n
    rintro s ⟨hs, hsp⟩
    exact ⟨hs.step, hsp.step hM hs⟩
  exact h.2

/-- In a scheduled program every instruction is timely. -/
theorem timely_of_scheduled {M : Data → Data} (hM : Scheduled M) (n : ℕ) :
    (before M n).Timely (M (before M n).pc) := (spaced_before hM n).timely

/-! ### Images -/

section Images

variable {p : List Data}

/-- The discipline for the words of a program that is followed by NOPs. -/
def Spread (p : List Data) : Prop :=
  ∀ k < p.length,
    (∀ d ∈ [1, 2, 3], Clear (p.getD k instrNop) (p.getD (k + d) instrNop)) ∧
      (IsControl (p.getD (k + 1) instrNop) ∨ IsControl (p.getD (k + 2) instrNop) →
        Silent (p.getD k instrNop))

instance (p : List Data) : Decidable (Spread p) := by unfold Spread; infer_instance

theorem silent_instrNop : Silent instrNop := by decide

/-- A few words on in the image, unless the address wraps around. -/
theorem image_add {a : Data} {d : ℕ} (hd : 4 * d < 2 ^ 32) (h : a.toNat / 4 + d < 2 ^ 30) :
    image p (a + BitVec.ofNat 32 (4 * d)) = p.getD (a.toNat / 4 + d) instrNop := by
  rw [image, BitVec.toNat_add, BitVec.toNat_ofNat, Nat.mod_eq_of_lt hd, Nat.mod_eq_of_lt (by omega),
    Nat.add_mul_div_left _ _ (by decide)]

/-- What is behind the program is silent. -/
theorem silent_image {a : Data} (h : p.length ≤ a.toNat / 4) : Silent (image p a) := by
  rw [image, List.getD_eq_default _ _ h]
  exact silent_instrNop

/-- A program that is spread is scheduled. -/
theorem scheduled_image (hp : Spread p) (hlen : p.length + 3 ≤ 2 ^ 30) : Scheduled (image p) := by
  constructor
  · intro a
    by_cases ha : a.toNat / 4 < p.length
    · obtain ⟨h, -⟩ := hp _ ha
      have hstep : ∀ d ∈ [1, 2, 3], Clear (image p a) (image p (a + BitVec.ofNat 32 (4 * d))) := by
        intro d hd
        have hd3 : d ≤ 3 := by
          simp only [List.mem_cons, List.not_mem_nil, or_false] at hd
          omega
        rw [image_add (by omega) (by omega)]
        exact h d hd
      exact ⟨hstep 1 (by simp), hstep 2 (by simp), hstep 3 (by simp)⟩
    · have hs := silent_image (Nat.le_of_not_lt ha)
      exact ⟨hs.clear _, hs.clear _, hs.clear _⟩
  · intro a hc
    by_cases ha : a.toNat / 4 < p.length
    · have h1 : image p (a + 4#32) = _ := image_add (d := 1) (by omega) (by omega)
      have h2 : image p (a + 8#32) = _ := image_add (d := 2) (by omega) (by omega)
      rw [h1, h2] at hc
      exact (hp _ ha).2 hc
    · exact silent_image (Nat.le_of_not_lt ha)

end Images

/-- **The core follows the in-order machine through a scheduled program**, for ever. -/
theorem followsInOrder_of_scheduled (imem : Imem) (M : Data → Data) (D : ℕ → Data)
    (hM : Scheduled M) (n : ℕ) : FollowsInOrder (.program imem M D) M n := by
  have h : ∀ k ≤ n, (before M k).Timely (M (before M k).pc) := fun k _ => timely_of_scheduled hM k
  obtain ⟨hd, hid⟩ := decoding_turn imem D (n := n) fun k hk => h k (Nat.le_of_lt hk)
  exact ⟨⟨hid, hd.ifId⟩, fun t ht => exists_turn_of_idAt h ht,
    fun t ht => dmemWe_iff_turn h imem D ht, rf_turn_add_three h imem D⟩

/-- A loop that adds 8 to `x1` until it is 16, and then one that does nothing:
`addi x1, x1, 8; nop; nop; nop; addi x0, x1, 16; beq x1, x2, 12; addi x0, x0, -24; jal x0, -28;
nop; jal x0, -4`. -/
def spreadTo16 : List Data :=
  [0x00808093#32, instrNop, instrNop, instrNop, 0x01008013#32, 0x00208663#32, 0xFE800013#32,
    0xFE5FF06F#32, instrNop, 0xFFDFF06F#32]

theorem followsInOrder_of_scheduled_spreadTo16 :
    FollowsInOrder (.ofWords spreadTo16) (image spreadTo16) 1000 :=
  followsInOrder_of_scheduled _ _ _ (scheduled_image (by decide) (by decide)) 1000

end RiscvCore.Pipeline
