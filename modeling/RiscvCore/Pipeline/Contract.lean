import RiscvCore.Pipeline.Schedule

/-!
# A contract without the pipeline

`Architecture` says when the core executes RV32I in terms of the in-order machine, with the last
instruction and the branch target buffer in its state. Here it is said in terms of the words of the
program and of the instruction set's own run, for scheduled programs. A jump or branch must
be prepared by the instruction that is executed before it, one that does not jump; and a branch that
falls through must not have been taken before, since it would be predicted.

`Tracks` ties the machine to the history of the run: what it holds of the last instruction is what
the decode stage makes of it, and whatever the buffer predicts has jumped. `Tracks.step` is
one instruction, and `performs_of_suits` the consequence for the core: when it decodes which
instruction, when it stores, and which registers it ends up with.
-/

namespace RiscvCore.Pipeline

open Rtl InOrder RiscvCore.Units

/-! ### The run of the instruction set -/

section Trace

variable (M : Data → Data) (ld : Rv32i.LoadOp → Data → Data)

/-- The state of the instruction set's run before instruction `k`. -/
def archAt (k : ℕ) : Rv32i.Arch := (Rv32i.steps M ld k .init).getD .init

/-- An instruction that does not go on to the next one. -/
def Jumps (R : Rv32i.Regs) : Rv32i.Instr → Prop
  | .branch o a b _ => o.Holds (R.get a) (R.get b)
  | .jal _ _ | .jalr _ _ _ => True
  | .op _ _ _ _ | .opImm _ _ _ _ | .lui _ _ | .auipc _ _ | .load _ _ _ _ | .store _ _ _ _ => False

instance (R : Rv32i.Regs) : DecidablePred (Jumps R)
  | .branch _ _ _ _ | .jal _ _ | .jalr _ _ _ | .op _ _ _ _ | .opImm _ _ _ _ | .lui _ _
  | .auipc _ _ | .load _ _ _ _ | .store _ _ _ _ => by unfold Jumps; infer_instance

/-- Instruction `k` jumps. -/
def JumpsAt (k : ℕ) : Prop :=
  ∃ i ∈ Rv32i.decode (M (archAt M ld k).pc), Jumps (archAt M ld k).regs i

instance : DecidablePred (JumpsAt M ld) := fun k => by unfold JumpsAt; infer_instance

/-- What the decode stage makes of instruction `k`. -/
def frontAt (k : ℕ) : PrIdEx :=
  issue (archAt M ld k).regs.get ⟨(archAt M ld k).pc, M (archAt M ld k).pc⟩

/-- The instruction before instruction `k` does not jump, and what the decode stage makes of it
satisfies `p`. -/
def Prepared (p : PrIdEx → Prop) : ℕ → Prop
  | 0 => False
  | j + 1 => ¬ JumpsAt M ld j ∧ p (frontAt M ld j)

instance (p : PrIdEx → Prop) [DecidablePred p] : DecidablePred (Prepared M ld p)
  | 0 => inferInstanceAs (Decidable False)
  | j + 1 => inferInstanceAs (Decidable (¬ JumpsAt M ld j ∧ p (frontAt M ld j)))

/-- The cycle in which instruction `k` arrives in ID: a jump costs one more. -/
def arrival (k : ℕ) : ℕ := 1 + (k + Nat.count (JumpsAt M ld) k)

/-- **The contract** for instruction `k` of the run, `i`. -/
def Suits (k : ℕ) : Rv32i.Instr → Prop
  | .op o _ _ _ => o ≠ .slt ∧ o ≠ .sltu
  | .opImm o _ _ _ => o ≠ .slt ∧ o ≠ .sltu
  | .lui _ _ | .auipc _ _ | .store _ _ _ _ => True
  -- a load writes back its address
  | .load o d a imm => d = 0#5 ∨
      ld o ((archAt M ld k).regs.get a + imm) = (archAt M ld k).regs.get a + imm
  | .branch o a b imm =>
      if o.Holds ((archAt M ld k).regs.get a) ((archAt M ld k).regs.get b) then
        Prepared M ld (fun f => f.regData1 = f.regData2 ∧
          alignTarget (f.pc + f.imm) = (archAt M ld k).pc + imm) k
      else Prepared M ld (fun f => f.regData1 ≠ f.regData2) k ∧
        ∀ j < k, (archAt M ld j).pc = (archAt M ld k).pc → ¬ JumpsAt M ld j
  | .jal d imm => d = 0#5 ∧
      Prepared M ld (fun f => alignTarget (f.pc + f.imm) = (archAt M ld k).pc + imm) k
  | .jalr d a imm => d = 0#5 ∧
      Prepared M ld (fun f => alignTarget (f.pc + f.imm) =
        Rv32i.evenPart ((archAt M ld k).regs.get a + imm)) k

instance (k : ℕ) : DecidablePred (Suits M ld k)
  | .op _ _ _ _ | .opImm _ _ _ _ | .lui _ _ | .auipc _ _ | .store _ _ _ _ | .load _ _ _ _
  | .branch _ _ _ _ | .jal _ _ | .jalr _ _ _ => by unfold Suits; infer_instance

end Trace

/-! ### The machine and the run -/

/-- The in-order machine `s` is where the run is before instruction `k`, and remembers what it
did. -/
structure Tracks (M : Data → Data) (ld : Rv32i.LoadOp → Data → Data) (k : ℕ) (s : InOrder) :
    Prop where
  steps : Rv32i.steps M ld k .init = some (archAt M ld k)
  pc : s.pc = (archAt M ld k).pc
  regs : Holds s.regs (archAt M ld k).regs
  /-- The last instruction, unless it jumped, -/
  front : ∀ j, k = j + 1 → ¬ JumpsAt M ld j → s.front = frontAt M ld j
  /-- and the jumps in the buffer. -/
  btb : ∀ x, (s.btb x).valid = true → ∃ j < k, (archAt M ld j).pc = (s.btb x).tag ∧ JumpsAt M ld j

namespace Tracks

variable {M : Data → Data} {ld : Rv32i.LoadOp → Data → Data} {k : ℕ} {s : InOrder}

theorem init : Tracks M ld 0 .init where
  steps := rfl
  pc := rfl
  regs a := by
    show retire (fun _ => 0#32) .bubble a = 0#32
    rw [retire_bubble]
  front j h := absurd h (Nat.succ_ne_zero j).symm
  btb x h := by simp [InOrder.init, btbReset] at h

variable (h : Tracks M ld k s)
include h

/-- What was prepared is there. -/
theorem front_of_prepared {p : PrIdEx → Prop} (hp : Prepared M ld p k) : p s.front := by
  cases k with
  | zero => exact hp.elim
  | succ j =>
    obtain ⟨hj, hf⟩ := hp
    rwa [h.front j rfl hj]

theorem btbHit_eq_false
    (hno : ∀ j < k, (archAt M ld j).pc = (archAt M ld k).pc → ¬ JumpsAt M ld j) :
    btbHit s.btb s.pc = false := by
  rw [← Bool.not_eq_true]
  intro hit
  have htag : (s.btb (btbIdx 4 s.pc)).valid = true ∧ (s.btb (btbIdx 4 s.pc)).tag = s.pc := by
    simpa [btbHit] using hit
  obtain ⟨j, hj, hpc, hjump⟩ := h.btb _ htag.1
  exact hno j hj (hpc.trans (htag.2.trans h.pc)) hjump

variable {i : Rv32i.Instr}

/-- **The machine obeys an instruction that suits it.** -/
theorem obeys (hi : Suits M ld k i) : Obeys ld s i := by
  have hget : ∀ a, (archAt M ld k).regs.get a = rfRead s.regs a := fun a => (h.regs.rfRead a).symm
  cases i with
  | op _ _ _ _ | opImm _ _ _ _ => exact hi
  | lui _ _ | auipc _ _ | store _ _ _ _ => trivial
  | load o d a imm =>
    rw [Suits, hget] at hi
    exact hi
  | branch o a b imm =>
    rw [Suits, hget, hget] at hi
    rw [Obeys]
    split_ifs at hi ⊢ with htaken
    · rw [h.pc]
      exact h.front_of_prepared hi
    · exact ⟨h.front_of_prepared hi.1, h.btbHit_eq_false hi.2⟩
  | jal d imm =>
    obtain ⟨hd, hp⟩ := hi
    refine ⟨hd, ?_⟩
    rw [h.pc]
    exact h.front_of_prepared hp
  | jalr d a imm =>
    rw [Suits, hget] at hi
    exact ⟨hi.1, h.front_of_prepared hi.2⟩

theorem redirects_iff (hi : Rv32i.decode (M s.pc) = some i) (ho : Obeys ld s i) :
    s.Redirects (M s.pc) ↔ JumpsAt M ld k := by
  have hget : ∀ a, (archAt M ld k).regs.get a = rfRead s.regs a := fun a => (h.regs.rfRead a).symm
  have hjump : JumpsAt M ld k ↔ Jumps (archAt M ld k).regs i := by
    rw [JumpsAt, ← h.pc, hi]
    simp
  rw [hjump]
  cases i with
  | op _ _ _ _ | opImm _ _ _ _ | lui _ _ | auipc _ _ =>
    exact iff_of_false (fun hm => not_isControl_of_computes hi ho hm.isControl) id
  | load _ _ _ _ =>
    have hop := (opcodeField_eq_some_iff _ .load).mpr (Rv32i.encodes_of_decode hi).1
    exact iff_of_false (fun hm => by simpa [IsControl, hop] using hm.isControl) id
  | store _ _ _ _ =>
    have hop := (opcodeField_eq_some_iff _ .store).mpr (Rv32i.encodes_of_decode hi).1
    exact iff_of_false (fun hm => by simpa [IsControl, hop] using hm.isControl) id
  | branch o a b imm =>
    have hop := (opcodeField_eq_some_iff _ .branch).mpr (Rv32i.encodes_of_decode hi).1
    rw [Jumps, hget, hget]
    rw [Obeys] at ho
    split_ifs at ho with htaken
    · exact iff_of_true (.inl ⟨hop, ho.1⟩) htaken
    · refine iff_of_false ?_ htaken
      rintro (⟨-, heq⟩ | hj)
      · exact ho.1 heq
      · simp [hop] at hj
  | jal _ _ =>
    have hop := (opcodeField_eq_some_iff _ .jal).mpr (Rv32i.encodes_of_decode hi).1
    exact iff_of_true (.inr (.inl hop)) trivial
  | jalr _ _ _ =>
    have hop := (opcodeField_eq_some_iff _ .jalr).mpr (Rv32i.encodes_of_decode hi).1
    exact iff_of_true (.inr (.inr hop)) trivial

/-- **One instruction.** -/
theorem step (hs : Sane M s) (hlu : ¬ LoadUse s.last.instr (M s.pc))
    (hi : Rv32i.decode (M (archAt M ld k).pc) = some i) (hsuits : Suits M ld k i) :
    Tracks M ld (k + 1) (InOrder.step M s) := by
  have hi' : Rv32i.decode (M s.pc) = some i := by rw [h.pc, hi]
  have ho := h.obeys hsuits
  obtain ⟨hpc, hregs⟩ := step_of_obeys hs h.regs hi' ho hlu
  have hstep : Rv32i.steps M ld (k + 1) .init =
      some ⟨i.nextPc s.pc (archAt M ld k).regs, i.retire ld s.pc (archAt M ld k).regs⟩ := by
    rw [Rv32i.steps, h.steps, Option.bind_some, Rv32i.step, hi, Option.map_some, h.pc]
  have hnext : archAt M ld (k + 1) =
      ⟨i.nextPc s.pc (archAt M ld k).regs, i.retire ld s.pc (archAt M ld k).regs⟩ := by
    rw [archAt, hstep, Option.getD_some]
  refine ⟨?_, ?_, ?_, ?_, ?_⟩
  · rw [hstep, hnext]
  · rw [hpc, hnext]
  · rw [hnext]
    exact hregs
  · rintro j hj hno
    obtain rfl : k = j := Nat.succ.inj hj
    have hm : ¬ s.Redirects (M s.pc) := fun hm => hno ((h.redirects_iff hi' ho).mp hm)
    rw [InOrder.step, if_neg hm, frontAt, ← h.pc, ← funext h.regs]
    rfl
  · intro x hx
    rw [InOrder.step] at hx ⊢
    split_ifs at hx ⊢ with hm
    · by_cases he : x = btbIdx 4 s.pc
      · subst he
        refine ⟨k, Nat.lt_succ_self k, ?_, (h.redirects_iff hi' ho).mp hm⟩
        simp only [redirect, Function.update_self]
        exact h.pc.symm
      · simp only [redirect, Function.update_of_ne he] at hx ⊢
        obtain ⟨j, hj, hold⟩ := h.btb x hx
        exact ⟨j, Nat.lt_succ_of_lt hj, hold⟩
    · obtain ⟨j, hj, hold⟩ := h.btb x hx
      exact ⟨j, Nat.lt_succ_of_lt hj, hold⟩

end Tracks

/-! ### The core -/

section Run

variable {M : Data → Data} {ld : Rv32i.LoadOp → Data → Data} {n : ℕ}

/-- The machine tracks the run of a scheduled program as long as it suits it. -/
theorem tracks_before (hM : Scheduled M)
    (h : ∀ k < n, ∃ i ∈ Rv32i.decode (M (archAt M ld k).pc), Suits M ld k i) :
    Tracks M ld n (before M n) := by
  induction n with
  | zero => exact .init
  | succ n ih =>
    obtain ⟨i, hi, hsuits⟩ := h n (Nat.lt_succ_self n)
    have htracks := ih fun k hk => h k (Nat.lt_succ_of_lt hk)
    have hlu := (spaced_before hM n).last.1.not_loadUse
    exact htracks.step (.before M n) hlu hi hsuits

theorem turn_eq_arrival (hM : Scheduled M)
    (h : ∀ k < n, ∃ i ∈ Rv32i.decode (M (archAt M ld k).pc), Suits M ld k i) :
    turn M n = arrival M ld n := by
  induction n with
  | zero => rfl
  | succ n ih =>
    obtain ⟨i, hi, hsuits⟩ := h n (Nat.lt_succ_self n)
    have hbelow := fun k hk => h k (Nat.lt_succ_of_lt hk)
    have htracks := tracks_before hM hbelow
    have hi' : Rv32i.decode (M (before M n).pc) = some i := by rw [htracks.pc]; exact hi
    have hm := htracks.redirects_iff hi' (htracks.obeys hsuits)
    have hturn := ih hbelow
    rw [turn_eq, arrival] at hturn ⊢
    rw [Nat.count_succ, Nat.count_succ, if_congr hm rfl rfl]
    omega

end Run

/-- The core performs the run of the instruction set through instruction `n`. -/
structure Performs (r : Run) (M : Data → Data) (ld : Rv32i.LoadOp → Data → Data) (n : ℕ) :
    Prop where
  steps : Rv32i.steps M ld n .init = some (archAt M ld n)
  /-- The instruction is decoded when it arrives. -/
  decodes : (r.idAt (arrival M ld n)).isSome = true ∧
    (r.st (arrival M ld n)).ifId = ⟨(archAt M ld n).pc, M (archAt M ld n).pc⟩
  /-- So far, no other is. -/
  only : ∀ t ≤ arrival M ld n, (r.idAt t).isSome = true → ∃ k ≤ n, t = arrival M ld k
  /-- The data memory has been written at the arrivals of the stores. -/
  stores : ∀ t ≤ arrival M ld n, (r.st t).dmemWe = true ↔
    ∃ k ≤ n, t = arrival M ld k ∧ opcodeField (M (archAt M ld k).pc) = some .store
  /-- Three cycles later the register file holds the registers that the instruction finds. -/
  regs : ∀ a, (r.st (arrival M ld n + 3)).rf a = (archAt M ld n).regs.get a

/-- **The core executes RV32I**, as far as the run of a scheduled program suits it. -/
theorem performs_of_suits (imem : Imem) (M : Data → Data) (D : ℕ → Data)
    (ld : Rv32i.LoadOp → Data → Data) (hM : Scheduled M) (n : ℕ)
    (h : ∀ k < n, ∃ i ∈ Rv32i.decode (M (archAt M ld k).pc), Suits M ld k i) :
    Performs (.program imem M D) M ld n := by
  have ht : ∀ k ≤ n, (before M k).Timely (M (before M k).pc) := fun k _ => timely_of_scheduled hM k
  have hturn : ∀ k ≤ n, turn M k = arrival M ld k := fun k hk =>
    turn_eq_arrival hM fun j hj => h j (Nat.lt_of_lt_of_le hj hk)
  have htracks : ∀ k ≤ n, Tracks M ld k (before M k) := fun k hk =>
    tracks_before hM fun j hj => h j (Nat.lt_of_lt_of_le hj hk)
  obtain ⟨hd, hid⟩ := decoding_turn imem D (n := n) fun k hk => ht k (Nat.le_of_lt hk)
  rw [hturn n le_rfl] at hd hid
  refine ⟨(htracks n le_rfl).steps, ⟨hid, ?_⟩, fun t hle hocc => ?_, fun t hle => ?_, fun a => ?_⟩
  · rw [hd.ifId, (htracks n le_rfl).pc]
  · rw [← hturn n le_rfl] at hle
    obtain ⟨k, hk, rfl⟩ := exists_turn_of_idAt ht hle hocc
    exact ⟨k, hk, hturn k hk⟩
  · rw [← hturn n le_rfl] at hle
    rw [dmemWe_iff_turn ht imem D hle]
    refine exists_congr fun k => and_congr_right fun hk => ?_
    rw [hturn k hk, (htracks k hk).pc]
  · rw [← hturn n le_rfl, rf_turn_add_three ht]
    exact (htracks n le_rfl).regs a

/-- A loop that adds 8 to `x1` until it is `x2`, which is 16, and then one that does nothing:
`addi x2, x0, 16; nop; nop; nop; addi x1, x1, 8; nop; nop; nop; addi x0, x1, 16; beq x1, x2, 12;
addi x0, x0, -24; jal x0, -28; nop; jal x0, -4`. -/
def spreadLoop : List Data :=
  [0x01000113#32, instrNop, instrNop, instrNop, 0x00808093#32, instrNop, instrNop, instrNop,
    0x01008013#32, 0x00208663#32, 0xFE800013#32, 0xFE5FF06F#32, instrNop, 0xFFDFF06F#32]

/-- The branch is taken the second time round. -/
theorem performs_of_suits_spreadLoop :
    Performs (.ofWords spreadLoop) (image spreadLoop) (fun _ _ => 0#32) 24 :=
  performs_of_suits _ _ _ _ (scheduled_image (by decide) (by decide)) 24 (by decide +kernel)

end RiscvCore.Pipeline
