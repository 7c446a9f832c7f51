import RiscvCore.Foundation.SyncMachine
import RiscvCore.Rtl.IfStage
import Mathlib.Data.List.GetD

/-!
# Fetch under a stall

`if_stage` by itself, under any stream of inputs. The IF/ID register is held by `stall_i`
as its comment promises, but in the choice of the next program counter a hit in the branch
target buffer comes before the stall: a branch that waits behind a stall, and is in the
buffer, is passed over. `stallFreezes_iff` says that nothing else goes wrong.
-/

namespace RiscvCore.Units

open Rtl

/-- `if_stage`, with `mem` the words of its instruction memory. -/
def fetch (mem : Imem) : Machine IfStage IfIn where
  init := .reset
  next := IfStage.next mem

/-- The state of `if_stage` in a cycle, counted from reset, under a stream of inputs. -/
def fetchAt (mem : Imem) (i : ℕ → IfIn) (t : ℕ) : IfStage := (fetch mem).run (Machine.stream i) t

/-- A cycle in which fetch should wait: `stall_i` is up, and nothing resets, redirects or
flushes. -/
def Waits (x : IfIn) : Prop :=
  x.rstN = true ∧ x.stall = true ∧ x.exMispredict = false ∧ x.flush = false

/-- A cycle at whose end the IF/ID register takes the fetched instruction. -/
def Loads (x : IfIn) : Prop := x.rstN = true ∧ x.stall = false ∧ x.flush = false

/-! ### One edge -/

section Edge

variable {mem : Imem} {x : IfIn} {s : IfStage}

theorem ifId_of_waits (h : Waits x) :
    (s.next mem x).idPc = s.idPc ∧ (s.next mem x).idInstr = s.idInstr := by
  obtain ⟨hr, hs, -, hf⟩ := h
  simp [IfStage.next, hr, hs, hf]

theorem pc_of_waits (h : Waits x) : (s.next mem x).pc =
    if btbHit s.btb s.pc = true then btbPredictTarget s.btb s.pc else s.pc := by
  obtain ⟨hr, hs, hm, -⟩ := h
  simp [IfStage.next, IfStage.pcNext, hr, hs, hm]

theorem ifId_of_loads (h : Loads x) :
    (s.next mem x).idPc = s.pc ∧ (s.next mem x).idInstr = imem mem s.pc := by
  obtain ⟨hr, hs, hf⟩ := h
  simp [IfStage.next, hr, hs, hf]

end Edge

/-! ### Whole stalls -/

/-- **A stall freezes fetch**, under the stream `i`. -/
structure StallFreezes (mem : Imem) (i : ℕ → IfIn) : Prop where
  pc : ∀ t, Waits (i t) → (fetchAt mem i (t + 1)).pc = (fetchAt mem i t).pc
  ifId : ∀ t, Waits (i t) → (fetchAt mem i (t + 1)).idPc = (fetchAt mem i t).idPc ∧
    (fetchAt mem i (t + 1)).idInstr = (fetchAt mem i t).idInstr
  /-- After a stall of `k` cycles the instruction that was waiting goes on to ID. -/
  resumes : ∀ t k, (∀ j, j < k → Waits (i (t + j))) → Loads (i (t + k)) →
    (fetchAt mem i (t + k + 1)).idPc = (fetchAt mem i t).pc ∧
      (fetchAt mem i (t + k + 1)).idInstr = imem mem (fetchAt mem i t).pc

/-- Whenever fetch should wait and the buffer hits, its target is the program counter. -/
def HitsAreSelfLoops (mem : Imem) (i : ℕ → IfIn) : Prop :=
  ∀ t, Waits (i t) → btbHit (fetchAt mem i t).btb (fetchAt mem i t).pc = true →
    btbPredictTarget (fetchAt mem i t).btb (fetchAt mem i t).pc = (fetchAt mem i t).pc

section Stall

variable {mem : Imem} {i : ℕ → IfIn}

theorem fetchAt_succ (t : ℕ) : fetchAt mem i (t + 1) = (fetchAt mem i t).next mem (i t) := rfl

/-- One waiting cycle keeps the program counter exactly where a hit is a self-loop. -/
theorem pc_eq_iff {t : ℕ} (h : Waits (i t)) :
    (fetchAt mem i (t + 1)).pc = (fetchAt mem i t).pc ↔
      (btbHit (fetchAt mem i t).btb (fetchAt mem i t).pc = true →
        btbPredictTarget (fetchAt mem i t).btb (fetchAt mem i t).pc = (fetchAt mem i t).pc) := by
  rw [fetchAt_succ, pc_of_waits h]
  split_ifs with hb
  · exact ⟨fun h _ => h, fun h => h hb⟩
  · exact ⟨fun _ hb' => absurd hb' hb, fun _ => rfl⟩

/-- If every waiting cycle keeps the program counter, a whole stall does. -/
theorem pc_of_stall (hpc : ∀ t, Waits (i t) → (fetchAt mem i (t + 1)).pc = (fetchAt mem i t).pc)
    (t k : ℕ) (h : ∀ j, j < k → Waits (i (t + j))) :
    (fetchAt mem i (t + k)).pc = (fetchAt mem i t).pc := by
  induction k with
  | zero => rfl
  | succ k ih =>
    rw [← Nat.add_assoc, hpc _ (h k (Nat.lt_succ_self k))]
    exact ih fun j hj => h j (Nat.lt_succ_of_lt hj)

end Stall

/-- **A stall freezes fetch exactly where every hit in a waiting cycle is a self-loop.** -/
theorem stallFreezes_iff (mem : Imem) (i : ℕ → IfIn) :
    StallFreezes mem i ↔ HitsAreSelfLoops mem i := by
  constructor
  · exact fun h t hw => (pc_eq_iff hw).mp (h.pc t hw)
  · intro h
    have hpc : ∀ t, Waits (i t) → (fetchAt mem i (t + 1)).pc = (fetchAt mem i t).pc :=
      fun t hw => (pc_eq_iff hw).mpr (h t hw)
    refine ⟨hpc, fun t hw => ifId_of_waits hw, fun t k hw hl => ?_⟩
    rw [← pc_of_stall hpc t k hw]
    exact ifId_of_loads hl

/-- Two redirects, from address 0 to 8 and from 8 back to 0, with a cycle in between in which
the instruction at 8 goes on to ID; then a stall. -/
def trainedLoop : List IfIn :=
  [⟨true, false, true, true, 8#32⟩, ⟨true, false, false, false, 0#32⟩,
    ⟨true, false, true, true, 0#32⟩, ⟨true, true, false, false, 0#32⟩]

/-- The stall does not hold the program counter at 0: the buffer sends it to 8. -/
theorem not_stallFreezes_trainedLoop :
    ¬ StallFreezes (fun _ => 0#32) fun t => trainedLoop.getD t ⟨true, false, false, false, 0#32⟩ := by
  intro h
  have h3 := h.pc 3 ⟨rfl, rfl, rfl, rfl⟩
  revert h3
  decide +kernel

end RiscvCore.Units
