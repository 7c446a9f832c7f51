import Mathlib.Data.Nat.Notation
import Mathlib.Tactic.SplitIfs

/-!
# Bytes of a word

A word as its bytes, the least significant first, and the merge of two words byte by byte
under an enable for each lane, as a memory with byte enables does it.
-/

namespace RiscvCore.ByteLanes

/-- Byte `k` of a word. -/
def byteAt {w : ℕ} (x : BitVec w) (k : ℕ) : BitVec 8 := x.extractLsb' (8 * k) 8

/-- The word with given bits. -/
def ofBits (w : ℕ) (f : ℕ → Bool) : BitVec w := (BitVec.iunfoldr (fun i (_ : Unit) => ((), f i)) ()).2

/-- The word `old` with the bytes of `new` on the enabled lanes. -/
def merge {n w : ℕ} (be : BitVec n) (old new : BitVec w) : BitVec w :=
  ofBits w fun i => if be.getLsbD (i / 8) = true then new.getLsbD i else old.getLsbD i

variable {n w : ℕ}

theorem getLsbD_ofBits (f : ℕ → Bool) {i : ℕ} (hi : i < w) : (ofBits w f).getLsbD i = f i :=
  BitVec.iunfoldr_getLsbD (fun _ => ()) ⟨i, hi⟩ fun _ => rfl

theorem getLsbD_byteAt (x : BitVec w) (k i : ℕ) :
    (byteAt x k).getLsbD i = (decide (i < 8) && x.getLsbD (8 * k + i)) :=
  BitVec.getLsbD_extractLsb' _ _ _ _

theorem getLsbD_merge (be : BitVec n) (old new : BitVec w) (i : ℕ) :
    (merge be old new).getLsbD i =
      if be.getLsbD (i / 8) = true then new.getLsbD i else old.getLsbD i := by
  by_cases hi : i < w
  · exact getLsbD_ofBits _ hi
  · have h : ∀ x : BitVec w, x.getLsbD i = false := fun x => BitVec.getLsbD_of_ge x i (Nat.le_of_not_lt hi)
    simp [h]

/-- A merge is byte by byte. -/
theorem byteAt_merge (be : BitVec n) (old new : BitVec w) (k : ℕ) :
    byteAt (merge be old new) k = if be.getLsbD k = true then byteAt new k else byteAt old k := by
  refine BitVec.eq_of_getLsbD_eq fun i hi => ?_
  have hk : (8 * k + i) / 8 = k := by omega
  rw [getLsbD_byteAt, getLsbD_merge, hk]
  split_ifs <;> rw [getLsbD_byteAt]

/-- The low bytes of two words agree exactly when they agree byte by byte. -/
theorem setWidth_eq_iff (x y : BitVec w) (m : ℕ) :
    x.setWidth (8 * m) = y.setWidth (8 * m) ↔ ∀ k, k < m → byteAt x k = byteAt y k := by
  constructor
  · intro h k hk
    refine BitVec.eq_of_getLsbD_eq fun i hi => ?_
    have hlt : 8 * k + i < 8 * m := by omega
    have hbit := congrArg (fun z => z.getLsbD (8 * k + i)) h
    simp only [BitVec.getLsbD_setWidth, hlt, decide_true, Bool.true_and] at hbit
    rw [getLsbD_byteAt, getLsbD_byteAt, hbit]
  · intro h
    refine BitVec.eq_of_getLsbD_eq fun i hi => ?_
    have hsplit : 8 * (i / 8) + i % 8 = i := by omega
    have hmod : i % 8 < 8 := by omega
    have hbit := congrArg (fun z => z.getLsbD (i % 8)) (h (i / 8) (by omega))
    simp only [getLsbD_byteAt, hsplit, hmod, decide_true, Bool.true_and] at hbit
    rw [BitVec.getLsbD_setWidth, BitVec.getLsbD_setWidth, hbit]

end RiscvCore.ByteLanes
