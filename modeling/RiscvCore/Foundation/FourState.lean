import Mathlib.Data.BitVec
import Mathlib.Tactic.SplitIfs

/-!
# Four-state words

The words of a hardware description language whose bits may be unknown: `logic` vectors of
SystemVerilog, less the value `z`, which only an undriven net has. A word is a mask of ones
and a mask of unknown bits that do not overlap (`Logic`), so that equality of words is case
equality (`===`). The operators follow the language: arithmetic and comparison give up at
the first unknown bit, the bitwise operators and shifts work bit by bit, and a conditional
on an unknown condition keeps the bits on which its branches agree.

On known words the operators are those of `BitVec` (the `known_…` lemmas); on a word of
unknown bits only, the lemmas say when the result is such a word again.
-/

namespace RiscvCore

/-- A word of `n` bits, each 0, 1 or unknown. -/
@[ext]
structure Logic (n : ℕ) where
  /-- The bits that are 1. -/
  val : BitVec n
  /-- The bits that are unknown. -/
  unk : BitVec n
  val_and_unk : val &&& unk = 0#n
  deriving DecidableEq

namespace Logic

variable {n m : ℕ}

/-- A word without unknown bits. -/
def known (v : BitVec n) : Logic n := ⟨v, 0#n, BitVec.and_zero⟩

/-- The word of unknown bits, `'x`: what a variable holds before it is assigned. -/
def allX (n : ℕ) : Logic n := ⟨0#n, .allOnes n, BitVec.zero_and⟩

/-- No bit is unknown. -/
def IsKnown (a : Logic n) : Prop := a.unk = 0#n

instance (a : Logic n) : Decidable a.IsKnown := inferInstanceAs (Decidable (_ = _))

/-! ### Operators -/

theorem and_and_not_self (x y : BitVec n) : x &&& (y &&& ~~~x) = 0#n := by
  ext i hi
  simp only [BitVec.getElem_and, BitVec.getElem_not, BitVec.getElem_zero]
  cases x[i] <;> simp

/-- An arithmetic operator: unknown as a whole if any bit of an operand is. -/
def arith (f : BitVec n → BitVec n → BitVec n) (a b : Logic n) : Logic n :=
  if a.IsKnown ∧ b.IsKnown then known (f a.val b.val) else allX n

instance : Add (Logic n) := ⟨arith (· + ·)⟩

instance : Sub (Logic n) := ⟨arith (· - ·)⟩

/-- A comparison: `none` for an unknown truth value. -/
def compare (p : BitVec n → BitVec n → Bool) (a b : Logic n) : Option Bool :=
  if a.IsKnown ∧ b.IsKnown then some (p a.val b.val) else none

/-- Bitwise and: 0 wins over unknown. -/
instance : AndOp (Logic n) where
  and a b :=
    ⟨a.val &&& b.val, ((a.val ||| a.unk) &&& (b.val ||| b.unk)) &&& ~~~(a.val &&& b.val),
      and_and_not_self _ _⟩

/-- Bitwise or: 1 wins over unknown. -/
instance : OrOp (Logic n) where
  or a b := ⟨a.val ||| b.val, (a.unk ||| b.unk) &&& ~~~(a.val ||| b.val), and_and_not_self _ _⟩

/-- Bitwise exclusive or. -/
instance : XorOp (Logic n) where
  xor a b :=
    ⟨(a.val ^^^ b.val) &&& ~~~(a.unk ||| b.unk), a.unk ||| b.unk, by
      rw [BitVec.and_comm]
      exact and_and_not_self _ _⟩

/-- The bits `i` to `i + m - 1`. -/
def extract (a : Logic n) (i m : ℕ) : Logic m where
  val := a.val.extractLsb' i m
  unk := a.unk.extractLsb' i m
  val_and_unk := by rw [← BitVec.extractLsb'_and, a.val_and_unk, BitVec.extractLsb'_zero]

/-- Shift left, by an amount that must be known. -/
instance : HShiftLeft (Logic n) (Logic m) (Logic n) where
  hShiftLeft a s :=
    if s.IsKnown then
      ⟨a.val <<< s.val.toNat, a.unk <<< s.val.toNat, by
        rw [← BitVec.shiftLeft_and_distrib, a.val_and_unk, BitVec.zero_shiftLeft]⟩
    else allX n

/-- Shift right, filling with 0. -/
instance : HShiftRight (Logic n) (Logic m) (Logic n) where
  hShiftRight a s :=
    if s.IsKnown then
      ⟨a.val >>> s.val.toNat, a.unk >>> s.val.toNat, by
        rw [← BitVec.ushiftRight_and_distrib, a.val_and_unk, BitVec.zero_ushiftRight]⟩
    else allX n

/-- Shift right, filling with the sign bit, be it unknown. -/
def sshiftRight (a : Logic n) (s : Logic m) : Logic n :=
  if s.IsKnown then
    ⟨a.val.sshiftRight s.val.toNat, a.unk.sshiftRight s.val.toNat, by
      rw [← BitVec.sshiftRight_and_distrib, a.val_and_unk, BitVec.zero_sshiftRight]⟩
  else allX n

/-- The conditional operator: on an unknown condition the bits on which `a` and `b` agree. -/
def mux (c : Option Bool) (a b : Logic n) : Logic n :=
  match c with
  | some true => a
  | some false => b
  | none =>
      ⟨a.val &&& b.val, ((a.val ||| a.unk) ||| (b.val ||| b.unk)) &&& ~~~(a.val &&& b.val),
        and_and_not_self _ _⟩

/-! ### Known words -/

section Known

variable (v w : BitVec n) (s : BitVec m)

@[simp] theorem isKnown_known : (known v).IsKnown := rfl

theorem known_injective : Function.Injective (known : BitVec n → Logic n) :=
  fun _ _ h => congrArg Logic.val h

@[simp] theorem known_inj {v w : BitVec n} : known v = known w ↔ v = w := known_injective.eq_iff

/-- A word without unknown bits is that of its ones. -/
theorem IsKnown.eq_known {a : Logic n} (h : a.IsKnown) : a = known a.val := Logic.ext rfl h

theorem arith_known (f : BitVec n → BitVec n → BitVec n) :
    arith f (known v) (known w) = known (f v w) := if_pos ⟨rfl, rfl⟩

@[simp] theorem known_add : known v + known w = known (v + w) := arith_known v w _

@[simp] theorem known_sub : known v - known w = known (v - w) := arith_known v w _

@[simp] theorem compare_known (p : BitVec n → BitVec n → Bool) :
    compare p (known v) (known w) = some (p v w) := if_pos ⟨rfl, rfl⟩

@[simp] theorem known_and : known v &&& known w = known (v &&& w) := by
  refine Logic.ext rfl ?_
  show (((v ||| 0#n) &&& (w ||| 0#n)) &&& ~~~(v &&& w)) = 0#n
  rw [BitVec.or_zero, BitVec.or_zero]
  exact BitVec.and_not_self _

@[simp] theorem known_or : known v ||| known w = known (v ||| w) := by
  refine Logic.ext rfl ?_
  show ((0#n ||| 0#n) &&& ~~~(v ||| w)) = 0#n
  rw [BitVec.or_zero, BitVec.zero_and]

@[simp] theorem known_xor : known v ^^^ known w = known (v ^^^ w) := by
  refine Logic.ext ?_ BitVec.or_zero
  show (v ^^^ w) &&& ~~~(0#n ||| 0#n) = v ^^^ w
  rw [BitVec.or_zero, BitVec.not_zero, BitVec.and_allOnes]

@[simp] theorem extract_known (i k : ℕ) : (known v).extract i k = known (v.extractLsb' i k) :=
  Logic.ext rfl BitVec.extractLsb'_zero

@[simp] theorem known_shiftLeft : known v <<< known s = known (v <<< s.toNat) :=
  (if_pos rfl).trans (Logic.ext rfl (BitVec.zero_shiftLeft _))

@[simp] theorem known_shiftRight : known v >>> known s = known (v >>> s.toNat) :=
  (if_pos rfl).trans (Logic.ext rfl BitVec.zero_ushiftRight)

@[simp] theorem known_sshiftRight :
    (known v).sshiftRight (known s) = known (v.sshiftRight s.toNat) :=
  (if_pos rfl).trans (Logic.ext rfl BitVec.zero_sshiftRight)

@[simp] theorem mux_some (c : Bool) (a b : Logic n) : mux (some c) a b = if c = true then a else b := by
  cases c <;> rfl

end Known

/-! ### Unknown words -/

section AllX

variable (a : Logic n) (v : BitVec n) (s : BitVec m)

/-- A word is unknown as a whole when its mask says so. -/
theorem eq_allX_iff : a = allX n ↔ a.unk = .allOnes n := by
  refine ⟨fun h => congrArg Logic.unk h, fun h => Logic.ext ?_ h⟩
  calc a.val = a.val &&& a.unk := by rw [h, BitVec.and_allOnes]
    _ = 0#n := a.val_and_unk

@[simp] theorem allX_xor : allX n ^^^ a = allX n := by
  rw [eq_allX_iff]
  exact BitVec.allOnes_or

@[simp] theorem xor_allX : a ^^^ allX n = allX n := by
  rw [eq_allX_iff]
  exact BitVec.or_allOnes

theorem allX_and_known : allX n &&& known v = allX n ↔ v = .allOnes n := by
  rw [eq_allX_iff]
  show ((0#n ||| .allOnes n) &&& (v ||| 0#n)) &&& ~~~(0#n &&& v) = .allOnes n ↔ _
  simp

theorem allX_or_known : allX n ||| known v = allX n ↔ v = 0#n := by
  rw [eq_allX_iff]
  show (.allOnes n ||| 0#n) &&& ~~~(0#n ||| v) = .allOnes n ↔ _
  simp [BitVec.not_eq_comm]

theorem and_allX : a &&& allX n = allX n ↔ a.val ||| a.unk = .allOnes n := by
  rw [eq_allX_iff]
  show ((a.val ||| a.unk) &&& (0#n ||| .allOnes n)) &&& ~~~(a.val &&& 0#n) = .allOnes n ↔ _
  simp

theorem or_allX : a ||| allX n = allX n ↔ a.val = 0#n := by
  rw [eq_allX_iff]
  show (a.unk ||| .allOnes n) &&& ~~~(a.val ||| 0#n) = .allOnes n ↔ _
  simp [BitVec.not_eq_comm]

@[simp] theorem extract_allX {i k : ℕ} (h : i + k ≤ n) : (allX n).extract i k = allX k := by
  rw [eq_allX_iff]
  show (BitVec.allOnes n).extractLsb' i k = .allOnes k
  ext j hj
  simp
  omega

/-- The sign bit that is shifted in is unknown too. -/
@[simp] theorem allX_sshiftRight_known : (allX n).sshiftRight (known s) = allX n := by
  have hs : ((allX n).sshiftRight (known s)).unk = (BitVec.allOnes n).sshiftRight s.toNat :=
    congrArg unk (if_pos rfl)
  rw [eq_allX_iff, hs]
  ext i hi
  simp [BitVec.getElem_sshiftRight, BitVec.msb_allOnes, Nat.zero_lt_of_lt hi]

/-- On an unknown condition the conditional operator is unknown as a whole exactly when its
branches differ in every bit. -/
theorem mux_none_known (w : BitVec n) : mux none (known v) (known w) = allX n ↔ v = ~~~w := by
  rw [eq_allX_iff]
  show ((v ||| 0#n) ||| (w ||| 0#n)) &&& ~~~(v &&& w) = .allOnes n ↔ _
  rw [BitVec.or_zero, BitVec.or_zero]
  constructor
  · intro h
    ext i hi
    have hbit := congrArg (fun x => x[i]) h
    simp only [BitVec.getElem_and, BitVec.getElem_or, BitVec.getElem_not,
      BitVec.getElem_allOnes] at hbit
    rw [BitVec.getElem_not]
    revert hbit
    cases v[i] <;> cases w[i] <;> decide
  · rintro rfl
    ext i hi
    simp

variable [NeZero n]

theorem allOnes_ne_zero : BitVec.allOnes n ≠ 0#n := by
  intro h
  have h0 := congrArg (fun x => x.getLsbD 0) h
  simp [Nat.pos_of_neZero n] at h0

theorem not_isKnown_allX : ¬ (allX n).IsKnown := allOnes_ne_zero

@[simp] theorem known_ne_allX : known v ≠ allX n := fun h => not_isKnown_allX (h ▸ isKnown_known v)

/-- Arithmetic on an unknown operand is unknown. -/
theorem arith_allX (f : BitVec n → BitVec n → BitVec n) :
    arith f (allX n) a = allX n ∧ arith f a (allX n) = allX n :=
  ⟨if_neg fun h => not_isKnown_allX h.1, if_neg fun h => not_isKnown_allX h.2⟩

@[simp] theorem allX_add : allX n + a = allX n := (arith_allX a _).1

@[simp] theorem add_allX : a + allX n = allX n := (arith_allX a _).2

@[simp] theorem allX_sub : allX n - a = allX n := (arith_allX a _).1

@[simp] theorem sub_allX : a - allX n = allX n := (arith_allX a _).2

@[simp] theorem compare_allX_left (p : BitVec n → BitVec n → Bool) : compare p (allX n) a = none :=
  if_neg fun h => not_isKnown_allX h.1

@[simp] theorem compare_allX_right (p : BitVec n → BitVec n → Bool) : compare p a (allX n) = none :=
  if_neg fun h => not_isKnown_allX h.2

theorem allX_shiftLeft_known : allX n <<< known s = allX n ↔ s = 0#m := by
  have hs : (allX n <<< known s).unk = BitVec.allOnes n <<< s.toNat := congrArg unk (if_pos rfl)
  rw [eq_allX_iff, hs]
  constructor
  · intro h
    -- the lowest bit is shifted in
    have h0 := congrArg (fun x => x.getLsbD 0) h
    simp only [BitVec.getLsbD_shiftLeft, BitVec.getLsbD_allOnes] at h0
    have hz : s.toNat = 0 := by simpa [Nat.pos_of_neZero n] using h0
    exact BitVec.eq_of_toNat_eq (by rw [hz]; rfl)
  · rintro rfl
    exact BitVec.shiftLeft_zero _

theorem allX_shiftRight_known : allX n >>> known s = allX n ↔ s = 0#m := by
  have hs : (allX n >>> known s).unk = BitVec.allOnes n >>> s.toNat := congrArg unk (if_pos rfl)
  rw [eq_allX_iff, hs]
  constructor
  · intro h
    -- the highest bit is shifted in
    have h0 := congrArg (fun x => x.getLsbD (n - 1)) h
    simp only [BitVec.getLsbD_ushiftRight, BitVec.getLsbD_allOnes] at h0
    have hn := Nat.pos_of_neZero n
    have hlt : s.toNat + (n - 1) < n := by simpa [Nat.sub_lt hn Nat.one_pos] using h0
    have hz : s.toNat = 0 := by omega
    exact BitVec.eq_of_toNat_eq (by rw [hz]; rfl)
  · rintro rfl
    exact BitVec.ushiftRight_zero _

end AllX

/-! ### Shifting by an unknown amount -/

section ShiftAmount

variable [NeZero m] (a : Logic n)

@[simp] theorem shiftLeft_allX : a <<< allX m = allX n := if_neg not_isKnown_allX

@[simp] theorem shiftRight_allX : a >>> allX m = allX n := if_neg not_isKnown_allX

@[simp] theorem sshiftRight_allX : a.sshiftRight (allX m) = allX n := if_neg not_isKnown_allX

end ShiftAmount

end Logic

end RiscvCore
