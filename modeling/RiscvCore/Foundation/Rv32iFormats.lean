import RiscvCore.Foundation.Rv32i
import Mathlib.Algebra.Ring.Divisibility.Basic

/-!
# The immediate formats of RV32I

Where a format keeps its immediate in an instruction word (`Format.place`), which
values it can hold (`Format.Representable`) and how it is read back (`Format.imm`, the
immediates of `Rv32i`). Reading inverts placing on the representable values
(`imm_place`), and placing inverts reading on every word (`place_imm`): the bits of
the immediate and its value determine each other.
-/

namespace RiscvCore.Rv32i

/-- The formats that have an immediate. -/
inductive Format where
  | i | s | b | u | j
  deriving DecidableEq, Repr

namespace Format

/-- The bits of an immediate, those that are always zero included. -/
def width : Format → ℕ
  | .i | .s => 12
  | .b => 13
  | .u => 32
  | .j => 21

/-- How many low bits of an immediate are always zero. -/
def align : Format → ℕ
  | .i | .s => 0
  | .b | .j => 1
  | .u => 12

/-- The immediates of a format: the multiples of `2 ^ align` that have `width` bits with
their sign. -/
def Representable (f : Format) (v : ℤ) : Prop :=
  -2 ^ (f.width - 1) ≤ v ∧ v < 2 ^ (f.width - 1) ∧ 2 ^ f.align ∣ v

theorem representable_i (v : ℤ) : Format.i.Representable v ↔ -2048 ≤ v ∧ v ≤ 2047 := by
  simp only [Representable, width, align, pow_zero, one_dvd, and_true]
  omega

theorem representable_s (v : ℤ) : Format.s.Representable v ↔ -2048 ≤ v ∧ v ≤ 2047 :=
  representable_i v

theorem representable_b (v : ℤ) : Format.b.Representable v ↔ -4096 ≤ v ∧ v ≤ 4095 ∧ 2 ∣ v := by
  simp only [Representable, width, align, pow_one]
  omega

/-- Every word is in the range of the U format. -/
theorem representable_u (v : Word) : Format.u.Representable v.toInt ↔ 4096 ∣ v.toInt := by
  have hlo := v.le_toInt
  have hhi := v.toInt_lt
  simp only [Representable, width, align]
  omega

/-- The immediate of a word. -/
def imm : Format → Word → Word
  | .i => iImm
  | .s => sImm
  | .b => bImm
  | .u => uImm
  | .j => jImm

/-- The word `w` with `v` in the place of its immediate. -/
def place : Format → Word → Word → Word
  | .i, v, w => v.extractLsb' 0 12 ++ w.extractLsb' 0 20
  | .s, v, w =>
      v.extractLsb' 5 7 ++ w.extractLsb' 12 13 ++ v.extractLsb' 0 5 ++ w.extractLsb' 0 7
  | .b, v, w =>
      v.extractLsb' 12 1 ++ v.extractLsb' 5 6 ++ w.extractLsb' 12 13 ++ v.extractLsb' 1 4 ++
        v.extractLsb' 11 1 ++ w.extractLsb' 0 7
  | .u, v, w => v.extractLsb' 12 20 ++ w.extractLsb' 0 12
  | .j, v, w =>
      v.extractLsb' 20 1 ++ v.extractLsb' 1 10 ++ v.extractLsb' 11 1 ++ v.extractLsb' 12 8 ++
        w.extractLsb' 0 12

/-- The bits of an instruction word that hold the immediate. -/
def mask : Format → Word
  | .i => 0xFFF00000#32
  | .s | .b => 0xFE000F80#32
  | .u | .j => 0xFFFFF000#32

/-! ### Values and their low bits -/

/-- A number of `n` bits with its sign is its low `n` bits, sign-extended. -/
theorem signExtend_low {n : ℕ} {v : Word} (hn : 0 < n) (hn' : n ≤ 32)
    (hlo : -2 ^ (n - 1) ≤ v.toInt) (hhi : v.toInt < 2 ^ (n - 1)) :
    (v.extractLsb' 0 n).signExtend 32 = v := by
  have hpow : (2 : ℤ) ^ n = 2 ^ (n - 1) * 2 := by
    rw [← pow_succ, Nat.sub_add_cancel hn]
  have hdvd : 2 ^ n ∣ 2 ^ 32 := pow_dvd_pow 2 hn'
  have hmod : v.toInt.bmod (2 ^ n) = (v.toNat : ℤ).bmod (2 ^ n) := by
    rw [BitVec.toInt_eq_toNat_bmod, Int.bmod_bmod_of_dvd hdvd]
  have hself : v.toInt.bmod (2 ^ n) = v.toInt :=
    Int.bmod_eq_of_le_mul_two (by push_cast; omega) (by push_cast; omega)
  apply BitVec.eq_of_toInt_eq
  rw [BitVec.toInt_signExtend_of_le hn', BitVec.toInt_extractLsb', Nat.shiftRight_zero, ← hmod,
    hself]

/-- Copies of its sign in front of a vector extend it. -/
theorem replicate_append_eq_signExtend {n k : ℕ} {x : BitVec n} {b : BitVec 1}
    (hb : b.msb = x.msb) : b.replicate k ++ x = x.signExtend (1 * k + n) := by
  ext i hi
  have hbit : b.getLsbD 0 = x.msb := hb
  rw [BitVec.getElem_append, BitVec.getElem_signExtend]
  split_ifs with h
  · rfl
  · rw [BitVec.getElem_replicate, ← hbit]
    simp [Nat.mod_one]

/-- What stands below an extended vector may be put below it before the extension. -/
theorem signExtend_append {m n v : ℕ} (x : BitVec m) (y : BitVec n) (hm : 0 < m) :
    x.signExtend v ++ y = (x ++ y).signExtend (v + n) := by
  have hmsb : (x ++ y).msb = x.msb := by
    rw [BitVec.msb_append, if_neg (by simp [hm.ne'])]
  ext i hi
  rw [BitVec.getElem_append, BitVec.getElem_signExtend, hmsb]
  by_cases hn : i < n
  · simp [hn, show i < m + n by omega, BitVec.getElem_append]
  · by_cases h : i < m + n
    · simp [hn, h, BitVec.getElem_append, BitVec.getElem_signExtend, show i - n < m by omega]
    · simp [hn, h, BitVec.getElem_signExtend, show ¬ i - n < m by omega]

/-- The low bits of a number are zero exactly if it is a multiple of their weight. -/
theorem low_eq_zero_iff {m n : ℕ} {v : BitVec m} (hn : n ≤ m) :
    v.extractLsb' 0 n = 0#n ↔ 2 ^ n ∣ v.toInt := by
  have hdvd : (2 : ℤ) ^ n ∣ 2 ^ m := pow_dvd_pow 2 hn
  have hint : (2 : ℤ) ^ n ∣ v.toInt ↔ 2 ^ n ∣ v.toNat := by
    rw [← Int.natCast_dvd_natCast, BitVec.toInt_eq_toNat_cond]
    push_cast
    split_ifs
    · rfl
    · exact dvd_sub_left hdvd
  rw [hint, ← BitVec.toNat_inj, BitVec.extractLsb'_toNat, Nat.shiftRight_zero, BitVec.toNat_ofNat,
    Nat.zero_mod, Nat.dvd_iff_mod_eq_zero]

/-- What a sign-extended number of `n` bits can be whose `k` low bits are zero. -/
theorem toInt_signExtend_mem {n k : ℕ} {x : BitVec n} (hn : n ≤ 32) (hk : k ≤ n)
    (h : x.extractLsb' 0 k = 0#k) :
    -2 ^ (n - 1) ≤ (x.signExtend 32).toInt ∧ (x.signExtend 32).toInt < 2 ^ (n - 1) ∧
      2 ^ k ∣ (x.signExtend 32).toInt := by
  rw [BitVec.toInt_signExtend_of_le hn]
  exact ⟨x.le_toInt, x.toInt_lt, (low_eq_zero_iff hk).mp h⟩

/-- A slice of a sign-extended number that does not reach beyond it. -/
theorem extractLsb'_signExtend {n k l : ℕ} (x : BitVec n) (h : k + l ≤ n) (hn : n ≤ 32) :
    (x.signExtend 32).extractLsb' k l = x.extractLsb' k l := by
  ext i hi
  simp only [BitVec.getElem_extractLsb', BitVec.getLsbD_signExtend]
  simp [show k + i < 32 by omega, show k + i < n by omega]

/-- A slice of a slice. -/
theorem extractLsb'_extractLsb' {m n k l : ℕ} (w : Word) (h : k + l ≤ n) :
    (w.extractLsb' m n).extractLsb' k l = w.extractLsb' (m + k) l := by
  ext i hi
  simp only [BitVec.getElem_extractLsb', BitVec.getLsbD_extractLsb']
  simp [show k + i < n by omega, Nat.add_assoc]

/-- A word whose upper bits are zero. -/
theorem toNat_lt_of_upper_eq_zero {n l : ℕ} {v : Word} (hl : n + l = 32)
    (h : v.extractLsb' n l = 0#l) : v.toNat < 2 ^ n := by
  have hlt : v.toNat < 2 ^ n * 2 ^ l := by
    rw [← pow_add, hl]
    exact v.isLt
  have hdiv : v.toNat / 2 ^ n < 2 ^ l := Nat.div_lt_of_lt_mul hlt
  have hzero : v.toNat / 2 ^ n % 2 ^ l = 0 := by
    rw [← Nat.shiftRight_eq_div_pow]
    simpa using congrArg BitVec.toNat h
  rw [Nat.mod_eq_of_lt hdiv] at hzero
  exact (Nat.div_eq_zero_iff_lt (Nat.two_pow_pos n)).mp hzero

theorem toInt_of_upper_eq_zero {n l : ℕ} {v : Word} (hn : n < 32) (hl : n + l = 32)
    (h : v.extractLsb' n l = 0#l) : 0 ≤ v.toInt ∧ v.toInt < 2 ^ n := by
  have hlt := toNat_lt_of_upper_eq_zero hl h
  have hpow : 2 ^ n ≤ 2 ^ 31 := Nat.pow_le_pow_right (by decide) (by omega)
  have hint : v.toInt = v.toNat := BitVec.toInt_eq_toNat_of_lt (by omega)
  rw [hint]
  exact ⟨Int.natCast_nonneg _, by exact_mod_cast hlt⟩

/-! ### Reading and placing -/

section Place

variable (f : Format)

/-- **Reading inverts placing**: the immediate of a word that `v` was placed in is `v`. -/
theorem imm_place {v : Word} (h : f.Representable v.toInt) (w : Word) :
    f.imm (f.place v w) = v := by
  obtain ⟨hlo, hhi, hdvd⟩ := h
  cases f with
  | i =>
    refine Eq.trans ?_ (signExtend_low (by decide) (by decide) hlo hhi)
    simp (disch := decide) only [imm, place, iImm, BitVec.extractLsb'_append_eq_of_le,
      Nat.reduceSub, BitVec.extractLsb'_eq_self]
    rfl
  | s =>
    refine Eq.trans ?_ (signExtend_low (by decide) (by decide) hlo hhi)
    simp (disch := decide) only [imm, place, sImm, BitVec.extractLsb'_append_eq_of_le,
      BitVec.extractLsb'_append_eq_of_add_le, Nat.reduceSub, BitVec.extractLsb'_eq_self,
      BitVec.extractLsb'_append_extractLsb'_eq_extractLsb']
    rfl
  | b =>
    have hz : v.extractLsb' 0 1 = 0#1 := (low_eq_zero_iff (by decide)).mpr hdvd
    refine Eq.trans ?_ (signExtend_low (by decide) (by decide) hlo hhi)
    simp (disch := decide) only [imm, place, bImm, BitVec.extractLsb'_append_eq_of_le,
      BitVec.extractLsb'_append_eq_of_add_le, Nat.reduceSub, BitVec.extractLsb'_eq_self, ← hz,
      BitVec.extractLsb'_append_extractLsb'_eq_extractLsb']
    rfl
  | u =>
    have hz : v.extractLsb' 0 12 = 0#12 := (low_eq_zero_iff (by decide)).mpr hdvd
    refine Eq.trans ?_ (BitVec.extractLsb'_eq_self (x := v))
    simp (disch := decide) only [imm, place, uImm, BitVec.extractLsb'_append_eq_of_le,
      Nat.reduceSub, BitVec.extractLsb'_eq_self, ← hz,
      BitVec.extractLsb'_append_extractLsb'_eq_extractLsb']
  | j =>
    have hz : v.extractLsb' 0 1 = 0#1 := (low_eq_zero_iff (by decide)).mpr hdvd
    refine Eq.trans ?_ (signExtend_low (by decide) (by decide) hlo hhi)
    simp (disch := decide) only [imm, place, jImm, BitVec.extractLsb'_append_eq_of_le,
      BitVec.extractLsb'_append_eq_of_add_le, Nat.reduceSub, BitVec.extractLsb'_eq_self, ← hz,
      BitVec.extractLsb'_append_extractLsb'_eq_extractLsb']
    rfl

theorem Representable.toInt_ofInt {f : Format} {v : ℤ} (h : f.Representable v) :
    (BitVec.ofInt 32 v).toInt = v := by
  have hpow : (2 : ℤ) ^ (f.width - 1) ≤ 2 ^ 31 := by cases f <;> decide
  obtain ⟨hlo, hhi, -⟩ := h
  rw [BitVec.toInt_ofInt]
  exact Int.bmod_eq_of_le_mul_two (by omega) (by omega)

/-- The same of a number `v`, read with its sign. -/
theorem toInt_imm_place {v : ℤ} (h : f.Representable v) (w : Word) :
    (f.imm (f.place (BitVec.ofInt 32 v) w)).toInt = v := by
  have hv := h.toInt_ofInt
  rw [imm_place f (hv.symm ▸ h), hv]

variable (v w : Word)

/-- **Placing inverts reading**: a word is unchanged by its own immediate. -/
theorem place_imm : f.place (f.imm w) w = w := by
  refine Eq.trans ?_ (BitVec.extractLsb'_eq_self (x := w))
  cases f with
  | i =>
    simp (disch := decide) only [imm, place, iImm, extractLsb'_signExtend,
      BitVec.extractLsb'_eq_self, BitVec.extractLsb'_append_extractLsb'_eq_extractLsb']
  | s =>
    simp (disch := decide) only [imm, place, sImm, extractLsb'_signExtend,
      BitVec.extractLsb'_append_eq_of_le, BitVec.extractLsb'_append_eq_of_add_le, Nat.reduceSub,
      BitVec.extractLsb'_eq_self, BitVec.extractLsb'_append_extractLsb'_eq_extractLsb']
  | b =>
    simp (disch := decide) only [imm, place, bImm, extractLsb'_signExtend,
      BitVec.extractLsb'_append_eq_of_le, BitVec.extractLsb'_append_eq_of_add_le, Nat.reduceSub,
      BitVec.extractLsb'_eq_self, BitVec.extractLsb'_append_extractLsb'_eq_extractLsb']
  | u =>
    simp (disch := decide) only [imm, place, uImm, BitVec.extractLsb'_append_eq_of_le,
      Nat.reduceSub, BitVec.extractLsb'_eq_self,
      BitVec.extractLsb'_append_extractLsb'_eq_extractLsb']
  | j =>
    simp (disch := decide) only [imm, place, jImm, extractLsb'_signExtend,
      BitVec.extractLsb'_append_eq_of_le, BitVec.extractLsb'_append_eq_of_add_le, Nat.reduceSub,
      BitVec.extractLsb'_eq_self, BitVec.extractLsb'_append_extractLsb'_eq_extractLsb']

/-- An immediate that is read is one that can be placed. -/
theorem representable_imm : f.Representable (f.imm w).toInt := by
  cases f with
  | i => exact toInt_signExtend_mem (by decide) (by decide) (BitVec.eq_of_zero_length rfl)
  | s => exact toInt_signExtend_mem (by decide) (by decide) (BitVec.eq_of_zero_length rfl)
  | b => exact toInt_signExtend_mem (by decide) (by decide) BitVec.extractLsb'_append_eq_right
  | u =>
    exact ⟨BitVec.le_toInt _, BitVec.toInt_lt,
      (low_eq_zero_iff (by decide)).mp BitVec.extractLsb'_append_eq_right⟩
  | j => exact toInt_signExtend_mem (by decide) (by decide) BitVec.extractLsb'_append_eq_right

/-! ### The bits of the immediate and the other bits -/

/-- Placing is bit by bit. -/
theorem place_and (v' w' : Word) :
    f.place v w &&& f.place v' w' = f.place (v &&& v') (w &&& w') := by
  cases f with
  | i =>
    refine BitVec.and_append.trans ?_
    simp only [place, BitVec.extractLsb'_and]
  | s =>
    refine BitVec.and_append.trans ?_
    simp only [place, BitVec.and_append, BitVec.extractLsb'_and]
  | b =>
    refine BitVec.and_append.trans ?_
    simp only [place, BitVec.and_append, BitVec.extractLsb'_and]
  | u =>
    refine BitVec.and_append.trans ?_
    simp only [place, BitVec.extractLsb'_and]
  | j =>
    refine BitVec.and_append.trans ?_
    simp only [place, BitVec.and_append, BitVec.extractLsb'_and]

theorem mask_eq_place : f.mask = f.place (BitVec.allOnes 32) 0#32 := by
  cases f <;> decide

theorem not_mask_eq_place : ~~~f.mask = f.place 0#32 (BitVec.allOnes 32) := by
  cases f <;> decide

/-- The immediate's bits of a word that `v` was placed in are those of `v`. -/
theorem place_and_mask : f.place v w &&& f.mask = f.place v 0#32 := by
  rw [mask_eq_place, place_and, BitVec.and_allOnes, BitVec.and_zero]

/-- A word's own immediate has its bits. -/
theorem and_mask : w &&& f.mask = f.place (f.imm w) 0#32 := by
  rw [← place_and_mask f (f.imm w) w, place_imm]

/-- The other bits do not depend on `v`. -/
theorem place_and_not_mask : f.place v w &&& ~~~f.mask = w &&& ~~~f.mask := by
  have hrest : ∀ u, f.place u w &&& ~~~f.mask = f.place 0#32 w := by
    intro u
    rw [not_mask_eq_place, place_and, BitVec.and_allOnes, BitVec.and_zero]
  calc f.place v w &&& ~~~f.mask = f.place 0#32 w := hrest v
    _ = f.place (f.imm w) w &&& ~~~f.mask := (hrest _).symm
    _ = w &&& ~~~f.mask := by rw [place_imm]

/-- The immediate's bits are determined by its value. -/
theorem and_mask_inj {w w' : Word} (h : f.imm w = f.imm w') : w &&& f.mask = w' &&& f.mask := by
  rw [and_mask, and_mask, h]

/-! ### The fields beside the immediate -/

/-- Whether a format has the field `rd`. -/
def hasRd : Format → Bool
  | .i | .u | .j => true
  | .s | .b => false

/-- Whether a format has the fields `rs1` and `funct3`. -/
def hasRs1 : Format → Bool
  | .i | .s | .b => true
  | .u | .j => false

/-- Whether a format has the field `rs2`. -/
def hasRs2 : Format → Bool
  | .s | .b => true
  | .i | .u | .j => false

@[simp] theorem opcode_place : opcode (f.place v w) = opcode w := by
  cases f <;> simp (disch := decide) only [opcode, place, BitVec.extractLsb'_append_eq_of_add_le,
    BitVec.extractLsb'_extractLsb'_of_le]

theorem rd_place (h : f.hasRd = true) : rd (f.place v w) = rd w := by
  cases f <;> simp only [hasRd, Bool.false_eq_true] at h <;>
    simp (disch := decide) only [rd, place, BitVec.extractLsb'_append_eq_of_add_le,
      BitVec.extractLsb'_extractLsb'_of_le]

theorem rs1_place (h : f.hasRs1 = true) : rs1 (f.place v w) = rs1 w := by
  cases f <;> simp only [hasRs1, Bool.false_eq_true] at h <;>
    simp (disch := decide) only [rs1, place, BitVec.extractLsb'_append_eq_of_le,
      BitVec.extractLsb'_append_eq_of_add_le, Nat.reduceSub, extractLsb'_extractLsb', Nat.zero_add]

theorem funct3_place (h : f.hasRs1 = true) : funct3 (f.place v w) = funct3 w := by
  cases f <;> simp only [hasRs1, Bool.false_eq_true] at h <;>
    simp (disch := decide) only [funct3, place, BitVec.extractLsb'_append_eq_of_le,
      BitVec.extractLsb'_append_eq_of_add_le, Nat.reduceSub, extractLsb'_extractLsb', Nat.zero_add]

theorem rs2_place (h : f.hasRs2 = true) : rs2 (f.place v w) = rs2 w := by
  cases f <;> simp only [hasRs2, Bool.false_eq_true] at h <;>
    simp (disch := decide) only [rs2, place, BitVec.extractLsb'_append_eq_of_le,
      BitVec.extractLsb'_append_eq_of_add_le, Nat.reduceSub, extractLsb'_extractLsb']

/-- The upper seven bits of an I-immediate are where other words have `funct7`. -/
theorem funct7_place_i : funct7 (Format.i.place v w) = v.extractLsb' 5 7 := by
  simp (disch := decide) only [funct7, place, BitVec.extractLsb'_append_eq_of_le,
    BitVec.extractLsb'_extractLsb'_of_le, Nat.reduceSub]

end Place

end Format

/-! ### Words from their fields -/

/-- The word of the given fields, which has no immediate. -/
def assemble (f7 : BitVec 7) (b a : Reg) (f3 : BitVec 3) (d : Reg) (o : BitVec 7) : Word :=
  f7 ++ b ++ a ++ f3 ++ d ++ o

section Assemble

variable (f7 o : BitVec 7) (b a d : Reg) (f3 : BitVec 3)

@[simp] theorem opcode_assemble : opcode (assemble f7 b a f3 d o) = o :=
  BitVec.extractLsb'_append_eq_right

@[simp] theorem rd_assemble : rd (assemble f7 b a f3 d o) = d := by
  simp (disch := decide) only [rd, assemble, BitVec.extractLsb'_append_eq_of_le,
    BitVec.extractLsb'_append_eq_right, Nat.reduceSub]

@[simp] theorem funct3_assemble : funct3 (assemble f7 b a f3 d o) = f3 := by
  simp (disch := decide) only [funct3, assemble, BitVec.extractLsb'_append_eq_of_le,
    BitVec.extractLsb'_append_eq_right, Nat.reduceSub]

@[simp] theorem rs1_assemble : rs1 (assemble f7 b a f3 d o) = a := by
  simp (disch := decide) only [rs1, assemble, BitVec.extractLsb'_append_eq_of_le,
    BitVec.extractLsb'_append_eq_right, Nat.reduceSub]

@[simp] theorem rs2_assemble : rs2 (assemble f7 b a f3 d o) = b := by
  simp (disch := decide) only [rs2, assemble, BitVec.extractLsb'_append_eq_of_le,
    BitVec.extractLsb'_append_eq_right, Nat.reduceSub]

@[simp] theorem funct7_assemble : funct7 (assemble f7 b a f3 d o) = f7 := by
  simp (disch := decide) only [funct7, assemble, BitVec.extractLsb'_append_eq_of_le,
    Nat.reduceSub, BitVec.extractLsb'_eq_self]

end Assemble

end RiscvCore.Rv32i
