import RiscvCore.Foundation.ByteLanes
import RiscvCore.Rtl.MemWbStage

/-!
# Storing and loading back

`lsu` by itself. Its byte enables and its extension of loaded data are as they should be
(`lsuMemBe_getLsbD`, `lsuRdata_eq`), but `byte_val` is eight in two bits, which is zero, and
so neither the store data nor the load data is ever shifted (`lsuMemWdata_eq`,
`shiftedRdata_eq`). `roundTrips_iff` says for which words this goes unnoticed.
-/

namespace RiscvCore.Units

open Rtl ByteLanes

/-- How many bytes an access touches. -/
def accessBytes : LsuOp → ℕ
  | .byte | .byteU => 1
  | .half | .halfU => 2
  | .word => 4

/-- The place of an access in the word that holds it. -/
def lane (addr : Data) : ℕ := (byteOffset addr).toNat

/-- The access is naturally aligned. -/
def NaturallyAligned (op : LsuOp) (addr : Data) : Prop := lane addr % accessBytes op = 0

/-- The low bytes of a word, as many as the access touches, sign- or zero-extended. -/
def extended : LsuOp → Data → Data
  | .byte, w => (w.setWidth 8).signExtend 32
  | .half, w => (w.setWidth 16).signExtend 32
  | .word, w => w
  | .byteU, w => (w.setWidth 8).setWidth 32
  | .halfU, w => (w.setWidth 16).setWidth 32

/-- The memory word after a store: the store data on the enabled byte lanes. -/
def stored (op : LsuOp) (addr old wdata : Data) : Data :=
  merge (lsu op addr wdata old true).memBe old (lsu op addr wdata old true).memWdata

/-- **Store and load back**: the store replaces exactly the addressed bytes, by the low bytes
of `wdata`, and a load of the same width and address returns these. -/
structure RoundTrips (op : LsuOp) (addr old wdata : Data) : Prop where
  replaced : ∀ k, k < 4 → byteAt (stored op addr old wdata) k =
    if lane addr ≤ k ∧ k < lane addr + accessBytes op then byteAt wdata (k - lane addr)
    else byteAt old k
  loaded : ∀ ld, accessBytes ld = accessBytes op →
    (lsu ld addr 0#32 (stored op addr old wdata) false).rdata = extended ld wdata

/-- The access is at byte 0; or the bytes of `wdata` on its lanes and the low bytes of the old
word both repeat the low bytes of `wdata`. -/
def ShiftUnnoticed (op : LsuOp) (addr old wdata : Data) : Prop :=
  lane addr = 0 ∨ ∀ k, k < accessBytes op →
    byteAt wdata (lane addr + k) = byteAt wdata k ∧ byteAt old k = byteAt wdata k

/-! ### The unit, output by output -/

section Outputs

variable (op : LsuOp) (addr wdata m : Data)

theorem byteVal_eq : byteVal = 0#2 := rfl

/-- Store data are not shifted. -/
theorem lsuMemWdata_eq : lsuMemWdata op addr wdata = wdata := by
  cases op <;> simp [lsuMemWdata, byteVal_eq]

theorem shiftedRdata_eq : shiftedRdata addr m = m := by simp [shiftedRdata, byteVal_eq]

theorem lsuRdata_eq : lsuRdata op m = extended op m := by
  cases op with
  | word => rfl
  | byte | half | byteU | halfU =>
    refine BitVec.eq_of_getLsbD_eq fun i hi => ?_
    simp only [lsuRdata, extended, BitVec.getLsbD_append, BitVec.getLsbD_signExtend,
      BitVec.getLsbD_setWidth, BitVec.getLsbD_extractLsb', BitVec.getLsbD_replicate]
    grind

variable {op addr}

/-- The byte enables mark the addressed bytes. -/
theorem lsuMemBe_getLsbD (h : NaturallyAligned op addr) {k : ℕ} (hk : k < 4) :
    (lsuMemBe op addr).getLsbD k = true ↔ lane addr ≤ k ∧ k < lane addr + accessBytes op := by
  unfold NaturallyAligned lane at h
  unfold lane lsuMemBe
  generalize byteOffset addr = o at h ⊢
  revert o k
  cases op <;> decide

theorem lane_add_le (h : NaturallyAligned op addr) : lane addr + accessBytes op ≤ 4 := by
  have hlt : lane addr < 4 := (byteOffset addr).isLt
  unfold NaturallyAligned at h
  cases op <;> simp only [accessBytes] at h ⊢ <;> omega

end Outputs

theorem setWidth_extended (op : LsuOp) (x : Data) :
    (extended op x).setWidth (8 * accessBytes op) = x.setWidth (8 * accessBytes op) := by
  cases op with
  | word => rfl
  | byteU | halfU => exact BitVec.setWidth_setWidth_of_le _ (by decide)
  | byte | half =>
    refine BitVec.eq_of_getLsbD_eq fun i hi => ?_
    simp only [accessBytes] at hi
    simp only [extended, accessBytes, BitVec.getLsbD_setWidth, BitVec.getLsbD_signExtend]
    grind

/-- The extended low bytes of two words agree exactly when the bytes do. -/
theorem extended_eq_iff (op : LsuOp) (x y : Data) :
    extended op x = extended op y ↔ ∀ k, k < accessBytes op → byteAt x k = byteAt y k := by
  rw [← setWidth_eq_iff]
  constructor
  · intro h
    rw [← setWidth_extended, h, setWidth_extended]
  · intro h
    cases op with
    | word => simpa [accessBytes, extended] using h
    | byte | half => exact congrArg (BitVec.signExtend 32) h
    | byteU | halfU => exact congrArg (BitVec.setWidth 32) h

section RoundTrip

variable {op : LsuOp} {addr : Data} (h : NaturallyAligned op addr) (old wdata : Data)
include h

/-- What a store leaves in memory, byte by byte. -/
theorem byteAt_stored {k : ℕ} (hk : k < 4) : byteAt (stored op addr old wdata) k =
    if lane addr ≤ k ∧ k < lane addr + accessBytes op then byteAt wdata k else byteAt old k := by
  show byteAt (merge (lsuMemBe op addr) old (lsuMemWdata op addr wdata)) k = _
  rw [byteAt_merge, lsuMemWdata_eq]
  exact if_congr (lsuMemBe_getLsbD h hk) rfl rfl

/-- The bytes are replaced exactly where those of `wdata` on the lanes are its low ones. -/
theorem replaced_iff : (∀ k, k < 4 → byteAt (stored op addr old wdata) k =
      if lane addr ≤ k ∧ k < lane addr + accessBytes op then byteAt wdata (k - lane addr)
      else byteAt old k) ↔
    ∀ k, k < accessBytes op → byteAt wdata (lane addr + k) = byteAt wdata k := by
  have hle := lane_add_le h
  constructor
  · intro hr k hk
    have hin : lane addr ≤ lane addr + k ∧ lane addr + k < lane addr + accessBytes op := by omega
    have hk' := hr (lane addr + k) (by omega)
    rwa [byteAt_stored h old wdata (by omega), if_pos hin, if_pos hin, Nat.add_sub_cancel_left]
      at hk'
  · intro hw k hk
    rw [byteAt_stored h old wdata hk]
    split_ifs with hin
    · rw [← hw (k - lane addr) (by omega), Nat.add_sub_cancel' hin.1]
    · rfl

/-- The low bytes are loaded exactly where those in memory are those of `wdata`. -/
theorem loaded_iff : (∀ ld, accessBytes ld = accessBytes op →
      (lsu ld addr 0#32 (stored op addr old wdata) false).rdata = extended ld wdata) ↔
    ∀ k, k < accessBytes op → lane addr ≤ k ∨ byteAt old k = byteAt wdata k := by
  have hle := lane_add_le h
  have hld : ∀ ld, accessBytes ld = accessBytes op →
      ((lsu ld addr 0#32 (stored op addr old wdata) false).rdata = extended ld wdata ↔
        ∀ k, k < accessBytes op → lane addr ≤ k ∨ byteAt old k = byteAt wdata k) := by
    intro ld hn
    show lsuRdata ld (shiftedRdata addr _) = _ ↔ _
    rw [shiftedRdata_eq, lsuRdata_eq, extended_eq_iff, hn]
    refine forall₂_congr fun k hk => ?_
    rw [byteAt_stored h old wdata (by omega)]
    split_ifs with hin
    · exact iff_of_true rfl (.inl hin.1)
    · exact (or_iff_right (by omega)).symm
  exact ⟨fun hl => (hld op rfl).mp (hl op rfl), fun hb ld hn => (hld ld hn).mpr hb⟩

end RoundTrip

/-- **Store and load back work exactly where the missing shift goes unnoticed.** -/
theorem roundTrips_iff (op : LsuOp) (addr old wdata : Data) (h : NaturallyAligned op addr) :
    RoundTrips op addr old wdata ↔ ShiftUnnoticed op addr old wdata := by
  have hsplit : RoundTrips op addr old wdata ↔
      (∀ k, k < accessBytes op → byteAt wdata (lane addr + k) = byteAt wdata k) ∧
        ∀ k, k < accessBytes op → lane addr ≤ k ∨ byteAt old k = byteAt wdata k := by
    rw [← replaced_iff h old wdata, ← loaded_iff h old wdata]
    exact ⟨fun hr => ⟨hr.replaced, hr.loaded⟩, fun hr => ⟨hr.1, hr.2⟩⟩
  rw [hsplit, ShiftUnnoticed, ← forall₂_and]
  constructor
  · intro hk
    rcases Nat.eq_zero_or_pos (lane addr) with h0 | hpos
    · exact .inl h0
    · -- the access ends where the next one of its width begins
      have hge : accessBytes op ≤ lane addr := Nat.le_of_dvd hpos (Nat.dvd_of_mod_eq_zero h)
      exact .inr fun k hlt => ⟨(hk k hlt).1, (hk k hlt).2.resolve_left (by omega)⟩
  · rintro (h0 | hk) k hlt
    · exact ⟨by rw [h0, Nat.zero_add], .inl (by omega)⟩
    · exact ⟨(hk k hlt).1, .inr (hk k hlt).2⟩

/-- A half word at byte 2 whose two halves, and the old low half, are the same. -/
theorem roundTrips_iff_sameHalves : RoundTrips .half 2#32 0xBEEF#32 0xBEEFBEEF#32 ↔
    ShiftUnnoticed .half 2#32 0xBEEF#32 0xBEEFBEEF#32 :=
  roundTrips_iff .half 2#32 0xBEEF#32 0xBEEFBEEF#32 (by unfold NaturallyAligned; decide)

/-- Storing a byte at byte 1 stores byte 1 of `wdata`. -/
theorem not_roundTrips_byteOne :
    ¬ (NaturallyAligned .byte 1#32 → RoundTrips .byte 1#32 0#32 0xAB#32) := by
  intro h
  have h1 := (h (by unfold NaturallyAligned; decide)).replaced 1 (by decide)
  revert h1
  decide +kernel

end RiscvCore.Units
