import RiscvCore.Checker.MonitorFields

/-!
# Generated transactions and instruction words

The random sequence generates the fields of an instruction, the monitor extracts them from
a word. `Encodable` says that some word has a transaction's fields, which comes down to its
immediate (`encodable_iff_source`). The constraints leave the immediate of most
instructions open, and they set `funct7` for the shifts beside an immediate that excludes
it; what remains to be asked is `ImmediateFits` (`encodable_iff`).
-/

namespace RiscvCore.Checker

open Rtl Dv Logic RiscvCore.Units
open Rv32i.Format (representable_i representable_s representable_b representable_u)

/-- Whether the words of an opcode have a field, for a field of the formats that have an
immediate; the R format has all of them. -/
def formatHas (g : Rv32i.Format → Bool) (o : Opcode) : Bool :=
  match immFormat o with
  | none => true
  | some f => g f

/-- The shifts by an immediate. -/
def IsShiftImm (o : Opcode) (funct3 : Funct3) : Prop :=
  o = .iType ∧ (funct3 = .sll ∨ funct3 = .srlSra)

/-- The fields of `tx` that the words of its opcode `o` have are the same in `m`. The R format has
the field `funct7`, and the words of the shifts by an immediate do. -/
structure SameFields (o : Opcode) (tx m : RiscvInstrTx) : Prop where
  rd : formatHas Rv32i.Format.hasRd o = true → m.rd = tx.rd
  rs1 : formatHas Rv32i.Format.hasRs1 o = true → m.rs1 = tx.rs1
  rs2 : formatHas Rv32i.Format.hasRs2 o = true → m.rs2 = tx.rs2
  funct3 : formatHas Rv32i.Format.hasRs1 o = true → m.funct3 = tx.funct3
  funct7 : o = .rType ∨ IsShiftImm o (Funct3.ofBits tx.funct3) → m.funct7 = tx.funct7
  imm : o ≠ .rType → m.imm = tx.imm

/-- The monitor decodes some word as the opcode and the fields of `tx`. -/
def Encodable (tx : RiscvInstrTx) : Prop :=
  ∃ w o, Opcode.ofBits tx.opcode = some o ∧ (decoded w).opcode = tx.opcode ∧
    SameFields o tx (decoded w)

/-- The immediate is one that the format has and that the monitor gives back: the offset of a
branch is not negative, and a shift is no arithmetic one, which has a bit of `funct7` in its
immediate. -/
def ImmediateFits (tx : RiscvInstrTx) : Prop :=
  match Opcode.ofBits tx.opcode with
  | some .iType =>
      if Funct3.ofBits tx.funct3 = .sll ∨ Funct3.ofBits tx.funct3 = .srlSra then
        Funct7.ofBits tx.funct7 = some .base
      else -2048 ≤ tx.imm.val.toInt ∧ tx.imm.val.toInt ≤ 2047
  | some .load | some .store => tx.imm.val.toInt ≤ 2047
  | some .branch => 0 < tx.imm.val.toInt
  | some .lui | some .auipc => 4096 ∣ tx.imm.val.toInt
  | some .rType | some .jal | some .jalr | none => True

/-! ### What the monitor reads -/

/-- What the monitor makes of the immediate `v` of a word. -/
def heard (f : Rv32i.Format) (v : Data) : Data :=
  match f with
  | .i | .s | .u => v
  | .b | .j => (v.setWidth 31).setWidth 32

theorem decodeImmediate_eq_heard {o : Opcode} {f : Rv32i.Format} (ho : immFormat o = some f)
    (w : Data) : decodeImmediate w (getImmType (some o)) = heard f (f.imm w) := by
  cases o <;> cases ho
  case iType | load | jalr => exact decodeImmediate_i w
  case store => exact decodeImmediate_s w
  case branch =>
    rw [heard, Rv32i.Format.imm, ← immB_eq]
    exact decodeImmediate_b w
  case lui | auipc => exact decodeImmediate_u w
  case jal =>
    rw [heard, Rv32i.Format.imm, ← immJ_eq]
    exact decodeImmediate_j w

section Fields

variable {tx : RiscvInstrTx} {o : Opcode}

/-- The fields of `tx` in the places of the R format. -/
def base (tx : RiscvInstrTx) : Data :=
  Rv32i.assemble tx.funct7 tx.rs2 tx.rs1 tx.funct3 tx.rd tx.opcode

/-- The immediate that a word with the fields of `tx` must have. -/
structure Source (o : Opcode) (tx : RiscvInstrTx) (f : Rv32i.Format) (v : Data) : Prop where
  representable : f.Representable v.toInt
  heard_eq : heard f v = tx.imm.val
  shift : IsShiftImm o (Funct3.ofBits tx.funct3) → v.extractLsb' 5 7 = tx.funct7

/-- A word that the monitor decodes as `tx` has such an immediate. -/
theorem source_of_sameFields {w : Data} {f : Rv32i.Format} (hw : opcodeField w = some o)
    (hf : immFormat o = some f) (h : SameFields o tx (decoded w)) : Source o tx f (f.imm w) where
  representable := f.representable_imm w
  heard_eq := by
    have hne : o ≠ .rType := by
      rintro rfl
      cases hf
    rw [← h.imm hne, ← decodeImmediate_eq_heard hf, ← hw]
    rfl
  shift hs := by
    obtain rfl : Rv32i.Format.i = f := Option.some.inj (by rw [← hf, hs.1]; rfl)
    rw [← h.funct7 (.inr hs), ← Rv32i.Format.funct7_place_i _ w, Rv32i.Format.place_imm]
    rfl

theorem opcode_base (tx : RiscvInstrTx) : Rv32i.opcode (base tx) = tx.opcode :=
  Rv32i.opcode_assemble ..

/-- A word with such an immediate is decoded as `tx`. -/
theorem sameFields_of_source {f : Rv32i.Format} {v : Data} (ho : Opcode.ofBits tx.opcode = some o)
    (hi : tx.imm.IsKnown) (hf : immFormat o = some f) (hv : Source o tx f v) :
    SameFields o tx (decoded (f.place v (base tx))) where
  rd h := by
    rw [formatHas, hf] at h
    exact (f.rd_place v _ h).trans (Rv32i.rd_assemble ..)
  rs1 h := by
    rw [formatHas, hf] at h
    exact (f.rs1_place v _ h).trans (Rv32i.rs1_assemble ..)
  rs2 h := by
    rw [formatHas, hf] at h
    exact (f.rs2_place v _ h).trans (Rv32i.rs2_assemble ..)
  funct3 h := by
    rw [formatHas, hf] at h
    exact (f.funct3_place v _ h).trans (Rv32i.funct3_assemble ..)
  funct7 h := by
    rcases h with rfl | hs
    · cases hf
    · obtain rfl : Rv32i.Format.i = f := Option.some.inj (by rw [← hf, hs.1]; rfl)
      exact (Rv32i.Format.funct7_place_i v _).trans (hv.shift hs)
  imm _ := by
    have hw : opcodeField (f.place v (base tx)) = some o := by
      rw [opcodeField_place, ← ho, ← opcode_base tx]
      rfl
    have hdec : decodeImmediate (f.place v (base tx)) (getImmType (some o)) = tx.imm.val := by
      rw [decodeImmediate_eq_heard hf, f.imm_place hv.representable, hv.heard_eq]
    rw [hi.eq_known, ← hdec, ← hw]
    rfl

/-- The R format has all fields that its transactions have. -/
theorem sameFields_base (tx : RiscvInstrTx) : SameFields .rType tx (decoded (base tx)) where
  rd _ := Rv32i.rd_assemble ..
  rs1 _ := Rv32i.rs1_assemble ..
  rs2 _ := Rv32i.rs2_assemble ..
  funct3 _ := Rv32i.funct3_assemble ..
  funct7 _ := Rv32i.funct7_assemble ..
  imm h := absurd rfl h

/-- A transaction of the R format has a word. -/
theorem encodable_rType (ho : Opcode.ofBits tx.opcode = some .rType) : Encodable tx :=
  ⟨base tx, .rType, ho, opcode_base tx, sameFields_base tx⟩

/-- **A transaction has a word exactly if its immediate has a source**, whatever constrains it. -/
theorem encodable_iff_source {f : Rv32i.Format} (ho : Opcode.ofBits tx.opcode = some o)
    (hi : tx.imm.IsKnown) (hf : immFormat o = some f) : Encodable tx ↔ ∃ v, Source o tx f v := by
  constructor
  · rintro ⟨w, o', ho', hop, h⟩
    obtain rfl := Option.some.inj (ho.symm.trans ho')
    have hw : opcodeField w = some o := by
      rw [← ho, ← hop]
      rfl
    exact ⟨f.imm w, source_of_sameFields hw hf h⟩
  · rintro ⟨v, hv⟩
    exact ⟨f.place v (base tx), o, ho, (f.opcode_place _ _).trans (opcode_base tx),
      sameFields_of_source ho hi hf hv⟩

end Fields

/-! ### What the constraints leave open -/

section Constraints

variable {tx : RiscvInstrTx} {o : Opcode}

/-- Where the monitor does not change the immediate, the only source is the immediate. -/
theorem exists_source_iff {f : Rv32i.Format} (hf : ∀ v, heard f v = v) :
    (∃ v, Source o tx f v) ↔ f.Representable tx.imm.val.toInt ∧
      (IsShiftImm o (Funct3.ofBits tx.funct3) → tx.imm.val.extractLsb' 5 7 = tx.funct7) := by
  constructor
  · rintro ⟨v, hv⟩
    obtain rfl : v = tx.imm.val := (hf v).symm.trans hv.heard_eq
    exact ⟨hv.representable, hv.shift⟩
  · rintro ⟨hr, hs⟩
    exact ⟨tx.imm.val, hr, hf _, hs⟩

/-- An opcode without shifts asks of such an immediate that its format has it. -/
theorem exists_source_iff_representable {f : Rv32i.Format} (hf : ∀ v, heard f v = v)
    (ho : o ≠ .iType) : (∃ v, Source o tx f v) ↔ f.Representable tx.imm.val.toInt := by
  rw [exists_source_iff hf]
  exact and_iff_left fun hs => absurd hs.1 ho

theorem ofBits_eq_base_iff (b : BitVec 7) : Funct7.ofBits b = some .base ↔ b = 0#7 := by
  unfold Funct7.ofBits
  split_ifs <;> simp_all

/-- An amount by which a word is shifted fits if its instruction has no bit of `funct7` set. -/
theorem source_shift_iff (hs : Funct3.ofBits tx.funct3 = .sll ∨ Funct3.ofBits tx.funct3 = .srlSra)
    (h : tx.imm.val.extractLsb' 5 27 = 0#27) :
    (∃ v, Source .iType tx .i v) ↔ Funct7.ofBits tx.funct7 = some .base := by
  obtain ⟨hlo, hhi⟩ := Rv32i.Format.toInt_of_upper_eq_zero (by decide) (by decide) h
  have hseven : tx.imm.val.extractLsb' 5 7 = 0#7 := by
    have hslice := Rv32i.Format.extractLsb'_extractLsb' (m := 5) (n := 27) (k := 0) (l := 7)
      tx.imm.val (by decide)
    rw [h] at hslice
    exact hslice.symm
  rw [exists_source_iff fun _ => rfl, representable_i, hseven, ofBits_eq_base_iff]
  constructor
  · exact fun hsrc => (hsrc.2 ⟨rfl, hs⟩).symm
  · exact fun hbase => ⟨by omega, fun _ => hbase.symm⟩

/-- The offset of a branch within the permitted distance has a source if it is not negative. -/
theorem source_branch_iff (hlow : tx.imm.val.extractLsb' 0 2 = 0#2)
    (hrange : -64 ≤ tx.imm.val.toInt ∧ tx.imm.val.toInt ≤ 64) (hne : tx.imm.val ≠ 0#32) :
    (∃ v, Source .branch tx .b v) ↔ 0 < tx.imm.val.toInt := by
  have hsign : tx.imm.val.msb = false ↔ 0 < tx.imm.val.toInt := by
    have hz : tx.imm.val.toInt ≠ 0 := fun h => hne (BitVec.eq_of_toInt_eq (by rw [h]; rfl))
    rw [BitVec.msb_eq_toInt, decide_eq_false_iff_not]
    omega
  rw [← hsign, ← setWidth_eq_self_iff]
  constructor
  · rintro ⟨v, hv⟩
    rw [← hv.heard_eq]
    show ((((v.setWidth 31).setWidth 32).setWidth 31).setWidth 32) = (v.setWidth 31).setWidth 32
    simp
  · intro h
    have hfour : (2 : ℤ) ^ 2 ∣ tx.imm.val.toInt :=
      (Rv32i.Format.low_eq_zero_iff (by decide)).mp hlow
    exact ⟨tx.imm.val, (representable_b _).mpr ⟨by omega, by omega, by omega⟩, h,
      fun hs => by cases hs.1⟩

end Constraints

/-- **What the constraints leave open is exactly whether the immediate fits.** -/
theorem encodable_iff (tx : RiscvInstrTx) (h : tx.Randomized) :
    Encodable tx ↔ ImmediateFits tx := by
  have hlegal := h.legalOpcodes
  obtain ⟨-, hshift, hmem⟩ := h.structuralFields
  have hbranch := h.intermittentBranches
  unfold RiscvInstrTx.cIntermittentBranches at hbranch
  unfold RiscvInstrTx.cLegalOpcodes at hlegal
  unfold ImmediateFits
  cases ho : Opcode.ofBits tx.opcode with
  | none => simp [ho] at hlegal
  | some o =>
    rw [ho] at hlegal hshift hmem hbranch
    cases o with
    | rType => exact iff_of_true (encodable_rType ho) trivial
    | iType =>
      rw [encodable_iff_source ho h.imm rfl]
      by_cases hs : Funct3.ofBits tx.funct3 = .sll ∨ Funct3.ofBits tx.funct3 = .srlSra
      · rw [if_pos hs]
        exact source_shift_iff hs (hshift ⟨rfl, hs⟩).1
      · rw [if_neg hs, exists_source_iff fun _ => rfl, representable_i]
        exact and_iff_left fun hs' => absurd hs'.2 hs
    | load =>
      obtain ⟨hlo, -⟩ := Rv32i.Format.toInt_of_upper_eq_zero (by decide) (by decide) (hmem (.inl rfl)).2
      rw [encodable_iff_source ho h.imm rfl,
        exists_source_iff_representable (fun _ => rfl) (by decide), representable_i]
      omega
    | store =>
      obtain ⟨hlo, -⟩ := Rv32i.Format.toInt_of_upper_eq_zero (by decide) (by decide) (hmem (.inr rfl)).2
      rw [encodable_iff_source ho h.imm rfl,
        exists_source_iff_representable (fun _ => rfl) (by decide), representable_s]
      omega
    | branch =>
      obtain ⟨hlow, hrange, hne⟩ := hbranch rfl
      rw [encodable_iff_source ho h.imm rfl]
      exact source_branch_iff hlow hrange hne
    | lui | auipc =>
      rw [encodable_iff_source ho h.imm rfl,
        exists_source_iff_representable (fun _ => rfl) (by decide), representable_u]
    | jal => simp at hlegal
    | jalr => simp at hlegal

/-- The transaction of `addi x0, x1, v`, of `lui x0, v` and so on. -/
def generated (o : Opcode) (v : Data) : RiscvInstrTx :=
  ⟨o.bits, 1#5, 0#5, 0#5, 0#3, 0#7, known v, allX 32, allX 32⟩

theorem encodable_iff_addi :
    Encodable (generated .iType 5#32) ↔ ImmediateFits (generated .iType 5#32) :=
  encodable_iff _ ⟨by decide, rfl, by decide, by decide, by decide, by decide⟩

/-- `lui` with an immediate of 1 has no word. -/
theorem not_encodable_lui : ¬ ∀ tx : RiscvInstrTx, tx.Randomized → Encodable tx := by
  intro h
  have hlui := h (generated .lui 1#32) ⟨by decide, rfl, by decide, by decide, by decide, by decide⟩
  have hop : Opcode.ofBits (generated .lui 1#32).opcode = some .lui := by decide
  obtain ⟨v, hv⟩ := (encodable_iff_source hop rfl rfl).mp hlui
  have hdvd := (representable_u v).mp hv.representable
  obtain rfl : v = 1#32 := hv.heard_eq
  exact absurd hdvd (by decide)

end RiscvCore.Checker
