import RiscvCore.Pipeline.Run

/-!
# Forwarding to the instruction in EX

An instruction in EX should get, for each register it reads, the result of the youngest
older instruction in flight that writes it. `core_top` feeds the forwarding unit the
source addresses of the instruction in ID instead, so what arrives is the result of the
youngest writer of the registers *that* instruction names, and a load in MEM passes for
a writer whose result is there.

`forwardsRaw_of_fieldsAgree` says when the operands are right all the same: whenever the
two instructions' fields pick the same source (`FieldAgrees`), which
`select_eq_wanted_iff` shows to be exact as far as the choice of source goes.
-/

namespace RiscvCore.Pipeline

open Rtl

/-! ### Writers in flight -/

section Writers

variable (c : Core) (a b : Address)

/-- The instruction in MEM writes register `a`. -/
def MemWrites : Prop := c.exMem.regWriteEn = true ∧ c.exMem.rdAddr = a

/-- The instruction in WB writes register `a`. -/
def WbWrites : Prop := c.memWb.regWriteEn = true ∧ c.memWb.rdAddr = a

instance : Decidable (MemWrites c a) := by unfold MemWrites; infer_instance

instance : Decidable (WbWrites c a) := by unfold WbWrites; infer_instance

/-- The source of an operand that reads `a`, in the instruction set's sense: MEM if it
writes `a` and is no load, else WB if it writes `a`, else the latched value. -/
def wanted : FwdCtrl :=
  if MemWrites c a ∧ c.exMem.memToReg = false then .mem
  else if WbWrites c a then .wb
  else .idEx

/-- The value such an operand should have, with `v` the latched value. -/
def youngest (v : Data) : Data :=
  if MemWrites c a ∧ c.exMem.memToReg = false then c.exMem.aluResult
  else if WbWrites c a then c.wbDataOut
  else v

/-- The source the forwarding unit selects for address `b`. -/
def select : FwdCtrl :=
  computeFwdCtrl b c.exMem.rdAddr c.exMem.regWriteEn c.memWb.rdAddr c.memWb.regWriteEn

/-- A register other than `x0` that MEM or WB writes. -/
def Pending : Prop := b ≠ 0#5 ∧ (MemWrites c b ∨ WbWrites c b)

instance : Decidable (Pending c b) := by unfold Pending; infer_instance

/-- Field `b` of the instruction in ID stands in for field `a` of the one in EX: it names
the same register, which no load in MEM writes; or it names no register in flight, and
neither WB nor a non-load in MEM writes `a`. -/
def FieldAgrees : Prop :=
  (b = a ∧ ¬ (MemWrites c a ∧ c.exMem.memToReg = true)) ∨
    (b ≠ a ∧ ¬ Pending c b ∧ ¬ (MemWrites c a ∧ c.exMem.memToReg = false) ∧ ¬ WbWrites c a)

instance : Decidable (FieldAgrees c a b) := by unfold FieldAgrees; infer_instance

end Writers

section Select

variable {c : Core} {a b : Address}

theorem select_eq_mem_iff : select c b = .mem ↔ b ≠ 0#5 ∧ MemWrites c b := by
  unfold select computeFwdCtrl MemWrites
  split_ifs with h1 h2 <;> grind

theorem select_eq_wb_iff : select c b = .wb ↔ b ≠ 0#5 ∧ WbWrites c b ∧ ¬ MemWrites c b := by
  unfold select computeFwdCtrl MemWrites WbWrites
  split_ifs with h1 h2 <;> grind

theorem select_eq_idEx_iff : select c b = .idEx ↔ ¬ Pending c b := by
  unfold select computeFwdCtrl Pending MemWrites WbWrites
  split_ifs with h1 h2 <;> grind

/-- MEM writes at most one register. -/
theorem MemWrites.eq (ha : MemWrites c a) (hb : MemWrites c b) : b = a := hb.2.symm.trans ha.2

/-- WB writes at most one register. -/
theorem WbWrites.eq (ha : WbWrites c a) (hb : WbWrites c b) : b = a := hb.2.symm.trans ha.2

/-- **The fields agree exactly when the forwarding unit selects the wanted source.** -/
theorem select_eq_wanted_iff (ha : a ≠ 0#5) : select c b = wanted c a ↔ FieldAgrees c a b := by
  unfold wanted FieldAgrees
  split_ifs with hm hw
  · -- a non-load in MEM writes `a`
    rw [select_eq_mem_iff]
    constructor
    · rintro ⟨-, hb⟩
      exact .inl ⟨hm.1.eq hb, by simp [hm.2]⟩
    · rintro (⟨rfl, -⟩ | ⟨-, -, h, -⟩)
      · exact ⟨ha, hm.1⟩
      · exact absurd hm h
  · -- WB writes `a`
    rw [select_eq_wb_iff]
    constructor
    · rintro ⟨-, hb, hnm⟩
      obtain rfl := hw.eq hb
      exact .inl ⟨rfl, fun h => hnm h.1⟩
    · rintro (⟨rfl, h⟩ | ⟨-, -, -, h⟩)
      · refine ⟨ha, hw, fun hb => ?_⟩
        cases hl : c.exMem.memToReg
        · exact hm ⟨hb, hl⟩
        · exact h ⟨hb, hl⟩
      · exact absurd hw h
  · -- no writer of `a` whose result is there
    rw [select_eq_idEx_iff]
    constructor
    · intro hp
      by_cases hba : b = a
      · subst hba
        exact .inl ⟨rfl, fun h => hp ⟨ha, .inl h.1⟩⟩
      · exact .inr ⟨hba, hp, hm, hw⟩
    · rintro (⟨rfl, h⟩ | ⟨-, hp, -, -⟩)
      · rintro ⟨-, hb | hb⟩
        · cases hl : c.exMem.memToReg
          · exact hm ⟨hb, hl⟩
          · exact h ⟨hb, hl⟩
        · exact hw hb
      · exact hp

theorem youngest_eq (v : Data) :
    youngest c a v = computeMuxFwdCtrl (wanted c a) c.exMem.aluResult c.wbDataOut v := by
  unfold youngest wanted
  split_ifs <;> rfl

/-- Where the fields agree the operand is the youngest writer's result. -/
theorem forward_eq_youngest (ha : a ≠ 0#5) (h : FieldAgrees c a b) (v : Data) :
    c.forward b v = youngest c a v := by
  rw [youngest_eq, ← (select_eq_wanted_iff ha).mpr h]
  rfl

theorem forward_eq_select (v : Data) :
    c.forward b v = computeMuxFwdCtrl (select c b) c.exMem.aluResult c.memWb.aluResult v := rfl

/-- A register that MEM writes is taken from there. -/
theorem forward_of_memWrites (hb : b ≠ 0#5) (hm : MemWrites c b) (v : Data) :
    c.forward b v = c.exMem.aluResult := by
  rw [forward_eq_select, select_eq_mem_iff.mpr ⟨hb, hm⟩]
  rfl

/-- A register that WB writes, and MEM does not, is taken from there. -/
theorem forward_of_wbWrites (hb : b ≠ 0#5) (hw : WbWrites c b) (hm : ¬ MemWrites c b) (v : Data) :
    c.forward b v = c.memWb.aluResult := by
  rw [forward_eq_select, select_eq_wb_iff.mpr ⟨hb, hw, hm⟩]
  rfl

/-- A register that is not pending is not forwarded. -/
theorem forward_of_not_pending (h : ¬ Pending c b) (v : Data) : c.forward b v = v := by
  rw [forward_eq_select, select_eq_idEx_iff.mpr h]
  rfl

end Select

/-! ### Read-after-write -/

/-- An R-type instruction in ID in cycle `t` is in EX in the next. -/
def RTypeIssues (r : Run) (t : ℕ) : Prop :=
  (r.inp t).rstN = true ∧ (r.st t).exMispredict = false ∧
    opcodeField (r.st t).ifId.instr = some .rType

/-- **RAW forwarding**: in EX, each source register but `x0` of an R-type instruction
comes from the youngest writer in flight. -/
def ForwardsRaw (r : Run) : Prop :=
  ∀ t, RTypeIssues r t →
    (rs1Field (r.st t).ifId.instr ≠ 0#5 →
      (r.st (t + 1)).exIn.opAFwd =
        youngest (r.st (t + 1)) (rs1Field (r.st t).ifId.instr) (r.st (t + 1)).idEx.regData1) ∧
    (rs2Field (r.st t).ifId.instr ≠ 0#5 →
      (r.st (t + 1)).exIn.opBFwd =
        youngest (r.st (t + 1)) (rs2Field (r.st t).ifId.instr) (r.st (t + 1)).idEx.regData2)

/-- The instruction that follows into ID agrees with the one in EX in both fields that the
one in EX reads. -/
def FieldsAgree (r : Run) (t : ℕ) : Prop :=
  (rs1Field (r.st t).ifId.instr ≠ 0#5 →
    FieldAgrees (r.st (t + 1)) (rs1Field (r.st t).ifId.instr)
      (rs1Field (r.st (t + 1)).ifId.instr)) ∧
  (rs2Field (r.st t).ifId.instr ≠ 0#5 →
    FieldAgrees (r.st (t + 1)) (rs2Field (r.st t).ifId.instr)
      (rs2Field (r.st (t + 1)).ifId.instr))

/-- **Where the fields agree in every cycle, forwarding is right in every cycle.** -/
theorem forwardsRaw_of_fieldsAgree (r : Run) (h : ∀ t, RTypeIssues r t → FieldsAgree r t) :
    ForwardsRaw r := fun t ht =>
  ⟨fun ha => forward_eq_youngest ha ((h t ht).1 ha) _,
    fun hb => forward_eq_youngest hb ((h t ht).2 hb) _⟩

/-- With no load on the bus there is none in MEM. -/
theorem not_memToReg_of_noLoad {r : Run} (h : ∀ u, opcodeField (r.inp u).instrData ≠ some .load)
    (t : ℕ) : ¬ (r.st t).exMem.memToReg = true := by
  have hex : ∀ t, ¬ (r.st t).idEx.memToReg = true := by
    rintro (_ | t) hload
    · exact absurd hload Bool.false_ne_true
    obtain ⟨-, hop⟩ := r.load_of_memToReg t hload
    cases hu : r.idAt t with
    | none =>
      rw [Run.ifId_of_idAt_none hu] at hop
      exact absurd hop (by decide)
    | some u =>
      rw [Run.ifId_of_idAt hu] at hop
      exact h u hop
  intro hload
  rcases t with _ | t
  · exact absurd hload Bool.false_ne_true
  obtain hb | hl := r.exMem_cases t
  · rw [hb] at hload
    exact absurd hload Bool.false_ne_true
  · rw [hl] at hload
    exact hex t hload

/-- `addi x1, x0, 10`, and behind it `add x4, x1, x1` for ever. -/
def addForever : Run :=
  ⟨fun _ => 0#32, fun t _ => ⟨true, if t = 0 then 0x00A00093#32 else 0x00108233#32, 0#32⟩⟩

theorem instr_addForever {t : ℕ} (h : opcodeField (addForever.st t).ifId.instr = some .rType) :
    (addForever.st t).ifId.instr = 0x00108233#32 := by
  cases hu : addForever.idAt t with
  | none =>
    rw [Run.ifId_of_idAt_none hu] at h
    exact absurd h (by decide)
  | some u =>
    rw [Run.ifId_of_idAt hu] at h ⊢
    cases u with
    | zero => exact absurd h (by decide)
    | succ u => rfl

/-- The first two additions get the 10 from MEM and from WB. -/
theorem forwardsRaw_addForever : ForwardsRaw addForever ∧
    (select (addForever.st 3) 1#5 = .mem ∧ (addForever.st 3).exIn.opAFwd = 10#32) ∧
    select (addForever.st 4) 1#5 = .wb ∧ (addForever.st 4).exIn.opAFwd = 10#32 := by
  refine ⟨forwardsRaw_of_fieldsAgree _ fun t ht => ?_, by decide +kernel, by decide +kernel⟩
  have hload : ¬ (addForever.st (t + 1)).exMem.memToReg = true := by
    refine not_memToReg_of_noLoad (fun u => ?_) _
    cases u with
    | zero => decide
    | succ u => exact (by decide : opcodeField 0x00108233#32 ≠ some .load)
  have hword := instr_addForever ht.2.2
  -- behind an addition there is another one, fetched or held by a stall
  have hnext : (addForever.st (t + 1)).ifId.instr = 0x00108233#32 := by
    cases hs : (addForever.st t).hduStall with
    | true => rw [Run.ifId_hold ht.1 ht.2.1 hs, hword]
    | false =>
      rw [Run.ifId_load ht.1 ht.2.1 hs]
      cases t with
      | zero => exact absurd hword (by decide)
      | succ t => rfl
  have hagree : ∀ a, FieldAgrees (addForever.st (t + 1)) a a := fun a =>
    .inl ⟨rfl, fun h => hload h.2⟩
  rw [FieldsAgree, hword, hnext]
  exact ⟨fun _ => hagree _, fun _ => hagree _⟩

/-- `addi x1, x0, 10; add x4, x1, x1`: the first hazard of `sim/hazard_raw.mem` as its comments
have it. The first word of the file is `2011000a`, whose opcode the core does not know. -/
def hazardRaw : List Data := [0x00A00093#32, 0x00108233#32]

/-- The core adds the stale `x1`: with `add` in EX and `addi` in MEM, the instruction in ID
is a NOP, whose fields are `x0`. -/
theorem not_forwardsRaw_hazardRaw : ¬ ForwardsRaw (.ofWords hazardRaw) := by
  intro h
  have h1 := (h 2 ⟨rfl, by decide +kernel, by decide +kernel⟩).1 (by decide +kernel)
  revert h1
  decide +kernel

end RiscvCore.Pipeline
