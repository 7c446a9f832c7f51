import RiscvCore.Pipeline.Operands
import RiscvCore.Pipeline.Provenance

/-!
# Loads and stores

A store leaves its traces on the data bus in two different cycles. The write enable is the
one decoded in ID, while the address and the data are those of the instruction in MEM, two
stages ahead. A load does compute its address, but the write-back multiplexer is fixed to
the ALU's result, so the address is what it writes to its destination.

## What is proved

* `storeBus_iff` — the write enable belongs to the instruction in MEM in exactly the runs
  in which no store is ever decoded.
* `loadsWriteBack_iff` — a load writes the addressed bytes exactly where they are equal to
  the address the ALU made, after the forwarding for the instruction behind it.
-/

namespace RiscvCore.Pipeline

open Rtl RiscvCore.Units

/-! ### Stores -/

/-- The registers of every store were last written at least four instructions earlier. -/
def StoresDistant (r : Run) : Prop :=
  ∀ u o a b imm, r.Enters u → Rv32i.decode (r.inp u).instrData = some (.store o a b imm) →
    Distant r u a ∧ Distant r u b

/-- **The store bus protocol**: the write enable is that of the instruction in MEM, which was
in ID two cycles before, and for a store the address and the low bytes are the store's. -/
def StoreBus (r : Run) : Prop :=
  (∀ t, (r.st t).dmemWe = true ↔
    ∃ s, t = s + 2 ∧ r.Issues s ∧ opcodeField (r.st s).ifId.instr = some .store) ∧
  ∀ s o a b imm, r.Issues s → Rv32i.decode (r.st s).ifId.instr = some (.store o a b imm) →
    (r.st (s + 2)).dmemAddr = Rv32i.effAddr (regState (r.st s).rf) a imm ∧
      (r.st (s + 2)).dmemWdata.setWidth (8 * o.bytes) =
        ((regState (r.st s).rf).get b).setWidth (8 * o.bytes)

/-- No store is ever in ID. -/
def NoStores (r : Run) : Prop := ∀ t, opcodeField (r.st t).ifId.instr ≠ some .store

/-- **The store bus protocol is kept in exactly the runs without stores**: the first store
raises the write enable while it is still in ID. -/
theorem storeBus_iff_noStores (r : Run) : StoreBus r ↔ NoStores r := by
  constructor
  · rintro ⟨hwe, -⟩ t
    induction t using Nat.strong_induction_on with
    | _ t ih =>
      intro hst
      obtain ⟨s, rfl, -, hs⟩ := (hwe t).mp (by simpa using hst)
      exact ih s (by omega) hs
  · intro h
    refine ⟨fun t => ⟨fun hwe => ?_, ?_⟩, fun s o a b imm _ hd => ?_⟩
    · exact absurd (by simpa using hwe) (h t)
    · rintro ⟨s, -, -, hs⟩
      exact absurd hs (h s)
    · exact absurd ((opcodeField_eq_some_iff _ .store).mpr (Rv32i.encodes_of_decode hd).1) (h s)

/-- The same for the programs whose stores have their operands in the register file. -/
theorem storeBus_iff (imem : Imem) (M : Data → Data) (D : ℕ → Data) :
    (StoresDistant (.program imem M D) → StoreBus (.program imem M D)) ↔
      (StoresDistant (.program imem M D) → NoStores (.program imem M D)) :=
  imp_congr_right fun _ => storeBus_iff_noStores _

/-- `sw x0, 0(x0)`. -/
def storeZero : List Data := [0x00002023#32]

/-- The write enable is up in cycle 1, with a bubble in MEM. -/
theorem not_storeBus_storeZero :
    ¬ (StoresDistant (.ofWords storeZero) → StoreBus (.ofWords storeZero)) := by
  intro h
  refine (storeBus_iff_noStores _).mp (h ?_) 1 (by decide +kernel)
  -- no word of the program reads a register other than `x0`, which no instruction writes
  have hx0 : ∀ a, Rv32i.rs1 (image storeZero a) = 0#5 ∧ Rv32i.rs2 (image storeZero a) = 0#5 := by
    intro a
    rcases image_mem_or storeZero a with hm | hn
    · rw [List.mem_singleton.mp hm]
      decide
    · rw [hn]
      decide
  intro u o a b imm _ hd
  obtain ⟨-, -, rfl, rfl, -⟩ := Rv32i.encodes_of_decode hd
  exact ⟨fun s _ _ hw => absurd (hx0 _).1 hw.2.2, fun s _ _ hw => absurd (hx0 _).2 hw.2.2⟩

/-! ### Loads -/

/-- A load, fetched in cycle `u`, is in ID in cycle `t`; its destination is not `x0`, its
address, by the register file's value when it enters ID, is naturally aligned. -/
structure LoadAt (r : Run) (u t : ℕ) (o : Rv32i.LoadOp) (d a : Address) (imm : Data) : Prop
    extends Decodes r u (.load o d a imm) where
  inId : r.idAt t = some u
  dest : d ≠ 0#5
  aligned : o.Aligned (Rv32i.effAddr (regState (r.st (u + 1)).rf) a imm)

/-- What a load should write: the addressed bytes of the word on the data bus in the cycle
in which it is in MEM, two cycles after ID. -/
def loaded (r : Run) (u t : ℕ) (o : Rv32i.LoadOp) (a : Address) (imm : Data) : Data :=
  o.extract (Rv32i.effAddr (regState (r.st (u + 1)).rf) a imm) (r.inp (t + 2)).dmemRdata

/-- The address the ALU makes of the operands `v` and `imm` of a load in EX: either operand
is replaced if the field of the instruction in ID names a register in flight. -/
def madeAddr (c : Core) (v imm : Data) : Data :=
  c.forward (rs1Field c.ifId.instr) v + c.forward (rs2Field c.ifId.instr) imm

/-- **Loads** write what they load. -/
def LoadsWriteBack (r : Run) : Prop :=
  ∀ u t o d a imm, LoadAt r u t o d a imm → r.WritesBack t d (loaded r u t o a imm)

/-- Every load's address is equal to what it should load. -/
def AddressesAreData (r : Run) : Prop :=
  ∀ u t o d a imm, LoadAt r u t o d a imm →
    madeAddr (r.st (t + 1)) ((regState (r.st t).rf).get a) imm = loaded r u t o a imm

section Loads

variable {r : Run} {u t : ℕ} {o : Rv32i.LoadOp} {d a : Address} {imm : Data}

theorem LoadAt.decode_ifId (h : LoadAt r u t o d a imm) :
    Rv32i.decode (r.st t).ifId.instr = some (.load o d a imm) := by
  rw [Run.ifId_of_idAt h.inId]
  exact h.decode

theorem LoadAt.issues (hr : ∀ t, (r.inp t).rstN = true) (h : LoadAt r u t o d a imm) :
    r.Issues t := by
  have hop : opcodeField (r.st t).ifId.instr = some .load :=
    (opcodeField_eq_some_iff _ .load).mpr (Rv32i.encodes_of_decode h.decode_ifId).1
  exact ⟨hr t, not_exMispredict_of_load hop, by rw [h.inId]; rfl⟩

/-- **What a load writes**: the address. -/
theorem LoadAt.writesBack_iff (hr : ∀ t, (r.inp t).rstN = true) (h : LoadAt r u t o d a imm)
    (v : Data) : r.WritesBack t d v ↔
      madeAddr (r.st (t + 1)) ((regState (r.st t).rf).get a) imm = v := by
  obtain ⟨hop, hbase, hoff, hrd, hwe⟩ := issue_of_load (r.st t).rf h.decode_ifId
  have halu : (r.st (t + 1)).ex.aluResult =
      madeAddr (r.st (t + 1)) ((regState (r.st t).rf).get a) imm := by
    rw [Core.ex_aluResult, Core.exIn_opAFwd, Core.exIn_opBFwd,
      Run.idEx_load (hr t) (h.issues hr).2.1, idExIn_eq_issue, hop, hbase, hoff]
    rfl
  have hw : Writes (r.st t).ifId.instr d := ⟨hwe, hrd, h.dest⟩
  rw [Pipeline.writesBack_iff hr (h.issues hr), halu, and_iff_right hw]

end Loads

/-- **Loads write back correctly exactly where each one's address is the data.** -/
theorem loadsWriteBack_iff (imem : Imem) (M : Data → Data) (D : ℕ → Data) :
    LoadsWriteBack (.program imem M D) ↔ AddressesAreData (.program imem M D) := by
  refine forall₃_congr fun u t o => forall₄_congr fun d a imm h => ?_
  exact h.writesBack_iff (fun _ => rfl) _

/-- `lw x1, 0(x0)`. -/
def loadZero : List Data := [0x00002083#32]

/-- With five on the data bus the load writes the address, zero. -/
theorem not_loadsWriteBack_loadZero :
    ¬ LoadsWriteBack (.program (fun _ => 0#32) (image loadZero) fun _ => 5#32) := by
  intro h
  have hl : LoadAt (.program (fun _ => 0#32) (image loadZero) fun _ => 5#32) 0 1 .lw 1#5 0#5
      0#32 :=
    { enters := by unfold Run.Enters; decide +kernel
      decode := by decide +kernel
      distant := by simp only [Rv32i.Instr.sources, List.forall_mem_cons]; decide +kernel
      inId := by decide +kernel
      dest := by decide
      aligned := by unfold Rv32i.LoadOp.Aligned; decide +kernel }
  have hv := (h 0 1 .lw 1#5 0#5 0#32 hl).2.2.2
  revert hv
  decide +kernel

end RiscvCore.Pipeline
