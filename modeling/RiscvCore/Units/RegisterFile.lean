import RiscvCore.Foundation.WritePort
import RiscvCore.Rtl.IdStage

/-!
# The register file

`rf` by itself, under any stream of resets, writes and read addresses. Its registers are a
storage with one write port whose enable is guarded against `x0`; `registerFileLaw` says what
the two read ports show in every cycle of every stream, those with the reset low included.
-/

namespace RiscvCore.Units

open Rtl WritePort

/-- The inputs of `rf`. -/
structure RfIn where
  rstN : Bool
  rs1Addr : Address
  rs2Addr : Address
  rdAddr : Address
  rdData : Data
  rdWe : Bool

/-- The registers of `rf`. -/
def registerFile : Machine RegFile RfIn where
  init := fun _ => 0#32
  next i rf := rfNext i.rstN i.rdAddr i.rdData i.rdWe rf

/-- The registers in a cycle, counted from reset, under a stream of inputs. -/
def rfAt (i : ℕ → RfIn) (t : ℕ) : RegFile := registerFile.run (Machine.stream i) t

/-- The registers as the read ports find them in the cycle. -/
def rfShownAt (i : ℕ → RfIn) (t : ℕ) : RegFile := rfShown (i t).rstN (rfAt i t)

/-- The outputs in a cycle. -/
def rfOutAt (i : ℕ → RfIn) (t : ℕ) : RfOut := rfOut (rfShownAt i t) (i t).rs1Addr (i t).rs2Addr

/-- The write port of the registers: `x0` is never written. -/
def rfPort (i : RfIn) : WritePort Address Data :=
  ⟨i.rstN, i.rdWe && i.rdAddr != 0#5, i.rdAddr, i.rdData⟩

/-- `u` is the cycle of the most recent enabled write to `a` before cycle `t`, and there was no
reset since, nor is there one in cycle `t`. -/
def LastWrite (i : ℕ → RfIn) (t : ℕ) (a : Address) (u : ℕ) : Prop :=
  Stands (fun n => rfPort (i n)) t a u

section Registers

variable {i : ℕ → RfIn} {t u : ℕ} {a : Address}

theorem rfNext_eq_edge (i : RfIn) (rf : RegFile) :
    rfNext i.rstN i.rdAddr i.rdData i.rdWe rf = (rfPort i).edge 0#32 rf := by
  simp [rfNext, edge, rfPort]

/-- The registers are a storage with one write port. -/
theorem rfAt_eq (i : ℕ → RfIn) (t : ℕ) : rfAt i t = contents 0#32 (fun n => rfPort (i n)) t :=
  Machine.run_stream_map (m := registerFile) (k := storage 0#32) rfl rfNext_eq_edge i t

theorem rfShownAt_eq (i : ℕ → RfIn) (t : ℕ) :
    rfShownAt i t = shown 0#32 (fun n => rfPort (i n)) t := by
  rw [rfShownAt, rfAt_eq]
  rfl

theorem writes_rfPort_iff {x : RfIn} :
    (rfPort x).Writes a ↔ x.rstN = true ∧ x.rdWe = true ∧ x.rdAddr = a ∧ a ≠ 0#5 := by
  simp only [Writes, rfPort, Bool.and_eq_true, bne_iff_ne, and_assoc]
  refine and_congr_right fun _ => and_congr_right fun _ => ?_
  constructor
  · rintro ⟨h0, rfl⟩
    exact ⟨rfl, h0⟩
  · rintro ⟨rfl, h0⟩
    exact ⟨h0, rfl⟩

theorem rfRead_of_lastWrite (h : LastWrite i t a u) : rfRead (rfShownAt i t) a = (i u).rdData := by
  have h0 : a ≠ 0#5 := (writes_rfPort_iff.mp h.latest.writes).2.2.2
  rw [rfRead, if_neg h0, rfShownAt_eq]
  exact Stands.shown_eq h

theorem rfRead_of_not_lastWrite (h : ∀ u, ¬ LastWrite i t a u) :
    rfRead (rfShownAt i t) a = 0#32 := by
  rw [rfRead, rfShownAt_eq]
  split_ifs with h0
  · rfl
  · exact shown_of_not_stands h

/-- The registers do not depend on what is read. -/
theorem rfShownAt_congr {j : ℕ → RfIn} (h : ∀ n, rfPort (j n) = rfPort (i n)) (t : ℕ) :
    rfShownAt j t = rfShownAt i t := by
  rw [rfShownAt_eq, rfShownAt_eq]
  exact congrArg (fun p => shown 0#32 p t) (funext h)

end Registers

/-- What a port shows for address `a` in cycle `t`. -/
structure Reads (i : ℕ → RfIn) (t : ℕ) (a : Address) (v : Data) : Prop where
  zero : a = 0#5 → v = 0#32
  written : ∀ u, LastWrite i t a u → v = (i u).rdData
  notWritten : (∀ u, ¬ LastWrite i t a u) → v = 0#32

/-- **The law of the register file**, in cycle `t`. -/
structure RegisterFileLaw (i : ℕ → RfIn) (t : ℕ) : Prop where
  rs1 : Reads i t (i t).rs1Addr (rfOutAt i t).rs1Data
  rs2 : Reads i t (i t).rs2Addr (rfOutAt i t).rs2Data
  /-- Whatever is read on the second port, in this cycle and before. -/
  rs1Alone : ∀ b : ℕ → Address,
    (rfOutAt (fun n => { i n with rs2Addr := b n }) t).rs1Data = (rfOutAt i t).rs1Data
  /-- Whatever is read on the first port, in this cycle and before. -/
  rs2Alone : ∀ b : ℕ → Address,
    (rfOutAt (fun n => { i n with rs1Addr := b n }) t).rs2Data = (rfOutAt i t).rs2Data
  /-- The edge that ends the cycle leaves the other registers as they are. -/
  others : (i t).rstN = true → ∀ a, ((i t).rdWe = true → a ≠ (i t).rdAddr) →
    rfAt i (t + 1) a = rfAt i t a

/-- Either port shows the most recent write in a strictly earlier cycle. -/
theorem reads_rfRead (i : ℕ → RfIn) (t : ℕ) (a : Address) :
    Reads i t a (rfRead (rfShownAt i t) a) where
  zero h0 := by rw [h0, rfRead_zero]
  written _ hu := rfRead_of_lastWrite hu
  notWritten h := rfRead_of_not_lastWrite h

/-- **The register file law** holds in every cycle of every stream of inputs. -/
theorem registerFileLaw (i : ℕ → RfIn) (t : ℕ) : RegisterFileLaw i t where
  rs1 := reads_rfRead i t _
  rs2 := reads_rfRead i t _
  rs1Alone b := congrArg (fun rf => rfRead rf (i t).rs1Addr)
    (rfShownAt_congr (i := i) (j := fun n => { i n with rs2Addr := b n }) (fun _ => rfl) t)
  rs2Alone b := congrArg (fun rf => rfRead rf (i t).rs2Addr)
    (rfShownAt_congr (i := i) (j := fun n => { i n with rs1Addr := b n }) (fun _ => rfl) t)
  others hr a ha := by
    rw [rfAt_eq, contents_succ, ← rfAt_eq]
    refine edge_of_keeps ⟨hr, fun hw => ?_⟩
    obtain ⟨-, hwe, rfl, -⟩ := writes_rfPort_iff.mp hw
    exact ha hwe rfl

end RiscvCore.Units
