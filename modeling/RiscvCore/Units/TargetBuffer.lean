import RiscvCore.Foundation.WritePort
import RiscvCore.Rtl.IfStage

/-!
# The branch target buffer

`btb` by itself, of any depth, under any stream of resets and updates. Its array is a storage
with one write port, so an entry is that of the latest update with its index bits
(`entry_of_lastUpdate`, `entry_of_not_lastUpdate`). `lastWriter` says what a lookup makes of it: a
hit for the program counter that was updated last among those of its index, and for no other. A
reset clears the array for the lookups of the same cycle.
-/

namespace RiscvCore.Units

open Rtl WritePort

/-- The inputs of `btb` but for the lookup. -/
structure BtbIn where
  rstN : Bool
  update : Bool
  actualPc : Data
  actualTarget : Data

/-- The array of `btb`, of depth `2 ^ k`. -/
def targetBuffer (k : ℕ) : Machine (Btb k) BtbIn where
  init := btbReset
  next i mem := btbNext i.rstN i.update i.actualPc i.actualTarget mem

/-- The array in a cycle, counted from reset, under a stream of inputs. -/
def bufferAt (k : ℕ) (i : ℕ → BtbIn) (t : ℕ) : Btb k := (targetBuffer k).run (Machine.stream i) t

/-- The array as a lookup in the cycle finds it. -/
def bufferShownAt (k : ℕ) (i : ℕ → BtbIn) (t : ℕ) : Btb k := btbShown (i t).rstN (bufferAt k i t)

/-- The write port of the array: an update writes the entry at its index bits. -/
def btbPort (k : ℕ) (i : BtbIn) : WritePort (BitVec k) BtbEntry :=
  ⟨i.rstN, i.update, btbIdx k i.actualPc, ⟨true, i.actualPc, i.actualTarget⟩⟩

/-- `u` is the cycle of the most recent update before cycle `t` whose index bits are those of
`pc`, and there was no reset since, nor is there one in cycle `t`. -/
def LastUpdate (k : ℕ) (i : ℕ → BtbIn) (t : ℕ) (pc : Data) (u : ℕ) : Prop :=
  Stands (fun n => btbPort k (i n)) t (btbIdx k pc) u

section Entries

variable {k : ℕ} {i : ℕ → BtbIn} {t u : ℕ} {pc : Data}

/-- The array is a storage with one write port. -/
theorem bufferAt_eq (k : ℕ) (i : ℕ → BtbIn) (t : ℕ) :
    bufferAt k i t = contents ⟨false, 0#32, 0#32⟩ (fun n => btbPort k (i n)) t :=
  Machine.run_stream_map (m := targetBuffer k) (f := btbPort k) rfl (fun _ _ => rfl) i t

theorem bufferShownAt_eq (k : ℕ) (i : ℕ → BtbIn) (t : ℕ) :
    bufferShownAt k i t = shown ⟨false, 0#32, 0#32⟩ (fun n => btbPort k (i n)) t := by
  rw [bufferShownAt, bufferAt_eq]
  rfl

theorem entry_of_lastUpdate (h : LastUpdate k i t pc u) :
    bufferShownAt k i t (btbIdx k pc) = ⟨true, (i u).actualPc, (i u).actualTarget⟩ := by
  rw [bufferShownAt_eq]
  exact Stands.shown_eq h

theorem entry_of_not_lastUpdate (h : ∀ u, ¬ LastUpdate k i t pc u) :
    bufferShownAt k i t (btbIdx k pc) = ⟨false, 0#32, 0#32⟩ := by
  rw [bufferShownAt_eq]
  exact shown_of_not_stands h

/-- A hit is a valid entry with the whole program counter for its tag. -/
theorem btbHit_iff {mem : Btb k} : btbHit mem pc = true ↔
    (mem (btbIdx k pc)).valid = true ∧ (mem (btbIdx k pc)).tag = pc := by
  simp [btbHit]

theorem btbHit_iff_of_lastUpdate (h : LastUpdate k i t pc u) :
    btbHit (bufferShownAt k i t) pc = true ↔ (i u).actualPc = pc := by
  rw [btbHit_iff, entry_of_lastUpdate h]
  exact and_iff_right rfl

theorem not_btbHit_of_not_lastUpdate (h : ∀ u, ¬ LastUpdate k i t pc u) :
    ¬ btbHit (bufferShownAt k i t) pc = true := by
  rw [btbHit_iff, entry_of_not_lastUpdate h]
  exact fun hv => Bool.false_ne_true hv.1

end Entries

/-- **A last-writer cache**: what a lookup of `pc` in cycle `t` says, by the updates before. -/
structure LastWriter (k : ℕ) (i : ℕ → BtbIn) (t : ℕ) (pc : Data) : Prop where
  hit_iff : btbHit (bufferShownAt k i t) pc = true ↔
    ∃ u, LastUpdate k i t pc u ∧ (i u).actualPc = pc
  target : ∀ u, LastUpdate k i t pc u → (i u).actualPc = pc →
    btbPredictTarget (bufferShownAt k i t) pc = (i u).actualTarget
  noTarget : (¬ ∃ u, LastUpdate k i t pc u ∧ (i u).actualPc = pc) →
    btbPredictTarget (bufferShownAt k i t) pc = 0#32

/-- **The branch target buffer is a last-writer direct-mapped cache**, of any depth. -/
theorem lastWriter (k : ℕ) (i : ℕ → BtbIn) (t : ℕ) (pc : Data) : LastWriter k i t pc := by
  have hhit : btbHit (bufferShownAt k i t) pc = true ↔
      ∃ u, LastUpdate k i t pc u ∧ (i u).actualPc = pc := by
    constructor
    · intro h
      by_contra hne
      refine not_btbHit_of_not_lastUpdate (fun u hu => ?_) h
      exact hne ⟨u, hu, (btbHit_iff_of_lastUpdate hu).mp h⟩
    · rintro ⟨u, hu, hpc⟩
      exact (btbHit_iff_of_lastUpdate hu).mpr hpc
  refine ⟨hhit, fun u hu hpc => ?_, fun hne => ?_⟩
  · rw [btbPredictTarget, if_pos (hhit.mpr ⟨u, hu, hpc⟩), entry_of_lastUpdate hu]
  · rw [btbPredictTarget, if_neg fun h => hne (hhit.mp h)]

end RiscvCore.Units
