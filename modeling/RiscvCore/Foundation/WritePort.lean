import RiscvCore.Foundation.SyncMachine
import Mathlib.Logic.Function.Basic

/-!
# Storage with one write port

A storage has cells, each holding a value; at every clock edge it is reset, one of its
cells is written, or it is left alone (`WritePort`). What a cell holds is then a matter of
the history of the port: the value of the latest write to it since the last reset
(`Latest.contents_eq`), or the reset value if there was none (`contents_of_not_latest`).

An asynchronous reset does not wait for the edge: while it is low a read shows the reset value
(`shown`). A write then stands if there was no reset since, the present cycle included
(`Stands.shown_eq`, `shown_of_not_stands`).

The cells may be indexed by anything with decidable equality; the storage of a component
is an instance by `Machine.run_stream_map`.
-/

namespace RiscvCore

universe u v

/-- What a clock edge sees of a write port. -/
structure WritePort (α : Type u) (β : Type v) where
  /-- Low for a reset. -/
  rstN : Bool
  /-- The write enable. -/
  we : Bool
  /-- The cell. -/
  addr : α
  /-- The value. -/
  data : β

namespace WritePort

variable {α : Type u} {β : Type v}

/-- The edge writes cell `a`. -/
def Writes (x : WritePort α β) (a : α) : Prop := x.rstN = true ∧ x.we = true ∧ x.addr = a

/-- The edge leaves cell `a` as it is. -/
def Keeps (x : WritePort α β) (a : α) : Prop := x.rstN = true ∧ ¬ x.Writes a

variable [DecidableEq α]

/-- The storage after an edge; `z` is the value of a cell after reset. -/
def edge (z : β) (x : WritePort α β) (m : α → β) : α → β :=
  if x.rstN = false then fun _ => z
  else if x.we = true then Function.update m x.addr x.data
  else m

section Edge

variable {z : β} {x : WritePort α β} {m : α → β} {a : α}

theorem edge_of_reset (h : x.rstN = false) : x.edge z m a = z := by
  rw [edge, if_pos h]

theorem edge_of_writes (h : x.Writes a) : x.edge z m a = x.data := by
  obtain ⟨hr, hwe, rfl⟩ := h
  rw [edge, if_neg (by simp [hr]), if_pos hwe, Function.update_self]

/-- **A write changes one cell.** -/
theorem edge_of_keeps (h : x.Keeps a) : x.edge z m a = m a := by
  obtain ⟨hr, hw⟩ := h
  rw [edge, if_neg (by simp [hr])]
  split_ifs with hwe
  · exact Function.update_of_ne (fun ha => hw ⟨hr, hwe, ha.symm⟩) _ _
  · rfl

end Edge

/-- The storage as a machine, reset to `z`. -/
def storage (z : β) : Machine (α → β) (WritePort α β) := ⟨fun _ => z, edge z⟩

/-- The contents in a cycle, under a stream of port values. -/
def contents (z : β) (p : ℕ → WritePort α β) (t : ℕ) : α → β :=
  (storage z).run (Machine.stream p) t

variable {z : β} {p : ℕ → WritePort α β} {t u : ℕ} {a : α}

theorem contents_succ : contents z p (t + 1) a = (p t).edge z (contents z p t) a := rfl

omit [DecidableEq α] in
/-- `u` is the cycle of the latest write to cell `a` before cycle `t`, with no reset since. -/
structure Latest (p : ℕ → WritePort α β) (t : ℕ) (a : α) (u : ℕ) : Prop where
  lt : u < t
  writes : (p u).Writes a
  since : ∀ n, u < n → n < t → (p n).Keeps a

omit [DecidableEq α] in
/-- **The step**: after an edge the latest write is the one just made, or the one before if
the edge has kept it. -/
theorem latest_succ_iff :
    Latest p (t + 1) a u ↔ u = t ∧ (p t).Writes a ∨ Latest p t a u ∧ (p t).Keeps a := by
  constructor
  · intro h
    rcases Nat.lt_succ_iff_lt_or_eq.mp h.lt with hlt | rfl
    · exact .inr ⟨⟨hlt, h.writes, fun n hn hnt => h.since n hn (by omega)⟩, h.since t hlt (by omega)⟩
    · exact .inl ⟨rfl, h.writes⟩
  · rintro (⟨rfl, hw⟩ | ⟨h, hk⟩)
    · exact ⟨Nat.lt_succ_self _, hw, fun n hn hnt => by omega⟩
    · refine ⟨Nat.lt_succ_of_lt h.lt, h.writes, fun n hn hnt => ?_⟩
      rcases Nat.lt_succ_iff_lt_or_eq.mp hnt with hlt | rfl
      · exact h.since n hn hlt
      · exact hk

/-- **A cell holds what was written to it last.** -/
theorem Latest.contents_eq (h : Latest p t a u) : contents z p t a = (p u).data := by
  induction t with
  | zero => exact absurd h.lt (Nat.not_lt_zero u)
  | succ t ih =>
    rw [contents_succ]
    rcases latest_succ_iff.mp h with ⟨rfl, hw⟩ | ⟨hl, hk⟩
    · exact edge_of_writes hw
    · rw [edge_of_keeps hk, ih hl]

/-- **A cell that was not written since the last reset holds the reset value.** -/
theorem contents_of_not_latest (h : ∀ u, ¬ Latest p t a u) : contents z p t a = z := by
  induction t with
  | zero => rfl
  | succ t ih =>
    rw [contents_succ]
    by_cases hr : (p t).rstN = false
    · exact edge_of_reset hr
    · have hw : ¬ (p t).Writes a := fun hw => h t (latest_succ_iff.mpr (.inl ⟨rfl, hw⟩))
      have hk : (p t).Keeps a := ⟨by simpa using hr, hw⟩
      rw [edge_of_keeps hk]
      exact ih fun u hu => h u (latest_succ_iff.mpr (.inr ⟨hu, hk⟩))

/-! ### Asynchronous reset -/

/-- What reads show in a cycle, if a low reset clears the cells at once. -/
def shown (z : β) (p : ℕ → WritePort α β) (t : ℕ) : α → β :=
  if (p t).rstN = false then fun _ => z else contents z p t

omit [DecidableEq α] in
/-- `u` is the cycle of the latest write to cell `a` before cycle `t`, with no reset since, nor in
cycle `t` itself. -/
structure Stands (p : ℕ → WritePort α β) (t : ℕ) (a : α) (u : ℕ) : Prop where
  latest : Latest p t a u
  released : (p t).rstN = true

theorem Stands.shown_eq (h : Stands p t a u) : shown z p t a = (p u).data := by
  rw [shown, if_neg (by simp [h.released])]
  exact h.latest.contents_eq

theorem shown_of_not_stands (h : ∀ u, ¬ Stands p t a u) : shown z p t a = z := by
  rw [shown]
  split_ifs with hr
  · rfl
  · exact contents_of_not_latest fun u hu => h u ⟨hu, by simpa using hr⟩

end WritePort

end RiscvCore
