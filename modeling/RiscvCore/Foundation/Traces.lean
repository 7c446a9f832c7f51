import Mathlib.Data.BitVec
import Mathlib.Data.List.Induction

/-!
# Finite traces

A trace is the list of what happened, in order; a system that consumes it goes from state
to state by a fold. `AtEach` states a property of every event together with the trace
before it.

* `atEach_iff_of_invariant` — two properties that an invariant makes equivalent, where the
  first one keeps the invariant, hold along the same traces.
* `forall_prefix_iff` — a property holds after every prefix exactly if every event keeps it.
* `counter_eq_zero_iff` — a counter of a fixed width that counts bad events is zero at the end
  of a trace exactly when there was none, if the trace is too short for it to wrap around;
  `counter_eq_zero_forall_iff` is the same for all prefixes of a trace of any length.
* `foldl_log` — the replay rule: if the reports on each event say what it does to the state, the log
  of a trace says what the trace does to it; `counter_foldl` counts reports in a log.
-/

namespace RiscvCore.Traces

universe u v

variable {α : Type u} {P Q : List α → α → Prop}

/-- Every event of the trace, with the trace before it, satisfies `P`. -/
def AtEach (P : List α → α → Prop) (l : List α) : Prop := ∀ p x, p ++ [x] <+: l → P p x

theorem atEach_nil : AtEach P [] := fun p x h => by
  have := h.length_le
  simp at this

/-- The last event can be split off. -/
theorem atEach_concat {l : List α} {a : α} : AtEach P (l ++ [a]) ↔ AtEach P l ∧ P l a := by
  constructor
  · exact fun h => ⟨fun p x hp => h p x (hp.trans (List.prefix_append l [a])),
      h l a (List.prefix_refl _)⟩
  · rintro ⟨hl, ha⟩ p x hp
    rcases List.prefix_concat_iff.mp hp with he | hp
    · obtain ⟨rfl, hx⟩ := List.append_inj' he rfl
      obtain rfl := List.singleton_inj.mp hx
      exact ha
    · exact hl p x hp

/-- Under an invariant `I` that `P` keeps, `P` and `Q` agree on permitted events; then they hold
along the same traces of permitted events, and the invariant holds after these. -/
theorem atEach_iff_of_invariant {I : List α → Prop} {L : α → Prop} (h0 : I [])
    (hstep : ∀ p a, L a → I p → (P p a ↔ Q p a) ∧ (P p a → I (p ++ [a]))) {l : List α}
    (hl : ∀ a ∈ l, L a) : (AtEach P l ↔ AtEach Q l) ∧ (AtEach P l → I l) := by
  induction l using List.reverseRecOn with
  | nil => exact ⟨iff_of_true atEach_nil atEach_nil, fun _ => h0⟩
  | append_singleton l a ih =>
    obtain ⟨hiff, hinv⟩ := ih fun b hb => hl b (List.mem_append_left _ hb)
    have hs := fun h : AtEach P l => hstep l a (hl a (by simp)) (hinv h)
    rw [atEach_concat, atEach_concat]
    refine ⟨⟨fun h => ⟨hiff.mp h.1, (hs h.1).1.mp h.2⟩,
      fun h => ⟨hiff.mpr h.1, (hs (hiff.mpr h.1)).1.mpr h.2⟩⟩, fun h => (hs h.1).2 h.2⟩

/-- A property that holds of the empty trace, and that a permitted event after which `R` held
keeps exactly if `P`, holds of all prefixes exactly if `P` holds along the trace. -/
theorem forall_prefix_iff {R : List α → Prop} {L : α → Prop} (h0 : R [])
    (hstep : ∀ p a, L a → R p → (R (p ++ [a]) ↔ P p a)) {l : List α} (hl : ∀ a ∈ l, L a) :
    (∀ p, p <+: l → R p) ↔ AtEach P l := by
  induction l using List.reverseRecOn with
  | nil => exact iff_of_true (fun p hp => by rw [List.prefix_nil.mp hp]; exact h0) atEach_nil
  | append_singleton l a ih =>
    have hs := hstep l a (hl a (by simp))
    rw [atEach_concat, ← ih fun b hb => hl b (List.mem_append_left _ hb)]
    constructor
    · intro h
      exact ⟨fun p hp => h p (hp.trans (List.prefix_append l [a])),
        (hs (h l (List.prefix_append l [a]))).mp (h _ (List.prefix_refl _))⟩
    · rintro ⟨hpre, ha⟩ p hp
      rcases List.prefix_concat_iff.mp hp with rfl | hp
      · exact (hs (hpre l (List.prefix_refl l))).mpr ha
      · exact hpre p hp

/-! ### Counters -/

section Counter

variable {σ : Type v} {w : ℕ} {f : σ → α → σ} {c : σ → BitVec w} {B : σ → α → Prop} {s : σ}
  (h0 : c s = 0#w) (hbad : ∀ s a, B s a → c (f s a) = c s + 1#w)
  (hgood : ∀ s a, ¬ B s a → c (f s a) = c s)
include h0 hbad hgood

/-- The counter is the number of bad events, taken modulo its width. -/
theorem exists_count (l : List α) : ∃ n, n ≤ l.length ∧ c (l.foldl f s) = BitVec.ofNat w n ∧
    (n = 0 ↔ AtEach (fun p a => ¬ B (p.foldl f s) a) l) := by
  induction l using List.reverseRecOn with
  | nil => exact ⟨0, le_rfl, h0, iff_of_true rfl atEach_nil⟩
  | append_singleton l a ih =>
    obtain ⟨n, hle, hcount, hn⟩ := ih
    rw [atEach_concat, List.length_append, List.length_singleton, List.foldl_append]
    by_cases hb : B (l.foldl f s) a
    · refine ⟨n + 1, by omega, ?_, iff_of_false (by omega) fun h => h.2 hb⟩
      show c (f (l.foldl f s) a) = _
      rw [hbad _ _ hb, hcount, BitVec.ofNat_add]
    · refine ⟨n, by omega, ?_, by rw [hn, and_iff_left hb]⟩
      show c (f (l.foldl f s) a) = _
      rw [hgood _ _ hb, hcount]

/-- A counter that has not wrapped around is zero exactly when it never counted. -/
theorem counter_eq_zero_iff {l : List α} (hl : l.length < 2 ^ w) :
    c (l.foldl f s) = 0#w ↔ AtEach (fun p a => ¬ B (p.foldl f s) a) l := by
  obtain ⟨n, hle, hcount, hn⟩ := exists_count h0 hbad hgood l
  rw [← hn, hcount]
  constructor
  · intro h
    have hnat := congrArg BitVec.toNat h
    rwa [BitVec.toNat_ofNat, BitVec.toNat_ofNat, Nat.mod_eq_of_lt (by omega), Nat.zero_mod] at hnat
  · rintro rfl
    rfl

/-- A counter is zero all along a trace exactly when it never counted. -/
theorem counter_eq_zero_forall_iff (hw : 0 < w) (l : List α) :
    (∀ p, p <+: l → c (p.foldl f s) = 0#w) ↔ AtEach (fun p a => ¬ B (p.foldl f s) a) l := by
  refine forall_prefix_iff (L := fun _ => True) h0 (fun p a _ hp => ?_) fun _ _ => trivial
  rw [List.foldl_append]
  show c (f (p.foldl f s) a) = 0#w ↔ _
  by_cases hb : B (p.foldl f s) a
  · rw [hbad _ _ hb, hp, BitVec.zero_add]
    simp [hb, hw.ne']
  · rw [hgood _ _ hb]
    exact iff_of_true hp hb

end Counter

/-! ### Logs -/

section Log

variable {σ β : Type v} (f : σ → α → σ) (out : σ → α → List β)

/-- What a system reports while it consumes a trace from state `s`. -/
def log (s : σ) : List α → List β
  | [] => []
  | a :: l => out s a ++ log (f s a) l

variable {f out}

/-- **The replay rule.** -/
theorem foldl_log {g : σ → β → σ} (h : ∀ s a, (out s a).foldl g s = f s a) (s : σ) (l : List α) :
    (log f out s l).foldl g s = l.foldl f s := by
  induction l generalizing s with
  | nil => rfl
  | cons a l ih => rw [log, List.foldl_append, h, ih, List.foldl_cons]

/-- A counter that goes up at the reports that satisfy `p`. -/
theorem counter_foldl {w : ℕ} {g : σ → β → σ} {c : σ → BitVec w} {p : β → Bool}
    (h : ∀ s b, c (g s b) = if p b = true then c s + 1#w else c s) (s : σ) (l : List β) :
    c (l.foldl g s) = c s + BitVec.ofNat w (l.countP p) := by
  induction l generalizing s with
  | nil => simp
  | cons b l ih =>
    rw [List.foldl_cons, ih, h, List.countP_cons]
    split_ifs
    · rw [BitVec.add_assoc, Nat.add_comm, BitVec.ofNat_add]
    · rw [Nat.add_zero]

end Log

end RiscvCore.Traces
