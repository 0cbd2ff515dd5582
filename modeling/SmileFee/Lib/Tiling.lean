import Mathlib.Data.List.Basic
import Mathlib.Tactic.Common

/-!
# Intervals one after the other, and progress

An interval of natural numbers is its start and its length. Intervals that **tile** a range are not empty, and
each begins where the one before it ends; so every number of the range is in exactly one of them, and no other
number is in any (**`Tiles.hits`**).

`Progress.reaches` is the rule for what ends: a sequence of states that gets to a smaller rank from
every state that is not final has a final state.
-/

namespace Tiling

/-- The intervals fill the range from `lo` to `hi`, which does not belong to it. -/
def Tiles : Nat → List (Nat × Nat) → Nat → Prop
  | lo, [], hi => lo = hi
  | lo, (a, n) :: ts, hi => a = lo ∧ 0 < n ∧ Tiles (lo + n) ts hi

/-- The number of intervals in which `x` is. -/
def hits (ts : List (Nat × Nat)) (x : Nat) : Nat := ts.countP fun t => t.1 ≤ x ∧ x < t.1 + t.2

variable {lo mid hi : Nat} {ts us : List (Nat × Nat)}

theorem Tiles.le (h : Tiles lo ts hi) : lo ≤ hi := by
  induction ts generalizing lo with
  | nil => exact Nat.le_of_eq h
  | cons t ts ih =>
    obtain ⟨-, -, hts⟩ := h
    have := ih hts
    omega

theorem Tiles.append (h : Tiles lo ts mid) (h' : Tiles mid us hi) : Tiles lo (ts ++ us) hi := by
  induction ts generalizing lo with
  | nil =>
    obtain rfl : lo = mid := h
    exact h'
  | cons t ts ih =>
    obtain ⟨ha, hn, hts⟩ := h
    exact ⟨ha, hn, ih hts⟩

/-- One interval more at the end. -/
theorem Tiles.concat (h : Tiles lo ts mid) {n : Nat} (hn : 0 < n) : Tiles lo (ts ++ [(mid, n)]) (mid + n) :=
  h.append ⟨rfl, hn, rfl⟩

/-- The last interval ends where the range does. -/
theorem Tiles.exists_last (h : Tiles lo ts hi) (hlt : lo < hi) : ∃ t ∈ ts, t.1 + t.2 = hi := by
  induction ts generalizing lo with
  | nil => exact absurd h (Nat.ne_of_lt hlt)
  | cons t ts ih =>
    obtain ⟨ha, hn, hts⟩ := h
    rcases Nat.eq_or_lt_of_le hts.le with heq | hlt'
    · exact ⟨t, List.mem_cons_self, by rw [ha, heq]⟩
    · obtain ⟨u, hu, hend⟩ := ih hts hlt'
      exact ⟨u, List.mem_cons_of_mem t hu, hend⟩

/-- **Exactly once**: a number is in one interval if it is in the range, and in none if it is not. -/
theorem Tiles.hits (h : Tiles lo ts hi) (x : Nat) : hits ts x = if lo ≤ x ∧ x < hi then 1 else 0 := by
  induction ts generalizing lo with
  | nil =>
    obtain rfl : lo = hi := h
    rw [if_neg (by omega)]
    rfl
  | cons t ts ih =>
    obtain ⟨ha, hn, hts⟩ := h
    have hrest := ih hts
    have hle := hts.le
    rw [Tiling.hits] at hrest ⊢
    rw [List.countP_cons, hrest, ha]
    simp only [decide_eq_true_eq]
    by_cases hx : lo ≤ x ∧ x < lo + t.2
    · rw [if_neg (by omega), if_pos hx, if_pos (by omega)]
    · rw [if_neg hx, Nat.add_zero]
      by_cases hx' : lo + t.2 ≤ x ∧ x < hi
      · rw [if_pos hx', if_pos (by omega)]
      · rw [if_neg hx', if_neg (by omega)]

end Tiling

namespace Progress

/-- **Progress**: every state that is not final is followed by a final one or by one of smaller rank. -/
theorem reaches {σ : Type} {run : Nat → σ} {final : σ → Prop} (rank : σ → Nat)
    (h : ∀ n, ∃ m, n ≤ m ∧ (final (run m) ∨ rank (run m) < rank (run n))) : ∃ n, final (run n) := by
  have key : ∀ k n, rank (run n) ≤ k → ∃ m, final (run m) := by
    intro k
    induction k with
    | zero =>
      intro n hn
      obtain ⟨m, -, hm | hm⟩ := h n
      · exact ⟨m, hm⟩
      · omega
    | succ k ih =>
      intro n hn
      obtain ⟨m, -, hm | hm⟩ := h n
      · exact ⟨m, hm⟩
      · exact ih m (by omega)
  exact key _ 0 (Nat.le_refl _)

end Progress
