import Mathlib.Data.List.GetD
import Mathlib.Data.List.Sort

/-!
# Elements by rank

`IsNth l k x` says without an order of the list that `x` is its element number `k` from below, counted from 0 and
with repetition: at most `k` elements are less than `x`, and more than `k` are not greater. There is one
such value (`IsNth.unique`), and sorting finds it (**`isNth_insertionSort`**).
-/

namespace Rank

variable {α : Type} [LinearOrder α] {l l' : List α} {k : Nat} {x y : α}

def IsNth (l : List α) (k : Nat) (x : α) : Prop := l.countP (· < x) ≤ k ∧ k < l.countP (· ≤ x)

theorem IsNth.le (h : IsNth l k x) (h' : IsNth l k y) : x ≤ y := by
  by_contra hlt
  have hmono : l.countP (· ≤ y) ≤ l.countP (· < x) := List.countP_mono_left fun a _ ha => by
    simp only [decide_eq_true_eq] at ha ⊢
    exact ha.trans_lt (not_le.1 hlt)
  exact absurd (h'.2.trans_le (hmono.trans h.1)) (lt_irrefl k)

theorem IsNth.unique (h : IsNth l k x) (h' : IsNth l k y) : x = y := le_antisymm (h.le h') (h'.le h)

/-- The rank does not depend on the order of the list. -/
theorem IsNth.perm (h : IsNth l k x) (hp : l.Perm l') : IsNth l' k x := by
  rwa [IsNth, ← hp.countP_eq, ← hp.countP_eq]

theorem isNth_of_sorted (h : l.Pairwise (· ≤ ·)) (hk : k < l.length) : IsNth l k l[k] := by
  have hpair := List.pairwise_iff_getElem.1 h
  constructor
  · -- only elements in front of `k` are less
    have hdrop : (l.drop k).countP (· < l[k]) = 0 := List.countP_eq_zero.2 fun a ha => by
      obtain ⟨i, hi, rfl⟩ := List.mem_iff_getElem.1 ha
      rw [List.getElem_drop, decide_eq_true_eq, not_lt]
      rcases Nat.eq_zero_or_pos i with rfl | hpos
      · exact le_rfl
      · exact hpair k (k + i) hk (by simp only [List.length_drop] at hi; omega) (by omega)
    calc l.countP (· < l[k])
        = (l.take k).countP (· < l[k]) + (l.drop k).countP (· < l[k]) := by
          rw [← List.countP_append, List.take_append_drop]
      _ = (l.take k).countP (· < l[k]) := by rw [hdrop, Nat.add_zero]
      _ ≤ (l.take k).length := List.countP_le_length
      _ ≤ k := List.length_take_le k l
  · -- and all those up to `k` are not greater
    have htake : (l.take (k + 1)).countP (· ≤ l[k]) = (l.take (k + 1)).length :=
      List.countP_eq_length.2 fun a ha => by
        obtain ⟨i, hi, rfl⟩ := List.mem_iff_getElem.1 ha
        have hi' : i < k + 1 := by
          rw [List.length_take] at hi
          omega
        rw [List.getElem_take, decide_eq_true_eq]
        rcases Nat.lt_succ_iff_lt_or_eq.1 hi' with hlt | rfl
        · exact hpair i k (by omega) hk hlt
        · exact le_rfl
    have hlen : k < (l.take (k + 1)).length := by
      rw [List.length_take]
      omega
    rw [← htake] at hlen
    exact hlen.trans_le (List.take_sublist (k + 1) l).countP_le

/-- **Sorting finds the element of a rank.** -/
theorem isNth_insertionSort (hk : k < l.length) (d : α) : IsNth l k ((l.insertionSort (· ≤ ·)).getD k d) := by
  have hlen : k < (l.insertionSort (· ≤ ·)).length := by rwa [List.length_insertionSort]
  rw [List.getD_eq_getElem _ _ hlen]
  exact (isNth_of_sorted (List.pairwise_insertionSort (· ≤ ·) l) hlen).perm (List.perm_insertionSort _ l)

end Rank
