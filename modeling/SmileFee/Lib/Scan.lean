import Mathlib.Data.List.Basic
import Mathlib.Tactic.Common

/-!
# Scans on a budget

A list is looked at element by element, and something is emitted for some of them. Certain elements use up one of a
number of credits, and when there is none left, nothing more is looked at.

* **`filterMap_scan`**: what is emitted for the elements that cost is what there is for the first `n` of them;
* **`scan_of_lt`**: with a credit left at the end, everything has been looked at.

Lists that share their credits are gone through one after the other (`share`). All lists of one key together are cut
off where its credits end (**`share_key`**), and with a credit left each list is there as a whole (**`share_of_lt`**).
-/

namespace Scan

variable {α β γ : Type} (costs : α → Prop) [DecidablePred costs] (emit : α → Option β)

def scan : Nat → List α → List β
  | _, [] => []
  | 0, _ :: _ => []
  | n + 1, a :: as => (emit a).toList ++ scan (if costs a then n else n + 1) as

theorem scan_zero (as : List α) : scan costs emit 0 as = [] := by cases as <;> rfl

/-- A step of the scan. -/
theorem scan_cons {n : Nat} (hn : n ≠ 0) (a : α) (as : List α) :
    scan costs emit n (a :: as) = (emit a).toList ++ scan costs emit (if costs a then n - 1 else n) as := by
  obtain ⟨n, rfl⟩ := Nat.exists_eq_succ_of_ne_zero hn
  rfl

variable {costs emit}

theorem filterMap_scan {pick : β → Option γ} {g : α → γ}
    (h : ∀ a, (emit a).bind pick = if costs a then some (g a) else none) (n : Nat) (as : List α) :
    (scan costs emit n as).filterMap pick = ((as.filter (costs ·)).take n).map g := by
  induction as generalizing n with
  | nil => simp [scan]
  | cons a as ih =>
    cases n with
    | zero => simp [scan]
    | succ n =>
      have hhead : (emit a).toList.filterMap pick = ((emit a).bind pick).toList := by
        cases emit a with
        | none => rfl
        | some b => cases hb : pick b <;> simp [hb]
      rw [scan, List.filterMap_append, hhead, h a, ih]
      by_cases ha : costs a
      · simp [ha]
      · simp [ha]

theorem scan_of_lt {n : Nat} {as : List α} (h : as.countP (costs ·) < n) :
    scan costs emit n as = as.filterMap emit := by
  induction as generalizing n with
  | nil => simp [scan]
  | cons a as ih =>
    rw [List.countP_cons] at h
    have hrest : scan costs emit (if costs a then n - 1 else n) as = as.filterMap emit := by
      by_cases ha : costs a
      · rw [if_pos ha]
        exact ih (by simp only [ha, decide_true, if_true] at h; omega)
      · rw [if_neg ha]
        exact ih (by omega)
    rw [scan_cons _ _ (by omega), hrest]
    cases ha : emit a <;> simp [ha]

/-! ## Shared credits -/

section

variable {ι κ : Type} [DecidableEq κ] (key : ι → κ) (items : ι → List α)

/-- All elements of the lists, each with the list that it is from. -/
def tagged (is : List ι) : List (ι × α) := is.flatMap fun i => (items i).map (Prod.mk i)

theorem tagged_cons (i : ι) (is : List ι) : tagged items (i :: is) = (items i).map (Prod.mk i) ++ tagged items is :=
  List.flatMap_cons

/-- What the lists get, when there are `left k` credits for those of the key `k`. -/
def share : List ι → (κ → Nat) → List (ι × α)
  | [], _ => []
  | i :: is, left => ((items i).take (left (key i))).map (Prod.mk i) ++
      share is (Function.update left (key i) (left (key i) - (items i).length))

variable {key items}

/-- A list that is empty does not matter. -/
theorem share_cons_nil {i : ι} (h : items i = []) (is : List ι) (left : κ → Nat) :
    share key items (i :: is) left = share key items is left := by
  rw [share, h, List.take_nil, List.map_nil, List.nil_append, List.length_nil, Nat.sub_zero, Function.update_eq_self]

theorem length_share_le {n : Nat} (h : ∀ i, (items i).length ≤ n) (is : List ι) (left : κ → Nat) :
    (share key items is left).length ≤ is.length * n := by
  induction is generalizing left with
  | nil => exact Nat.zero_le _
  | cons i is ih =>
    have hi := h i
    have hrest := ih (Function.update left (key i) (left (key i) - (items i).length))
    rw [share, List.length_append, List.length_map, List.length_take, List.length_cons, Nat.add_one_mul]
    omega

/-- The lists of a key are cut off where its credits end. -/
theorem share_key (k : κ) (is : List ι) (left : κ → Nat) :
    (share key items is left).filter (fun p => key p.1 = k) =
      ((tagged items is).filter fun p => key p.1 = k).take (left k) := by
  induction is generalizing left with
  | nil => simp [share, tagged]
  | cons i is ih =>
    rw [tagged_cons, share, List.filter_append, List.filter_append, ih]
    by_cases hk : key i = k
    · -- its own credits are counted
      have hall (as : List α) : (as.map (Prod.mk i)).filter (fun p => key p.1 = k) = as.map (Prod.mk i) := by
        simp [List.filter_map, Function.comp_def, hk]
      rw [hall, hall, ← hk, Function.update_self, List.take_append, List.length_map, List.map_take]
    · have hnone (as : List α) : (as.map (Prod.mk i)).filter (fun p => key p.1 = k) = [] := by
        simp [List.filter_map, Function.comp_def, hk]
      rw [hnone, hnone, Function.update_of_ne (Ne.symm hk), List.nil_append, List.nil_append]

theorem tagged_filter [DecidableEq ι] {is : List ι} (hnd : is.Nodup) {i : ι} (hi : i ∈ is) :
    (tagged items is).filter (fun p => p.1 = i) = (items i).map (Prod.mk i) := by
  have hother {j : ι} (hj : j ≠ i) : ((items j).map (Prod.mk j)).filter (fun p => p.1 = i) = [] := by
    simp [List.filter_map, Function.comp_def, hj]
  induction is with
  | nil => cases hi
  | cons j is ih =>
    obtain ⟨hj, hnd⟩ := List.nodup_cons.1 hnd
    rw [tagged_cons, List.filter_append]
    by_cases hji : j = i
    · subst hji
      have hrest : (tagged items is).filter (fun p => p.1 = j) = [] := by
        rw [List.filter_eq_nil_iff]
        intro p hp
        obtain ⟨j', hj', hp'⟩ := List.mem_flatMap.1 hp
        obtain ⟨a, -, rfl⟩ := List.mem_map.1 hp'
        simpa using fun h : j' = j => hj (h ▸ hj')
      rw [hrest, List.append_nil, List.filter_eq_self]
      simp
    · rw [hother hji, List.nil_append]
      exact ih hnd (List.mem_of_ne_of_mem (Ne.symm hji) hi)

/-- **With a credit left, a list is there as a whole.** -/
theorem share_of_lt [DecidableEq ι] {is : List ι} (hnd : is.Nodup) {i : ι} (hi : i ∈ is) {left : κ → Nat}
    (hlt : ((share key items is left).filter fun p => key p.1 = key i).length < left (key i)) :
    (share key items is left).filter (fun p => p.1 = i) = (items i).map (Prod.mk i) := by
  have hof (ps : List (ι × α)) : ps.filter (fun p => p.1 = i) =
      (ps.filter fun p => key p.1 = key i).filter fun p => p.1 = i := by
    rw [List.filter_filter]
    refine List.filter_congr fun p _ => ?_
    by_cases hp : p.1 = i <;> simp [hp]
  rw [share_key, List.length_take] at hlt
  rw [hof, share_key, List.take_of_length_le (by omega), ← hof]
  exact tagged_filter hnd hi

end

end Scan
