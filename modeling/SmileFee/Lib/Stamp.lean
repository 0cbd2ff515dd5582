import Mathlib.Data.List.Basic

/-!
# Bursts stamped by a counter

A sender emits bursts, and each item of a burst carries a stamp. **`Successive`** is what a receiver
expects of the stamps: one for a burst, and from one burst to the next the successor. Bursts without
items do not count.

The sender has a counter. A burst may carry the value that the counter has already (`stale`) or the
one that it is advanced to (`fresh`), or some items the one and some the other (`mixed`).
**`Stamped.successive_iff`** says which sequences of bursts are as expected.
-/

namespace Stamp

variable {α : Type*} (next : α → α)

/-- Every burst that is not empty has one stamp, the successor of `prev` for the first of them. -/
def Successive : Option α → List (List α) → Prop
  | _, [] => True
  | prev, b :: bs =>
    if b = [] then Successive prev bs
    else ∃ v, (∀ x ∈ b, x = v) ∧ (∀ p ∈ prev, v = next p) ∧ Successive (some v) bs

/-- How the counter stamps a burst. -/
inductive Stamping where
  | silent | fresh | stale | mixed
deriving DecidableEq, Repr

/-- A burst stamped while the counter goes from `c` to `c'`. -/
def Stamping.Holds (c : α) (b : List α) (c' : α) : Stamping → Prop
  | silent => b = [] ∧ c' = c
  | fresh => b ≠ [] ∧ (∀ x ∈ b, x = next c) ∧ c' = next c
  | stale => b ≠ [] ∧ (∀ x ∈ b, x = c) ∧ c' = c
  | mixed => c ∈ b ∧ next c ∈ b

/-- The bursts of a run from the counter `c` on. -/
inductive Stamped : α → List (List α) → List Stamping → Prop
  | nil (c : α) : Stamped c [] []
  | cons {c c' : α} {b : List α} {bs : List (List α)} {k : Stamping} {ks : List Stamping} :
      k.Holds next c b c' → Stamped c' bs ks → Stamped c (b :: bs) (k :: ks)

variable {next}

@[simp] theorem successive_nil (prev : Option α) : Successive next prev [] := trivial

@[simp] theorem successive_cons_nil (prev : Option α) (bs : List (List α)) :
    Successive next prev ([] :: bs) ↔ Successive next prev bs := by simp [Successive]

/-- The first burst that is not empty has one stamp. -/
theorem successive_cons {prev : Option α} {b : List α} {bs : List (List α)} (hb : b ≠ []) {v : α}
    (hv : ∀ x ∈ b, x = v) :
    Successive next prev (b :: bs) ↔ (∀ p ∈ prev, v = next p) ∧ Successive next (some v) bs := by
  rw [Successive, if_neg hb]
  constructor
  · rintro ⟨w, hw, hprev, hbs⟩
    obtain ⟨x, hx⟩ := List.exists_mem_of_ne_nil b hb
    obtain rfl : v = w := (hv x hx).symm.trans (hw x hx)
    exact ⟨hprev, hbs⟩
  · rintro ⟨hprev, hbs⟩
    exact ⟨v, hv, hprev, hbs⟩

/-- A burst with two stamps is not what is expected. -/
theorem not_successive_cons {prev : Option α} {b : List α} {bs : List (List α)} {x y : α} (hx : x ∈ b) (hy : y ∈ b)
    (hne : x ≠ y) : ¬ Successive next prev (b :: bs) := by
  rw [Successive, if_neg (List.ne_nil_of_mem hx)]
  rintro ⟨v, hv, -⟩
  exact hne ((hv x hx).trans (hv y hy).symm)

section

variable {c : α} {bs : List (List α)} {ks : List Stamping} (hnext : ∀ a, next a ≠ a)
include hnext

/-- After a burst the counter is its stamp: from then on every burst has to be fresh. -/
theorem Stamped.successive_some_iff (h : Stamped next c bs ks) :
    Successive next (some c) bs ↔ ∀ k ∈ ks, k = .silent ∨ k = .fresh := by
  induction h with
  | nil => simp
  | @cons c c' b bs k ks hk _ ih =>
    cases k with
    | silent =>
      obtain ⟨rfl, rfl⟩ := hk
      simpa using ih
    | fresh =>
      obtain ⟨hb, hv, rfl⟩ := hk
      rw [successive_cons hb hv, ih]
      simp
    | stale =>
      obtain ⟨hb, hv, rfl⟩ := hk
      rw [successive_cons hb hv]
      simp [(hnext c').symm]
    | mixed =>
      obtain ⟨hc, hc'⟩ := hk
      simp [not_successive_cons hc hc' (hnext c).symm]

/-- **What a receiver expects**: no burst is mixed, and all that are not empty are fresh, except for the
first. -/
theorem Stamped.successive_iff (h : Stamped next c bs ks) : Successive next none bs ↔
    (∀ k ∈ ks, k ≠ .mixed) ∧ ∀ k ∈ (ks.filter (· ≠ .silent)).tail, k = .fresh := by
  induction h with
  | nil => simp
  | @cons c c' b bs k ks hk hks ih =>
    -- the first burst with a stamp leaves the counter at it
    have hrest : (∀ k ∈ ks, k = .silent ∨ k = .fresh) ↔
        (∀ k ∈ ks, k ≠ .mixed) ∧ ∀ k ∈ ks.filter (· ≠ .silent), k = .fresh := by
      constructor
      · intro hall
        constructor
        · intro k hk
          rcases hall k hk with rfl | rfl <;> decide
        · intro k hk
          obtain ⟨hmem, hne⟩ := List.mem_filter.1 hk
          exact (hall k hmem).resolve_left (by simpa using hne)
      · rintro ⟨-, hfresh⟩ k hk
        by_cases hs : k = .silent
        · exact Or.inl hs
        · exact Or.inr (hfresh k (List.mem_filter.2 ⟨hk, by simpa using hs⟩))
    cases k with
    | silent =>
      obtain ⟨rfl, rfl⟩ := hk
      simpa using ih
    | fresh =>
      obtain ⟨hb, hv, rfl⟩ := hk
      rw [successive_cons hb hv, hks.successive_some_iff hnext, hrest]
      simp
    | stale =>
      obtain ⟨hb, hv, rfl⟩ := hk
      rw [successive_cons hb hv, hks.successive_some_iff hnext, hrest]
      simp
    | mixed =>
      obtain ⟨hc, hc'⟩ := hk
      simp [not_successive_cons hc hc' (hnext c).symm]

end

end Stamp
