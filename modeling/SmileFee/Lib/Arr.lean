import Mathlib.Data.Option.Basic
import Mathlib.Logic.Function.Basic

/-!
# Arrays with checked accesses, and counted loops

An array knows the size it was allocated with, and an access beyond it has no result. A program that
has a result has kept to its arrays. `upTo_spec` is the rule for a counted loop: an invariant that each
round leads on, and with it the fact that no round goes wrong. `upTo_ne_none_iff` and `steps_ne_none_iff`
say in which cases none does, for a counted loop and for one that may not end.
-/

/-- An array of the size it was allocated with. -/
structure Arr (α : Type*) where
  size : Nat
  val : Nat → α

namespace Arr

variable {α : Type*} (a : Arr α)

/-- The element at `i` is replaced. -/
def upd (i : Nat) (v : α) : Arr α := { a with val := Function.update a.val i v }

/-- `a[i]`. -/
def get? (i : Nat) : Option α := if i < a.size then some (a.val i) else none

/-- `a[i] = v`. -/
def set? (i : Nat) (v : α) : Option (Arr α) := if i < a.size then some (a.upd i v) else none

/-- `a[i] = f(a[i])`. -/
def modify? (i : Nat) (f : α → α) : Option (Arr α) := (a.get? i).bind fun v => a.set? i (f v)

/-- `memset` of the first `n` elements. -/
def fill? (n : Nat) (v : α) : Option (Arr α) :=
  if n ≤ a.size then some { a with val := fun i => if i < n then v else a.val i } else none

/-- `memcpy(&a[i], &b[j], n)`, with `n` counted in elements. -/
def copy? (i : Nat) (b : Arr α) (j n : Nat) : Option (Arr α) :=
  if i + n ≤ a.size ∧ j + n ≤ b.size then
    some { a with val := fun x => if i ≤ x ∧ x < i + n then b.val (j + (x - i)) else a.val x }
  else none

@[simp] theorem size_upd (i : Nat) (v : α) : (a.upd i v).size = a.size := rfl

@[simp] theorem val_upd_same (i : Nat) (v : α) : (a.upd i v).val i = v := Function.update_self ..

theorem val_upd_of_ne {i j : Nat} (h : j ≠ i) (v : α) : (a.upd i v).val j = a.val j := Function.update_of_ne h ..

variable {a}

theorem get?_eq {i : Nat} (h : i < a.size) : a.get? i = some (a.val i) := if_pos h

theorem set?_eq {i : Nat} (h : i < a.size) (v : α) : a.set? i v = some (a.upd i v) := if_pos h

theorem modify?_eq {i : Nat} (h : i < a.size) (f : α → α) : a.modify? i f = some (a.upd i (f (a.val i))) := by
  rw [modify?, get?_eq h, Option.bind_some, set?_eq h]

/-- What an update in place needs, and that it keeps the size. -/
theorem modify?_ne_none_iff {i : Nat} {f : α → α} : a.modify? i f ≠ none ↔ i < a.size := by
  constructor
  · intro h
    by_contra hi
    rw [modify?, get?, if_neg hi] at h
    exact h rfl
  · intro h
    rw [modify?_eq h]
    exact Option.some_ne_none _

theorem size_of_modify? {i : Nat} {f : α → α} {b : Arr α} (h : a.modify? i f = some b) : b.size = a.size := by
  rw [modify?_eq (modify?_ne_none_iff.1 (by rw [h]; exact Option.some_ne_none b))] at h
  cases h
  rfl

theorem fill?_eq {n : Nat} (h : n ≤ a.size) (v : α) :
    a.fill? n v = some { a with val := fun i => if i < n then v else a.val i } := if_pos h

/-! ## Rows and columns -/

theorem index_lt {rows cols y x : Nat} (hy : y < rows) (hx : x < cols) : y * cols + x < rows * cols :=
  calc y * cols + x < y * cols + cols := Nat.add_lt_add_left hx _
    _ = (y + 1) * cols := (Nat.succ_mul y cols).symm
    _ ≤ rows * cols := Nat.mul_le_mul_right cols hy

theorem index_ne {cols y y' x x' : Nat} (hy : y' ≠ y) (hx : x < cols) (hx' : x' < cols) :
    y' * cols + x' ≠ y * cols + x := by
  intro h
  have hdiv := congrArg (· / cols) h
  simp only [Nat.mul_comm _ cols, Nat.mul_add_div (Nat.zero_lt_of_lt hx), Nat.div_eq_of_lt hx, Nat.div_eq_of_lt hx',
    Nat.add_zero] at hdiv
  exact hy hdiv

/-! ## Loops -/

variable {σ : Type*}

/-- `for (i = 0; i < n; i++)`. -/
def upTo : Nat → (Nat → σ → Option σ) → σ → Option σ
  | 0, _, s => some s
  | n + 1, body, s => (upTo n body s).bind (body n)

/-- **The rule for a counted loop.** -/
theorem upTo_spec {n : Nat} {body : Nat → σ → Option σ} {s : σ} (I : Nat → σ → Prop) (h0 : I 0 s)
    (hstep : ∀ i s, i < n → I i s → ∃ s', body i s = some s' ∧ I (i + 1) s') :
    ∃ s', upTo n body s = some s' ∧ I n s' := by
  induction n with
  | zero => exact ⟨s, rfl, h0⟩
  | succ n ih =>
    obtain ⟨s₁, hrun, hinv⟩ := ih fun i s hi => hstep i s (Nat.lt_succ_of_lt hi)
    obtain ⟨s₂, hbody, hinv'⟩ := hstep n s₁ (Nat.lt_succ_self n) hinv
    exact ⟨s₂, by rw [upTo, hrun, Option.bind_some, hbody], hinv'⟩

/-- Where an invariant holds, a loop has a result if and only if none of its rounds goes wrong. -/
theorem upTo_ne_none_iff {n : Nat} {body : Nat → σ → Option σ} {s : σ} {I : σ → Prop} {ok : Nat → Prop} (h0 : I s)
    (hok : ∀ i s, i < n → I s → (body i s ≠ none ↔ ok i)) (hkeep : ∀ i s s', I s → body i s = some s' → I s') :
    upTo n body s ≠ none ↔ ∀ i < n, ok i := by
  suffices h : (upTo n body s ≠ none ↔ ∀ i < n, ok i) ∧ ∀ s', upTo n body s = some s' → I s' from h.1
  induction n with
  | zero => exact ⟨⟨fun _ i hi => absurd hi (Nat.not_lt_zero i), fun _ => Option.some_ne_none s⟩,
      fun s' hs => Option.some.inj hs ▸ h0⟩
  | succ n ih =>
    obtain ⟨hn, hI⟩ := ih fun i s hi => hok i s (Nat.lt_succ_of_lt hi)
    rw [upTo]
    cases hrun : upTo n body s with
    | none =>
      rw [hrun] at hn
      refine ⟨⟨fun h => absurd rfl h, fun h => ?_⟩, fun s' hs => by cases hs⟩
      exact absurd rfl (hn.2 fun i hi => h i (Nat.lt_succ_of_lt hi))
    | some t =>
      rw [hrun] at hn
      have ht := hI t hrun
      have hall := hn.1 (Option.some_ne_none t)
      have hlast := hok n t (Nat.lt_succ_self n) ht
      rw [Option.bind_some]
      refine ⟨hlast.trans ⟨fun h i hi => ?_, fun h => h n (Nat.lt_succ_self n)⟩, fun s' => hkeep n t s' ht⟩
      rcases Nat.lt_succ_iff_lt_or_eq.1 hi with hi | rfl
      · exact hall i hi
      · exact h

/-- `n` steps. -/
def steps (step : σ → Option σ) : Nat → σ → Option σ
  | 0, s => some s
  | n + 1, s => (steps step n s).bind step

theorem steps_inv {step : σ → Option σ} {s : σ} {I : σ → Prop} (h0 : I s)
    (hkeep : ∀ s s', I s → step s = some s' → I s') {n : Nat} {t : σ} (h : steps step n s = some t) : I t := by
  induction n generalizing t with
  | zero => exact Option.some.inj h ▸ h0
  | succ n ih =>
    obtain ⟨r, hr, hstep⟩ := Option.bind_eq_some_iff.1 h
    exact hkeep r t (ih hr) hstep

/-- A run goes on for ever, or to its end, if and only if no state that it comes to goes wrong. -/
theorem steps_ne_none_iff {step : σ → Option σ} {s : σ} {I ok : σ → Prop} (h0 : I s)
    (hok : ∀ s, I s → (step s ≠ none ↔ ok s)) (hkeep : ∀ s s', I s → step s = some s' → I s') :
    (∀ n, steps step n s ≠ none) ↔ ∀ n t, steps step n s = some t → ok t := by
  constructor
  · intro h n t ht
    have hnext := h (n + 1)
    rw [steps, ht, Option.bind_some] at hnext
    exact (hok t (steps_inv h0 hkeep ht)).1 hnext
  · intro h n
    induction n with
    | zero => exact Option.some_ne_none s
    | succ n ih =>
      obtain ⟨t, ht⟩ := Option.ne_none_iff_exists'.1 ih
      rw [steps, ht, Option.bind_some]
      exact (hok t (steps_inv h0 hkeep ht)).2 (h n t ht)

end Arr
