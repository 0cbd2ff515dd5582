import Mathlib.Tactic
import Mathlib.Algebra.Field.ZMod
import Mathlib.Algebra.Polynomial.Div
import Mathlib.Data.ZMod.Basic

/-!
# Cyclic redundancy checks by a shift register

A register of `w` bits is clocked once for every bit of a message. It shifts right, and where the bit
that falls out differs from the bit of the message, the mask `g` is added: a bit-reversed register, as
it is used where bytes are sent least significant bit first.

The register is linear in its state and in the message (`run_zipWith`). A mask whose highest bit is set
makes a clock without input injective, and more: of the messages of at most `w` bits, the one that
drives a state to zero is the one that the state spells (**`run_eq_zero_iff`**). So a message followed
by its check ends in zero, and a burst of at most `w` bits does not. With a mask of odd weight the
register keeps count of the parity (`parity_run`).

**`regPoly_run`** says what the register computes: the remainder of the message, as a polynomial over
the field of two elements, by the generator polynomial whose lower coefficients are the mask.
-/

namespace Crc

variable {w : Nat}

/-- The bits of a word, least significant first. -/
def bits (x : BitVec w) : List Bool := (List.range w).map x.getLsbD

@[simp] theorem length_bits (x : BitVec w) : (bits x).length = w := by simp [bits]

theorem getD_bits (x : BitVec w) (i : Nat) : (bits x).getD i false = x.getLsbD i := by
  by_cases hi : i < w
  · simp [bits, hi]
  · simp [bits, hi, BitVec.getLsbD_of_ge x i (by omega)]

theorem bits_xor (x y : BitVec w) : bits (x ^^^ y) = List.zipWith xor (bits x) (bits y) := by
  apply List.ext_getElem
  · simp
  · intro i h1 h2
    simp [bits]

theorem bits_ushiftRight_one {w : Nat} (x : BitVec (w + 1)) : bits (x >>> 1) = (bits x).tail ++ [false] := by
  apply List.ext_getElem
  · simp
  · intro i h1 h2
    by_cases hi : i < w
    · simp [bits, hi, Nat.add_comm]
    · obtain rfl : i = w := by simp at h1; omega
      simp [bits]

theorem exists_bits_eq_cons {w : Nat} (x : BitVec (w + 1)) : ∃ t, bits x = x.getLsbD 0 :: t ∧ t.length = w := by
  have h : bits x = x.getLsbD 0 :: (List.range w).map (x.getLsbD ∘ Nat.succ) := by
    rw [bits, List.range_succ_eq_map, List.map_cons, List.map_map]
  exact ⟨_, h, by simp⟩

/-- A message without a bit set. -/
theorem eq_replicate_false (bs : List Bool) (h : ∀ i, bs.getD i false = false) :
    bs = List.replicate bs.length false := by
  refine List.eq_replicate_iff.2 ⟨rfl, fun b hb => ?_⟩
  obtain ⟨i, hi, rfl⟩ := List.getElem_of_mem hb
  simpa [hi] using h i

/-! ## The register -/

/-- One clock. -/
def clock (g s : BitVec w) (b : Bool) : BitVec w :=
  if s.getLsbD 0 = b then s >>> 1 else (s >>> 1) ^^^ g

/-- A message clocked in. -/
def run (g s : BitVec w) (bs : List Bool) : BitVec w := bs.foldl (clock g) s

@[simp] theorem run_nil (g s : BitVec w) : run g s [] = s := rfl

@[simp] theorem run_cons (g s : BitVec w) (b : Bool) (bs : List Bool) :
    run g s (b :: bs) = run g (clock g s b) bs := rfl

theorem run_append (g s : BitVec w) (as bs : List Bool) : run g s (as ++ bs) = run g (run g s as) bs :=
  List.foldl_append

theorem clock_xor (g s t : BitVec w) (b c : Bool) :
    clock g (s ^^^ t) (b ^^ c) = clock g s b ^^^ clock g t c := by
  apply BitVec.eq_of_getLsbD_eq
  intro i hi
  simp only [clock, BitVec.getLsbD_xor]
  cases s.getLsbD 0 <;> cases t.getLsbD 0 <;> cases b <;> cases c <;> simp
  all_goals
    cases s.getLsbD (1 + i) <;> cases t.getLsbD (1 + i) <;> cases g.getLsbD i <;> rfl

/-- **Linearity**: in the state and in the message together. -/
theorem run_zipWith (g : BitVec w) : ∀ (s t : BitVec w) (as bs : List Bool), as.length = bs.length →
    run g (s ^^^ t) (List.zipWith xor as bs) = run g s as ^^^ run g t bs
  | _, _, [], [], _ => rfl
  | s, t, a :: as, b :: bs, h => by
    simp only [List.zipWith_cons_cons, run_cons, clock_xor]
    exact run_zipWith g _ _ as bs (by simpa using h)

@[simp] theorem clock_zero_false (g : BitVec w) : clock g 0#w false = 0#w := by simp [clock]

@[simp] theorem run_zero_replicate (g : BitVec w) (n : Nat) : run g 0#w (List.replicate n false) = 0#w := by
  induction n with
  | zero => rfl
  | succ n ih => simpa [List.replicate_succ] using ih

section TopBit

variable {g : BitVec w} (hg : g.getLsbD (w - 1) = true)
include hg

/-- **The message that clears the register**: of at most `w` bits only the one that the state spells. -/
theorem run_eq_zero_iff (s : BitVec w) (bs : List Bool) (hl : bs.length ≤ w) :
    run g s bs = 0#w ↔ ∀ i, s.getLsbD i = bs.getD i false := by
  induction bs generalizing s with
  | nil =>
    constructor
    · intro h i
      rw [run_nil] at h
      simp [h]
    · intro h
      apply BitVec.eq_of_getLsbD_eq
      intro i _
      simpa using h i
  | cons b bs ih =>
    rw [List.length_cons] at hl
    rw [run_cons, ih (clock g s b) (by omega)]
    constructor
    · intro h
      -- the highest bit of what the rest spells is clear, so the mask was not added
      have h0 : s.getLsbD 0 = b := by
        by_contra hne
        have htop := h (w - 1)
        rw [List.getD_eq_getElem?_getD, List.getElem?_eq_none (by omega)] at htop
        simp [clock, hne, hg, BitVec.getLsbD_of_ge s (1 + (w - 1)) (by omega)] at htop
      intro i
      cases i with
      | zero => simpa using h0
      | succ i =>
        have hi := h i
        rw [clock, if_pos h0, BitVec.getLsbD_ushiftRight, Nat.add_comm] at hi
        simpa using hi
    · intro h i
      have h0 : s.getLsbD 0 = b := by simpa using h 0
      rw [clock, if_pos h0, BitVec.getLsbD_ushiftRight, Nat.add_comm]
      simpa using h (i + 1)

/-- A register fed with its own bits is cleared. -/
theorem run_bits_self (s : BitVec w) : run g s (bits s) = 0#w :=
  (run_eq_zero_iff hg s (bits s) (by simp)).2 fun i => (getD_bits s i).symm

/-- Feeding a word is adding it to the state and clocking without input. -/
theorem run_bits (s x : BitVec w) : run g s (bits x) = run g (s ^^^ x) (List.replicate w false) := by
  have h := run_zipWith g s x (bits x) (bits x) rfl
  rw [run_bits_self hg x, BitVec.xor_zero] at h
  rw [← h]
  congr 1
  apply List.ext_getElem
  · simp
  · intro i h1 h2
    simp

/-- Zeros do not clear the register. -/
theorem run_replicate_ne_zero (hw : 0 < w) (n : Nat) {s : BitVec w} (hs : s ≠ 0#w) :
    run g s (List.replicate n false) ≠ 0#w := by
  induction n generalizing s with
  | zero => exact hs
  | succ n ih =>
    rw [List.replicate_succ, run_cons]
    refine ih fun h => hs ?_
    have h1 := (run_eq_zero_iff hg s [false] hw).1 h
    apply BitVec.eq_of_getLsbD_eq
    intro i _
    rw [h1 i]
    cases i <;> simp

/-- **Bursts**: a message that is zero outside of `w` consecutive bits, but not zero. -/
theorem run_burst_ne_zero {k : Nat} {es : List Bool} (hne : true ∈ es)
    (hb : ∀ i, es.getD i false = true → k ≤ i ∧ i < k + w) : run g 0#w es ≠ 0#w := by
  obtain ⟨i, hi, hget⟩ := List.getElem_of_mem hne
  have hk := hb i (by simp [hi, hget])
  have hclear (j : Nat) (hj : j < k ∨ k + w ≤ j) : es.getD j false = false := by
    by_contra hset
    have := hb j (by simpa using hset)
    omega
  have hpre : es.take k = List.replicate k false := by
    have hz := eq_replicate_false (es.take k) fun j => ?_
    · simpa [show k ≤ es.length by omega] using hz
    · by_cases hj : j < k
      · simpa [hj] using hclear j (.inl hj)
      · simp [hj]
  have hpost : es.drop (k + w) = List.replicate (es.length - (k + w)) false := by
    have hz := eq_replicate_false (es.drop (k + w)) fun j => ?_
    · simpa using hz
    · simpa using hclear (k + w + j) (.inr (by omega))
  have hsplit : es = List.replicate k false ++ ((es.drop k).take w ++ List.replicate (es.length - (k + w)) false) := by
    rw [← hpre, ← hpost, ← List.drop_drop, List.take_append_drop, List.take_append_drop]
  rw [hsplit, run_append, run_zero_replicate, run_append]
  refine run_replicate_ne_zero hg (by omega) _ fun h => ?_
  have hz := (run_eq_zero_iff hg 0#w _ (by simp)).1 h (i - k)
  simp [show i - k < w by omega, show k + (i - k) = i by omega, hi, hget] at hz

end TopBit

/-! ## Parity -/

/-- Whether the number of set bits is odd. -/
def parity (bs : List Bool) : Bool := bs.foldr xor false

@[simp] theorem parity_nil : parity [] = false := rfl

@[simp] theorem parity_cons (b : Bool) (bs : List Bool) : parity (b :: bs) = (b ^^ parity bs) := rfl

@[simp] theorem parity_append (as bs : List Bool) : parity (as ++ bs) = (parity as ^^ parity bs) := by
  induction as with
  | nil => simp
  | cons a as ih => simp [ih]

theorem parity_zipWith : ∀ {as bs : List Bool}, as.length = bs.length →
    parity (List.zipWith xor as bs) = (parity as ^^ parity bs)
  | [], [], _ => rfl
  | a :: as, b :: bs, h => by
    rw [List.zipWith_cons_cons, parity_cons, parity_cons, parity_cons, parity_zipWith (by simpa using h)]
    cases a <;> cases b <;> simp

theorem parity_eq_true_iff (bs : List Bool) : parity bs = true ↔ Odd (bs.count true) := by
  induction bs with
  | nil => simp
  | cons b bs ih => cases b <;> simp [Nat.odd_add_one, ← ih]

theorem parity_clock {w : Nat} {g : BitVec (w + 1)} (hg : parity (bits g) = true) (s : BitVec (w + 1)) (b : Bool) :
    parity (bits (clock g s b)) = (parity (bits s) ^^ b) := by
  have hshift : parity (bits (s >>> 1)) = (parity (bits s) ^^ s.getLsbD 0) := by
    obtain ⟨t, ht, -⟩ := exists_bits_eq_cons s
    rw [bits_ushiftRight_one, ht]
    cases s.getLsbD 0 <;> simp
  rw [clock]
  split
  · rename_i h
    rw [hshift, h]
  · rename_i h
    rw [bits_xor, parity_zipWith (by simp), hshift, hg]
    cases hs : s.getLsbD 0 <;> cases b <;> simp_all

/-- **Parity**: the register counts the bits that were fed. -/
theorem parity_run {w : Nat} {g : BitVec (w + 1)} (hg : parity (bits g) = true) (s : BitVec (w + 1)) (bs : List Bool) :
    parity (bits (run g s bs)) = (parity (bits s) ^^ parity bs) := by
  induction bs generalizing s with
  | nil => simp
  | cons b bs ih => rw [run_cons, ih, parity_clock hg, parity_cons, Bool.xor_assoc]

theorem parity_replicate (n : Nat) : parity (List.replicate n false) = false := by
  induction n with
  | zero => rfl
  | succ n ih => simpa [List.replicate_succ] using ih

theorem parity_bits_zero : parity (bits 0#w) = false := by
  rw [eq_replicate_false (bits 0#w) fun i => by rw [getD_bits, BitVec.getLsbD_zero], parity_replicate]

/-- A message of odd weight. -/
theorem run_odd_ne_zero {w : Nat} {g : BitVec (w + 1)} (hg : parity (bits g) = true) {bs : List Bool}
    (hodd : Odd (bs.count true)) : run g 0#(w + 1) bs ≠ 0#(w + 1) := by
  intro h
  have hp := parity_run hg 0#(w + 1) bs
  rw [h, parity_bits_zero, (parity_eq_true_iff bs).2 hodd] at hp
  cases hp

/-! ## As polynomials -/

section Polynomial

open Polynomial

/-- A bit as a coefficient. -/
def coeff (b : Bool) : ZMod 2 := if b then 1 else 0

@[simp] theorem coeff_xor (a b : Bool) : coeff (a ^^ b) = coeff a + coeff b := by
  cases a <;> cases b <;> decide

/-- A message as a polynomial, the first bit its highest coefficient. -/
noncomputable def poly : List Bool → (ZMod 2)[X]
  | [] => 0
  | b :: bs => C (coeff b) * X ^ bs.length + poly bs

/-- The lowest bit of the register is its highest coefficient. -/
noncomputable def regPoly (s : BitVec w) : (ZMod 2)[X] := poly (bits s)

/-- The generator with the lower coefficients `g`. -/
noncomputable def generator (g : BitVec w) : (ZMod 2)[X] := X ^ w + regPoly g

theorem poly_append_false (bs : List Bool) : poly (bs ++ [false]) = X * poly bs := by
  induction bs with
  | nil => simp [poly, coeff]
  | cons b bs ih =>
    simp only [List.cons_append, poly, ih, List.length_append, List.length_singleton]
    ring

theorem poly_zipWith : ∀ {as bs : List Bool}, as.length = bs.length →
    poly (List.zipWith xor as bs) = poly as + poly bs
  | [], [], _ => by simp [poly]
  | a :: as, b :: bs, h => by
    have hl : as.length = bs.length := by simpa using h
    rw [List.zipWith_cons_cons, poly, poly, poly, poly_zipWith hl, coeff_xor, C_add]
    simp [hl]
    ring

theorem degree_poly_lt (bs : List Bool) : (poly bs).degree < bs.length := by
  induction bs with
  | nil => simp [poly]
  | cons b bs ih =>
    refine lt_of_le_of_lt (degree_add_le _ _) (max_lt ?_ ?_)
    · exact lt_of_le_of_lt (degree_C_mul_X_pow_le _ _) (by exact_mod_cast Nat.lt_succ_self _)
    · exact ih.trans (by exact_mod_cast Nat.lt_succ_self _)

theorem degree_regPoly_lt (s : BitVec w) : (regPoly s).degree < w := by
  simpa [regPoly] using degree_poly_lt (bits s)

theorem generator_monic (g : BitVec w) : (generator g).Monic := monic_X_pow_add (degree_regPoly_lt g)

theorem degree_generator (g : BitVec w) : (generator g).degree = w := by
  rw [generator, degree_add_eq_left_of_degree_lt, degree_X_pow]
  rw [degree_X_pow]
  exact degree_regPoly_lt g

/-- One clock multiplies by `X`, adds the bit, and subtracts the generator where it is due. -/
theorem regPoly_clock {w : Nat} (g s : BitVec (w + 1)) (b : Bool) :
    ∃ q, X * regPoly s + C (coeff b) * X ^ (w + 1) = generator g * q + regPoly (clock g s b) := by
  have hshift : regPoly (s >>> 1) = X * regPoly s + C (coeff (s.getLsbD 0)) * X ^ (w + 1) := by
    obtain ⟨t, ht, hl⟩ := exists_bits_eq_cons s
    rw [regPoly, bits_ushiftRight_one, ht, List.tail_cons, poly_append_false, regPoly, ht, poly, hl]
    have h2 : C (coeff (s.getLsbD 0)) * X ^ (w + 1) + C (coeff (s.getLsbD 0)) * X ^ (w + 1) = (0 : (ZMod 2)[X]) :=
      CharTwo.add_self_eq_zero _
    linear_combination -h2
  have hc : coeff b = coeff (s.getLsbD 0) + coeff (s.getLsbD 0 ^^ b) := by
    cases s.getLsbD 0 <;> cases b <;> decide
  by_cases h : s.getLsbD 0 = b
  · refine ⟨0, ?_⟩
    rw [clock, if_pos h, hshift, h]
    ring
  · refine ⟨1, ?_⟩
    have hx : coeff (s.getLsbD 0 ^^ b) = 1 := by
      cases hs : s.getLsbD 0 <;> cases b <;> simp_all [coeff]
    have hadd : regPoly (s >>> 1 ^^^ g) = regPoly (s >>> 1) + regPoly g := by
      rw [regPoly, bits_xor, poly_zipWith (by simp)]
      rfl
    have h2 : regPoly g + regPoly g = 0 := CharTwo.add_self_eq_zero _
    rw [clock, if_neg h, hadd, hshift, generator, hc, hx, C_add, C_1]
    linear_combination -h2

/-- A message clocked into a register of any content. -/
theorem regPoly_run_add {w : Nat} (g s : BitVec (w + 1)) (bs : List Bool) :
    regPoly (run g s bs) = (X ^ bs.length * regPoly s + X ^ (w + 1) * poly bs) %ₘ generator g := by
  have key : ∃ q, X ^ bs.length * regPoly s + X ^ (w + 1) * poly bs = generator g * q + regPoly (run g s bs) := by
    induction bs generalizing s with
    | nil => exact ⟨0, by simp [poly]⟩
    | cons b bs ih =>
      obtain ⟨q₁, h₁⟩ := regPoly_clock g s b
      obtain ⟨q₂, h₂⟩ := ih (clock g s b)
      refine ⟨X ^ bs.length * q₁ + q₂, ?_⟩
      rw [run_cons, poly, List.length_cons]
      linear_combination X ^ bs.length * h₁ + h₂
  obtain ⟨q, hq⟩ := key
  refine (div_modByMonic_unique q _ (generator_monic g) ⟨?_, ?_⟩).2.symm
  · rw [hq, add_comm]
  · rw [degree_generator]
    exact degree_regPoly_lt _

/-- **The register computes the remainder**: a message of `n` bits, followed by as many zeros as the
generator has degree, divided by the generator. -/
theorem regPoly_run {w : Nat} (g : BitVec (w + 1)) (bs : List Bool) :
    regPoly (run g 0#(w + 1) bs) = (X ^ (w + 1) * poly bs) %ₘ generator g := by
  have h0 : regPoly 0#(w + 1) = 0 := by
    have h := @poly_zipWith (bits 0#(w + 1)) (bits 0#(w + 1)) rfl
    rw [← bits_xor, BitVec.xor_zero] at h
    exact left_eq_add.1 h
  rw [regPoly_run_add, h0, mul_zero, zero_add]

end Polynomial

end Crc
