import SmileFee.FeeData
import SmileFee.Lib.Arr

/-!
# The random pixels of the simulator (`SIM/fee_sim.c:300-384, 713-752`)

| here | there |
| --- | --- |
| `Swcx`, `swcxStep`   | the loop over the rays in `ccd_sim_add_swcx` (`:323`), and the one that spreads a ray (`:340`) |
| `ccdSimAddSxrb`      | `ccd_sim_add_sxrb` (`:363`) |
| `ccdSimAddRdNoise`   | `ccd_sim_add_rd_noise` (`:713`) |

What `rand` returns is a sequence; the numbers of rays, the energies and the noise are computed with
floating-point numbers and may be anything (`Flt`): none of them becomes an index. Arrays are accessed
with a check, and a function that leaves one has no result.

**`noise_indices_iff`**: `rand() % (n + 1)` can be `n`, and so can the number of a pixel that passes
`pp > n`.
-/

namespace SmileFee

open Arr

/-- The arithmetic with floating-point numbers. -/
structure Flt where
  F : Type
  /-- `ccd_sim_get_swcx_ray` (`:281`), of what `rand` returns. -/
  swcxRay : Nat → F
  /-- `x > 0.0`. -/
  pos : F → Bool
  /-- `bleedoff` (`:344`, `:351`) of the ray, of what is left of it, and of what `rand` returns. -/
  bleedoff : F → F → Nat → F
  sub : F → F → F
  /-- `p += x` for a pixel. -/
  addTo : F → U16 → U16

/-- The pixels of a frame. -/
def CCD_PIXELS : Nat := FEE_CCD_IMG_SEC_ROWS * FEE_CCD_IMG_SEC_COLS

def RD_NOISE_SAMPLES : Nat := 128

variable (flt : Flt)

/-! ## The functions -/

/-- Where `ccd_sim_add_swcx` is. -/
inductive SwcxPc (F : Type) where
  /-- At the test of `for`, with so many rays to go. -/
  | ray (left : Nat)
  /-- At the test of `while`. -/
  | bleed (left : Nat) (ray fray : F) (pix : Nat)

/-- `k` counts the calls of `rand`. -/
structure Swcx where
  frame : Arr U16
  k : Nat
  pc : SwcxPc flt.F

variable {flt}

/-- One round of the loop that the function is in. -/
def swcxStep (rand : Nat → Nat) (s : Swcx flt) : Option (Swcx flt) :=
  match s.pc with
  | .ray 0 => some s
  | .ray (left + 1) =>
    let ray := flt.swcxRay (rand s.k)
    let pix := rand (s.k + 1) % (CCD_PIXELS + 1)
    -- `rand() % ((int) (1. / MULTIPIX_HIT_PROB))`
    if rand (s.k + 2) % 2 ≠ 0 then
      (s.frame.modify? pix (flt.addTo ray)).map fun frame => ⟨frame, s.k + 3, .ray left⟩
    else some ⟨s.frame, s.k + 3, .bleed left ray ray pix⟩
  | .bleed left ray fray pix =>
    if flt.pos fray then
      let x := pix % FEE_CCD_IMG_SEC_COLS
      let y := (pix - x) / FEE_CCD_IMG_SEC_COLS
      let yy := 1 - rand s.k % 2
      let xx := 1 - rand (s.k + 1) % 2
      let pp := (yy + y) * FEE_CCD_IMG_SEC_COLS + (xx + x)
      let bleedoff := flt.bleedoff ray fray (rand (s.k + 2))
      if pp > CCD_PIXELS then some ⟨s.frame, s.k + 3, .bleed left ray fray pix⟩
      else (s.frame.modify? pp (flt.addTo bleedoff)).map fun frame =>
        ⟨frame, s.k + 3, .bleed left ray (flt.sub fray bleedoff) pix⟩
    else some ⟨s.frame, s.k, .ray left⟩

variable (flt)

/-- `ccd_sim_add_sxrb` (`:363`). Which operand of `+=` calls `rand` first is up to the compiler. -/
def ccdSimAddSxrb (rand : Nat → Nat) (indexFirst : Bool) (rays : Nat) (frame : Arr U16) : Option (Arr U16) :=
  upTo rays (fun i frame =>
    let (index, ray) :=
      if indexFirst then (rand (2 * i), rand (2 * i + 1)) else (rand (2 * i + 1), rand (2 * i))
    frame.modify? (index % (CCD_PIXELS + 1)) (flt.addTo (flt.swcxRay ray))) frame

/-- `ccd_sim_add_rd_noise` (`:713`); `noise` are the samples, `rand` is called for them before. -/
def ccdSimAddRdNoise (rand : Nat → Nat) (zero : flt.F) (noise : Nat → flt.F) (n : Nat) (ccd : Arr U16) :
    Option (Arr U16) :=
  let noisearr : Arr flt.F := ⟨RD_NOISE_SAMPLES, fun _ => zero⟩
  (upTo RD_NOISE_SAMPLES (fun i (noisearr : Arr flt.F) => noisearr.set? i (noise i)) noisearr).bind fun noisearr =>
    upTo n (fun i ccd => (noisearr.get? (rand i % (RD_NOISE_SAMPLES + 1))).bind fun x =>
      ccd.modify? i (flt.addTo x)) ccd

variable {flt}

/-! ## Rays -/

/-- The next round does not touch the element behind the end: a ray that hits one pixel does not hit it,
and one that is spread does not reach it from where it has hit. -/
def SwcxInside (rand : Nat → Nat) (s : Swcx flt) : Prop :=
  match s.pc with
  | .ray 0 => True
  | .ray (_ + 1) => rand (s.k + 2) % 2 ≠ 0 → rand (s.k + 1) % (CCD_PIXELS + 1) ≠ CCD_PIXELS
  | .bleed _ _ fray pix => flt.pos fray → pix + (1 - rand s.k % 2) * FEE_CCD_IMG_SEC_COLS +
      (1 - rand (s.k + 1) % 2) ≠ CCD_PIXELS

/-- Column and row put together again. -/
theorem bled_pixel (pix yy xx : Nat) :
    (yy + (pix - pix % FEE_CCD_IMG_SEC_COLS) / FEE_CCD_IMG_SEC_COLS) * FEE_CCD_IMG_SEC_COLS +
      (xx + pix % FEE_CCD_IMG_SEC_COLS) = pix + yy * FEE_CCD_IMG_SEC_COLS + xx := by
  have h : (pix - pix % FEE_CCD_IMG_SEC_COLS) / FEE_CCD_IMG_SEC_COLS * FEE_CCD_IMG_SEC_COLS =
      pix - pix % FEE_CCD_IMG_SEC_COLS := Nat.div_mul_cancel (Nat.dvd_sub_mod pix)
  have hle := Nat.mod_le pix FEE_CCD_IMG_SEC_COLS
  rw [Nat.add_mul, h]
  omega

theorem swcxStep_ne_none_iff (rand : Nat → Nat) (s : Swcx flt) (hsize : s.frame.size = CCD_PIXELS) :
    swcxStep rand s ≠ none ↔ SwcxInside rand s := by
  obtain ⟨frame, k, pc⟩ := s
  simp only at hsize
  cases pc with
  | ray left =>
    cases left with
    | zero => exact ⟨fun _ => trivial, fun _ => Option.some_ne_none _⟩
    | succ left =>
      have hlt := Nat.mod_lt (rand (k + 1)) (Nat.succ_pos CCD_PIXELS)
      simp only [swcxStep, SwcxInside]
      split
      · rename_i hhit
        rw [ne_eq, Option.map_eq_none_iff, ← ne_eq, modify?_ne_none_iff, hsize]
        exact ⟨fun h _ => h.ne, fun h => lt_of_le_of_ne (Nat.lt_succ_iff.1 hlt) (h hhit)⟩
      · rename_i hspread
        exact ⟨fun _ h => absurd h hspread, fun _ => Option.some_ne_none _⟩
  | bleed left ray fray pix =>
    simp only [swcxStep, SwcxInside, bled_pixel]
    split
    · rename_i hpos
      split
      · rename_i hgt
        exact ⟨fun _ _ => (Nat.ne_of_gt hgt), fun _ => Option.some_ne_none _⟩
      · rename_i hle
        rw [ne_eq, Option.map_eq_none_iff, ← ne_eq, modify?_ne_none_iff, hsize]
        exact ⟨fun h _ => h.ne, fun h => lt_of_le_of_ne (Nat.le_of_not_lt hle) (h hpos)⟩
    · rename_i hdone
      exact ⟨fun _ h => absurd h hdone, fun _ => Option.some_ne_none _⟩

theorem size_of_swcxStep {rand : Nat → Nat} {s s' : Swcx flt} (h : swcxStep rand s = some s') :
    s'.frame.size = s.frame.size := by
  obtain ⟨frame, k, pc⟩ := s
  cases pc with
  | ray left =>
    cases left with
    | zero =>
      cases h
      rfl
    | succ left =>
      simp only [swcxStep] at h
      split at h
      · obtain ⟨frame', hframe, rfl⟩ := Option.map_eq_some_iff.1 h
        exact size_of_modify? hframe
      · cases h
        rfl
  | bleed left ray fray pix =>
    simp only [swcxStep] at h
    split at h
    · split at h
      · cases h
        rfl
      · obtain ⟨frame', hframe, rfl⟩ := Option.map_eq_some_iff.1 h
        exact size_of_modify? hframe
    · cases h
      rfl

/-- A run over all rays, whether it ends or not. -/
theorem swcx_iff (rand : Nat → Nat) (rays : Nat) (frame : Nat → U16) :
    let s : Swcx flt := ⟨⟨CCD_PIXELS, frame⟩, 0, .ray rays⟩
    (∀ m, steps (swcxStep rand) m s ≠ none) ↔ ∀ m t, steps (swcxStep rand) m s = some t → SwcxInside rand t :=
  steps_ne_none_iff (I := fun s => s.frame.size = CCD_PIXELS) rfl (swcxStep_ne_none_iff rand)
    fun _ _ hsize h => (size_of_swcxStep h).trans hsize

/-! ## The other two -/

theorem sxrb_iff (rand : Nat → Nat) (indexFirst : Bool) (rays : Nat) (frame : Nat → U16) :
    ccdSimAddSxrb flt rand indexFirst rays ⟨CCD_PIXELS, frame⟩ ≠ none ↔
      ∀ i < rays, rand (if indexFirst then 2 * i else 2 * i + 1) % (CCD_PIXELS + 1) ≠ CCD_PIXELS := by
  have hindex (i : Nat) : (if indexFirst then (rand (2 * i), rand (2 * i + 1))
      else (rand (2 * i + 1), rand (2 * i))).1 = rand (if indexFirst then 2 * i else 2 * i + 1) := by
    cases indexFirst <;> rfl
  refine upTo_ne_none_iff (I := fun frame => frame.size = CCD_PIXELS) rfl (fun i a _ hsize => ?_)
    fun i a a' hsize h => (size_of_modify? h).trans hsize
  have hlt := Nat.mod_lt (rand (if indexFirst then 2 * i else 2 * i + 1)) (Nat.succ_pos CCD_PIXELS)
  rw [modify?_ne_none_iff, hsize, hindex]
  exact ⟨fun h => h.ne, fun h => lt_of_le_of_ne (Nat.lt_succ_iff.1 hlt) h⟩

theorem rdNoise_iff (rand : Nat → Nat) (zero : flt.F) (noise : Nat → flt.F) (n : Nat) (ccd : Nat → U16) :
    ccdSimAddRdNoise flt rand zero noise n ⟨n, ccd⟩ ≠ none ↔
      ∀ i < n, rand i % (RD_NOISE_SAMPLES + 1) ≠ RD_NOISE_SAMPLES := by
  -- the table is filled within its size
  have hset (i : Nat) (a : Arr flt.F) (hi : i < RD_NOISE_SAMPLES) (hsize : a.size = RD_NOISE_SAMPLES) :
      ∃ a', a.set? i (noise i) = some a' ∧ a'.size = RD_NOISE_SAMPLES :=
    ⟨a.upd i (noise i), set?_eq (hsize ▸ hi) _, hsize⟩
  obtain ⟨noisearr, hfill, hnoise⟩ := upTo_spec (s := (⟨RD_NOISE_SAMPLES, fun _ => zero⟩ : Arr flt.F))
    (fun _ a => a.size = RD_NOISE_SAMPLES) rfl hset
  rw [ccdSimAddRdNoise, hfill, Option.bind_some]
  refine upTo_ne_none_iff (I := fun ccd => ccd.size = n) rfl (fun i a hi hsize => ?_) fun i a a' hsize h => ?_
  · have hlt := Nat.mod_lt (rand i) (Nat.succ_pos RD_NOISE_SAMPLES)
    constructor
    · rintro h heq
      rw [get?, if_neg (by rw [hnoise, heq]; exact Nat.lt_irrefl _)] at h
      exact h rfl
    · intro hne
      have hin : rand i % (RD_NOISE_SAMPLES + 1) < noisearr.size := by
        rw [hnoise]
        exact lt_of_le_of_ne (Nat.lt_succ_iff.1 hlt) hne
      rw [get?_eq hin, Option.bind_some, modify?_ne_none_iff, hsize]
      exact hi
  · obtain ⟨x, -, hmod⟩ := Option.bind_eq_some_iff.1 h
    exact (size_of_modify? hmod).trans hsize

/-- **No index leaves its array** exactly if no random pixel is the one behind the end, no ray is spread to
it, and no random sample is the one behind the end of the table. -/
theorem noise_indices_iff (rand : Nat → Nat) (rays n : Nat) (frame ccd : Nat → U16) (indexFirst : Bool)
    (zero : flt.F) (noise : Nat → flt.F) :
    let s : Swcx flt := ⟨⟨CCD_PIXELS, frame⟩, 0, .ray rays⟩
    ((∀ m, steps (swcxStep rand) m s ≠ none) ↔ ∀ m t, steps (swcxStep rand) m s = some t → SwcxInside rand t) ∧
    (ccdSimAddSxrb flt rand indexFirst rays ⟨CCD_PIXELS, frame⟩ ≠ none ↔
      ∀ i < rays, rand (if indexFirst then 2 * i else 2 * i + 1) % (CCD_PIXELS + 1) ≠ CCD_PIXELS) ∧
    (ccdSimAddRdNoise flt rand zero noise n ⟨n, ccd⟩ ≠ none ↔
      ∀ i < n, rand i % (RD_NOISE_SAMPLES + 1) ≠ RD_NOISE_SAMPLES) :=
  ⟨swcx_iff rand rays frame, sxrb_iff rand indexFirst rays frame, rdNoise_iff rand zero noise n ccd⟩

/-- A random pixel `8548705` of `8548705`, and a random sample 128 of 128; whole numbers do for the energies. -/
theorem indices_leave_arrays :
    let flt : Flt := ⟨Nat, fun r => r % 2000, fun x => 0 < x, fun _ fray _ => fray, fun x y => x - y,
      fun x p => p + BitVec.ofNat 16 x⟩
    ccdSimAddSxrb flt (fun _ => 8548705) true 1 ⟨CCD_PIXELS, fun _ => 0⟩ = none ∧
      ccdSimAddRdNoise flt (fun _ => 128) 0 (fun _ => 7) 1 ⟨1, fun _ => 0⟩ = none := by
  intro flt
  constructor
  · by_contra h
    exact (@sxrb_iff flt (fun _ => 8548705) true 1 fun _ => 0).1 h 0 Nat.one_pos (by decide)
  · by_contra h
    exact (@rdNoise_iff flt (fun _ => 128) 0 (fun _ => 7) 1 fun _ => 0).1 h 0 Nat.one_pos (by decide)

end SmileFee
