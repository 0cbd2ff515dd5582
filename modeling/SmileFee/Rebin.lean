import Mathlib.Algebra.BigOperators.Intervals
import SmileFee.SimTransfer
import SmileFee.Lib.Arr

/-!
# The binned frames of the simulator (`SIM/fee_sim.c:1408-1491, 1727-1757`)

| here | there |
| --- | --- |
| `Binning`             | the modes with binning in the `switch` of `fee_sim_exec_ft_mode` (`:1727`) |
| `feeSimAddLine`, `feeSimAddLines` | the loops over `j` and `i` that add up lines in `acc` (`:1455-1468`) |
| `feeSimBinPixel`, `feeSimBinLine` | the loops over `i` and `x` that add up the columns (`:1471-1476`) |
| `feeSimGetFtData`     | `fee_sim_get_ft_data` (`:1408`) |

The lines of a block are added first, into one line as long as those of the CCD, and then its columns. All sums are
those of 16 bit words. **`feeSimGetFtData_rebins`**: no access is outside of the buffers, and the frame that
results holds the sums over the blocks, and zeros where there is no block.
-/

namespace SmileFee

open Arr

/-- The modes with binning. -/
inductive Binning where
  | bin6
  | bin24
deriving DecidableEq, Repr

namespace Binning

def bins : Binning → Nat
  | bin6 => 6
  | bin24 => 24

def rows : Binning → Nat
  | bin6 => FEE_EDU_FRAME_6x6_ROWS
  | bin24 => FEE_EDU_FRAME_24x24_ROWS

def cols : Binning → Nat
  | bin6 => FEE_EDU_FRAME_6x6_COLS
  | bin24 => FEE_EDU_FRAME_24x24_COLS

end Binning

/-! ## The code -/

/-- The loop over `j`: the line of the CCD that starts at `y0` is added to the accumulator. -/
def feeSimAddLine (ccd : Arr U16) (y0 : Nat) (acc : Arr U16) : Option (Arr U16) :=
  upTo FEE_CCD_IMG_SEC_COLS (fun j acc => do
    let v ← ccd.get? (y0 + j)
    acc.modify? j (· + v)) acc

/-- The loop over `i`: the lines of block row `y`. -/
def feeSimAddLines (ccd : Arr U16) (bins y : Nat) (acc : Arr U16) : Option (Arr U16) :=
  upTo bins (fun i acc => feeSimAddLine ccd ((y * bins + i) * FEE_CCD_IMG_SEC_COLS) acc) acc

/-- The loop over `i` in that over `x`: `bins` elements of the accumulator are added up in a pixel. -/
def feeSimBinPixel (acc : Arr U16) (cols bins y x : Nat) (buf : Arr U16) : Option (Arr U16) :=
  upTo bins (fun i buf => do
    let a ← acc.get? (x * bins + i)
    buf.modify? (y * cols + x) (· + a)) buf

/-- The loop over `x`. -/
def feeSimBinLine (acc : Arr U16) (cols bins y : Nat) (buf : Arr U16) : Option (Arr U16) :=
  upTo (FEE_CCD_IMG_SEC_COLS / bins) (fun x buf => feeSimBinPixel acc cols bins y x buf) buf

/-- The body of the loop over `y`, with the accumulator and the buffer. -/
def feeSimBinRow (ccd : Arr U16) (cols bins y : Nat) (s : Arr U16 × Arr U16) : Option (Arr U16 × Arr U16) := do
  let acc ← s.1.fill? FEE_CCD_IMG_SEC_COLS 0
  let acc ← feeSimAddLines ccd bins y acc
  let buf ← feeSimBinLine acc cols bins y s.2
  pure (acc, buf)

/-- `fee_sim_get_ft_data` (`:1408`). `acc` is what `malloc` has left in the accumulator. -/
def feeSimGetFtData (ccd : Arr U16) (rows cols bins : Nat) (acc : Nat → U16) : Option (Arr U16) := do
  let buf : Arr U16 := ⟨rows * cols, fun _ => 0⟩
  if bins = 1 then buf.copy? 0 ccd 0 (rows * cols) else
  let (_, buf) ← upTo (FEE_CCD_IMG_SEC_ROWS / bins) (feeSimBinRow ccd cols bins) (⟨FEE_CCD_IMG_SEC_COLS, acc⟩, buf)
  pure buf

/-! ## The sums -/

/-- The pixels of column `j` in the first `k` lines of block row `y`. -/
def columnSum (ccd : Nat → U16) (bins y j k : Nat) : Nat :=
  ∑ i ∈ Finset.range k, (ccd ((y * bins + i) * FEE_CCD_IMG_SEC_COLS + j)).toNat

/-- The `bins` x `bins` pixels of block (`y`, `x`). -/
def blockSum (ccd : Nat → U16) (bins y x : Nat) : Nat :=
  ∑ i ∈ Finset.range bins, ∑ j ∈ Finset.range bins,
    (ccd ((y * bins + i) * FEE_CCD_IMG_SEC_COLS + (x * bins + j))).toNat

theorem blockSum_columns (ccd : Nat → U16) (bins y x : Nat) :
    blockSum ccd bins y x = ∑ i ∈ Finset.range bins, columnSum ccd bins y (x * bins + i) bins := Finset.sum_comm

/-- A sum of words is the sum of the numbers, cut off. -/
theorem toNat_add_of_sum {a v : U16} {s : Nat} (ha : a.toNat = s % 2 ^ 16) :
    (a + v).toNat = (s + v.toNat) % 2 ^ 16 := by
  rw [BitVec.toNat_add, ha, Nat.mod_add_mod]

/-! ## The loops -/

section

variable (ccd : Nat → U16) {n : Nat}

theorem feeSimAddLine_spec {acc : Arr U16} (hacc : acc.size = FEE_CCD_IMG_SEC_COLS) {y0 : Nat}
    (hy : y0 + FEE_CCD_IMG_SEC_COLS ≤ n) : ∃ acc', feeSimAddLine ⟨n, ccd⟩ y0 acc = some acc' ∧
      acc'.size = FEE_CCD_IMG_SEC_COLS ∧ ∀ j < FEE_CCD_IMG_SEC_COLS, acc'.val j = acc.val j + ccd (y0 + j) := by
  have hloop : ∃ acc', feeSimAddLine ⟨n, ccd⟩ y0 acc = some acc' ∧ acc'.size = FEE_CCD_IMG_SEC_COLS ∧
      ∀ j, acc'.val j = if j < FEE_CCD_IMG_SEC_COLS then acc.val j + ccd (y0 + j) else acc.val j := by
    refine upTo_spec (fun k (acc' : Arr U16) => acc'.size = FEE_CCD_IMG_SEC_COLS ∧
      ∀ j, acc'.val j = if j < k then acc.val j + ccd (y0 + j) else acc.val j)
      ⟨hacc, fun j => (if_neg (Nat.not_lt_zero j)).symm⟩ ?_
    rintro k acc' hk ⟨hsize, hval⟩
    have hv : Arr.get? ⟨n, ccd⟩ (y0 + k) = some (ccd (y0 + k)) := get?_eq (show y0 + k < n by omega)
    have hstep := modify?_eq (hsize.symm ▸ hk) (· + ccd (y0 + k))
    refine ⟨acc'.upd k (acc'.val k + ccd (y0 + k)), by rw [hv]; exact hstep, hsize, fun j => ?_⟩
    by_cases hj : j = k
    · subst hj
      rw [val_upd_same, hval j, if_neg (Nat.lt_irrefl j), if_pos (Nat.lt_succ_self j)]
    · rw [val_upd_of_ne _ hj, hval j]
      exact if_congr (by omega) rfl rfl
  obtain ⟨acc', hrun, hsize, hval⟩ := hloop
  refine ⟨acc', hrun, hsize, fun j hj => ?_⟩
  rw [hval j, if_pos hj]

/-- The accumulator holds the sums of the columns. -/
theorem feeSimAddLines_spec {bins y : Nat} (hy : (y * bins + bins) * FEE_CCD_IMG_SEC_COLS ≤ n) (acc : Arr U16)
    (hacc : acc.size = FEE_CCD_IMG_SEC_COLS) (hzero : ∀ j < FEE_CCD_IMG_SEC_COLS, acc.val j = 0) :
    ∃ acc', feeSimAddLines ⟨n, ccd⟩ bins y acc = some acc' ∧ acc'.size = FEE_CCD_IMG_SEC_COLS ∧
      ∀ j < FEE_CCD_IMG_SEC_COLS, (acc'.val j).toNat = columnSum ccd bins y j bins % 2 ^ 16 := by
  refine upTo_spec (fun k (acc' : Arr U16) => acc'.size = FEE_CCD_IMG_SEC_COLS ∧
    ∀ j < FEE_CCD_IMG_SEC_COLS, (acc'.val j).toNat = columnSum ccd bins y j k % 2 ^ 16)
    ⟨hacc, fun j hj => by rw [hzero j hj]; rfl⟩ ?_
  rintro k acc₁ hk ⟨hsize, hsum⟩
  have hline : (y * bins + k) * FEE_CCD_IMG_SEC_COLS + FEE_CCD_IMG_SEC_COLS ≤ n := by
    rw [← Nat.succ_mul]
    exact (Nat.mul_le_mul_right _ (by omega)).trans hy
  obtain ⟨acc₂, hrun, hsize₂, hval⟩ := feeSimAddLine_spec ccd hsize hline
  refine ⟨acc₂, hrun, hsize₂, fun j hj => ?_⟩
  rw [hval j hj, toNat_add_of_sum (hsum j hj), columnSum, columnSum, Finset.sum_range_succ]

/-- A pixel that was 0 becomes the sum over its block, and no other pixel changes. -/
theorem feeSimBinPixel_spec {acc : Arr U16} {bins y x : Nat} (hacc : x * bins + bins ≤ acc.size)
    (hsum : ∀ j < acc.size, (acc.val j).toNat = columnSum ccd bins y j bins % 2 ^ 16) {cols : Nat} {buf : Arr U16}
    (hbuf : y * cols + x < buf.size) (hzero : buf.val (y * cols + x) = 0) :
    ∃ buf', feeSimBinPixel acc cols bins y x buf = some buf' ∧ buf'.size = buf.size ∧
      (buf'.val (y * cols + x)).toNat = blockSum ccd bins y x % 2 ^ 16 ∧
      ∀ p, p ≠ y * cols + x → buf'.val p = buf.val p := by
  rw [blockSum_columns]
  refine upTo_spec (fun k (buf' : Arr U16) => buf'.size = buf.size ∧
    (buf'.val (y * cols + x)).toNat = (∑ i ∈ Finset.range k, columnSum ccd bins y (x * bins + i) bins) % 2 ^ 16 ∧
    ∀ p, p ≠ y * cols + x → buf'.val p = buf.val p) ⟨rfl, by rw [hzero]; rfl, fun _ _ => rfl⟩ ?_
  rintro k buf' hk ⟨hsize, hval, hother⟩
  have hj : x * bins + k < acc.size := by omega
  have hstep := modify?_eq (hsize.symm ▸ hbuf) (· + acc.val (x * bins + k))
  refine ⟨buf'.upd (y * cols + x) (buf'.val (y * cols + x) + acc.val (x * bins + k)),
    by rw [get?_eq hj]; exact hstep, hsize, ?_, fun p hp => ?_⟩
  · rw [val_upd_same, BitVec.toNat_add, hval, hsum _ hj, ← Nat.add_mod, Finset.sum_range_succ]
  · rw [val_upd_of_ne _ hp, hother p hp]

/-- In a line that was 0, the pixels that have a block become the sums, and no other line changes. -/
theorem feeSimBinLine_spec {acc : Arr U16} (hacc : acc.size = FEE_CCD_IMG_SEC_COLS) {rows cols bins y : Nat}
    (hsum : ∀ j < acc.size, (acc.val j).toNat = columnSum ccd bins y j bins % 2 ^ 16)
    (hcols : FEE_CCD_IMG_SEC_COLS / bins ≤ cols) (hy : y < rows) {buf : Arr U16}
    (hbuf : buf.size = rows * cols) (hzero : ∀ x < cols, buf.val (y * cols + x) = 0) :
    ∃ buf', feeSimBinLine acc cols bins y buf = some buf' ∧ buf'.size = rows * cols ∧
      (∀ x < cols, (buf'.val (y * cols + x)).toNat =
        if x < FEE_CCD_IMG_SEC_COLS / bins then blockSum ccd bins y x % 2 ^ 16 else 0) ∧
      ∀ p, (∀ x < cols, p ≠ y * cols + x) → buf'.val p = buf.val p := by
  refine upTo_spec (fun k (buf' : Arr U16) => buf'.size = rows * cols ∧
    (∀ x < cols, (buf'.val (y * cols + x)).toNat = if x < k then blockSum ccd bins y x % 2 ^ 16 else 0) ∧
    ∀ p, (∀ x < cols, p ≠ y * cols + x) → buf'.val p = buf.val p)
    ⟨hbuf, fun x hx => by rw [hzero x hx]; rfl, fun _ _ => rfl⟩ ?_
  rintro k buf' hk ⟨hsize, hval, hother⟩
  have hkc : k < cols := hk.trans_le hcols
  have hblock : k * bins + bins ≤ acc.size := by
    rw [hacc, ← Nat.succ_mul]
    exact (Nat.mul_le_mul_right bins hk).trans (Nat.div_mul_le_self _ _)
  have hzero' : buf'.val (y * cols + k) = 0 := by
    have := hval k hkc
    rw [if_neg (Nat.lt_irrefl k)] at this
    exact BitVec.eq_of_toNat_eq this
  obtain ⟨buf₂, hrun, hsize₂, hpix, hother₂⟩ := feeSimBinPixel_spec ccd hblock hsum (hsize ▸ index_lt hy hkc) hzero'
  refine ⟨buf₂, hrun, hsize₂.trans hsize, fun x hx => ?_, fun p hp => ?_⟩
  · by_cases hxk : x = k
    · subst hxk
      rw [hpix, if_pos (Nat.lt_succ_self x)]
    · rw [hother₂ _ (by omega), hval x hx]
      exact if_congr (by omega) rfl rfl
  · rw [hother₂ p (hp k hkc), hother p hp]

/-- What the loop over `y` has done after `k` rounds. -/
structure Rebinned (rows cols bins k : Nat) (s : Arr U16 × Arr U16) : Prop where
  acc_size : s.1.size = FEE_CCD_IMG_SEC_COLS
  buf_size : s.2.size = rows * cols
  pixel : ∀ y < rows, ∀ x < cols, (s.2.val (y * cols + x)).toNat =
    if y < k ∧ x < FEE_CCD_IMG_SEC_COLS / bins then blockSum ccd bins y x % 2 ^ 16 else 0

variable {rows cols bins : Nat} (hrows : FEE_CCD_IMG_SEC_ROWS / bins ≤ rows)
  (hcols : FEE_CCD_IMG_SEC_COLS / bins ≤ cols)
include hrows hcols

theorem Rebinned.step {k : Nat} (hk : k < FEE_CCD_IMG_SEC_ROWS / bins) {s : Arr U16 × Arr U16}
    (h : Rebinned ccd rows cols bins k s) :
    ∃ s', feeSimBinRow ⟨FEE_CCD_IMG_SEC_ROWS * FEE_CCD_IMG_SEC_COLS, ccd⟩ cols bins k s = some s' ∧
      Rebinned ccd rows cols bins (k + 1) s' := by
  obtain ⟨acc, buf⟩ := s
  let acc₁ : Arr U16 := { acc with val := fun i => if i < FEE_CCD_IMG_SEC_COLS then 0 else acc.val i }
  have hfill : acc.fill? FEE_CCD_IMG_SEC_COLS 0 = some acc₁ := fill?_eq h.acc_size.ge 0
  have hlines : (k * bins + bins) * FEE_CCD_IMG_SEC_COLS ≤ FEE_CCD_IMG_SEC_ROWS * FEE_CCD_IMG_SEC_COLS := by
    rw [← Nat.succ_mul]
    exact Nat.mul_le_mul_right _ ((Nat.mul_le_mul_right bins hk).trans (Nat.div_mul_le_self _ _))
  obtain ⟨acc₂, hadd, hacc₂, hsum⟩ := feeSimAddLines_spec ccd hlines acc₁ h.acc_size fun j hj => if_pos hj
  have hky : k < rows := hk.trans_le hrows
  have hzero : ∀ x < cols, buf.val (k * cols + x) = 0 := fun x hx => by
    have := h.pixel k hky x hx
    rw [if_neg fun h => Nat.lt_irrefl k h.1] at this
    exact BitVec.eq_of_toNat_eq this
  obtain ⟨buf₂, hbin, hbuf₂, hpixel, hother⟩ := feeSimBinLine_spec ccd hacc₂ (hacc₂ ▸ hsum) hcols hky h.buf_size hzero
  refine ⟨(acc₂, buf₂), ?_, hacc₂, hbuf₂, fun y hy x hx => ?_⟩
  · simp only [feeSimBinRow, hfill, Option.bind_eq_bind, Option.bind_some, hadd, hbin]
    rfl
  · by_cases hyk : y = k
    · subst hyk
      rw [hpixel x hx]
      exact if_congr (by simp) rfl rfl
    · rw [hother _ fun x' hx' => index_ne hyk hx' hx, h.pixel y hy x hx]
      exact if_congr (by omega) rfl rfl

/-- The whole frame, for any binning that fits into it. -/
theorem feeSimGetFtData_spec (hbins : bins ≠ 1) (acc : Nat → U16) : ∃ s,
    feeSimGetFtData ⟨FEE_CCD_IMG_SEC_ROWS * FEE_CCD_IMG_SEC_COLS, ccd⟩ rows cols bins acc = some s.2 ∧
      Rebinned ccd rows cols bins (FEE_CCD_IMG_SEC_ROWS / bins) s := by
  have hinit : Rebinned ccd rows cols bins 0 (⟨FEE_CCD_IMG_SEC_COLS, acc⟩, ⟨rows * cols, fun _ => 0⟩) := by
    refine ⟨rfl, rfl, fun y _ x _ => ?_⟩
    rw [if_neg fun h => Nat.not_lt_zero y h.1]
    rfl
  obtain ⟨s, hrun, h⟩ := upTo_spec (Rebinned ccd rows cols bins) hinit fun k s hk h => h.step ccd hrows hcols hk
  refine ⟨s, ?_, h⟩
  simp only [feeSimGetFtData]
  rw [if_neg hbins, hrun]
  rfl

end

theorem Binning.fits (b : Binning) : b.bins ≠ 1 ∧ FEE_CCD_IMG_SEC_ROWS / b.bins ≤ b.rows ∧
    FEE_CCD_IMG_SEC_COLS / b.bins ≤ b.cols := by
  cases b <;> decide

/-- **Rebinning**: for every image of a CCD and both modes with binning, all accesses are inside of the buffers, and a
pixel of the frame is the sum over its block, cut off, or 0 if it has no block. -/
theorem feeSimGetFtData_rebins (b : Binning) (ccd acc : Nat → U16) :
    ∃ buf, feeSimGetFtData ⟨FEE_CCD_IMG_SEC_ROWS * FEE_CCD_IMG_SEC_COLS, ccd⟩ b.rows b.cols b.bins acc = some buf ∧
      buf.size = b.rows * b.cols ∧ ∀ y < b.rows, ∀ x < b.cols,
        (y < FEE_CCD_IMG_SEC_ROWS / b.bins ∧ x < FEE_CCD_IMG_SEC_COLS / b.bins →
          (buf.val (y * b.cols + x)).toNat = blockSum ccd b.bins y x % 2 ^ 16 ∧
          (blockSum ccd b.bins y x < 2 ^ 16 → (buf.val (y * b.cols + x)).toNat = blockSum ccd b.bins y x)) ∧
        (¬ (y < FEE_CCD_IMG_SEC_ROWS / b.bins ∧ x < FEE_CCD_IMG_SEC_COLS / b.bins) →
          buf.val (y * b.cols + x) = 0) := by
  obtain ⟨hbins, hrows, hcols⟩ := b.fits
  obtain ⟨s, hrun, h⟩ := feeSimGetFtData_spec ccd hrows hcols hbins acc
  refine ⟨s.2, hrun, h.buf_size, fun y hy x hx => ⟨fun hin => ?_, fun hout => ?_⟩⟩
  · have hpixel := h.pixel y hy x hx
    rw [if_pos hin] at hpixel
    exact ⟨hpixel, fun hlt => hpixel.trans (Nat.mod_eq_of_lt hlt)⟩
  · have hpixel := h.pixel y hy x hx
    rw [if_neg hout] at hpixel
    exact BitVec.eq_of_toNat_eq hpixel

end SmileFee
