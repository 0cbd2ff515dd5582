import SmileFee.Lib.Crc
import SmileFee.Rmap

/-!
# The RMAP checksum (`rmap_crc8`, `rmap.c:121`)

`ecssCrc8` is the checksum of the standard as it is computed without a table: the generator is
`x⁸ + x² + x + 1`, its lower coefficients in the bit-reversed register are `0xE0`, and each byte is
clocked in least significant bit first. All entries of the table are eight clocks of that register
(`crc8Lt_eq`), so that a byte of `rmap_crc8` is eight clocks from any state (`crc8Step_eq`), and the whole
of it is the register (**`rmapCrc8_eq_ecssCrc8`**). What the checksum detects is what the register does.
-/

namespace SmileFee

open Polynomial

/-- The feedback mask of `x⁸ + x² + x + 1`. -/
def crc8Mask : U8 := 0xE0

/-- The checksum by its shift register, bit by bit. -/
def ecssCrc8 (buf : List U8) : U8 := buf.foldl (fun reg b => Crc.run crc8Mask reg (Crc.bits b)) 0

/-- The bits of a buffer, in the order in which they are sent. -/
def wireBits (buf : List U8) : List Bool := buf.flatMap Crc.bits

theorem crc8Mask_top : crc8Mask.getLsbD (8 - 1) = true := rfl

theorem parity_crc8Mask : Crc.parity (Crc.bits crc8Mask) = true := rfl

/-- The table, entry by entry. -/
theorem crc8Lt_eq (x : U8) : crc8Lt.getD x.toNat 0 = Crc.run crc8Mask x (List.replicate 8 false) := by
  revert x
  decide +kernel

/-- One byte of `rmap_crc8`. -/
theorem crc8Step_eq (crc8 b : U8) :
    crc8Lt.getD (crc8 ^^^ b).toNat 0 = Crc.run crc8Mask crc8 (Crc.bits b) := by
  rw [crc8Lt_eq, Crc.run_bits crc8Mask_top]

theorem rmapCrc8_eq_ecssCrc8 (buf : List U8) : rmapCrc8 buf = ecssCrc8 buf := by
  simp only [rmapCrc8, ecssCrc8, crc8Step_eq]

theorem rmapCrc8_eq_run (buf : List U8) : rmapCrc8 buf = Crc.run crc8Mask 0 (wireBits buf) := by
  rw [rmapCrc8_eq_ecssCrc8, ecssCrc8, wireBits]
  generalize (0 : U8) = reg
  induction buf generalizing reg with
  | nil => rfl
  | cons b buf ih => rw [List.foldl_cons, ih, List.flatMap_cons, Crc.run_append]

theorem generator_crc8Mask : Crc.generator crc8Mask = X ^ 8 + X ^ 2 + X + 1 := by
  have h : Crc.bits crc8Mask = [false, false, false, false, false, true, true, true] := rfl
  simp [Crc.generator, Crc.regPoly, h, Crc.poly, Crc.coeff]
  ring

/-- **The table computes the checksum of the standard**: it is that of the shift register, and the register
is the remainder of the buffer, as a polynomial, by the generator. -/
theorem rmapCrc8_refines_ecss (buf : List U8) :
    rmapCrc8 buf = ecssCrc8 buf ∧
      Crc.regPoly (rmapCrc8 buf) = (X ^ 8 * Crc.poly (wireBits buf)) %ₘ (X ^ 8 + X ^ 2 + X + 1) := by
  refine ⟨rmapCrc8_eq_ecssCrc8 buf, ?_⟩
  rw [rmapCrc8_eq_run, ← generator_crc8Mask]
  exact Crc.regPoly_run crc8Mask (wireBits buf)

/-! ## Error detection -/

/-- A buffer followed by its checksum. -/
def codeWord (buf : List U8) : List U8 := buf ++ [rmapCrc8 buf]

/-- A word on which the bits set in `e` were flipped. -/
def flipBits (word e : List U8) : List U8 := List.zipWith (· ^^^ ·) word e

/-- Bit `j` of a buffer, counted least significant first within each byte. -/
def bitAt (buf : List U8) (j : Nat) : Bool := (buf.getD (j / 8) 0).getLsbD (j % 8)

/-- The number of bits set. -/
def bitCount (buf : List U8) : Nat := (List.range (8 * buf.length)).countP (bitAt buf)

/-- All bits set are among `n` consecutive ones. -/
def Burst (n : Nat) (e : List U8) : Prop := ∃ k, ∀ j, bitAt e j = true → k ≤ j ∧ j < k + n

@[simp] theorem wireBits_cons (b : U8) (buf : List U8) : wireBits (b :: buf) = Crc.bits b ++ wireBits buf := rfl

@[simp] theorem length_wireBits (buf : List U8) : (wireBits buf).length = 8 * buf.length := by
  induction buf with
  | nil => rfl
  | cons b buf ih => simp [ih]; omega

theorem getD_wireBits (buf : List U8) (j : Nat) : (wireBits buf).getD j false = bitAt buf j := by
  induction buf generalizing j with
  | nil => simp [wireBits, bitAt]
  | cons b buf ih =>
    rw [wireBits_cons]
    by_cases hj : j < 8
    · rw [List.getD_append _ _ _ _ (by simpa using hj), Crc.getD_bits, bitAt, Nat.div_eq_of_lt hj, Nat.mod_eq_of_lt hj]
      rfl
    · rw [List.getD_append_right _ _ _ _ (by simp; omega), Crc.length_bits, ih, bitAt, bitAt,
        show j / 8 = (j - 8) / 8 + 1 by omega, show j % 8 = (j - 8) % 8 by omega]
      rfl

theorem count_wireBits (buf : List U8) : (wireBits buf).count true = bitCount buf := by
  have h : wireBits buf = (List.range (8 * buf.length)).map (bitAt buf) := by
    apply List.ext_getElem (by simp)
    intro j h1 h2
    rw [List.getElem_map, List.getElem_range, ← getD_wireBits, List.getD_eq_getElem _ _ h1]
  rw [h, List.count, List.countP_map, bitCount]
  exact congrArg (fun q => List.countP q _) (by funext j; simp)

theorem true_mem_wireBits {e : List U8} (h : ∃ x ∈ e, x ≠ 0) : true ∈ wireBits e := by
  obtain ⟨x, hx, hne⟩ := h
  by_contra hno
  refine hne (BitVec.eq_of_getLsbD_eq fun i hi => ?_)
  have hmem : x.getLsbD i ∈ wireBits e := List.mem_flatMap.2 ⟨x, hx, by simp [Crc.bits]; exact ⟨i, hi, rfl⟩⟩
  cases hb : x.getLsbD i
  · simp
  · exact absurd (hb ▸ hmem) hno

theorem wireBits_flipBits (word e : List U8) (hl : e.length = word.length) :
    wireBits (flipBits word e) = List.zipWith xor (wireBits word) (wireBits e) := by
  induction word generalizing e with
  | nil => rfl
  | cons x word ih =>
    cases e with
    | nil => cases hl
    | cons y e =>
      rw [flipBits, List.zipWith_cons_cons, wireBits_cons, wireBits_cons, wireBits_cons,
        List.zipWith_append (by simp), ← ih e (by simpa using hl), ← Crc.bits_xor]
      rfl

/-- The checksum is linear. -/
theorem rmapCrc8_flipBits (word e : List U8) (hl : e.length = word.length) :
    rmapCrc8 (flipBits word e) = rmapCrc8 word ^^^ rmapCrc8 e := by
  rw [rmapCrc8_eq_run, wireBits_flipBits word e hl, rmapCrc8_eq_run, rmapCrc8_eq_run,
    ← Crc.run_zipWith crc8Mask 0 0 _ _ (by simp [hl])]
  rfl

theorem rmapCrc8_codeWord (buf : List U8) : rmapCrc8 (codeWord buf) = 0 := by
  have h : wireBits (codeWord buf) = wireBits buf ++ Crc.bits (rmapCrc8 buf) := by
    simp [wireBits, codeWord]
  rw [rmapCrc8_eq_run, h, Crc.run_append, ← rmapCrc8_eq_run]
  exact Crc.run_bits_self crc8Mask_top _

/-- **Error detection**: a buffer with its checksum has the checksum 0, and none of the words that differ
from it in an odd number of bits, or within eight consecutive ones, has. -/
theorem rmapCrc8_detects (buf : List U8) :
    rmapCrc8 (codeWord buf) = 0 ∧
      ∀ e : List U8, e.length = (codeWord buf).length → (∃ x ∈ e, x ≠ 0) → Odd (bitCount e) ∨ Burst 8 e →
        rmapCrc8 (flipBits (codeWord buf) e) ≠ 0 := by
  refine ⟨rmapCrc8_codeWord buf, fun e hl hne he => ?_⟩
  rw [rmapCrc8_flipBits _ _ hl, rmapCrc8_codeWord, rmapCrc8_eq_run e]
  suffices Crc.run crc8Mask 0 (wireBits e) ≠ 0 by simpa using this
  rcases he with hodd | ⟨k, hk⟩
  · exact Crc.run_odd_ne_zero parity_crc8Mask (by rwa [count_wireBits])
  · exact Crc.run_burst_ne_zero crc8Mask_top (true_mem_wireBits hne) fun j hj => hk j (by rwa [← getD_wireBits])

/-- Three bits on both sides of the boundary between the data and its checksum. -/
theorem rmapCrc8_detects_straddling :
    rmapCrc8 (codeWord [0x12, 0x34]) = 0 ∧ rmapCrc8 (flipBits (codeWord [0x12, 0x34]) [0, 0x80, 0x41]) ≠ 0 :=
  have h := rmapCrc8_detects [0x12, 0x34]
  ⟨h.1, h.2 [0, 0x80, 0x41] rfl ⟨0x80, by decide, by decide⟩ (.inl ⟨1, by decide⟩)⟩

end SmileFee
