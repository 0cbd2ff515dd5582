import SmileFee.EventPackets
import SmileFee.Lib.Arr

/-!
# The look-up of bad pixels (`FEE/smile_fee.c:34-57, 221-251`)

| here | there |
| --- | --- |
| `LongSize`            | `BITS_PER_LONG`, which is the word size of the machine |
| `testBit`             | `test_bit` (`:53`) |
| `feeEventPixelIsBad`  | `fee_event_pixel_is_bad` (`:221`) |
| `BadPixels`           | what `fee_ccd2_bad_pixels` and `fee_ccd4_bad_pixels` point to |

The words of a table have 32 bits, but its bits are counted in words of the size of a `long`, and shifted out by up to
that size. What a machine makes of a shift by 32 bits or more is its own affair: a **`Shift`**. The position is tested
by the index that is computed from it, in which a column beyond the frame looks like one of the next rows.
**`lookupOk_iff`** says for which positions the look-up is right.
-/

namespace SmileFee

open Arr

/-- The size of a `long`. -/
inductive LongSize where
  | l32
  | l64
deriving DecidableEq, Repr

def LongSize.BITS_PER_LONG : LongSize → Nat
  | l32 => 32
  | l64 => 64

/-- What a machine makes of `x >> n` with `x` a word of 32 bits. -/
structure Shift where
  shr : U32 → Nat → U32
  eq : ∀ x n, n < 32 → shr x n = x >>> n

/-- A machine that looks at five bits of the count. -/
def Shift.masked : Shift := ⟨fun x n => x >>> (n % 32), fun x n hn => by rw [Nat.mod_eq_of_lt hn]⟩

/-- `test_bit` (`:53`); `none` if the word is not one of the table. -/
def testBit (l : LongSize) (sh : Shift) (nr : Nat) (addr : Arr U32) : Option U32 := do
  let w ← addr.get? (nr / l.BITS_PER_LONG)
  pure (1 &&& sh.shr w (nr &&& (l.BITS_PER_LONG - 1)))

/-- `fee_event_pixel_is_bad` (`:221`), with the packet as the structure that it is cast to. A table is `none` if its
pointer is `NULL`; `none` is the result if a word is read that is not one of the table. -/
def feeEventPixelIsBad (l : LongSize) (sh : Shift) (ccd2 ccd4 : Option (Arr U32)) (ev : FeeEventDetection) :
    Option U32 :=
  if ev.hdr.pktType ≠ FEE_PKT_TYPE_EV_DET then some 1
  else
    let idx := ev.row.toNat * FEE_EDU_FRAME_6x6_COLS + ev.col.toNat
    if idx > FEE_EDU_FRAME_6x6_COLS * FEE_EDU_FRAME_6x6_ROWS then some 1
    else
      let tbl := if ev.hdr.ccdId = FEE_CCD_ID_2 then some ccd2 else none
      let tbl := if ev.hdr.ccdId = FEE_CCD_ID_4 then some ccd4 else tbl
      match tbl with
      | none => none
      | some none => some 1
      | some (some tbl) => testBit l sh idx tbl

/-! ## The tables -/

/-- The words of a table with a bit for each pixel of the frame. -/
def BAD_PIXEL_WORDS : Nat := FEE_EDU_FRAME_6x6_COLS * FEE_EDU_FRAME_6x6_ROWS / 32

structure BadPixels where
  ccd2 : Nat → U32
  ccd4 : Nat → U32

/-- The table of the CCD that a packet names. -/
def BadPixels.ofEvent (t : BadPixels) (ev : FeeEventDetection) : Nat → U32 :=
  if ev.hdr.ccdId = FEE_CCD_ID_4 then t.ccd4 else t.ccd2

/-- A look-up in a pair of tables. -/
def BadPixels.lookup (t : BadPixels) (l : LongSize) (sh : Shift) (ev : FeeEventDetection) : Option U32 :=
  feeEventPixelIsBad l sh (some ⟨BAD_PIXEL_WORDS, t.ccd2⟩) (some ⟨BAD_PIXEL_WORDS, t.ccd4⟩) ev

namespace FeeEventDetection

variable (ev : FeeEventDetection)

/-- The position is one of the frame. -/
def InFrame : Prop := ev.row.toNat < FEE_EDU_FRAME_6x6_ROWS ∧ ev.col.toNat < FEE_EDU_FRAME_6x6_COLS

instance : Decidable ev.InFrame := inferInstanceAs (Decidable (_ ∧ _))

/-- The index of the position. -/
def index : Nat := ev.row.toNat * FEE_EDU_FRAME_6x6_COLS + ev.col.toNat

/-- The packet at another position. -/
def atPos (row col : U16) : FeeEventDetection := { ev with row, col }

end FeeEventDetection

/-- The look-up gives bit `b` of word `w` of the packet's table. -/
def Reads (l : LongSize) (sh : Shift) (ev : FeeEventDetection) (w b : Nat) : Prop :=
  ∀ t : BadPixels, t.lookup l sh ev = some (if (t.ofEvent ev w).getLsbD b then 1 else 0)

/-- **The look-up is right** for a packet: whatever the machine makes of a shift by too much, it stays in the table, a
position outside of the frame is bad, and one of the frame has a bit that no other position has. -/
structure LookupOk (l : LongSize) (ev : FeeEventDetection) : Prop where
  inside : ∀ sh (t : BadPixels), t.lookup l sh ev ≠ none
  outside : ¬ ev.InFrame → ∀ sh (t : BadPixels), t.lookup l sh ev = some 1
  own : ev.InFrame → ∀ sh, ∃ w b, Reads l sh ev w b ∧
    ∀ row col, (ev.atPos row col).InFrame → (row, col) ≠ (ev.row, ev.col) → ¬ Reads l sh (ev.atPos row col) w b

/-! ## The bit that is tested -/

theorem one_and_ushiftRight {w : Nat} (x : BitVec w) (n : Nat) :
    1#w &&& (x >>> n) = if x.getLsbD n then 1#w else 0#w := by
  apply BitVec.eq_of_getLsbD_eq
  intro i hi
  rw [BitVec.getLsbD_and, BitVec.getLsbD_ushiftRight, BitVec.getLsbD_one]
  by_cases h0 : i = 0
  · subst h0
    cases x.getLsbD n <;> simp
  · cases x.getLsbD n <;> simp [h0]

theorem ccdId_cases (hdr : FeeDataHdr) : hdr.ccdId = FEE_CCD_ID_2 ∨ hdr.ccdId = FEE_CCD_ID_4 := by
  have h : hdr.ccdId = if hdr.feePktType.getLsbD 4 then 1#16 else 0#16 := by
    rw [FeeDataHdr.ccdId, Word.getField]
    exact (BitVec.and_comm ..).trans (one_and_ushiftRight hdr.feePktType 4)
  rw [h]
  split
  · exact .inr rfl
  · exact .inl rfl

theorem testBit_l32 (sh : Shift) (nr n : Nat) (tbl : Nat → U32) (hnr : nr / 32 < n) :
    testBit .l32 sh nr ⟨n, tbl⟩ = some (if (tbl (nr / 32)).getLsbD (nr % 32) then 1 else 0) := by
  have hand : nr &&& (LongSize.l32.BITS_PER_LONG - 1) = nr % 32 := Nat.and_two_pow_sub_one_eq_mod nr 5
  have hget : Arr.get? ⟨n, tbl⟩ (nr / LongSize.l32.BITS_PER_LONG) = some (tbl (nr / 32)) := get?_eq hnr
  rw [testBit, hget, Option.bind_eq_bind, Option.bind_some, hand, sh.eq _ _ (Nat.mod_lt nr (by decide))]
  exact congrArg some (one_and_ushiftRight _ _)

theorem testBit_l64 (nr n : Nat) (tbl : Nat → U32) (hnr : nr / 64 < n) :
    testBit .l64 .masked nr ⟨n, tbl⟩ = some (if (tbl (nr / 64)).getLsbD (nr % 32) then 1 else 0) := by
  have hand : nr &&& (LongSize.l64.BITS_PER_LONG - 1) = nr % 64 := Nat.and_two_pow_sub_one_eq_mod nr 6
  have hget : Arr.get? ⟨n, tbl⟩ (nr / LongSize.l64.BITS_PER_LONG) = some (tbl (nr / 64)) := get?_eq hnr
  have hmod : nr % 64 % 32 = nr % 32 := Nat.mod_mod_of_dvd nr (by decide)
  rw [testBit, hget, Option.bind_eq_bind, Option.bind_some, hand, ← hmod]
  exact congrArg some (one_and_ushiftRight _ _)

theorem frame_size : FEE_EDU_FRAME_6x6_COLS * FEE_EDU_FRAME_6x6_ROWS = 245376 := rfl
theorem bad_pixel_words : BAD_PIXEL_WORDS = 7668 := rfl

theorem index_lt_of_inFrame {ev : FeeEventDetection} (h : ev.InFrame) :
    ev.index < FEE_EDU_FRAME_6x6_COLS * FEE_EDU_FRAME_6x6_ROWS :=
  Nat.mul_comm _ _ ▸ index_lt h.1 h.2

section

variable {l : LongSize} {sh : Shift} {ev : FeeEventDetection} {t : BadPixels}

theorem lookup_beyond (hidx : FEE_EDU_FRAME_6x6_COLS * FEE_EDU_FRAME_6x6_ROWS < ev.index) :
    t.lookup l sh ev = some 1 := by
  rw [BadPixels.lookup, feeEventPixelIsBad]
  split
  · rfl
  · exact if_pos hidx

variable (hev : ev.hdr.pktType = FEE_PKT_TYPE_EV_DET)
include hev

theorem lookup_eq (hidx : ev.index ≤ FEE_EDU_FRAME_6x6_COLS * FEE_EDU_FRAME_6x6_ROWS) :
    t.lookup l sh ev = testBit l sh ev.index ⟨BAD_PIXEL_WORDS, t.ofEvent ev⟩ := by
  rw [BadPixels.lookup, feeEventPixelIsBad, if_neg (not_not.2 hev)]
  dsimp only
  have hle : ¬ ev.row.toNat * FEE_EDU_FRAME_6x6_COLS + ev.col.toNat >
      FEE_EDU_FRAME_6x6_COLS * FEE_EDU_FRAME_6x6_ROWS := Nat.not_lt.2 hidx
  rw [if_neg hle, BadPixels.ofEvent]
  rcases ccdId_cases ev.hdr with h | h
  · have hne : ¬ ev.hdr.ccdId = FEE_CCD_ID_4 := by rw [h]; decide
    simp only [if_pos h, if_neg hne]
    rfl
  · simp only [if_pos h]
    rfl

/-- A position of the frame is read from the bit of its index, if a `long` has 32 bits. -/
theorem reads_l32 (hin : ev.InFrame) : Reads .l32 sh ev (ev.index / 32) (ev.index % 32) := by
  intro t
  have hlt := index_lt_of_inFrame hin
  rw [lookup_eq hev hlt.le]
  exact testBit_l32 sh ev.index BAD_PIXEL_WORDS _ (by rw [frame_size] at hlt; rw [bad_pixel_words]; omega)

/-- If it has 64, a machine that looks at five bits of the count reads half of the words only, and each bit twice. -/
theorem lookup_l64 (hin : ev.InFrame) : t.lookup .l64 .masked ev =
    some (if (t.ofEvent ev (ev.index / 64)).getLsbD (ev.index % 32) then 1 else 0) := by
  have hlt := index_lt_of_inFrame hin
  rw [lookup_eq hev hlt.le]
  exact testBit_l64 ev.index BAD_PIXEL_WORDS _ (by rw [frame_size] at hlt; rw [bad_pixel_words]; omega)

end

/-- What is read from one bit is not read from another one. -/
theorem Reads.unique {l : LongSize} {sh : Shift} {ev : FeeEventDetection} {w b w' b' : Nat} (h : Reads l sh ev w b)
    (h' : Reads l sh ev w' b') (hb : b < 32) : w' = w ∧ b' = b := by
  -- tables in which this bit alone is set
  let word (x : Nat) : U32 := if x = w then BitVec.twoPow 32 b else 0
  have hof : BadPixels.ofEvent ⟨word, word⟩ ev = word := by
    rw [BadPixels.ofEvent]
    split <;> rfl
  have heq := (h ⟨word, word⟩).symm.trans (h' ⟨word, word⟩)
  have hset : (word w).getLsbD b = true := by
    simp only [word, if_pos, BitVec.getLsbD_twoPow]
    simp [hb]
  rw [hof, hset, if_pos rfl, Option.some.injEq] at heq
  split at heq
  · rename_i hbit
    by_cases hw : w' = w
    · simp only [word, if_pos hw, BitVec.getLsbD_twoPow, Bool.and_eq_true, decide_eq_true_eq] at hbit
      exact ⟨hw, hbit.2.symm⟩
    · simp only [word, if_neg hw] at hbit
      simp at hbit
  · cases heq

/-! ## When the look-up is right -/

/-- Every index of the frame is that of a position. -/
theorem exists_position (ev : FeeEventDetection) {i : Nat} (hi : i < FEE_EDU_FRAME_6x6_COLS * FEE_EDU_FRAME_6x6_ROWS) :
    ∃ row col, (ev.atPos row col).InFrame ∧ (ev.atPos row col).index = i := by
  rw [frame_size] at hi
  have hrow : (BitVec.ofNat 16 (i / FEE_EDU_FRAME_6x6_COLS)).toNat = i / FEE_EDU_FRAME_6x6_COLS := by
    rw [BitVec.toNat_ofNat, FEE_EDU_FRAME_6x6_COLS]
    omega
  have hcol : (BitVec.ofNat 16 (i % FEE_EDU_FRAME_6x6_COLS)).toNat = i % FEE_EDU_FRAME_6x6_COLS := by
    rw [BitVec.toNat_ofNat, FEE_EDU_FRAME_6x6_COLS]
    omega
  refine ⟨BitVec.ofNat 16 (i / FEE_EDU_FRAME_6x6_COLS), BitVec.ofNat 16 (i % FEE_EDU_FRAME_6x6_COLS), ⟨?_, ?_⟩, ?_⟩
  · exact hrow.trans_lt (by rw [FEE_EDU_FRAME_6x6_COLS, FEE_EDU_FRAME_6x6_ROWS]; omega)
  · exact hcol.trans_lt (Nat.mod_lt i (by decide))
  · rw [FeeEventDetection.index]
    exact (congrArg₂ (· * FEE_EDU_FRAME_6x6_COLS + ·) hrow hcol).trans (Nat.div_add_mod' i _)

/-- … and of no other one. -/
theorem position_ext {ev : FeeEventDetection} {row col : U16} (hin : ev.InFrame) (hin' : (ev.atPos row col).InFrame)
    (h : (ev.atPos row col).index = ev.index) : (row, col) = (ev.row, ev.col) := by
  have hrow : row.toNat = ev.row.toNat := by
    by_contra hne
    exact index_ne hne hin.2 hin'.2 h
  have hcol : col.toNat = ev.col.toNat := by
    rw [FeeEventDetection.index, FeeEventDetection.index] at h
    simp only [FeeEventDetection.atPos, hrow] at h
    exact Nat.add_left_cancel h
  rw [BitVec.eq_of_toNat_eq hrow, BitVec.eq_of_toNat_eq hcol]

theorem lookupOk_beyond {l : LongSize} {ev : FeeEventDetection}
    (hidx : FEE_EDU_FRAME_6x6_COLS * FEE_EDU_FRAME_6x6_ROWS < ev.index) : LookupOk l ev where
  inside sh t := by
    rw [lookup_beyond hidx]
    exact Option.some_ne_none 1
  outside _ _ _ := lookup_beyond hidx
  own hin := absurd (index_lt_of_inFrame hin) (Nat.lt_asymm hidx)

section

variable {ev : FeeEventDetection} (hev : ev.hdr.pktType = FEE_PKT_TYPE_EV_DET)
include hev

theorem lookupOk_l32 (hin : ev.InFrame) : LookupOk .l32 ev where
  inside sh t := by
    rw [reads_l32 hev hin t]
    exact Option.some_ne_none _
  outside hout := absurd hin hout
  own _ sh := by
    refine ⟨ev.index / 32, ev.index % 32, reads_l32 hev hin, fun row col hin' hne hreads => hne ?_⟩
    have hev' : (ev.atPos row col).hdr.pktType = FEE_PKT_TYPE_EV_DET := hev
    obtain ⟨hw, hb⟩ := hreads.unique (reads_l32 hev' hin') (Nat.mod_lt _ (by decide))
    exact position_ext hin hin' (by omega)

/-- A position beyond the frame that passes the check is taken for one of the frame, or for the one behind it. -/
theorem not_lookupOk_outside {l : LongSize} (hout : ¬ ev.InFrame)
    (hidx : ev.index ≤ FEE_EDU_FRAME_6x6_COLS * FEE_EDU_FRAME_6x6_ROWS) : ¬ LookupOk l ev := by
  intro h
  -- no pixel is bad
  have hone := h.outside hout .masked ⟨fun _ => 0, fun _ => 0⟩
  have hof : BadPixels.ofEvent ⟨fun _ => 0, fun _ => 0⟩ ev = fun _ => 0 := ite_self _
  rw [lookup_eq hev hidx, hof, testBit, Arr.get?] at hone
  split at hone
  · simp [Shift.masked] at hone
  · cases hone

/-- On a machine with a `long` of 64 bits, positions of the frame share their bits in pairs. -/
theorem not_lookupOk_l64 (hin : ev.InFrame) : ¬ LookupOk .l64 ev := by
  intro h
  obtain ⟨w, b, hreads, hother⟩ := h.own hin .masked
  have hlt := index_lt_of_inFrame hin
  obtain ⟨i, hi, hword, hbit, hne⟩ : ∃ i, i < FEE_EDU_FRAME_6x6_COLS * FEE_EDU_FRAME_6x6_ROWS ∧
      i / 64 = ev.index / 64 ∧ i % 32 = ev.index % 32 ∧ i ≠ ev.index := by
    rw [frame_size] at hlt ⊢
    refine ⟨if ev.index % 64 < 32 then ev.index + 32 else ev.index - 32, ?_⟩
    split <;> omega
  obtain ⟨row, col, hin', rfl⟩ := exists_position ev hi
  have hev' : (ev.atPos row col).hdr.pktType = FEE_PKT_TYPE_EV_DET := hev
  refine hother row col hin' (fun heq => hne ?_) fun t => ?_
  · obtain ⟨hrow, hcol⟩ := Prod.mk.inj heq
    rw [hrow, hcol]
    rfl
  · rw [lookup_l64 hev' hin', hword, hbit]
    exact (lookup_l64 hev hin).symm.trans (hreads t)

/-- **Exactly when the look-up is right**, for every event packet and both sizes of a `long`. -/
theorem lookupOk_iff (l : LongSize) : LookupOk l ev ↔
    FEE_EDU_FRAME_6x6_COLS * FEE_EDU_FRAME_6x6_ROWS < ev.row.toNat * FEE_EDU_FRAME_6x6_COLS + ev.col.toNat ∨
      (l = .l32 ∧ ev.InFrame) := by
  by_cases hidx : FEE_EDU_FRAME_6x6_COLS * FEE_EDU_FRAME_6x6_ROWS < ev.index
  · exact iff_of_true (lookupOk_beyond hidx) (.inl hidx)
  · have hidx' : ¬ FEE_EDU_FRAME_6x6_COLS * FEE_EDU_FRAME_6x6_ROWS <
        ev.row.toNat * FEE_EDU_FRAME_6x6_COLS + ev.col.toNat := hidx
    rw [or_iff_right hidx']
    by_cases hin : ev.InFrame
    · cases l with
      | l32 => exact iff_of_true (lookupOk_l32 hev hin) ⟨rfl, hin⟩
      | l64 => exact iff_of_false (not_lookupOk_l64 hev hin) fun h => by cases h.1
    · exact iff_of_false (not_lookupOk_outside hev hin (Nat.le_of_not_lt hidx)) fun h => hin h.2

end

/-- A packet of CCD 2 with an event at a position. -/
def eventPacket (row col : U16) : FeeEventDetection := { hdr := { feePktType := 1 }, row, col }

theorem lookupOk_origin : LookupOk .l32 (eventPacket 0 0) :=
  (@lookupOk_iff (eventPacket 0 0) rfl .l32).2 (.inr ⟨rfl, by decide⟩)

/-- The position behind the last column is taken for the first one of the next row. On a machine with a `long` of 64
bits, row 0 has the same bit for columns 0 and 32, and so no bit of its own for column 0. -/
theorem not_lookupOk_frame : ¬ LookupOk .l32 (eventPacket 0 384) ∧ ¬ LookupOk .l64 (eventPacket 0 0) :=
  ⟨not_lookupOk_outside rfl (by decide) (by decide), not_lookupOk_l64 rfl (by decide)⟩

end SmileFee
