import Mathlib.Tactic

/-!
# Machine words, their bytes, and bit fields

Fixed-width words as the C code handles them: the cast to a byte, the hand-written splits
of 16, 24 and 32 bit fields into bytes (most significant first) and the joins that undo
them, byte swapping, and the mask-and-shift access to a field of a 32 bit register.
-/

abbrev U8 := BitVec 8
abbrev U16 := BitVec 16
abbrev U32 := BitVec 32

namespace Word

/-- The cast `(uint8_t) x`. -/
def u8 {w : Nat} (x : BitVec w) : U8 := x.setWidth 8

@[simp] theorem getLsbD_u8 {w : Nat} (x : BitVec w) (i : Nat) :
    (u8 x).getLsbD i = (decide (i < 8) && x.getLsbD i) := by
  simp [u8]

/-! ## Splitting and joining -/

/-- `a << 8 | b`. -/
def join16 (a b : U8) : U16 := a.setWidth 16 <<< 8 ||| b.setWidth 16

/-- `a << 16 | b << 8 | c`. -/
def join24 (a b c : U8) : U32 := a.setWidth 32 <<< 16 ||| b.setWidth 32 <<< 8 ||| c.setWidth 32

/-- `a << 24 | b << 16 | c << 8 | d`. -/
def join32 (a b c d : U8) : U32 :=
  a.setWidth 32 <<< 24 ||| b.setWidth 32 <<< 16 ||| c.setWidth 32 <<< 8 ||| d.setWidth 32

@[simp] theorem getLsbD_join16 (a b : U8) (i : Nat) :
    (join16 a b).getLsbD i = if i < 8 then b.getLsbD i else a.getLsbD (i - 8) := by
  simp only [join16, BitVec.getLsbD_or, BitVec.getLsbD_shiftLeft, BitVec.getLsbD_setWidth]
  grind

@[simp] theorem getLsbD_join24 (a b c : U8) (i : Nat) :
    (join24 a b c).getLsbD i =
      if i < 8 then c.getLsbD i else if i < 16 then b.getLsbD (i - 8) else a.getLsbD (i - 16) := by
  simp only [join24, BitVec.getLsbD_or, BitVec.getLsbD_shiftLeft, BitVec.getLsbD_setWidth]
  grind

@[simp] theorem getLsbD_join32 (a b c d : U8) (i : Nat) :
    (join32 a b c d).getLsbD i =
      if i < 8 then d.getLsbD i else if i < 16 then c.getLsbD (i - 8)
      else if i < 24 then b.getLsbD (i - 16) else a.getLsbD (i - 24) := by
  simp only [join32, BitVec.getLsbD_or, BitVec.getLsbD_shiftLeft, BitVec.getLsbD_setWidth]
  grind

/-- Splitting a 16 bit word and joining it again. -/
theorem join16_split (x : U16) : join16 (u8 (x >>> 8)) (u8 x) = x := by
  apply BitVec.eq_of_getLsbD_eq
  intro i hi
  simp only [getLsbD_join16, getLsbD_u8, BitVec.getLsbD_ushiftRight]
  grind

/-- A 24 bit value held in a 32 bit word survives the split into three bytes. -/
theorem join24_split (x : U32) (h : x.toNat < 2 ^ 24) :
    join24 (u8 (x >>> 16)) (u8 (x >>> 8)) (u8 x) = x := by
  apply BitVec.eq_of_getLsbD_eq
  intro i hi
  have hx : 24 ≤ i → x.getLsbD i = false := fun hi' =>
    Nat.testBit_lt_two_pow (Nat.lt_of_lt_of_le h (Nat.pow_le_pow_right (by omega) hi'))
  simp only [getLsbD_join24, getLsbD_u8, BitVec.getLsbD_ushiftRight]
  grind

/-- Three bytes keep the lower 24 bits. -/
theorem toNat_join24_split (x : U32) :
    (join24 (u8 (x >>> 16)) (u8 (x >>> 8)) (u8 x)).toNat = x.toNat % 2 ^ 24 := by
  apply Nat.eq_of_testBit_eq
  intro i
  rw [Nat.testBit_mod_two_pow, BitVec.testBit_toNat, BitVec.testBit_toNat]
  simp only [getLsbD_join24, getLsbD_u8, BitVec.getLsbD_ushiftRight]
  grind

theorem join32_split (x : U32) :
    join32 (u8 (x >>> 24)) (u8 (x >>> 16)) (u8 (x >>> 8)) (u8 x) = x := by
  apply BitVec.eq_of_getLsbD_eq
  intro i hi
  simp only [getLsbD_join32, getLsbD_u8, BitVec.getLsbD_ushiftRight]
  grind

/-- The bytes of a joined 16 bit word are the bytes it was made of. -/
@[simp] theorem u8_join16_hi (a b : U8) : u8 (join16 a b >>> 8) = a := by
  apply BitVec.eq_of_getLsbD_eq
  intro i hi
  simp only [getLsbD_u8, BitVec.getLsbD_ushiftRight, getLsbD_join16]
  grind

@[simp] theorem u8_join16_lo (a b : U8) : u8 (join16 a b) = b := by
  apply BitVec.eq_of_getLsbD_eq
  intro i hi
  simp only [getLsbD_u8, getLsbD_join16]
  grind

theorem u8_join24 (a b c : U8) :
    u8 (join24 a b c >>> 16) = a ∧ u8 (join24 a b c >>> 8) = b ∧ u8 (join24 a b c) = c := by
  refine ⟨?_, ?_, ?_⟩ <;> (apply BitVec.eq_of_getLsbD_eq; intro i hi)
  all_goals
    simp only [getLsbD_u8, BitVec.getLsbD_ushiftRight, getLsbD_join24]
    grind

theorem u8_join32 (a b c d : U8) :
    u8 (join32 a b c d >>> 24) = a ∧ u8 (join32 a b c d >>> 16) = b ∧
    u8 (join32 a b c d >>> 8) = c ∧ u8 (join32 a b c d) = d := by
  refine ⟨?_, ?_, ?_, ?_⟩ <;> (apply BitVec.eq_of_getLsbD_eq; intro i hi)
  all_goals
    simp only [getLsbD_u8, BitVec.getLsbD_ushiftRight, getLsbD_join32]
    grind

theorem join24_lt (a b c : U8) : (join24 a b c).toNat < 2 ^ 24 := by
  apply Nat.lt_pow_two_of_testBit
  intro i hi
  have h : (join24 a b c).getLsbD i = false := by
    rw [getLsbD_join24]
    grind
  exact h

/-! ## Byte order -/

/-- The byte order of the machine the code runs on. -/
inductive Host where
  | little
  | big
deriving DecidableEq, Repr

/-- `___constant_swab16`. -/
def swab16 (x : U16) : U16 := ((x &&& 0x00ff#16) <<< 8) ||| ((x &&& 0xff00#16) >>> 8)

/-- `___constant_swab32`. -/
def swab32 (x : U32) : U32 :=
  ((x &&& 0x000000ff#32) <<< 24) ||| ((x &&& 0x0000ff00#32) <<< 8) |||
  ((x &&& 0x00ff0000#32) >>> 8) ||| ((x &&& 0xff000000#32) >>> 24)

theorem swab16_join16 (a b : U8) : swab16 (join16 a b) = join16 b a := by
  apply BitVec.eq_of_getLsbD_eq
  intro i hi
  simp only [swab16, BitVec.getLsbD_or, BitVec.getLsbD_and, BitVec.getLsbD_shiftLeft,
    BitVec.getLsbD_ushiftRight, getLsbD_join16]
  interval_cases i <;> simp

theorem swab32_join32 (a b c d : U8) : swab32 (join32 a b c d) = join32 d c b a := by
  apply BitVec.eq_of_getLsbD_eq
  intro i hi
  simp only [swab32, BitVec.getLsbD_or, BitVec.getLsbD_and, BitVec.getLsbD_shiftLeft,
    BitVec.getLsbD_ushiftRight, getLsbD_join32]
  interval_cases i <;> simp

@[simp] theorem swab16_swab16 (x : U16) : swab16 (swab16 x) = x := by
  rw [← join16_split x, swab16_join16, swab16_join16]

@[simp] theorem swab32_swab32 (x : U32) : swab32 (swab32 x) = x := by
  rw [← join32_split x, swab32_join32, swab32_join32]

/-- `be16_to_cpu` and `cpu_to_be16`: the same swap in both directions. -/
def be16ToCpu : Host → U16 → U16
  | .little, x => swab16 x
  | .big, x => x

/-- `be32_to_cpu` and `cpu_to_be32`. -/
def be32ToCpu : Host → U32 → U32
  | .little, x => swab32 x
  | .big, x => x

@[simp] theorem be16ToCpu_be16ToCpu (h : Host) (x : U16) : be16ToCpu h (be16ToCpu h x) = x := by
  cases h <;> simp [be16ToCpu]

@[simp] theorem be32ToCpu_be32ToCpu (h : Host) (x : U32) : be32ToCpu h (be32ToCpu h x) = x := by
  cases h <;> simp [be32ToCpu]

/-! ## Bit fields of a word -/

/-- `(x >> sh) & mask`. -/
def getField {w : Nat} (mask : BitVec w) (sh : Nat) (x : BitVec w) : BitVec w := (x >>> sh) &&& mask

/-- `x &= ~(mask << sh); x |= (mask & v) << sh`. -/
def setField {w : Nat} (mask : BitVec w) (sh : Nat) (v x : BitVec w) : BitVec w :=
  (x &&& ~~~(mask <<< sh)) ||| ((mask &&& v) <<< sh)

/-- A field that lies inside the register reads back what was written, cut to the mask. -/
theorem getField_setField {w : Nat} (mask : BitVec w) (sh : Nat) (v x : BitVec w) (hm : mask <<< sh >>> sh = mask) :
    getField mask sh (setField mask sh v x) = mask &&& v := by
  apply BitVec.eq_of_getLsbD_eq
  intro i hi
  have hb : (mask <<< sh >>> sh).getLsbD i = mask.getLsbD i := by rw [hm]
  simp only [BitVec.getLsbD_ushiftRight, BitVec.getLsbD_shiftLeft] at hb
  simp only [getField, setField, BitVec.getLsbD_and, BitVec.getLsbD_or, BitVec.getLsbD_ushiftRight,
    BitVec.getLsbD_shiftLeft, BitVec.getLsbD_not]
  grind

/-- Bits outside the mask keep their value. -/
theorem getLsbD_setField {w : Nat} (mask : BitVec w) (sh : Nat) (v x : BitVec w) (i : Nat) :
    (setField mask sh v x).getLsbD i =
      if (mask <<< sh).getLsbD i then v.getLsbD (i - sh) else x.getLsbD i := by
  simp only [setField, BitVec.getLsbD_and, BitVec.getLsbD_or, BitVec.getLsbD_shiftLeft,
    BitVec.getLsbD_not]
  grind

/-- The value written last is the one that counts. -/
theorem setField_setField {w : Nat} (mask : BitVec w) (sh : Nat) (v v' x : BitVec w) :
    setField mask sh v (setField mask sh v' x) = setField mask sh v x := by
  apply BitVec.eq_of_getLsbD_eq
  intro i _
  simp only [getLsbD_setField]
  split <;> rfl

/-- Fields without a bit in common can be written in either order. -/
theorem setField_comm {w : Nat} {mask mask' : BitVec w} {sh sh' : Nat} (hd : mask <<< sh &&& mask' <<< sh' = 0)
    (v v' x : BitVec w) :
    setField mask sh v (setField mask' sh' v' x) = setField mask' sh' v' (setField mask sh v x) := by
  apply BitVec.eq_of_getLsbD_eq
  intro i _
  have hb : ((mask <<< sh).getLsbD i && (mask' <<< sh').getLsbD i) = false := by
    rw [← BitVec.getLsbD_and, hd]
    exact BitVec.getLsbD_zero
  simp only [getLsbD_setField]
  split_ifs with h h'
  · rw [h, h'] at hb
    cases hb
  all_goals rfl

/-- Writing one field leaves the others as they are. -/
theorem getField_setField_disjoint {w : Nat} (mask mask' : BitVec w) (sh sh' : Nat) (v x : BitVec w)
    (hd : mask <<< sh &&& mask' <<< sh' = 0) : getField mask sh (setField mask' sh' v x) = getField mask sh x := by
  apply BitVec.eq_of_getLsbD_eq
  intro i hi
  have hb : (mask <<< sh &&& mask' <<< sh').getLsbD (sh + i) = false := by rw [hd]; simp
  simp only [BitVec.getLsbD_and, BitVec.getLsbD_shiftLeft] at hb
  simp only [getField, BitVec.getLsbD_and, BitVec.getLsbD_ushiftRight, getLsbD_setField, BitVec.getLsbD_shiftLeft]
  by_cases hw : sh + i < w
  · grind
  · rw [BitVec.getLsbD_of_ge x _ (by omega)]
    grind

/-- A field that is set back to what it has been. -/
theorem setField_restore {w : Nat} (mask : BitVec w) (sh : Nat) (v v' x : BitVec w)
    (h : getField mask sh x = mask &&& v) : setField mask sh v (setField mask sh v' x) = x := by
  apply BitVec.eq_of_getLsbD_eq
  intro i hi
  have hb : (getField mask sh x).getLsbD (i - sh) = (mask &&& v).getLsbD (i - sh) := by rw [h]
  simp only [getField, BitVec.getLsbD_and, BitVec.getLsbD_ushiftRight] at hb
  simp only [getLsbD_setField, BitVec.getLsbD_shiftLeft]
  by_cases hsh : i < sh
  · simp [hsh]
  · rw [show sh + (i - sh) = i by omega] at hb
    grind

/-- `f` reads and changes the bits of `b` only. -/
structure ActsOn {w : Nat} (b : BitVec w) (f : BitVec w → BitVec w) : Prop where
  outside : ∀ x i, b.getLsbD i = false → (f x).getLsbD i = x.getLsbD i
  inside : ∀ x y, (∀ i, b.getLsbD i = true → x.getLsbD i = y.getLsbD i) →
    ∀ i, b.getLsbD i = true → (f x).getLsbD i = (f y).getLsbD i

namespace ActsOn

variable {w : Nat} {b b' : BitVec w} {f g : BitVec w → BitVec w}

theorem unchanged (b : BitVec w) : ActsOn b fun x => x where
  outside _ _ _ := rfl
  inside _ _ h := h

theorem of_setField {mask : BitVec w} {sh : Nat} (hb : mask <<< sh &&& b = mask <<< sh) (v : BitVec w) :
    ActsOn b (setField mask sh v) := by
  have hsub (i : Nat) (hi : (mask <<< sh).getLsbD i = true) : b.getLsbD i = true := by
    rw [← hb, BitVec.getLsbD_and, Bool.and_eq_true] at hi
    exact hi.2
  constructor
  · intro x i hi
    rw [getLsbD_setField, if_neg fun h => by simp [hsub i h] at hi]
  · intro x y hxy i hi
    rw [getLsbD_setField, getLsbD_setField, hxy i hi]

/-- Functions that act on disjoint sets of bits commute. -/
theorem comm (hf : ActsOn b f) (hg : ActsOn b' g) (hd : b &&& b' = 0) (x : BitVec w) : f (g x) = g (f x) := by
  have hdisj (i : Nat) (hi : b.getLsbD i = true) : b'.getLsbD i = false := by
    have h := congrArg (fun z => BitVec.getLsbD z i) hd
    simpa [hi] using h
  have hdisj' (i : Nat) (hi : b'.getLsbD i = true) : b.getLsbD i = false := by
    cases hb : b.getLsbD i with
    | true => rw [hdisj i hb] at hi; cases hi
    | false => rfl
  apply BitVec.eq_of_getLsbD_eq
  intro i _
  cases hi : b.getLsbD i with
  | true =>
    -- `f` finds its own bits as they were
    have hown : ∀ j, b.getLsbD j = true → (g x).getLsbD j = x.getLsbD j := fun j hj => hg.outside x j (hdisj j hj)
    rw [hf.inside _ _ hown i hi, hg.outside _ i (hdisj i hi)]
  | false =>
    rw [hf.outside _ i hi]
    cases hi' : b'.getLsbD i with
    | true =>
      have hown : ∀ j, b'.getLsbD j = true → (f x).getLsbD j = x.getLsbD j := fun j hj => hf.outside x j (hdisj' j hj)
      rw [hg.inside _ _ hown i hi']
    | false => rw [hg.outside _ i hi', hg.outside _ i hi', hf.outside _ i hi]

end ActsOn

/-- Clearing the two lowest bits rounds down to a multiple of four. -/
theorem toNat_and_not_three (x : BitVec 64) : (x &&& ~~~3#64).toNat = x.toNat / 4 * 4 := by
  have hs : x &&& ~~~3#64 = x >>> 2 <<< 2 := by
    apply BitVec.eq_of_getLsbD_eq
    intro i hi
    have h3 : (~~~3#64).getLsbD i = !decide (i < 2) := by
      interval_cases i <;> rfl
    rw [BitVec.getLsbD_and, h3, BitVec.getLsbD_shiftLeft, BitVec.getLsbD_ushiftRight]
    by_cases h : i < 2
    · simp [h]
    · simp [h, hi, show 2 + (i - 2) = i by omega]
  have := x.isLt
  rw [hs, BitVec.toNat_shiftLeft, BitVec.toNat_ushiftRight, Nat.shiftRight_eq_div_pow, Nat.shiftLeft_eq,
    Nat.mod_eq_of_lt (by omega)]

/-- A field that is the whole register. -/
theorem getField_ones (x : U32) : getField (0xFFFFFFFF : U32) 0 x = x := by
  simp only [getField, BitVec.ushiftRight_zero]
  exact BitVec.and_allOnes

theorem setField_ones (v x : U32) : setField (0xFFFFFFFF : U32) 0 v x = v := by
  apply BitVec.eq_of_getLsbD_eq
  intro i hi
  have h : ((0xFFFFFFFF : U32) <<< 0).getLsbD i = true := by
    rw [BitVec.shiftLeft_zero, show (0xFFFFFFFF : U32) = BitVec.allOnes 32 from rfl, BitVec.getLsbD_allOnes]
    exact decide_eq_true hi
  rw [getLsbD_setField, if_pos h, Nat.sub_zero]

/-- `mask & v` is `v` for a value that fits a mask of `w` one bits. -/
theorem mask_and (w : Nat) (mask v : U32) (hm : mask = BitVec.ofNat 32 (2 ^ w - 1)) (hv : v.toNat < 2 ^ w) :
    mask &&& v = v := by
  subst hm
  apply BitVec.eq_of_getLsbD_eq
  intro i hi
  by_cases hw : i < w
  · have : (2 ^ w - 1).testBit i = true := by simp [hw]
    simp [BitVec.getLsbD_ofNat, hi, this]
  · have hvi : v.getLsbD i = false :=
      Nat.testBit_lt_two_pow (Nat.lt_of_lt_of_le hv (Nat.pow_le_pow_right (by omega) (by omega)))
    simp [hvi]

end Word
