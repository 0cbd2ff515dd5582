import SmileFee.SramAccess

/-!
# Words in the SRAM mirror (`FEE/smile_fee_ctrl.c:5186-5226`)

`smile_fee_write_sram_32` is `smile_fee_write_sram_16` with other types, but its size is still
`sizeof(uint16_t) * nmemb`. This is what is checked and returned, and what a big-endian host copies; the loop
of a little-endian host stores all the words, for which there need not be room.

**`sramWords_iff`**: only a call without words, or one that is refused, does what it should.
-/

namespace SmileFee

open Word Mem

/-- `smile_fee_write_sram_32` (`:5186`). -/
def smileFeeWriteSram32 (s : Mirror) (m : Mem) (buf : Option (Nat → U32)) (addr : U32) (nmemb : BitVec 64) :
    Int × Mem :=
  match buf with
  | none => (0, m)
  | some buf =>
    -- the size of as many half-words
    let size := 2 * nmemb
    if SramRefused16 addr size then (-1, m) else
    match s.host with
    | .big => smileFeeWriteSram s m (some (ofWords .big buf)) addr (size.setWidth 32)
    | .little =>
      ((size.setWidth 32).toInt, (List.range nmemb.toNat).foldl (fun m i =>
        store32 .little m (sramPtr s addr + 4 * i) (be32ToCpu .little (buf i))) m)

/-- Words stored one after the other, most significant byte first. -/
theorem storeWords_eq (m : Mem) (a : Nat) (buf : Nat → U32) (n : Nat) :
    (List.range n).foldl (fun m i => store32 .little m (a + 4 * i) (be32ToCpu .little (buf i))) m =
      m.write a ((ofWords .big buf).read 0 (4 * n)) := by
  induction n with
  | zero => simp
  | succ n ih =>
    have happ := write_write_append m a ((ofWords .big buf).read 0 (4 * n)) (bytes32 .big (buf n))
    rw [length_read] at happ
    rw [List.range_succ, List.foldl_append, ih, List.foldl_cons, List.foldl_nil, store32_be32ToCpu, happ, Nat.mul_add,
      read_add, Nat.zero_add, Nat.mul_one, read_ofWords]

/-- What a write of words should do, whatever the host: it is refused and changes nothing, or it stores the
words in the mirror, most significant byte first, and returns their size. -/
def SramWords (s : Mirror) (m : Mem) (buf : Nat → U32) (addr : U32) (nmemb : BitVec 64) : Prop :=
  (∀ h, smileFeeWriteSram32 { s with host := h } m (some buf) addr nmemb = (-1, m)) ∨
    ((∀ h, smileFeeWriteSram32 { s with host := h } m (some buf) addr nmemb =
        (((4 * nmemb.toNat : Nat) : Int), m.write (sramPtr s addr) ((ofWords .big buf).read 0 (4 * nmemb.toNat)))) ∧
      s.sram ≤ sramPtr s addr ∧ sramPtr s addr + 4 * nmemb.toNat ≤ s.sram + FEE_SRAM_SIZE.toNat)

section

variable (s : Mirror) (m : Mem) (buf : Nat → U32) {addr : U32} {nmemb : BitVec 64}

theorem writeSram32_refused (hfits : 2 * nmemb.toNat < 2 ^ 64) (h : ¬ SramRange addr (2 * nmemb.toNat)) :
    smileFeeWriteSram32 s m (some buf) addr nmemb = (-1, m) := by
  unfold smileFeeWriteSram32
  dsimp only
  rw [if_pos ((sramRefused16_iff addr hfits).2 h)]

/-- What is accepted by the size of half-words returns that size, on either host, but not with the same bytes
stored. -/
theorem writeSram32_accepted (h : SramRange addr (2 * nmemb.toNat)) :
    smileFeeWriteSram32 s m (some buf) addr nmemb = (((2 * nmemb.toNat : Nat) : Int), m.write (sramPtr s addr)
      ((ofWords .big buf).read 0 (match s.host with | .big => 2 * nmemb.toNat | .little => 4 * nmemb.toNat))) := by
  unfold smileFeeWriteSram32
  dsimp only
  rw [if_neg h.inSram.not_refused16]
  cases s.host with
  | big =>
    simp only [smileFeeWriteSram]
    rw [if_neg h.inSram.not_refused, h.inSram.toNat_size32, h.toInt_size16]
  | little =>
    dsimp only
    rw [storeWords_eq, h.toInt_size16]

end

/-- **When words are written as they should be**: if there are none, or if the call is refused. -/
theorem sramWords_iff (s : Mirror) (m : Mem) (buf : Nat → U32) (addr : U32) (nmemb : BitVec 64)
    (hfits : 4 * nmemb.toNat < 2 ^ 64) :
    SramWords s m buf addr nmemb ↔ nmemb.toNat = 0 ∨ ¬ SramRange addr (2 * nmemb.toNat) := by
  by_cases h : SramRange addr (2 * nmemb.toNat)
  swap
  · simp only [h, not_false_eq_true, or_true, iff_true]
    exact .inl fun host => writeSram32_refused { s with host := host } m buf (by omega) h
  have hacc (host : Host) := writeSram32_accepted { s with host := host } m buf h
  simp only [h, not_true_eq_false, or_false]
  constructor
  · rintro (hrefused | ⟨hstored, -⟩)
    · have := congrArg Prod.fst ((hacc .little).symm.trans (hrefused .little))
      simp only at this
      omega
    · have := congrArg Prod.fst ((hacc .little).symm.trans (hstored .little))
      simp only at this
      omega
  · intro h0
    obtain ⟨hptr, hend⟩ := h.inside s
    refine .inr ⟨fun host => ?_, by omega, by omega⟩
    rw [hacc host, h0]
    cases host <;> rfl

/-- No words, a word before the SRAM, which is refused, and one at its start. -/
theorem sramWords_none :
    let mir : Mirror := ⟨.little, 0x100, 0x1000⟩
    let words (addr : U32) (nmemb : BitVec 64) := SramWords mir (fun _ => 0) (fun _ => 0x01020304) addr nmemb
    words FEE_SRAM_START 0 ∧ words (FEE_SRAM_START - 4) 1 ∧ ¬ words FEE_SRAM_START 1 :=
  ⟨(sramWords_iff _ _ _ _ _ (by decide)).2 (.inl rfl), (sramWords_iff _ _ _ _ _ (by decide)).2 (.inr (by decide)),
    fun h => absurd ((sramWords_iff _ _ _ _ _ (by decide)).1 h) (by decide)⟩

/-- One word at the start of the SRAM: 2 is returned, and a big-endian host writes the first half only. -/
theorem not_sramWords_one :
    smileFeeWriteSram32 ⟨.little, 0x100, 0x1000⟩ (fun _ => 0) (some fun _ => 0x01020304) FEE_SRAM_START 1 =
        (2, Mem.write (fun _ => 0) 0x1000 [1, 2, 3, 4]) ∧
      smileFeeWriteSram32 ⟨.big, 0x100, 0x1000⟩ (fun _ => 0) (some fun _ => 0x01020304) FEE_SRAM_START 1 =
        (2, Mem.write (fun _ => 0) 0x1000 [1, 2]) ∧
      ¬ SramWords ⟨.little, 0x100, 0x1000⟩ (fun _ => 0) (fun _ => 0x01020304) FEE_SRAM_START 1 := by
  have hrange : SramRange FEE_SRAM_START (2 * (1 : BitVec 64).toNat) := by decide
  have hacc (host : Host) := writeSram32_accepted (.mk host 0x100 0x1000) (fun _ => 0) (fun _ => 0x01020304) hrange
  refine ⟨hacc .little, hacc .big, ?_⟩
  rintro (h | ⟨h, -⟩)
  · exact absurd (congrArg Prod.fst ((hacc .little).symm.trans (h .little))) (by decide)
  · exact absurd (congrArg Prod.fst ((hacc .little).symm.trans (h .little))) (by decide)

end SmileFee
