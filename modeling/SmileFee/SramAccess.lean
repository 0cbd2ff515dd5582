import SmileFee.SramImage

/-!
# The SRAM mirror as a store (`FEE/smile_fee_ctrl.c:5002-5171`)

Four functions, two of them compiled to different code on hosts of either byte order, check a range of the
SRAM and copy to or from the mirror. They add in 32 bits, or in those of `size_t`, and compare with the end of
the SRAM; what they accept is `SramRange`, with the sum as it should be, since the other checks leave no sum
that wraps around (`sramRefused_iff`, `sramRefused16_iff`).

**`sram_store`** is the store they make: the accesses inside the SRAM succeed and touch nothing else of it,
the others change nothing, and a byte that is read is the one last written.
-/

namespace SmileFee

open Word Mem

/-! ## The range of an access -/

theorem SramRange.inSram {addr : U32} {n : Nat} (h : SramRange addr (2 * n)) : InSram addr n := ⟨h.1, h.2⟩

/-- The size returned, an `int`, is the size of the range. -/
theorem SramRange.toInt_size {addr size : U32} (h : SramRange addr size.toNat) : size.toInt = size.toNat := by
  have hend := toNat_FEE_SRAM_END
  have hle := h.2
  exact BitVec.toInt_eq_toNat_of_lt (by omega)

theorem SramRange.toInt_size16 {addr : U32} {nmemb : BitVec 64} (h : SramRange addr (2 * nmemb.toNat)) :
    ((2 * nmemb).setWidth 32).toInt = (2 * nmemb.toNat : Nat) := by
  have h32 := h.inSram.toNat_size32
  have hend := toNat_FEE_SRAM_END
  have hle := h.2
  rw [BitVec.toInt_eq_toNat_of_lt (by omega), h32]

/-- A range of the SRAM is a range of the array in the mirror. -/
theorem SramRange.inside {addr : U32} {len : Nat} (h : SramRange addr len) (s : Mirror) :
    sramPtr s addr = s.sram + (addr.toNat - FEE_SRAM_START.toNat) ∧
      sramPtr s addr + len ≤ s.sram + FEE_SRAM_SIZE.toNat := by
  have hstart := toNat_FEE_SRAM_START
  have hend := toNat_FEE_SRAM_END
  have hsize := toNat_FEE_SRAM_SIZE
  obtain ⟨hlo, hhi⟩ := h
  have hsub : (addr - FEE_SRAM_START).toNat = addr.toNat - FEE_SRAM_START.toNat := BitVec.toNat_sub_of_le hlo
  rw [sramPtr, hsub]
  exact ⟨rfl, by omega⟩

/-! ## The four functions -/

section

variable (s : Mirror) (m : Mem) (addr : U32)

theorem writeSram_eq (buf : Mem) (size : U32) : smileFeeWriteSram s m (some buf) addr size =
    if SramRange addr size.toNat then ((size.toNat : Int), m.write (sramPtr s addr) (buf.read 0 size.toNat))
    else (-1, m) := by
  by_cases h : SramRange addr size.toNat
  · rw [smileFeeWriteSram, if_neg fun hr => (sramRefused_iff addr size).1 hr h, if_pos h, h.toInt_size]
  · rw [smileFeeWriteSram, if_pos ((sramRefused_iff addr size).2 h), if_neg h]

theorem readSram_eq (buf : Option Mem) (size : U32) : smileFeeReadSram s m buf addr size =
    if SramRange addr size.toNat then
      ((size.toNat : Int), buf.map fun buf => buf.write 0 (m.read (sramPtr s addr) size.toNat))
    else (-1, buf) := by
  by_cases h : SramRange addr size.toNat
  · rw [smileFeeReadSram, if_neg fun hr => (sramRefused_iff addr size).1 hr h, if_pos h, h.toInt_size]
  · rw [smileFeeReadSram, if_pos ((sramRefused_iff addr size).2 h), if_neg h]

variable {nmemb : BitVec 64}

/-- The size that is returned is that of the samples. -/
theorem readSram16_fst (h : SramRange addr (2 * nmemb.toNat)) (buf : Nat → U16) :
    (smileFeeReadSram16 s m buf addr nmemb).1 = ((2 * nmemb.toNat : Nat) : Int) := by
  unfold smileFeeReadSram16
  dsimp only
  rw [if_neg h.inSram.not_refused16]
  cases s.host with
  | big =>
    simp only [smileFeeReadSram]
    rw [if_neg h.inSram.not_refused]
    exact h.toInt_size16
  | little => exact h.toInt_size16

/-- Behind the samples the buffer is as it was. -/
theorem readSram16_beyond (h : SramRange addr (2 * nmemb.toNat)) (buf : Nat → U16) {i : Nat} (hi : ¬ i < nmemb.toNat) :
    (smileFeeReadSram16 s m buf addr nmemb).2 i = buf i := by
  unfold smileFeeReadSram16
  dsimp only
  rw [if_neg h.inSram.not_refused16]
  cases s.host with
  | big =>
    simp only [smileFeeReadSram]
    rw [if_neg h.inSram.not_refused, h.inSram.toNat_size32]
    simp only [Option.map_some, Option.elim_some, load16]
    rw [write_outside _ _ _ _ (by simp; omega), write_outside _ _ _ _ (by simp; omega)]
    have := load16_of_read_eq (h := .big) (m := ofHalfwords .big buf) (f := buf) (a := 0) (n := i + 1) rfl
      (Nat.lt_succ_self i)
    simpa [load16] using this
  | little => simp only [loadSamples_eq, if_neg hi]

variable (hfits : 2 * nmemb.toNat < 2 ^ 64)
include hfits

theorem writeSram16_eq_ite (buf : Nat → U16) : smileFeeWriteSram16 s m (some buf) addr nmemb =
    if SramRange addr (2 * nmemb.toNat) then
      (((2 * nmemb.toNat : Nat) : Int), m.write (sramPtr s addr) ((ofHalfwords .big buf).read 0 (2 * nmemb.toNat)))
    else (-1, m) := by
  by_cases h : SramRange addr (2 * nmemb.toNat)
  · rw [writeSram16_eq s m buf h.inSram, if_pos h, h.toInt_size16]
  · unfold smileFeeWriteSram16
    dsimp only
    rw [if_pos ((sramRefused16_iff addr hfits).2 h), if_neg h]

theorem readSram16_eq_ite (buf : Nat → U16) : smileFeeReadSram16 s m buf addr nmemb =
    if SramRange addr (2 * nmemb.toNat) then (((2 * nmemb.toNat : Nat) : Int),
      fun i => if i < nmemb.toNat then m.load16 .big (sramPtr s addr + 2 * i) else buf i)
    else (-1, buf) := by
  by_cases h : SramRange addr (2 * nmemb.toNat)
  · rw [if_pos h]
    refine Prod.ext (readSram16_fst s m addr h buf) (funext fun i => ?_)
    by_cases hi : i < nmemb.toNat
    · simpa [hi] using readSram16_eq s m buf h.inSram hi
    · simpa [hi] using readSram16_beyond s m addr h buf hi
  · unfold smileFeeReadSram16
    dsimp only
    rw [if_pos ((sramRefused16_iff addr hfits).2 h), if_neg h]

end

/-! ## Writes and reads in sequence -/

/-- A call of one of the two functions that write; the size of the samples is one of a `size_t`. -/
inductive SramWrite where
  | bytes (buf : Mem) (addr size : U32)
  | samples (buf : Nat → U16) (addr : U32) (nmemb : BitVec 64) (fits : 2 * nmemb.toNat < 2 ^ 64)

namespace SramWrite

/-- The memory after the call. -/
def exec (s : Mirror) (m : Mem) : SramWrite → Mem
  | bytes buf addr size => (smileFeeWriteSram s m (some buf) addr size).2
  | samples buf addr nmemb _ => (smileFeeWriteSram16 s m (some buf) addr nmemb).2

/-- What it should store: the bytes, or the samples most significant byte first, if they lie in the SRAM. -/
def stores (s : Mirror) : SramWrite → List (Nat × List U8)
  | bytes buf addr size => if SramRange addr size.toNat then [(sramPtr s addr, buf.read 0 size.toNat)] else []
  | samples buf addr nmemb _ =>
    if SramRange addr (2 * nmemb.toNat) then
      [(sramPtr s addr, (ofHalfwords .big buf).read 0 (2 * nmemb.toNat))]
    else []

theorem exec_eq (s : Mirror) (m : Mem) (w : SramWrite) :
    w.exec s m = (w.stores s).foldl (fun m w => m.write w.1 w.2) m := by
  cases w with
  | bytes buf addr size =>
    rw [exec, writeSram_eq, stores]
    split <;> rfl
  | samples buf addr nmemb fits =>
    rw [exec, writeSram16_eq_ite s m addr fits, stores]
    split <;> rfl

/-- After any writes every byte is the one last stored. -/
theorem run_eq (s : Mirror) (m : Mem) (ws : List SramWrite) :
    ws.foldl (exec s) m = fun x => (lastWrite (ws.flatMap (stores s)) x).getD (m x) := by
  have h : ws.foldl (exec s) m = (ws.flatMap (stores s)).foldl (fun m w => m.write w.1 w.2) m := by
    induction ws generalizing m with
    | nil => rfl
    | cons w ws ih => rw [List.foldl_cons, ih, exec_eq, List.flatMap_cons, List.foldl_append]
  rw [h]
  funext x
  exact foldl_write _ m x

end SramWrite

/-- The mirror as a store, its memory being `m`. -/
structure SramStore (s : Mirror) (m : Mem) : Prop where
  /-- A write succeeds in the SRAM and stores the bytes, and is refused elsewhere. -/
  write : ∀ (buf : Mem) (addr size : U32), smileFeeWriteSram s m (some buf) addr size =
    if SramRange addr size.toNat then ((size.toNat : Int), m.write (sramPtr s addr) (buf.read 0 size.toNat))
    else (-1, m)
  /-- A read copies the bytes. -/
  read : ∀ (buf : Option Mem) (addr size : U32), smileFeeReadSram s m buf addr size =
    if SramRange addr size.toNat then
      ((size.toNat : Int), buf.map fun buf => buf.write 0 (m.read (sramPtr s addr) size.toNat))
    else (-1, buf)
  /-- The bytes are those of the range, inside the array. -/
  inside : ∀ (addr : U32) (len : Nat), SramRange addr len →
    sramPtr s addr = s.sram + (addr.toNat - FEE_SRAM_START.toNat) ∧
      sramPtr s addr + len ≤ s.sram + FEE_SRAM_SIZE.toNat
  /-- What is read after any writes are the bytes last stored. -/
  latest : ∀ (ws : List SramWrite) (buf : Mem) (addr size : U32), SramRange addr size.toNat →
    smileFeeReadSram s (ws.foldl (SramWrite.exec s) m) (some buf) addr size = ((size.toNat : Int),
      some (buf.write 0 (Mem.read (fun x => (lastWrite (ws.flatMap (SramWrite.stores s)) x).getD (m x))
        (sramPtr s addr) size.toNat)))
  /-- Samples are accepted in the same ranges, and stored most significant byte first by every host. -/
  write16 : ∀ (h : Host) (buf : Nat → U16) (addr : U32) (nmemb : BitVec 64), 2 * nmemb.toNat < 2 ^ 64 →
    smileFeeWriteSram16 { s with host := h } m (some buf) addr nmemb =
      if SramRange addr (2 * nmemb.toNat) then (((2 * nmemb.toNat : Nat) : Int),
        m.write (sramPtr s addr) ((ofHalfwords .big buf).read 0 (2 * nmemb.toNat)))
      else (-1, m)
  read16 : ∀ (h : Host) (buf : Nat → U16) (addr : U32) (nmemb : BitVec 64), 2 * nmemb.toNat < 2 ^ 64 →
    smileFeeReadSram16 { s with host := h } m buf addr nmemb =
      if SramRange addr (2 * nmemb.toNat) then (((2 * nmemb.toNat : Nat) : Int),
        fun i => if i < nmemb.toNat then m.load16 .big (sramPtr s addr + 2 * i) else buf i)
      else (-1, buf)
  /-- Samples that were written are read as samples, and as their bytes. -/
  roundtrip16 : ∀ (buf buf' : Nat → U16) (b : Mem) (addr : U32) (nmemb : BitVec 64),
    SramRange addr (2 * nmemb.toNat) →
    let m' := (smileFeeWriteSram16 s m (some buf) addr nmemb).2
    (∀ i < nmemb.toNat, (smileFeeReadSram16 s m' buf' addr nmemb).2 i = buf i) ∧
      (smileFeeReadSram s m' (some b) addr (BitVec.ofNat 32 (2 * nmemb.toNat))).2 =
        some (b.write 0 ((ofHalfwords .big buf).read 0 (2 * nmemb.toNat)))

/-- A range of samples in the SRAM has a size of 24 bits. -/
theorem SramRange.fits {addr : U32} {n : Nat} (h : SramRange addr n) : n < 2 ^ 24 := by
  have hend := toNat_FEE_SRAM_END
  have hle := h.2
  omega

/-- **The four functions are a store.** -/
theorem sram_store (s : Mirror) (m : Mem) : SramStore s m where
  write buf addr size := writeSram_eq s m addr buf size
  read buf addr size := readSram_eq s m addr buf size
  inside _ _ h := h.inside s
  latest ws buf addr size h := by rw [SramWrite.run_eq, readSram_eq, if_pos h, Option.map_some]
  write16 h buf addr _ hfits := writeSram16_eq_ite { s with host := h } m addr hfits buf
  read16 h buf addr _ hfits := readSram16_eq_ite { s with host := h } m addr hfits buf
  roundtrip16 buf buf' b addr nmemb h := by
    have hlt := h.fits
    have hfits : 2 * nmemb.toNat < 2 ^ 64 := by omega
    have hlen : (BitVec.ofNat 32 (2 * nmemb.toNat)).toNat = 2 * nmemb.toNat := by
      rw [BitVec.toNat_ofNat]
      exact Nat.mod_eq_of_lt (by omega)
    have hread : (m.write (sramPtr s addr) ((ofHalfwords .big buf).read 0 (2 * nmemb.toNat))).read (sramPtr s addr)
        (2 * nmemb.toNat) = (ofHalfwords .big buf).read 0 (2 * nmemb.toNat) := read_write_same' _ _ _ _ (by simp)
    rw [writeSram16_eq_ite s m addr hfits, if_pos h]
    refine ⟨fun i hi => ?_, ?_⟩
    · rw [readSram16_eq_ite s _ addr hfits, if_pos h]
      simp only [if_pos hi]
      exact load16_of_read_eq hread hi
    · rw [readSram_eq, hlen, if_pos h, Option.map_some, hread]

end SmileFee
