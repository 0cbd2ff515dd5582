import SmileFee.FeeData
import SmileFee.Sram

/-!
# Images in the SRAM (`FEE/smile_fee_ctrl.c:4985-5171`, `SIM/fee_sim.c:1898-1978`)

| here | there |
| --- | --- |
| `smileFeeReadSram`, `smileFeeReadSram16`   | `smile_fee_read_sram`, `smile_fee_read_sram_16` (`smile_fee_ctrl.c:5002`, `:5038`) |
| `smileFeeWriteSram`, `smileFeeWriteSram16` | `smile_fee_write_sram`, `smile_fee_write_sram_16` (`:5090`, `:5131`) |
| `feeSimGetSramData`                        | `fee_sim_get_sram_data` (`fee_sim.c:1906`) |

A buffer of bytes or of samples is the array a pointer points to, apart from the mirror; what it holds
before it is written is arbitrary. `size_t` and `unsigned long` have 64 bits.

Both byte orders of the host are compiled to different code: one copies, the other swaps sample by
sample. What they do to the mirror is the same, **`writeSram16_eq`**, and the two sides of the CCDs do
not overlap; **`sramImage_roundtrip`** is about whole images.
-/

namespace SmileFee

open Word

def FEE_SRAM_SIDE_E_START : U32 := 0x00801800
def FEE_SRAM_SIDE_F_START : U32 := 0x00900C00

/-! ## Access to the mirror -/

/-- The checks of an access to bytes; the sum is one of 32 bits. -/
def SramRefused (addr size : U32) : Prop :=
  addr < FEE_SRAM_START ∨ addr > FEE_SRAM_END ∨ size > FEE_SRAM_SIZE ∨ addr + size > FEE_SRAM_END

/-- The checks of an access to samples; `size` is a `size_t`, and so is the sum. -/
def SramRefused16 (addr : U32) (size : BitVec 64) : Prop :=
  addr < FEE_SRAM_START ∨ addr > FEE_SRAM_END ∨ size > FEE_SRAM_SIZE.setWidth 64 ∨
    addr.setWidth 64 + size > FEE_SRAM_END.setWidth 64

instance (addr size : U32) : Decidable (SramRefused addr size) := inferInstanceAs (Decidable (_ ∨ _))
instance (addr : U32) (size : BitVec 64) : Decidable (SramRefused16 addr size) := inferInstanceAs (Decidable (_ ∨ _))

section

variable (s : Mirror) (m : Mem)

/-- `&smile_fee->sram[addr - FEE_SRAM_START]`. -/
def sramPtr (addr : U32) : Nat := s.sram + (addr - FEE_SRAM_START).toNat

/-- `smile_fee_read_sram` (`:5002`): the buffer afterwards. -/
def smileFeeReadSram (buf : Option Mem) (addr size : U32) : Int × Option Mem :=
  if SramRefused addr size then (-1, buf)
  else (size.toInt, buf.map fun buf => buf.write 0 (m.read (sramPtr s addr) size.toNat))

/-- `smile_fee_read_sram_16` (`:5038`). -/
def smileFeeReadSram16 (buf : Nat → U16) (addr : U32) (nmemb : BitVec 64) : Int × (Nat → U16) :=
  let size := 2 * nmemb
  if SramRefused16 addr size then (-1, buf) else
  match s.host with
  | .big =>
    let r := smileFeeReadSram s m (some (Mem.ofHalfwords .big buf)) addr (size.setWidth 32)
    (r.1, fun i => r.2.elim 0 fun b => b.load16 .big (2 * i))
  | .little =>
    ((size.setWidth 32).toInt, (List.range nmemb.toNat).foldl (fun buf i =>
      Function.update buf i (be16ToCpu .little (m.load16 .little (sramPtr s addr + 2 * i)))) buf)

/-- `smile_fee_write_sram` (`:5090`). -/
def smileFeeWriteSram (buf : Option Mem) (addr size : U32) : Int × Mem :=
  match buf with
  | none => (0, m)
  | some buf =>
    if SramRefused addr size then (-1, m)
    else (size.toInt, m.write (sramPtr s addr) (buf.read 0 size.toNat))

/-- `smile_fee_write_sram_16` (`:5131`). -/
def smileFeeWriteSram16 (buf : Option (Nat → U16)) (addr : U32) (nmemb : BitVec 64) : Int × Mem :=
  match buf with
  | none => (0, m)
  | some buf =>
    let size := 2 * nmemb
    if SramRefused16 addr size then (-1, m) else
    match s.host with
    | .big => smileFeeWriteSram s m (some (Mem.ofHalfwords .big buf)) addr (size.setWidth 32)
    | .little =>
      ((size.setWidth 32).toInt, (List.range nmemb.toNat).foldl (fun m i =>
        m.write (sramPtr s addr + 2 * i) (Mem.bytes16 .little (be16ToCpu .little (buf i)))) m)

end

/-! ## What is accepted -/

/-- The `len` bytes from `addr` on lie in the SRAM. -/
def SramRange (addr : U32) (len : Nat) : Prop :=
  FEE_SRAM_START.toNat ≤ addr.toNat ∧ addr.toNat + len ≤ FEE_SRAM_END.toNat

instance (addr : U32) (len : Nat) : Decidable (SramRange addr len) := inferInstanceAs (Decidable (_ ∧ _))

theorem sramRefused_iff (addr size : U32) : SramRefused addr size ↔ ¬ SramRange addr size.toNat := by
  have hstart := toNat_FEE_SRAM_START
  have hend := toNat_FEE_SRAM_END
  have hsize := toNat_FEE_SRAM_SIZE
  have haddr := addr.isLt
  simp only [SramRefused, SramRange, BitVec.lt_def, GT.gt, BitVec.toNat_add]
  omega

theorem toNat_two_mul {nmemb : BitVec 64} (hfits : 2 * nmemb.toNat < 2 ^ 64) :
    (2 * nmemb).toNat = 2 * nmemb.toNat := by
  rw [BitVec.toNat_mul]
  exact Nat.mod_eq_of_lt (by simpa using hfits)

theorem sramRefused16_iff (addr : U32) {nmemb : BitVec 64} (hfits : 2 * nmemb.toNat < 2 ^ 64) :
    SramRefused16 addr (2 * nmemb) ↔ ¬ SramRange addr (2 * nmemb.toNat) := by
  have hstart := toNat_FEE_SRAM_START
  have hend := toNat_FEE_SRAM_END
  have hsize := toNat_FEE_SRAM_SIZE
  have haddr := addr.isLt
  have hmul := toNat_two_mul hfits
  simp only [SramRefused16, SramRange, BitVec.lt_def, GT.gt, BitVec.toNat_add, BitVec.toNat_setWidth, hmul]
  omega

/-! ## What they do -/

/-- `n` samples from `addr` on lie in the SRAM. -/
structure InSram (addr : U32) (n : Nat) : Prop where
  start_le : FEE_SRAM_START.toNat ≤ addr.toNat
  le_end : addr.toNat + 2 * n ≤ FEE_SRAM_END.toNat

namespace InSram

variable {addr : U32} {nmemb : BitVec 64} (h : InSram addr nmemb.toNat)
include h

theorem fits : 2 * nmemb.toNat < 2 ^ 64 := by
  have hend := toNat_FEE_SRAM_END
  have hle := h.le_end
  omega

theorem toNat_size : (2 * nmemb).toNat = 2 * nmemb.toNat := toNat_two_mul h.fits

theorem toNat_size32 : ((2 * nmemb).setWidth 32).toNat = 2 * nmemb.toNat := by
  have hend := toNat_FEE_SRAM_END
  have hle := h.le_end
  rw [BitVec.toNat_setWidth, h.toNat_size]
  omega

theorem sramRange : SramRange addr (2 * nmemb.toNat) := ⟨h.start_le, h.le_end⟩

theorem not_refused16 : ¬ SramRefused16 addr (2 * nmemb) := by
  rw [sramRefused16_iff addr h.fits, not_not]
  exact h.sramRange

theorem not_refused : ¬ SramRefused addr ((2 * nmemb).setWidth 32) := by
  rw [sramRefused_iff, not_not, h.toNat_size32]
  exact h.sramRange

end InSram

/-- Samples stored one after the other, most significant byte first. -/
theorem storeSamples_eq (m : Mem) (a : Nat) (buf : Nat → U16) (n : Nat) :
    (List.range n).foldl (fun m i => m.write (a + 2 * i) (Mem.bytes16 .little (be16ToCpu .little (buf i)))) m =
      m.write a ((Mem.ofHalfwords .big buf).read 0 (2 * n)) := by
  induction n with
  | zero => simp
  | succ n ih =>
    have hlast : (Mem.ofHalfwords .big buf).read (2 * n) 2 = [u8 (buf n >>> 8), u8 (buf n)] := by
      have hdiv : (2 * n + 1) / 2 = n := by omega
      simp [Mem.read_succ, Mem.ofHalfwords, Mem.bytes16, hdiv]
    have happ := Mem.write_write_append m a ((Mem.ofHalfwords .big buf).read 0 (2 * n))
      [u8 (buf n >>> 8), u8 (buf n)]
    rw [Mem.length_read] at happ
    rw [List.range_succ, List.foldl_append, ih, List.foldl_cons, List.foldl_nil, Mem.bytes16_be16ToCpu, happ,
      Nat.mul_add, Mem.read_add, Nat.zero_add]
    simp only [Nat.mul_one, hlast]

/-- **A write of samples** is the same on every host. -/
theorem writeSram16_eq (s : Mirror) (m : Mem) (buf : Nat → U16) {addr : U32} {nmemb : BitVec 64}
    (h : InSram addr nmemb.toNat) : smileFeeWriteSram16 s m (some buf) addr nmemb =
      (((2 * nmemb).setWidth 32).toInt,
        m.write (sramPtr s addr) ((Mem.ofHalfwords .big buf).read 0 (2 * nmemb.toNat))) := by
  unfold smileFeeWriteSram16
  dsimp only
  rw [if_neg h.not_refused16]
  cases s.host with
  | big =>
    simp only [smileFeeWriteSram]
    rw [if_neg h.not_refused, h.toNat_size32]
  | little => rw [storeSamples_eq]

theorem loadSamples_eq (f buf : Nat → U16) (n : Nat) :
    (List.range n).foldl (fun buf i => Function.update buf i (f i)) buf = fun i => if i < n then f i else buf i := by
  induction n with
  | zero => simp
  | succ n ih =>
    funext i
    rw [List.range_succ, List.foldl_append, ih, List.foldl_cons, List.foldl_nil, Function.update_apply]
    by_cases hi : i = n
    · simp [hi]
    · simp only [if_neg hi]
      have hiff : i < n + 1 ↔ i < n := by omega
      simp only [hiff]

/-- **A read of samples** too. -/
theorem readSram16_eq (s : Mirror) (m : Mem) (buf : Nat → U16) {addr : U32} {nmemb : BitVec 64}
    (h : InSram addr nmemb.toNat) {i : Nat} (hi : i < nmemb.toNat) :
    (smileFeeReadSram16 s m buf addr nmemb).2 i = m.load16 .big (sramPtr s addr + 2 * i) := by
  unfold smileFeeReadSram16
  dsimp only
  rw [if_neg h.not_refused16]
  cases s.host with
  | big =>
    simp only [smileFeeReadSram]
    rw [if_neg h.not_refused, h.toNat_size32]
    simp only [Option.map_some, Option.elim_some, Mem.load16]
    have hb (j : Nat) (hj : j < 2 * nmemb.toNat) :
        (Mem.ofHalfwords .big buf).write 0 (m.read (sramPtr s addr) (2 * nmemb.toNat)) j = m (sramPtr s addr + j) := by
      have := Mem.write_inside (Mem.ofHalfwords .big buf) 0 (m.read (sramPtr s addr) (2 * nmemb.toNat)) j
        (by simpa using hj)
      rwa [Nat.zero_add, Mem.getElem_read] at this
    rw [hb _ (by omega), hb _ (by omega), Nat.add_assoc]
  | little =>
    simp only [loadSamples_eq, if_pos hi]
    exact Mem.be16ToCpu_load16 .little m _

/-! ## Interleaved images -/

/-- The number of samples of one side, `2 * rows * cols`. -/
def SIDE_SAMPLES : BitVec 64 := BitVec.ofNat 64 (2 * FEE_EDU_FRAME_6x6_ROWS * FEE_EDU_FRAME_6x6_COLS)

theorem toNat_SIDE_SAMPLES : SIDE_SAMPLES.toNat = 2 * (FEE_EDU_FRAME_6x6_ROWS * FEE_EDU_FRAME_6x6_COLS) := by decide

theorem toInt_size_SIDE_SAMPLES : ((2 * SIDE_SAMPLES).setWidth 32).toInt =
    4 * (FEE_EDU_FRAME_6x6_ROWS * FEE_EDU_FRAME_6x6_COLS : Nat) := by decide

/-- `fee_sim_get_sram_data` (`:1906`): `buf`, `eBuf` and `fBuf` are the buffers as they were allocated. -/
def feeSimGetSramData (s : Mirror) (m : Mem) (buf eBuf fBuf : Nat → U16) (node : U16) : Nat → U16 :=
  let rows := FEE_EDU_FRAME_6x6_ROWS
  let cols := FEE_EDU_FRAME_6x6_COLS
  let eBuf := (smileFeeReadSram16 s m eBuf FEE_SRAM_SIDE_E_START SIDE_SAMPLES).2
  let fBuf := (smileFeeReadSram16 s m fBuf FEE_SRAM_SIDE_F_START SIDE_SAMPLES).2
  let copy (src : Nat → Nat) (from_ buf : Nat → U16) : Nat → U16 :=
    (List.range (rows * cols)).foldl (fun buf i => Function.update buf i (from_ (src i))) buf
  let buf := if node = Node.E4.bit then copy (fun i => 2 * i) eBuf buf else buf
  let buf := if node = Node.E2.bit then copy (fun i => 2 * i + 1) eBuf buf else buf
  let buf := if node = Node.F4.bit then copy (fun i => 2 * i) fBuf buf else buf
  if node = Node.F2.bit then copy (fun i => 2 * i + 1) fBuf buf else buf

/-- The samples of two frames in turn. -/
def interleave (ccd4 ccd2 : Nat → U16) (j : Nat) : U16 := if j % 2 = 0 then ccd4 (j / 2) else ccd2 (j / 2)

/-- The upload of the frames of the E side. -/
def writeSideE (s : Mirror) (frame : Node → Nat → U16) (m : Mem) : Int × Mem :=
  smileFeeWriteSram16 s m (some (interleave (frame .E4) (frame .E2))) FEE_SRAM_SIDE_E_START SIDE_SAMPLES

/-- The upload of the frames of the F side. -/
def writeSideF (s : Mirror) (frame : Node → Nat → U16) (m : Mem) : Int × Mem :=
  smileFeeWriteSram16 s m (some (interleave (frame .F4) (frame .F2))) FEE_SRAM_SIDE_F_START SIDE_SAMPLES

namespace Node

/-- Where the samples of a node are among those of its side: CCD 4 comes first. -/
def sample (i : Nat) : Node → Nat
  | E4 | F4 => 2 * i
  | E2 | F2 => 2 * i + 1

/-- Where the samples of the side of a node begin. -/
def sideStart : Node → U32
  | E4 | E2 => FEE_SRAM_SIDE_E_START
  | F4 | F2 => FEE_SRAM_SIDE_F_START

/-- The samples of the side of a node. -/
def sideSamples (frame : Node → Nat → U16) : Node → Nat → U16
  | E4 | E2 => interleave (frame .E4) (frame .E2)
  | F4 | F2 => interleave (frame .F4) (frame .F2)

theorem sample_lt (nd : Node) {i : Nat} (hi : i < FEE_EDU_FRAME_6x6_ROWS * FEE_EDU_FRAME_6x6_COLS) :
    nd.sample i < SIDE_SAMPLES.toNat := by
  rw [toNat_SIDE_SAMPLES]
  cases nd <;> (simp only [sample]; omega)

theorem sideSamples_sample (frame : Node → Nat → U16) (nd : Node) (i : Nat) :
    nd.sideSamples frame (nd.sample i) = frame nd i := by
  have hdiv : (2 * i + 1) / 2 = i := by omega
  have hodd : (2 * i + 1) % 2 = 1 := by omega
  cases nd <;> simp [sideSamples, sample, interleave, hdiv, hodd]

end Node

theorem inSram_sideE : InSram FEE_SRAM_SIDE_E_START SIDE_SAMPLES.toNat := by constructor <;> decide

theorem inSram_sideF : InSram FEE_SRAM_SIDE_F_START SIDE_SAMPLES.toNat := by constructor <;> decide

/-- The samples of the E side end before those of the F side begin. -/
theorem sideE_below_sideF (s : Mirror) :
    sramPtr s FEE_SRAM_SIDE_E_START + 2 * SIDE_SAMPLES.toNat ≤ sramPtr s FEE_SRAM_SIDE_F_START := by
  have h : (FEE_SRAM_SIDE_E_START - FEE_SRAM_START).toNat + 2 * SIDE_SAMPLES.toNat ≤
    (FEE_SRAM_SIDE_F_START - FEE_SRAM_START).toNat := by decide
  simp only [sramPtr]
  omega

/-- **What is extracted for a node** are its samples on its side. -/
theorem getSramData_eq (s : Mirror) (m : Mem) (buf eBuf fBuf : Nat → U16) (nd : Node) {i : Nat}
    (hi : i < FEE_EDU_FRAME_6x6_ROWS * FEE_EDU_FRAME_6x6_COLS) :
    feeSimGetSramData s m buf eBuf fBuf nd.bit i = m.load16 .big (sramPtr s nd.sideStart + 2 * nd.sample i) := by
  have hE := fun nd' => readSram16_eq s m eBuf inSram_sideE (Node.sample_lt nd' hi)
  have hF := fun nd' => readSram16_eq s m fBuf inSram_sideF (Node.sample_lt nd' hi)
  unfold feeSimGetSramData
  simp only [loadSamples_eq]
  cases nd with
  | E2 => simpa [Node.bit, Node.sample, Node.sideStart, hi] using hE .E2
  | F2 => simpa [Node.bit, Node.sample, Node.sideStart, hi] using hF .F2
  | E4 => simpa [Node.bit, Node.sample, Node.sideStart, hi] using hE .E4
  | F4 => simpa [Node.bit, Node.sample, Node.sideStart, hi] using hF .F4

/-- A side that has been written gives the frames of its nodes. -/
theorem getSramData_of_side {s : Mirror} {m : Mem} {frame : Node → Nat → U16} {nd : Node}
    (h : m.read (sramPtr s nd.sideStart) (2 * SIDE_SAMPLES.toNat) =
      (Mem.ofHalfwords .big (nd.sideSamples frame)).read 0 (2 * SIDE_SAMPLES.toNat))
    (buf eBuf fBuf : Nat → U16) {i : Nat} (hi : i < FEE_EDU_FRAME_6x6_ROWS * FEE_EDU_FRAME_6x6_COLS) :
    feeSimGetSramData s m buf eBuf fBuf nd.bit i = frame nd i := by
  rw [getSramData_eq s m buf eBuf fBuf nd hi, Mem.load16_of_read_eq h (nd.sample_lt hi)]
  exact nd.sideSamples_sample frame i

/-- Writing one side leaves the samples of the other. -/
theorem read_side_of_writeSideE (s : Mirror) (frame : Node → Nat → U16) (m : Mem) :
    (writeSideE s frame m).2.read (sramPtr s FEE_SRAM_SIDE_F_START) (2 * SIDE_SAMPLES.toNat) =
      m.read (sramPtr s FEE_SRAM_SIDE_F_START) (2 * SIDE_SAMPLES.toNat) := by
  have hle := sideE_below_sideF s
  rw [writeSideE, writeSram16_eq s m _ inSram_sideE]
  exact Mem.read_write_disjoint _ _ _ _ _ (Or.inr (by simpa using hle))

theorem read_side_of_writeSideF (s : Mirror) (frame : Node → Nat → U16) (m : Mem) :
    (writeSideF s frame m).2.read (sramPtr s FEE_SRAM_SIDE_E_START) (2 * SIDE_SAMPLES.toNat) =
      m.read (sramPtr s FEE_SRAM_SIDE_E_START) (2 * SIDE_SAMPLES.toNat) := by
  have hle := sideE_below_sideF s
  rw [writeSideF, writeSram16_eq s m _ inSram_sideF]
  exact Mem.read_write_disjoint _ _ _ _ _ (Or.inl hle)

theorem read_writeSideE (s : Mirror) (frame : Node → Nat → U16) (m : Mem) :
    (writeSideE s frame m).2.read (sramPtr s FEE_SRAM_SIDE_E_START) (2 * SIDE_SAMPLES.toNat) =
      (Mem.ofHalfwords .big (interleave (frame .E4) (frame .E2))).read 0 (2 * SIDE_SAMPLES.toNat) := by
  rw [writeSideE, writeSram16_eq s m _ inSram_sideE]
  exact Mem.read_write_same' _ _ _ _ (by simp)

theorem read_writeSideF (s : Mirror) (frame : Node → Nat → U16) (m : Mem) :
    (writeSideF s frame m).2.read (sramPtr s FEE_SRAM_SIDE_F_START) (2 * SIDE_SAMPLES.toNat) =
      (Mem.ofHalfwords .big (interleave (frame .F4) (frame .F2))).read 0 (2 * SIDE_SAMPLES.toNat) := by
  rw [writeSideF, writeSram16_eq s m _ inSram_sideF]
  exact Mem.read_write_same' _ _ _ _ (by simp)

/-- What is extracted for a node depends on the samples of its side only. -/
theorem getSramData_congr {s : Mirror} {m m' : Mem} {nd : Node}
    (h : m'.read (sramPtr s nd.sideStart) (2 * SIDE_SAMPLES.toNat) =
      m.read (sramPtr s nd.sideStart) (2 * SIDE_SAMPLES.toNat))
    (buf eBuf fBuf : Nat → U16) {i : Nat} (hi : i < FEE_EDU_FRAME_6x6_ROWS * FEE_EDU_FRAME_6x6_COLS) :
    feeSimGetSramData s m' buf eBuf fBuf nd.bit i = feeSimGetSramData s m buf eBuf fBuf nd.bit i := by
  have hlt := nd.sample_lt hi
  rw [getSramData_eq s m' buf eBuf fBuf nd hi, getSramData_eq s m buf eBuf fBuf nd hi]
  simp only [Mem.load16]
  rw [Mem.eq_of_read_eq h (by omega) (by omega), Mem.eq_of_read_eq h (by omega) (by omega)]

/-- **Images come back from the SRAM**: whatever the frames, on either host and in either order of the
two uploads, each node gets its own frame; and neither upload changes what is extracted for the nodes
of the other side. -/
theorem sramImage_roundtrip (s : Mirror) (m : Mem) (frame : Node → Nat → U16) (buf eBuf fBuf : Nat → U16) :
    (writeSideE s frame m).1 = 4 * (FEE_EDU_FRAME_6x6_ROWS * FEE_EDU_FRAME_6x6_COLS : Nat) ∧
    (writeSideF s frame m).1 = 4 * (FEE_EDU_FRAME_6x6_ROWS * FEE_EDU_FRAME_6x6_COLS : Nat) ∧
    (∀ nd i, i < FEE_EDU_FRAME_6x6_ROWS * FEE_EDU_FRAME_6x6_COLS →
      feeSimGetSramData s (writeSideF s frame (writeSideE s frame m).2).2 buf eBuf fBuf (Node.bit nd) i = frame nd i ∧
      feeSimGetSramData s (writeSideE s frame (writeSideF s frame m).2).2 buf eBuf fBuf (Node.bit nd) i = frame nd i) ∧
    ∀ nd i, i < FEE_EDU_FRAME_6x6_ROWS * FEE_EDU_FRAME_6x6_COLS →
      (Node.ccdSide nd = FEE_CCD_SIDE_F → feeSimGetSramData s (writeSideE s frame m).2 buf eBuf fBuf nd.bit i =
        feeSimGetSramData s m buf eBuf fBuf nd.bit i) ∧
      (Node.ccdSide nd = FEE_CCD_SIDE_E → feeSimGetSramData s (writeSideF s frame m).2 buf eBuf fBuf nd.bit i =
        feeSimGetSramData s m buf eBuf fBuf nd.bit i) := by
  refine ⟨?_, ?_, fun nd i hi => ⟨?_, ?_⟩, fun nd i hi => ⟨fun hside => ?_, fun hside => ?_⟩⟩
  · rw [writeSideE, writeSram16_eq s m _ inSram_sideE]
    exact toInt_size_SIDE_SAMPLES
  · rw [writeSideF, writeSram16_eq s m _ inSram_sideF]
    exact toInt_size_SIDE_SAMPLES
  · refine getSramData_of_side ?_ buf eBuf fBuf hi
    cases nd with
    | E2 | E4 => exact (read_side_of_writeSideF s frame _).trans (read_writeSideE s frame m)
    | F2 | F4 => exact read_writeSideF s frame _
  · refine getSramData_of_side ?_ buf eBuf fBuf hi
    cases nd with
    | E2 | E4 => exact read_writeSideE s frame _
    | F2 | F4 => exact (read_side_of_writeSideE s frame _).trans (read_writeSideF s frame m)
  · refine getSramData_congr ?_ buf eBuf fBuf hi
    cases nd with
    | E2 | E4 => exact absurd hside (by decide)
    | F2 | F4 => exact read_side_of_writeSideE s frame m
  · refine getSramData_congr ?_ buf eBuf fBuf hi
    cases nd with
    | E2 | E4 => exact read_side_of_writeSideF s frame m
    | F2 | F4 => exact absurd hside (by decide)

end SmileFee
