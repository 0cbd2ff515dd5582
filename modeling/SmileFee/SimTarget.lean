import SmileFee.SimModes

/-!
# The memory that the RMAP target of the simulator reaches (`SIM/smile_fee_sim.c:524-610`)

| here | there |
| --- | --- |
| `simCopy`            | the call of `memcpy` from or to `&mem[local_addr]` (`:577`, `:593`, `:608`) |
| `Mirror.InTarget`    | the registers before the member `sram` of `smile_fee_mem`, and the `FEE_SRAM_SIZE` bytes it points to |

The address of a register transfer is compared with the end of the registers, its length is not. The end of an SRAM
transfer is compared with the end of the SRAM, but in 32 bits. **`targetSafe_iff`** says for which commands this is
enough.
-/

namespace SmileFee

/-- The codes of the commands that are carried out. -/
def simImplements (cmd : U8) : Bool :=
  cmd == RMAP_READ_ADDR_INC || cmd == RMAP_WRITE_ADDR_INC_VERIFY_REPLY || cmd == RMAP_WRITE_ADDR_INC_REPLY

/-- What is copied from or to the memory of the target: where, and how many bytes. `none` if nothing is. -/
def simCopy (sim : Mirror) (rp : RmapPkt) : Option (Nat × Nat) :=
  match simLocalAddr sim rp with
  | none => none
  | some a => if simImplements (riCmd rp.instruction) then some (a, rp.dataLen.toNat) else none

theorem simCopy_eq_none_iff {sim : Mirror} {rp : RmapPkt} :
    simCopy sim rp = none ↔ simLocalAddr sim rp = none ∨ simImplements (riCmd rp.instruction) = false := by
  rw [simCopy]
  cases simLocalAddr sim rp <;> simp

/-- The byte is read or written. -/
def SimTouches (sim : Mirror) (rp : RmapPkt) (x : Nat) : Prop :=
  ∃ a n, simCopy sim rp = some (a, n) ∧ a ≤ x ∧ x < a + n

/-! ## No other byte is read or written -/

section

variable {sim : Mirror} {rp : RmapPkt} {a : Nat} (ha : simLocalAddr sim rp = some a)
include ha

theorem simTouches_of_implements (hi : simImplements (riCmd rp.instruction) = true) {x : Nat} (h1 : a ≤ x)
    (h2 : x < a + rp.dataLen.toNat) : SimTouches sim rp x :=
  ⟨a, rp.dataLen.toNat, by rw [simCopy, ha]; exact if_pos hi, h1, h2⟩

/-- A byte that is not touched keeps its value. -/
theorem simServe_frame (mem : Mem) (hlen : rp.data.length = rp.dataLen.toNat) {x : Nat} (hx : ¬ SimTouches sim rp x) :
    (simServe mem a rp).1 x = mem x := by
  have hwrite (hi : simImplements (riCmd rp.instruction) = true) : mem.write a rp.data x = mem x := by
    refine Mem.write_outside mem a rp.data x ?_
    by_contra hcon
    rw [not_or, not_lt, not_le, hlen] at hcon
    exact hx (simTouches_of_implements ha hi hcon.1 hcon.2)
  unfold simServe
  split
  · rfl
  · split
    · rename_i h
      exact hwrite (by rw [h]; decide)
    · split
      · rename_i h
        exact hwrite (by rw [h]; decide)
      · rfl

/-- The answer depends on the bytes that are touched. -/
theorem simServe_congr {mem mem' : Mem} (heq : ∀ x, SimTouches sim rp x → mem x = mem' x) :
    (simServe mem a rp).2 = (simServe mem' a rp).2 := by
  unfold simServe
  split
  · rename_i h
    have hread : mem.read a rp.dataLen.toNat = mem'.read a rp.dataLen.toNat :=
      Mem.read_congr fun x h1 h2 => heq x (simTouches_of_implements ha (by rw [h]; decide) h1 h2)
    simp only [hread]
  · split
    · rfl
    · split <;> rfl

end

/-! ## When it is in the target -/

/-- The byte is one of the registers or of the SRAM. -/
def Mirror.InTarget (sim : Mirror) (x : Nat) : Prop :=
  (sim.fee ≤ x ∧ x < sim.fee + OFFSET_OF_SRAM.toNat) ∨ (sim.sram ≤ x ∧ x < sim.sram + FEE_SRAM_SIZE.toNat)

/-- The range of a command leaves the block that its address is in. -/
def RmapPkt.Leaves (rp : RmapPkt) : Prop :=
  (rp.addr < OFFSET_OF_SRAM ∧ OFFSET_OF_SRAM.toNat < rp.addr.toNat + rp.dataLen.toNat) ∨
  (rp.addr ≥ FEE_SRAM_START ∧ FEE_SRAM_END.toNat < rp.addr.toNat + rp.dataLen.toNat)

/-- The target keeps to its memory, and copies nothing for a range that leaves its block. -/
structure TargetSafe (sim : Mirror) (rp : RmapPkt) : Prop where
  inside : ∀ x, SimTouches sim rp x → sim.InTarget x
  refused : rp.Leaves → simCopy sim rp = none

/-- The length of a decoded packet has 24 bits. -/
theorem dataLen_lt_of_decode {b : Buf} {rp : RmapPkt} (hdec : b.decode = some rp) : rp.dataLen.toNat < 2 ^ 24 := by
  obtain ⟨-, rfl⟩ := (b.decode_eq_some rp).1 hdec
  rw [Buf.packet_dataLen, Buf.dataLen, readDataLen]
  split
  · exact Word.join24_lt _ _ _
  · exact Nat.two_pow_pos 24

theorem toNat_OFFSET_OF_SRAM : OFFSET_OF_SRAM.toNat = 1944 := rfl

/-- A range that stays in its block. -/
theorem targetSafe_of_not_leaves {sim : Mirror} {rp : RmapPkt} (h : ¬ rp.Leaves) : TargetSafe sim rp := by
  refine ⟨?_, fun hl => absurd hl h⟩
  rintro x ⟨a, n, hcopy, h1, h2⟩
  have hstart := toNat_FEE_SRAM_START
  have hend := toNat_FEE_SRAM_END
  have hsize := toNat_FEE_SRAM_SIZE
  simp only [RmapPkt.Leaves, not_or, not_and, not_lt] at h
  simp only [simCopy] at hcopy
  split at hcopy
  · cases hcopy
  · rename_i a' ha
    split at hcopy
    · cases hcopy
      unfold simLocalAddr at ha
      split at ha
      · rename_i hreg
        have := h.1 hreg
        cases ha
        exact .inl (by omega)
      · split at ha
        · rename_i hsram
          have := h.2 hsram
          have hsub : (rp.addr - FEE_SRAM_START).toNat = rp.addr.toNat - FEE_SRAM_START.toNat :=
            BitVec.toNat_sub_of_le hsram
          rw [ge_iff_le, BitVec.le_def] at hsram
          split at ha
          · cases ha
          · cases ha
            exact .inr (by omega)
        · cases ha
    · cases hcopy

/-- The check of the SRAM lets a range pass that leaves it if its end has wrapped around, and past the start again. -/
theorem simLocalAddr_of_leaves {sim : Mirror} {rp : RmapPkt} (hl : rp.Leaves) (hlen : rp.dataLen.toNat < 2 ^ 24) :
    simLocalAddr sim rp = none ↔
      ¬ rp.addr < OFFSET_OF_SRAM ∧ (rp.addr.toNat + rp.dataLen.toNat < 2 ^ 32 ∨
        2 ^ 32 + FEE_SRAM_END.toNat < rp.addr.toNat + rp.dataLen.toNat) := by
  have hstart := toNat_FEE_SRAM_START
  have hend := toNat_FEE_SRAM_END
  have hoff := toNat_OFFSET_OF_SRAM
  have haddr := rp.addr.isLt
  unfold simLocalAddr
  rcases hl with ⟨hreg, -⟩ | ⟨hsram, hout⟩
  · rw [if_pos hreg]
    exact iff_of_false (Option.some_ne_none _) fun h => h.1 hreg
  · have hreg : ¬ rp.addr < OFFSET_OF_SRAM := by
      rw [BitVec.lt_def]
      rw [ge_iff_le, BitVec.le_def] at hsram
      omega
    have hwrap : (rp.addr + rp.dataLen > FEE_SRAM_END) ↔
        (rp.addr.toNat + rp.dataLen.toNat < 2 ^ 32 ∨
          2 ^ 32 + FEE_SRAM_END.toNat < rp.addr.toNat + rp.dataLen.toNat) := by
      rw [gt_iff_lt, BitVec.lt_def, BitVec.toNat_add]
      omega
    rw [if_neg hreg, if_pos hsram]
    split
    · rename_i h
      exact iff_of_true rfl ⟨hreg, hwrap.1 h⟩
    · rename_i h
      exact iff_of_false (Option.some_ne_none _) fun hcon => h (hwrap.2 hcon.2)

/-- A range that leaves its block. -/
theorem targetSafe_of_leaves {sim : Mirror} {rp : RmapPkt} (hl : rp.Leaves) :
    TargetSafe sim rp ↔ simCopy sim rp = none := by
  refine ⟨fun h => h.refused hl, fun h => ⟨?_, fun _ => h⟩⟩
  rintro x ⟨a, n, hcopy, -⟩
  rw [h] at hcopy
  cases hcopy

/-- **When the target keeps to its memory**, for every packet that is decoded. -/
theorem targetSafe_iff (sim : Mirror) {b : Buf} {rp : RmapPkt} (hdec : b.decode = some rp) :
    TargetSafe sim rp ↔ (simImplements (riCmd rp.instruction) = true →
      (rp.addr < OFFSET_OF_SRAM → rp.addr.toNat + rp.dataLen.toNat ≤ OFFSET_OF_SRAM.toNat) ∧
      (rp.addr.toNat + rp.dataLen.toNat < 2 ^ 32 ∨
        2 ^ 32 + FEE_SRAM_END.toNat < rp.addr.toNat + rp.dataLen.toNat)) := by
  have hlen : rp.dataLen.toNat < 2 ^ 24 := dataLen_lt_of_decode hdec
  by_cases hl : rp.Leaves
  · rw [targetSafe_of_leaves hl, simCopy_eq_none_iff, simLocalAddr_of_leaves hl hlen, Decidable.or_iff_not_imp_right,
      Bool.not_eq_false]
    refine imp_congr_right fun _ => and_congr_left fun _ => ⟨fun h hlt => absurd hlt h, fun h hlt => ?_⟩
    -- a register transfer that leaves its block is longer than the registers
    rcases hl with ⟨-, hout⟩ | ⟨hsram, -⟩
    · exact absurd (h hlt) (Nat.not_le.2 hout)
    · rw [ge_iff_le, BitVec.le_def, toNat_FEE_SRAM_START] at hsram
      rw [BitVec.lt_def, toNat_OFFSET_OF_SRAM] at hlt
      omega
  · refine iff_of_true (targetSafe_of_not_leaves hl) fun _ => ?_
    simp only [RmapPkt.Leaves, not_or, not_and, not_lt] at hl
    refine ⟨hl.1, .inl ?_⟩
    by_cases hsram : rp.addr ≥ FEE_SRAM_START
    · have hend := hl.2 hsram
      rw [toNat_FEE_SRAM_END] at hend
      omega
    · rw [ge_iff_le, BitVec.le_def, toNat_FEE_SRAM_START] at hsram
      omega

/-- A write with reply, as it is decoded. -/
def simWritten (addr : U32) (data : List U8) (hdrCrc dataCrc : U8) : RmapPkt :=
  { protoId := 1, instruction := 0x6c, trId := 7, addr, data, dataLen := BitVec.ofNat 32 data.length, hdrCrc, dataCrc }

/-- Its packet. -/
def simWrite (addr : U32) (data : List U8) : Buf :=
  ⟨packaged (smileFeePackage (fun _ => 0) (rmapBuildHdr (simWritten addr data 0 0)) 0 (some data)), fun _ => 0⟩

/-- A write to the last register. -/
theorem targetSafe_lastRegister :
    (simWrite 0x794 [1, 2, 3, 4]).decode = some (simWritten 0x794 [1, 2, 3, 4] 0x94 0x5d) ∧
      TargetSafe ⟨.little, 0x100, 0x1000⟩ (simWritten 0x794 [1, 2, 3, 4] 0x94 0x5d) :=
  have hdec : (simWrite 0x794 [1, 2, 3, 4]).decode = some (simWritten 0x794 [1, 2, 3, 4] 0x94 0x5d) := by
    decide +kernel
  ⟨hdec, (targetSafe_iff ⟨.little, 0x100, 0x1000⟩ hdec).2 (by decide)⟩

/-- The member `sram` is written with what is too long for the last register, and a write whose end wraps around is
beyond the SRAM. -/
theorem not_targetSafe :
    let sim : Mirror := ⟨.little, 0x100, 0x1000⟩
    let long := simWritten 0x794 [1, 2, 3, 4, 5, 6, 7, 8] 0x94 0xb0
    let wrapped := simWritten 0xFFFFFFFF [1, 2] 0xff 0x8e
    (simWrite 0x794 [1, 2, 3, 4, 5, 6, 7, 8]).decode = some long ∧
      SimTouches sim long (sim.fee + OFFSET_OF_SRAM.toNat) ∧ ¬ TargetSafe sim long ∧
    (simWrite 0xFFFFFFFF [1, 2]).decode = some wrapped ∧
      SimTouches sim wrapped (sim.sram + 0xFF7FFFFF) ∧ ¬ TargetSafe sim wrapped := by
  intro sim long wrapped
  have hlong : simCopy sim long = some (sim.fee + 0x794, 8) := by decide
  have hwrapped : simCopy sim wrapped = some (sim.sram + 0xFF7FFFFF, 2) := by decide
  refine ⟨by decide +kernel, ⟨_, _, hlong, by decide, by decide⟩, fun h => ?_, by decide +kernel,
    ⟨_, _, hwrapped, by decide, by decide⟩, fun h => ?_⟩
  · have hrefused := h.refused (.inl (by decide))
    rw [hlong] at hrefused
    cases hrefused
  · have hrefused := h.refused (.inr (by decide))
    rw [hwrapped] at hrefused
    cases hrefused

end SmileFee
