import SmileFee.GresbTarget
import SmileFee.SramChunks

/-!
# Uploads to the SRAM (`FEE/smile_fee_ctrl.c:5243-5300`)

`smile_fee_sync_mirror_to_sram` hands its chunks over one after the other. One that is refused for now is tried again,
one that fails ends the upload, but may have been sent all the same. So an upload always takes the range up to some
point, and to its end if it returns 0: **`mirrorToSram_takes`**.

A chunk is a command that the simulator serves as a write to its SRAM, **`chunk_isSramWrite`**, provided that the range
ends in the SRAM: the checks here let it end one byte later, and the simulator calls `exit` then.
-/

namespace SmileFee

open Word Mem

section Rule

variable {S : Type} {chunk : U32 → U32 → S → Int × S} {I : Nat → S → Prop} {size : Nat}

/-- `I n` holds of the states in which the first `n` bytes have been taken. A chunk is taken if it is accepted, and
perhaps if it fails. -/
def ChunkTakes (chunk : U32 → U32 → S → Int × S) (I : Nat → S → Prop) (size : Nat) : Prop :=
  ∀ off len s, off.toNat + len.toNat ≤ size → I off.toNat s →
    (0 < (chunk off len s).1 → I off.toNat (chunk off len s).2) ∧
    ((chunk off len s).1 = 0 → I (off.toNat + len.toNat) (chunk off len s).2) ∧
    ((chunk off len s).1 < 0 → I off.toNat (chunk off len s).2 ∨ I (off.toNat + len.toNat) (chunk off len s).2)

theorem lastChunk_takes (hchunk : ChunkTakes chunk I size) {fuel : Nat} {off left : U32} {s s' : S} {rc : Int}
    (hoff : left ≠ 0 → off.toNat + left.toNat = size) (hle : left.toNat ≤ size) (hI : I (size - left.toNat) s)
    (h : lastChunk chunk fuel off left s = some (rc, s')) : ∃ n ≤ size, I n s' ∧ (rc = 0 → n = size) := by
  induction fuel generalizing left s with
  | zero => cases h
  | succ fuel ih =>
    rw [lastChunk] at h
    split at h
    · rename_i hleft
      have hsz := hoff hleft
      have hsub : size - left.toNat = off.toNat := by omega
      rw [hsub] at hI
      obtain ⟨hretry, hacc, hfail⟩ := hchunk off left s hsz.le hI
      rcases chunk off left s with ⟨ret, s1⟩
      simp only at h hretry hacc hfail
      split at h
      · rename_i hret
        exact ih hoff hle (hsub ▸ hretry hret) h
      · split at h
        · rename_i hret
          obtain ⟨rfl, rfl⟩ := Prod.mk.inj (Option.some.inj h)
          rcases hfail hret with hI' | hI'
          · exact ⟨_, by omega, hI', fun h0 => by cases h0⟩
          · exact ⟨_, hsz.le, hI', fun h0 => by cases h0⟩
        · refine ih (fun h0 => absurd rfl h0) (Nat.zero_le _) ?_ h
          rw [show size - (0 : U32).toNat = off.toNat + left.toNat by rw [hsz]; rfl]
          exact hacc (by omega)
    · rename_i hleft
      obtain rfl := not_not.1 hleft
      obtain ⟨rfl, rfl⟩ := Prod.mk.inj (Option.some.inj h)
      exact ⟨size, le_rfl, hI, fun _ => rfl⟩

theorem mtuChunks_takes (hchunk : ChunkTakes chunk I size) (hsize : size < 2 ^ 32) {mtu : U32} {fuel : Nat}
    {off left : U32} {s s' : S} {rc : Int} (hoff : off.toNat + left.toNat = size) (hI : I off.toNat s)
    (h : mtuChunks (fun _ s => some s) chunk mtu fuel off left s = some (rc, s')) :
    ∃ n ≤ size, I n s' ∧ (rc = 0 → n = size) := by
  induction fuel generalizing off left s with
  | zero => cases h
  | succ fuel ih =>
    rw [mtuChunks] at h
    split at h
    · rename_i hleft
      have hle : mtu.toNat ≤ left.toNat := hleft
      obtain ⟨hretry, hacc, hfail⟩ := hchunk off mtu s (by omega) hI
      rcases chunk off mtu s with ⟨ret, s1⟩
      simp only at h hretry hacc hfail
      split at h
      · rename_i hret
        exact ih hoff (hretry hret) h
      · split at h
        · rename_i hret
          obtain ⟨rfl, rfl⟩ := Prod.mk.inj (Option.some.inj h)
          rcases hfail hret with hI' | hI'
          · exact ⟨_, by omega, hI', fun h0 => by cases h0⟩
          · exact ⟨_, by omega, hI', fun h0 => by cases h0⟩
        · have hleft' : (left - mtu).toNat = left.toNat - mtu.toNat := BitVec.toNat_sub_of_le hleft
          have hoff' : (off + mtu).toNat = off.toNat + mtu.toNat := BitVec.toNat_add_of_lt (by omega)
          refine ih (by omega) ?_ h
          rw [hoff']
          exact hacc (by omega)
    · have hsub : size - left.toNat = off.toNat := by omega
      exact lastChunk_takes hchunk (fun _ => hoff) (by omega) (hsub ▸ hI) h

/-- **What an upload has taken**, whatever it returns. -/
theorem mirrorToSram_takes {E : Type} {cb : Callbacks E} {mir : Mirror} {addr size mtu : U32} {fuel : Nat}
    {s s' : Sys E} {rc : Int} {I : Nat → Sys E → Prop} (hI : I 0 s)
    (hchunk : ¬ SyncRefused addr size → ChunkTakes (fun off len s => smileFeeSyncData cb s feeWriteCmdData
      (syncCall mir addr off len).addr (syncCall mir addr off len).data len false) I size.toNat)
    (h : smileFeeSyncMirrorToSram cb mir fuel addr size mtu s = some (rc, s')) :
    ∃ n ≤ size.toNat, I n s' ∧ (rc = 0 → n = size.toNat) := by
  rw [(syncFn_exec_eq cb mir fuel addr size mtu s).1, SyncFn.exec, syncSram_eq] at h
  split at h
  · obtain ⟨rfl, rfl⟩ := Prod.mk.inj (Option.some.inj h)
    exact ⟨0, Nat.zero_le _, hI, fun h0 => by cases h0⟩
  · rename_i hacc
    have hstart : I (0 : U32).toNat s := hI
    exact mtuChunks_takes (hchunk hacc) size.isLt (Nat.zero_add _) hstart h

end Rule

/-! ## The chunks as commands -/

/-- The command writes byte `x` of the SRAM. -/
def Cmd.Covers (c : Cmd) (x : Nat) : Prop :=
  c.addr.toNat ≤ FEE_SRAM_START.toNat + x ∧ FEE_SRAM_START.toNat + x < c.addr.toNat + c.len.toNat

instance (c : Cmd) (x : Nat) : Decidable (c.Covers x) := inferInstanceAs (Decidable (_ ∧ _))

/-- The bytes that a write to the SRAM carries are those of the mirror in the memory `m`. -/
def Cmd.CopyOf (cfg : RmapCfg) (mir : Mirror) (m : Mem) (c : Cmd) : Prop :=
  c.IsSramWrite cfg → c.data = some (m.read (sramPtr mir c.addr) c.len.toNat)

/-- A copy depends on the SRAM of the mirror only. -/
theorem Cmd.CopyOf.congr {cfg : RmapCfg} {mir : Mirror} (hmir : mir.Apart) {m m' : Mem} {c : Cmd} (h : c.CopyOf cfg mir m)
    (hm : ∀ x, ¬ mir.InRegs x → m' x = m x) : c.CopyOf cfg mir m' := by
  intro hc
  obtain ⟨hptr, hend⟩ := hc.2.2.1.inside mir
  rw [h hc]
  refine congrArg some (read_congr fun x hlo hhi => (hm x ?_).symm)
  obtain ⟨i, rfl⟩ := Nat.exists_eq_add_of_le (show mir.sram ≤ x by omega)
  exact hmir.not_inRegs (by omega)

/-- The part of the SRAM from `off` on, of an upload that is not refused and ends in the SRAM. -/
theorem sramRange_part {addr size : U32} (hacc : ¬ SyncRefused addr size)
    (hin : addr.toNat + size.toNat ≤ FEE_SRAM_END.toNat) {off len : U32} (hoff : off.toNat + len.toNat ≤ size.toNat) :
    SramRange (addr + off) len.toNat ∧ (addr + off).toNat = addr.toNat + off.toNat := by
  rw [syncRefused_iff, not_not] at hacc
  obtain ⟨-, hlo, -, -⟩ := hacc
  have hend := toNat_FEE_SRAM_END
  have hadd : (addr + off).toNat = addr.toNat + off.toNat := BitVec.toNat_add_of_lt (by omega)
  rw [SramRange, hadd]
  exact ⟨⟨by omega, by omega⟩, rfl⟩

theorem syncCall_data (mir : Mirror) (addr off len : U32) : (syncCall mir addr off len).data = sramPtr mir (addr + off) := by
  have hsub : addr - FEE_SRAM_START + off = addr + off - FEE_SRAM_START := by
    generalize FEE_SRAM_START = start
    bv_omega
  rw [sramPtr, ← hsub]
  rfl

/-- **A chunk** is a write to the SRAM. -/
theorem chunk_isSramWrite {cfg : RmapCfg} (hd : cfg.dpath = []) (slot : U16) {addr len : U32}
    (hin : SramRange addr len.toNat) {a : Nat} (ha : a ≠ 0) (m : Mem) : ∃ c : Cmd,
    c = ⟨feeWriteCmdData cfg slot addr len, cfg.dpath.length, txData m a len.toNat⟩ ∧ c.IsSramWrite cfg ∧
      c.addr = addr ∧ c.data = some (m.read a len.toNat) := by
  have hend := toNat_FEE_SRAM_END
  have hhi := hin.2
  have hmax : len.toNat ≤ RMAP_MAX_DATA_LEN := by
    simp only [RMAP_MAX_DATA_LEN]
    omega
  have hdata : txData m a len.toNat = some (m.read a len.toNat) := if_neg ha
  have haddr := addr_genCmd cfg slot addr len (by decide : rmapValidateCmdCode RMAP_WRITE_ADDR_INC_REPLY = true)
    (txData m a len.toNat)
  have hid := trId_genCmd cfg slot addr len (by decide : rmapValidateCmdCode RMAP_WRITE_ADDR_INC_REPLY = true)
    (txData m a len.toNat)
  have hlen := len_genCmd cfg slot addr (by decide : rmapValidateCmdCode RMAP_WRITE_ADDR_INC_REPLY = true) hmax
    (txData m a len.toNat)
  refine ⟨_, rfl, ⟨by rw [hd]; rfl, ?_, ?_, ?_⟩, haddr, hdata⟩
  · rw [feeWriteCmdData, haddr, hid, hlen]
    rfl
  · rw [feeWriteCmdData, haddr, hlen]
    exact hin
  · rw [feeWriteCmdData, hlen, hdata, Option.map_some, length_read]

end SmileFee
