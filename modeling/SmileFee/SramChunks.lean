import SmileFee.SramSync
import SmileFee.SramAccess

/-!
# The chunks of the SRAM transfers (`FEE/smile_fee_ctrl.c:5243-5380`)

`SyncInv` relates the point where a run is to the chunks that have been accepted before it: they tile the range
from `addr` on up to that point. One step keeps it (`SyncInv.step`), so every run has it (`syncRun_inv`),
whatever the results of the calls.

* **`sync_partitions`**: what a run that returns has transferred;
* **`syncTerminates_iff`**: the transfers end, if the calls do, unless `mtu` is 0: nothing is ever left then;
* **`syncBounds_iff`**: the size of a transfer is compared with one more than the end of the SRAM, that of a read
  or a write with the end.
-/

namespace SmileFee

open Word Tiling

/-- The remote bytes of a call. -/
def SyncCall.piece (c : SyncCall) : Nat × Nat := (c.addr.toNat, c.len.toNat)

namespace SyncAt

variable {S : Type} (sync : SyncCall → S → Int × S) (mir : Mirror) (addr mtu : U32)

/-- The call that is made at this point, if one is made, and its result. -/
def handed : SyncAt S → Option (SyncCall × Int)
  | full off left s =>
    if left ≥ mtu then some (syncCall mir addr off mtu, (sync (syncCall mir addr off mtu) s).1) else none
  | last off left s =>
    if left ≠ 0 then some (syncCall mir addr off left, (sync (syncCall mir addr off left) s).1) else none
  | waiting .. | done .. => none

/-- The call, if it is accepted. -/
def taken (p : SyncAt S) : Option SyncCall :=
  (p.handed sync mir addr mtu).bind fun (c, ret) => if ret = 0 then some c else none

end SyncAt

namespace SyncFn

variable {S : Type} (sync : SyncCall → S → Int × S) (status : S → Int × S) (mir : Mirror)

/-- The chunks that are accepted in the first `n` steps. -/
def accepted (fn : SyncFn) (addr size mtu : U32) (s : S) (n : Nat) : List SyncCall :=
  (List.range n).filterMap fun k => (fn.run sync status mir addr size mtu s k).taken sync mir addr mtu

end SyncFn

/-! ## What is transferred -/

theorem and_three_eq_zero (a : U32) : a &&& 3 = 0 ↔ a.toNat % 4 = 0 := by
  rw [← BitVec.toNat_inj, BitVec.toNat_and]
  exact iff_of_eq (congrArg (· = 0) (Nat.and_two_pow_sub_one_eq_mod a.toNat 2))

/-- The transfers that are not refused, with sums that do not wrap around. -/
theorem syncRefused_iff (addr size : U32) : SyncRefused addr size ↔ ¬ (addr.toNat % 4 = 0 ∧
    FEE_SRAM_START.toNat ≤ addr.toNat ∧ addr.toNat + size.toNat ≤ FEE_SRAM_END.toNat + 1 ∧
    size.toNat ≤ FEE_SRAM_SIZE.toNat) := by
  have hstart := toNat_FEE_SRAM_START
  have hend := toNat_FEE_SRAM_END
  have hsize := toNat_FEE_SRAM_SIZE
  have hend' : (FEE_SRAM_END + 1).toNat = 0xBFFFFE := rfl
  have haddr := addr.isLt
  simp only [SyncRefused, ne_eq, and_three_eq_zero, BitVec.lt_def, GT.gt, BitVec.toNat_add, hend']
  omega

theorem SramRange.not_syncRefused {addr size : U32} (h : SramRange addr size.toNat) (h4 : addr.toNat % 4 = 0) :
    ¬ SyncRefused addr size := by
  have hstart := toNat_FEE_SRAM_START
  have hend := toNat_FEE_SRAM_END
  have hsize := toNat_FEE_SRAM_SIZE
  obtain ⟨hlo, hhi⟩ := h
  rw [syncRefused_iff, not_not]
  omega

/-- The bytes of a call, and the place of its first one in the mirror. -/
structure ChunkAt (mir : Mirror) (mtu : U32) (c : SyncCall) : Prop where
  pos : 0 < c.len.toNat
  le_mtu : c.len.toNat ≤ mtu.toNat
  data : c.data + FEE_SRAM_START.toNat = mir.sram + c.addr.toNat

/-- The chunks fill the remote range from `lo` to `hi`, one after the other. -/
structure Partition (mir : Mirror) (mtu : U32) (lo hi : Nat) (cs : List SyncCall) : Prop where
  tiles : Tiles lo (cs.map SyncCall.piece) hi
  chunks : ∀ c ∈ cs, ChunkAt mir mtu c

theorem Partition.nil (mir : Mirror) (mtu : U32) (lo : Nat) : Partition mir mtu lo lo [] :=
  ⟨rfl, by simp⟩

theorem Partition.concat {mir : Mirror} {mtu : U32} {lo hi : Nat} {cs : List SyncCall} (h : Partition mir mtu lo hi cs)
    {c : SyncCall} (hc : ChunkAt mir mtu c) (hhi : c.addr.toNat = hi) :
    Partition mir mtu lo (hi + c.len.toNat) (cs ++ [c]) := by
  constructor
  · rw [List.map_append, List.map_singleton, SyncCall.piece, hhi]
    exact h.tiles.concat hc.pos
  · intro d hd
    rcases List.mem_append.1 hd with hd | hd
    · exact h.chunks d hd
    · rw [List.mem_singleton.1 hd]
      exact hc

section

variable {S : Type} {sync : SyncCall → S → Int × S} {status : S → Int × S} {mir : Mirror} {addr size mtu : U32}

/-- What holds at the points of a run, when `cs` are the chunks accepted before. -/
def SyncInv (mir : Mirror) (addr size mtu : U32) (cs : List SyncCall) : SyncAt S → Prop
  | .full off left _ => off.toNat + left.toNat = size.toNat ∧
      Partition mir mtu addr.toNat (addr.toNat + off.toNat) cs
  -- the chunk has been counted, `off` and `left` are those before it
  | .waiting ret off left _ => off.toNat + left.toNat = size.toNat ∧ mtu.toNat ≤ left.toNat ∧
      Partition mir mtu addr.toNat (addr.toNat + off.toNat + if ret = 0 then mtu.toNat else 0) cs
  | .last off left _ => left.toNat ≤ mtu.toNat ∧ (left ≠ 0 → off.toNat + left.toNat = size.toNat) ∧
      Partition mir mtu addr.toNat (addr.toNat + (size.toNat - left.toNat)) cs
  | .done ret _ => (ret = 0 ∧ Partition mir mtu addr.toNat (addr.toNat + size.toNat) cs) ∨
      (ret = -1 ∧ ∃ hi < addr.toNat + size.toNat, Partition mir mtu addr.toNat hi cs)

/-- The call for a part of the range. -/
theorem syncCall_chunkAt (mir : Mirror) (mtu : U32) (hacc : ¬ SyncRefused addr size) {off len : U32}
    (hoff : off.toNat + len.toNat ≤ size.toNat) (hpos : 0 < len.toNat) (hmtu : len.toNat ≤ mtu.toNat) :
    ChunkAt mir mtu (syncCall mir addr off len) ∧ (syncCall mir addr off len).addr.toNat = addr.toNat + off.toNat := by
  rw [syncRefused_iff, not_not] at hacc
  obtain ⟨-, hlo, hhi, -⟩ := hacc
  have hstart := toNat_FEE_SRAM_START
  have hend := toNat_FEE_SRAM_END
  have haddr : (addr + off).toNat = addr.toNat + off.toNat := BitVec.toNat_add_of_lt (by omega)
  have hsub : (addr - FEE_SRAM_START).toNat = addr.toNat - FEE_SRAM_START.toNat := BitVec.toNat_sub_of_le hlo
  have hdata : (addr - FEE_SRAM_START + off).toNat = addr.toNat - FEE_SRAM_START.toNat + off.toNat := by
    rw [BitVec.toNat_add_of_lt (by omega), hsub]
  refine ⟨⟨hpos, hmtu, ?_⟩, haddr⟩
  simp only [syncCall, haddr, hdata]
  omega

/-- A call is made for a part of the range that is left, and it is the same part at every point that makes
this call. -/
theorem SyncInv.handed {cs : List SyncCall} {p : SyncAt S} (hp : SyncInv mir addr size mtu cs p)
    (hacc : ¬ SyncRefused addr size) (hmtu : 0 < mtu.toNat) {c : SyncCall} {ret : Int}
    (h : p.handed sync mir addr mtu = some (c, ret)) :
    ∃ off left s, off.toNat + left.toNat = size.toNat ∧ c.addr.toNat = addr.toNat + off.toNat ∧
      c.len.toNat ≤ left.toNat ∧ ChunkAt mir mtu c ∧ ret = (sync c s).1 ∧
      (mtu.toNat ≤ left.toNat ∧ c = syncCall mir addr off mtu ∧ p = .full off left s ∨
        left ≠ 0 ∧ c = syncCall mir addr off left ∧ p = .last off left s) := by
  cases p with
  | full off left s =>
    obtain ⟨hsum, -⟩ := hp
    simp only [SyncAt.handed, Option.ite_none_right_eq_some, Option.some.injEq, Prod.mk.injEq] at h
    obtain ⟨hleft, rfl, rfl⟩ := h
    have hle : mtu.toNat ≤ left.toNat := hleft
    have hin : off.toNat + mtu.toNat ≤ size.toNat := by omega
    obtain ⟨hc, haddr⟩ := syncCall_chunkAt mir mtu hacc hin hmtu le_rfl
    exact ⟨off, left, s, hsum, haddr, hle, hc, rfl, .inl ⟨hle, rfl, rfl⟩⟩
  | last off left s =>
    obtain ⟨hle, hsum, -⟩ := hp
    simp only [SyncAt.handed, Option.ite_none_right_eq_some, Option.some.injEq, Prod.mk.injEq] at h
    obtain ⟨hleft, rfl, rfl⟩ := h
    have hpos : 0 < left.toNat := Nat.pos_of_ne_zero fun h0 => hleft (BitVec.eq_of_toNat_eq h0)
    obtain ⟨hc, haddr⟩ := syncCall_chunkAt mir mtu hacc (hsum hleft).le hpos hle
    exact ⟨off, left, s, hsum hleft, haddr, le_rfl, hc, rfl, .inr ⟨hleft, rfl, rfl⟩⟩
  | waiting ret off left s => cases h
  | done ret s => cases h

/-- The call for the next part of the range, counted if it is accepted. -/
theorem Partition.count {cs : List SyncCall} {off len : U32}
    (h : Partition mir mtu addr.toNat (addr.toNat + off.toNat) cs) (hacc : ¬ SyncRefused addr size)
    (hoff : off.toNat + len.toNat ≤ size.toNat) (hpos : 0 < len.toNat) (hmtu : len.toNat ≤ mtu.toNat) (ret : Int) :
    Partition mir mtu addr.toNat (addr.toNat + off.toNat + if ret = 0 then len.toNat else 0)
      (cs ++ (if ret = 0 then some (syncCall mir addr off len) else none).toList) := by
  obtain ⟨hchunk, haddr⟩ := syncCall_chunkAt mir mtu hacc hoff hpos hmtu
  by_cases hret : ret = 0
  · rw [if_pos hret, if_pos hret]
    exact h.concat hchunk haddr
  · rw [if_neg hret, if_neg hret, Option.toList_none, List.append_nil, Nat.add_zero]
    exact h

theorem SyncInv.full_step {cs : List SyncCall} {off left : U32} {s : S}
    (hp : SyncInv mir addr size mtu cs (.full off left s)) (hacc : ¬ SyncRefused addr size) (hmtu : 0 < mtu.toNat)
    (status : S → Int × S) :
    SyncInv mir addr size mtu (cs ++ ((SyncAt.full off left s).taken sync mir addr mtu).toList)
      ((SyncAt.full off left s).step status (fun off len s => sync (syncCall mir addr off len) s) mtu) := by
  obtain ⟨hsum, htiles⟩ := hp
  by_cases hleft : left ≥ mtu
  · have hle : mtu.toNat ≤ left.toNat := hleft
    rcases hc : sync (syncCall mir addr off mtu) s with ⟨ret, s₁⟩
    simp only [SyncAt.step, SyncAt.taken, SyncAt.handed, if_pos hleft, hc, Option.bind_some]
    exact ⟨hsum, hle, htiles.count hacc (by omega) hmtu le_rfl ret⟩
  · have hlt : left.toNat < mtu.toNat := Nat.lt_of_not_le hleft
    simp only [SyncAt.step, SyncAt.taken, SyncAt.handed, if_neg hleft, Option.bind_none, Option.toList_none,
      List.append_nil]
    refine ⟨hlt.le, fun _ => hsum, ?_⟩
    rwa [show size.toNat - left.toNat = off.toNat by omega]

/-- What the first loop does about a result: the chunk has been counted. -/
theorem SyncInv.after {cs : List SyncCall} {ret : Int} {off left : U32} {s : S}
    (hp : SyncInv mir addr size mtu cs (.waiting ret off left s)) (hmtu : 0 < mtu.toNat) (s' : S) :
    SyncInv mir addr size mtu cs (SyncAt.after mtu ret off left s') := by
  obtain ⟨hsum, hle, htiles⟩ := hp
  unfold SyncAt.after
  split_ifs with hpos hneg
  · rw [if_neg (by omega)] at htiles
    exact ⟨hsum, htiles⟩
  · rw [if_neg (by omega)] at htiles
    exact .inr ⟨rfl, _, by omega, htiles⟩
  · rw [if_pos (by omega)] at htiles
    have hoff : (off + mtu).toNat = off.toNat + mtu.toNat := BitVec.toNat_add_of_lt (by omega)
    have hleft : (left - mtu).toNat = left.toNat - mtu.toNat := BitVec.toNat_sub_of_le hle
    refine ⟨by omega, ?_⟩
    rwa [hoff, ← Nat.add_assoc]

theorem SyncInv.last_step {cs : List SyncCall} {off left : U32} {s : S}
    (hp : SyncInv mir addr size mtu cs (.last off left s)) (hacc : ¬ SyncRefused addr size) (status : S → Int × S) :
    SyncInv mir addr size mtu (cs ++ ((SyncAt.last off left s).taken sync mir addr mtu).toList)
      ((SyncAt.last off left s).step status (fun off len s => sync (syncCall mir addr off len) s) mtu) := by
  obtain ⟨hle, hsum, htiles⟩ := hp
  by_cases hleft : left ≠ 0
  · have hpos : 0 < left.toNat := Nat.pos_of_ne_zero fun h0 => hleft (BitVec.eq_of_toNat_eq h0)
    have hsize := hsum hleft
    rcases hc : sync (syncCall mir addr off left) s with ⟨ret, s₁⟩
    simp only [SyncAt.step, SyncAt.taken, SyncAt.handed, if_pos hleft, hc, Option.bind_some]
    have hoff : size.toNat - left.toNat = off.toNat := by omega
    rw [hoff] at htiles
    have hmore := htiles.count hacc hsize.le hpos hle ret
    by_cases hret : ret = 0
    · rw [if_pos hret, Nat.add_assoc, hsize] at hmore
      rw [if_neg (by omega : ¬ ret > 0), if_neg (by omega : ¬ ret < 0)]
      exact ⟨Nat.zero_le _, fun h => absurd rfl h, hmore⟩
    · rw [if_neg hret, if_neg hret, Nat.add_zero] at hmore
      rw [if_neg hret]
      split_ifs
      · exact ⟨hle, hsum, hoff ▸ hmore⟩
      · exact .inr ⟨rfl, _, by omega, hmore⟩
      · omega
  · obtain rfl := not_not.1 hleft
    simp only [SyncAt.step, SyncAt.taken, SyncAt.handed, ne_eq, not_true_eq_false, if_false, Option.bind_none,
      Option.toList_none, List.append_nil]
    exact .inl ⟨rfl, htiles⟩

/-- **One step** counts the chunk that it has accepted. -/
theorem SyncInv.step {cs : List SyncCall} {p : SyncAt S} (hp : SyncInv mir addr size mtu cs p)
    (hacc : ¬ SyncRefused addr size) (hmtu : 0 < mtu.toNat) (status : S → Int × S) :
    SyncInv mir addr size mtu (cs ++ (p.taken sync mir addr mtu).toList)
      (p.step status (fun off len s => sync (syncCall mir addr off len) s) mtu) := by
  cases p with
  | full off left s => exact hp.full_step hacc hmtu status
  | waiting ret off left s =>
    simp only [SyncAt.taken, SyncAt.handed, Option.bind_none, Option.toList_none, List.append_nil, SyncAt.step]
    split_ifs
    · exact hp
    · exact hp.after hmtu _
  | last off left s => exact hp.last_step hacc status
  | done ret s =>
    simp only [SyncAt.step, SyncAt.taken, SyncAt.handed, Option.bind_none, Option.toList_none, List.append_nil]
    exact hp

theorem accepted_succ (fn : SyncFn) (s : S) (n : Nat) : fn.accepted sync status mir addr size mtu s (n + 1) =
    fn.accepted sync status mir addr size mtu s n ++
      ((fn.run sync status mir addr size mtu s n).taken sync mir addr mtu).toList := by
  rw [SyncFn.accepted, List.range_succ, List.filterMap_append]
  congr 1

theorem syncRun_succ (fn : SyncFn) (s : S) (n : Nat) : fn.run sync status mir addr size mtu s (n + 1) =
    (fn.run sync status mir addr size mtu s n).step (fn.pending status)
      (fun off len s => sync (syncCall mir addr off len) s) mtu :=
  Function.iterate_succ_apply' _ _ _

/-- **Every run** has the invariant. -/
theorem syncRun_inv (sync : SyncCall → S → Int × S) (status : S → Int × S) (mir : Mirror)
    (hacc : ¬ SyncRefused addr size) (hmtu : 0 < mtu.toNat) (fn : SyncFn) (s : S) (n : Nat) :
    SyncInv mir addr size mtu (fn.accepted sync status mir addr size mtu s n)
      (fn.run sync status mir addr size mtu s n) := by
  induction n with
  | zero =>
    rw [SyncFn.run, if_neg hacc]
    exact ⟨Nat.zero_add _, .nil mir mtu addr.toNat⟩
  | succ n ih =>
    rw [accepted_succ, syncRun_succ]
    exact ih.step hacc hmtu _

/-- The chunks accepted so far are a part of the range. -/
theorem SyncInv.partition {cs : List SyncCall} {p : SyncAt S} (hp : SyncInv mir addr size mtu cs p) :
    ∃ hi ≤ addr.toNat + size.toNat, Partition mir mtu addr.toNat hi cs := by
  cases p with
  | full off left s => exact ⟨_, by have := hp.1; omega, hp.2⟩
  | waiting ret off left s =>
    obtain ⟨hsum, hle, htiles⟩ := hp
    exact ⟨_, by split_ifs <;> omega, htiles⟩
  | last off left s => exact ⟨_, by omega, hp.2.2⟩
  | done ret s =>
    rcases hp with ⟨-, h⟩ | ⟨-, hi, hlt, h⟩
    · exact ⟨_, le_rfl, h⟩
    · exact ⟨hi, hlt.le, h⟩

end

/-- **What is transferred**: at any time the accepted chunks fill the range up to some point, one after the other.
A return of 0 says that this is its end, so that each byte has been transferred exactly once; the only other
result is −1, and then the end has not been reached. -/
theorem sync_partitions {S : Type} (sync : SyncCall → S → Int × S) (status : S → Int × S) (mir : Mirror) (fn : SyncFn)
    (addr size mtu : U32) (hacc : ¬ SyncRefused addr size) (hmtu : 1 ≤ mtu.toNat) (s : S) :
    (∀ n, ∃ hi ≤ addr.toNat + size.toNat,
      Partition mir mtu addr.toNat hi (fn.accepted sync status mir addr size mtu s n)) ∧
    ∀ fuel r s', fn.exec sync status mir fuel addr size mtu s = some (r, s') →
      ∃ n, fn.run sync status mir addr size mtu s n = .done r s' ∧
        let cs := fn.accepted sync status mir addr size mtu s n
        (r = 0 ∧ Partition mir mtu addr.toNat (addr.toNat + size.toNat) cs ∧
            ∀ x, hits (cs.map SyncCall.piece) x = if addr.toNat ≤ x ∧ x < addr.toNat + size.toNat then 1 else 0) ∨
          (r = -1 ∧ ∃ hi < addr.toNat + size.toNat, Partition mir mtu addr.toNat hi cs) := by
  constructor
  · intro n
    exact (syncRun_inv sync status mir hacc hmtu fn s n).partition
  · intro fuel r s' h
    obtain ⟨n, hn⟩ := (syncFn_exec_iff sync status mir fn addr size mtu s s' r).1 ⟨fuel, h⟩
    have hinv := syncRun_inv sync status mir hacc hmtu fn s n
    rw [hn] at hinv
    refine ⟨n, hn, ?_⟩
    rcases hinv with ⟨hr, hall⟩ | hpart
    · exact .inl ⟨hr, hall, hall.tiles.hits⟩
    · exact .inr hpart

theorem sync_partitions_retries :
    ∃ hi ≤ 0x800006, Partition ⟨.little, 0x100, 0x1000⟩ 4 0x800000 hi
      (SyncFn.accepted (fun _ k => (if k % 2 = 0 then 1 else 0, k + 1)) (fun k => (0, k)) ⟨.little, 0x100, 0x1000⟩
        .mirrorToSram FEE_SRAM_START 6 4 (0 : Nat) 8) :=
  (sync_partitions (fun _ k => (if k % 2 = 0 then 1 else 0, k + 1)) (fun k => (0, k)) ⟨.little, 0x100, 0x1000⟩
    .mirrorToSram FEE_SRAM_START 6 4 (by decide) (by decide) (0 : Nat)).1 8

/-! ## How it ends -/

/-- Each chunk is accepted at last, however often it is tried again, and pending replies are answered at last. -/
structure Answered {S : Type} (sync : SyncCall → S → Int × S) (status : S → Int × S) (mir : Mirror) (fn : SyncFn)
    (addr size mtu : U32) (s : S) : Prop where
  accepted : ∀ n c ret, (fn.run sync status mir addr size mtu s n).handed sync mir addr mtu = some (c, ret) →
    ∃ m, n ≤ m ∧ (fn.run sync status mir addr size mtu s m).handed sync mir addr mtu = some (c, 0)
  answered : ∀ n ret off left s', fn.run sync status mir addr size mtu s n = .waiting ret off left s' →
    ∃ k, (fn.pending status ((fun s => (fn.pending status s).2)^[k] s')).1 ≤ 3

/-- The function returns whenever the calls of `smile_fee_sync_data` and the replies allow it. -/
def SyncTerminates (mir : Mirror) (fn : SyncFn) (addr size mtu : U32) : Prop :=
  ∀ (S : Type) (sync : SyncCall → S → Int × S) (status : S → Int × S) (s : S),
    Answered sync status mir fn addr size mtu s → ∃ fuel r, fn.exec sync status mir fuel addr size mtu s = some r

/-- What is left to do; an accepted chunk has been done. -/
def SyncAt.rank {S : Type} (mtu : U32) : SyncAt S → Nat
  | full _ left _ => 3 * left.toNat + 2
  | waiting ret _ left _ => 3 * (left.toNat - if ret = 0 then mtu.toNat else 0) + 3
  | last _ left _ => 3 * left.toNat + 1
  | done .. => 0

section

variable {S : Type} {sync : SyncCall → S → Int × S} {status : S → Int × S} {mir : Mirror} {addr size mtu : U32}

/-- The inner loop ends where the replies have been answered. -/
theorem wait_ends (fn : SyncFn) (s : S) {n k : Nat} {ret : Int} {off left : U32} {s' : S}
    (hk : (fn.pending status ((fun s => (fn.pending status s).2)^[k] s')).1 ≤ 3)
    (h : fn.run sync status mir addr size mtu s n = .waiting ret off left s') :
    ∃ m, n ≤ m ∧ ∃ s₂, fn.run sync status mir addr size mtu s m = SyncAt.after mtu ret off left s₂ := by
  induction k generalizing n s' with
  | zero =>
    refine ⟨n + 1, n.le_succ, (fn.pending status s').2, ?_⟩
    rw [syncRun_succ, h]
    exact if_neg (not_lt.2 hk)
  | succ k ih =>
    by_cases hp : (fn.pending status s').1 > 3
    · have hnext : fn.run sync status mir addr size mtu s (n + 1) = .waiting ret off left (fn.pending status s').2 := by
        rw [syncRun_succ, h]
        exact if_pos hp
      obtain ⟨m, hm, hend⟩ := ih (by rwa [Function.iterate_succ_apply] at hk) hnext
      exact ⟨m, by omega, hend⟩
    · refine ⟨n + 1, n.le_succ, (fn.pending status s').2, ?_⟩
      rw [syncRun_succ, h]
      exact if_neg hp

/-- Where a call is made, the rank is that of its place in the range. -/
theorem SyncInv.le_rank {cs : List SyncCall} {p : SyncAt S} (hp : SyncInv mir addr size mtu cs p)
    (hacc : ¬ SyncRefused addr size) (hmtu : 0 < mtu.toNat) {c : SyncCall} {ret : Int}
    (h : p.handed sync mir addr mtu = some (c, ret)) :
    3 * (addr.toNat + size.toNat - c.addr.toNat) + 1 ≤ p.rank mtu := by
  obtain ⟨off, left, s, hsum, haddr, -, -, -, ⟨-, -, rfl⟩ | ⟨-, -, rfl⟩⟩ := hp.handed hacc hmtu h
  all_goals
    simp only [SyncAt.rank]
    omega

/-- A chunk that is accepted lowers the rank, below that of its place. -/
theorem SyncInv.rank_step {cs : List SyncCall} {p : SyncAt S} (hp : SyncInv mir addr size mtu cs p)
    (hacc : ¬ SyncRefused addr size) (hmtu : 0 < mtu.toNat) {c : SyncCall}
    (h : p.handed sync mir addr mtu = some (c, 0)) (status : S → Int × S) :
    (p.step status (fun off len s => sync (syncCall mir addr off len) s) mtu).rank mtu <
      3 * (addr.toNat + size.toNat - c.addr.toNat) + 1 := by
  obtain ⟨off, left, s, hsum, haddr, -, -, hret, ⟨hle, rfl, rfl⟩ | ⟨hleft, rfl, rfl⟩⟩ := hp.handed hacc hmtu h
  · have hge : left ≥ mtu := hle
    simp only [SyncAt.step, if_pos hge, ← hret, SyncAt.rank, if_true]
    omega
  · have hpos : 0 < left.toNat := Nat.pos_of_ne_zero fun h0 => hleft (BitVec.eq_of_toNat_eq h0)
    simp only [SyncAt.step, if_pos hleft, ← hret]
    rw [if_neg (by omega), if_neg (by omega)]
    rw [SyncAt.rank, show (0 : U32).toNat = 0 from rfl]
    omega

/-- After the wait for a chunk the rank is lower, or the function returns. -/
theorem SyncInv.rank_after {cs : List SyncCall} {ret : Int} {off left : U32} {s : S}
    (hp : SyncInv mir addr size mtu cs (.waiting ret off left s)) (s' : S) :
    (∃ r s₂, SyncAt.after mtu ret off left s' = .done r s₂) ∨
      (SyncAt.after mtu ret off left s').rank mtu < (SyncAt.waiting ret off left s).rank mtu := by
  obtain ⟨-, hle, -⟩ := hp
  unfold SyncAt.after
  split_ifs with hpos hneg
  · right
    simp only [SyncAt.rank, if_neg (by omega : ¬ ret = 0)]
    omega
  · exact .inl ⟨-1, s', rfl⟩
  · right
    have hsub : (left - mtu).toNat = left.toNat - mtu.toNat := BitVec.toNat_sub_of_le hle
    simp only [SyncAt.rank, hsub, if_pos (by omega : ret = 0)]
    omega

/-- Chunks that are not empty come to an end. -/
theorem syncRun_ends (hacc : ¬ SyncRefused addr size) (hmtu : 0 < mtu.toNat) {fn : SyncFn} {s : S}
    (hans : Answered sync status mir fn addr size mtu s) :
    ∃ n, ∃ r s', fn.run sync status mir addr size mtu s n = .done r s' := by
  let Done (p : SyncAt S) : Prop := ∃ r s', p = .done r s'
  suffices h : ∃ n, Done (fn.run sync status mir addr size mtu s n) from h
  refine Progress.reaches (SyncAt.rank mtu) fun n => ?_
  have hinv := syncRun_inv sync status mir hacc hmtu fn s
  rcases hh : (fn.run sync status mir addr size mtu s n).handed sync mir addr mtu with _ | ⟨c, ret⟩
  swap
  · -- the chunk handed over here is accepted at some later point, which need not be the next one
    obtain ⟨m, hm, hacc0⟩ := hans.accepted n c ret hh
    refine ⟨m + 1, by omega, .inr ?_⟩
    rw [syncRun_succ]
    exact ((hinv m).rank_step hacc hmtu hacc0 _).trans_le ((hinv n).le_rank hacc hmtu hh)
  rcases hr : fn.run sync status mir addr size mtu s n with
    ⟨off, left, s'⟩ | ⟨ret, off, left, s'⟩ | ⟨off, left, s'⟩ | ⟨r, s'⟩
  · rw [hr] at hh
    have hleft : ¬ left ≥ mtu := fun h => by simp [SyncAt.handed, h] at hh
    refine ⟨n + 1, n.le_succ, .inr ?_⟩
    rw [syncRun_succ, hr]
    simp only [SyncAt.step, if_neg hleft, SyncAt.rank]
    omega
  · obtain ⟨k, hk⟩ := hans.answered n ret off left s' hr
    obtain ⟨m, hm, s₂, hafter⟩ := wait_ends fn s hk hr
    have hwait := hinv n
    rw [hr] at hwait
    refine ⟨m, hm, ?_⟩
    rw [hafter]
    exact hwait.rank_after s₂
  · rw [hr] at hh
    have hleft : ¬ left ≠ 0 := fun h => by
      rw [SyncAt.handed, if_pos h] at hh
      cases hh
    refine ⟨n + 1, n.le_succ, .inl ⟨0, s', ?_⟩⟩
    rw [syncRun_succ, hr]
    exact if_neg hleft
  · exact ⟨n, le_rfl, .inl ⟨r, s', hr⟩⟩

end

/-- With chunks of no bytes the first loop goes on for ever. -/
theorem syncRun_zero_mtu (mir : Mirror) (fn : SyncFn) {addr size : U32} (hacc : ¬ SyncRefused addr size) (n : Nat) :
    fn.run (fun _ _ => (0, ())) (fun _ => (0, ())) mir addr size 0 () n = .full 0 size () ∨
      fn.run (fun _ _ => (0, ())) (fun _ => (0, ())) mir addr size 0 () n = .waiting 0 0 size () := by
  induction n with
  | zero => exact .inl (if_neg hacc)
  | succ n ih =>
    rw [syncRun_succ]
    rcases ih with h | h <;> rw [h]
    · right
      have hle : size ≥ 0 := Nat.zero_le _
      simp only [SyncAt.step, if_pos hle]
    · left
      cases fn <;> simp [SyncAt.step, SyncFn.pending, SyncAt.after]

theorem not_syncTerminates (mir : Mirror) (fn : SyncFn) {addr size : U32} (hacc : ¬ SyncRefused addr size) :
    ¬ SyncTerminates mir fn addr size 0 := by
  intro hterm
  obtain ⟨fuel, ⟨r, s'⟩, hexec⟩ := hterm Unit (fun _ _ => (0, ())) (fun _ => (0, ())) ()
    { accepted := fun n c ret h => by
        obtain rfl : ret = 0 := by
          rcases syncRun_zero_mtu mir fn hacc n with hr | hr <;> simp_all [SyncAt.handed]
        exact ⟨n, le_rfl, h⟩
      answered := fun n ret off left s' h => ⟨0, by cases fn <;> exact (by decide : (0 : Int) ≤ 3)⟩ }
  obtain ⟨n, hn⟩ := (syncFn_exec_iff _ _ mir fn addr size 0 () s' r).1 ⟨fuel, hexec⟩
  rcases syncRun_zero_mtu mir fn hacc n with h | h <;> rw [hn] at h <;> cases h

/-- **When the transfers end**: unless the chunks are empty, as they are before `smile_fee_rmap_init` has been called,
and then only if the call is refused. -/
theorem syncTerminates_iff (mir : Mirror) (fn : SyncFn) (addr size mtu : U32) :
    SyncTerminates mir fn addr size mtu ↔ mtu ≠ 0 ∨ SyncRefused addr size := by
  constructor
  · intro hterm
    by_contra hno
    obtain ⟨h0, hacc⟩ := not_or.1 hno
    obtain rfl := not_not.1 h0
    exact not_syncTerminates mir fn hacc hterm
  · intro hcond S sync status s hans
    suffices h : ∃ n, ∃ r s', fn.run sync status mir addr size mtu s n = .done r s' by
      obtain ⟨n, r, s', hn⟩ := h
      obtain ⟨fuel, hfuel⟩ := (syncFn_exec_iff sync status mir fn addr size mtu s s' r).2 ⟨n, hn⟩
      exact ⟨fuel, _, hfuel⟩
    by_cases hacc : SyncRefused addr size
    · exact ⟨0, -1, s, if_pos hacc⟩
    · have hmtu : mtu ≠ 0 := hcond.resolve_right hacc
      exact syncRun_ends hacc (Nat.pos_of_ne_zero fun h => hmtu (BitVec.eq_of_toNat_eq h)) hans

/-- A word at the start of the SRAM, before `smile_fee_rmap_init`. -/
theorem not_syncTerminates_uninitialised :
    ¬ SyncTerminates ⟨.little, 0x100, 0x1000⟩ .mirrorToSram FEE_SRAM_START 4 0 :=
  not_syncTerminates _ _ (by decide)

/-! ## Which ranges are accepted -/

/-- A transfer is accepted if a read and a write of the aligned range are, and then it stays inside the array. -/
def SyncBounds (mir : Mirror) (fn : SyncFn) (addr size mtu : U32) : Prop :=
  (¬ SyncRefused addr size ↔ addr &&& 3 = 0 ∧ ¬ SramRefused addr size) ∧
    (¬ SyncRefused addr size → ∀ (S : Type) (sync : SyncCall → S → Int × S) (status : S → Int × S) (s : S) n c ret,
      (fn.run sync status mir addr size mtu s n).handed sync mir addr mtu = some (c, ret) →
        mir.sram ≤ c.data ∧ c.data + c.len.toNat ≤ mir.sram + FEE_SRAM_SIZE.toNat)

/-- The checks differ where the range ends one byte beyond the SRAM. Nothing is accepted there that begins at its
start, since the size is checked as well. -/
theorem syncRefused_iff_sramRefused (addr size : U32) :
    (¬ SyncRefused addr size ↔ addr &&& 3 = 0 ∧ ¬ SramRefused addr size) ↔
      ¬ (addr.toNat % 4 = 0 ∧ FEE_SRAM_START.toNat < addr.toNat ∧
        addr.toNat + size.toNat = FEE_SRAM_END.toNat + 1) := by
  have hstart := toNat_FEE_SRAM_START
  have hend := toNat_FEE_SRAM_END
  have hsize := toNat_FEE_SRAM_SIZE
  rw [syncRefused_iff, sramRefused_iff, not_not, not_not, and_three_eq_zero, SramRange]
  omega

section

variable {S : Type} {sync : SyncCall → S → Int × S} {status : S → Int × S} {mir : Mirror} {addr size mtu : U32}

/-- The chunks that are handed over are inside the range. -/
theorem handed_bounds (hacc : ¬ SyncRefused addr size) (hmtu : 0 < mtu.toNat) (fn : SyncFn) (s : S) {n : Nat}
    {c : SyncCall} {ret : Int}
    (h : (fn.run sync status mir addr size mtu s n).handed sync mir addr mtu = some (c, ret)) :
    ChunkAt mir mtu c ∧ addr.toNat ≤ c.addr.toNat ∧ c.addr.toNat + c.len.toNat ≤ addr.toNat + size.toNat := by
  obtain ⟨off, left, s', hsum, haddr, hlen, hc, -, -⟩ :=
    (syncRun_inv sync status mir hacc hmtu fn s n).handed hacc hmtu h
  exact ⟨hc, by omega, by omega⟩

/-- The last of the chunks that fill a range ends where the range ends. -/
theorem Partition.exists_last {lo hi : Nat} {cs : List SyncCall} (h : Partition mir mtu lo hi cs) (hlt : lo < hi) :
    ∃ c ∈ cs, c.addr.toNat + c.len.toNat = hi := by
  obtain ⟨⟨a, len⟩, hmem, hend⟩ := h.tiles.exists_last hlt
  obtain ⟨c, hc, hpiece⟩ := List.mem_map.1 hmem
  cases hpiece
  exact ⟨c, hc, hend⟩

/-- **One byte beyond the array**: every transfer that ends there and returns 0 has copied it. -/
theorem sync_beyond (hacc : ¬ SyncRefused addr size) (hmtu : 0 < mtu.toNat)
    (hend : addr.toNat + size.toNat = FEE_SRAM_END.toNat + 1) {fn : SyncFn} {s s' : S} {n : Nat}
    (h : fn.run sync status mir addr size mtu s n = .done 0 s') :
    ∃ c ∈ fn.accepted sync status mir addr size mtu s n,
      c.data + c.len.toNat = mir.sram + FEE_SRAM_SIZE.toNat + 1 := by
  have hinv := syncRun_inv sync status mir hacc hmtu fn s n
  rw [h] at hinv
  have hstart := toNat_FEE_SRAM_START
  have hend' := toNat_FEE_SRAM_END
  have hsize := toNat_FEE_SRAM_SIZE
  rw [syncRefused_iff, not_not] at hacc
  obtain ⟨h4, -, -, -⟩ := hacc
  rcases hinv with ⟨-, hpart⟩ | ⟨h0, -⟩
  · obtain ⟨c, hc, hlast⟩ := hpart.exists_last (by omega)
    have hdata := (hpart.chunks c hc).data
    exact ⟨c, hc, by omega⟩
  · cases h0

end

/-- **Where the transfers are accepted as they should be**: except for the aligned ranges that end one byte beyond
the SRAM. -/
theorem syncBounds_iff (mir : Mirror) (fn : SyncFn) (addr size mtu : U32) (hmtu : 1 ≤ mtu.toNat) :
    SyncBounds mir fn addr size mtu ↔
      ¬ (addr.toNat % 4 = 0 ∧ FEE_SRAM_START.toNat < addr.toNat ∧
        addr.toNat + size.toNat = FEE_SRAM_END.toNat + 1) := by
  rw [SyncBounds, syncRefused_iff_sramRefused]
  refine and_iff_left_of_imp fun hcond hacc S sync status s n c ret h => ?_
  obtain ⟨hc, hlo, hhi⟩ := handed_bounds hacc hmtu fn s h
  obtain ⟨-, hrange⟩ := ((syncRefused_iff_sramRefused addr size).2 hcond).1 hacc
  rw [sramRefused_iff, not_not] at hrange
  obtain ⟨h1, h2⟩ := hrange
  have hstart := toNat_FEE_SRAM_START
  have hend := toNat_FEE_SRAM_END
  have hsize := toNat_FEE_SRAM_SIZE
  have hdata := hc.data
  omega

theorem syncBounds_word : SyncBounds ⟨.little, 0x100, 0x1000⟩ .sramToMirror FEE_SRAM_START 4 4 :=
  (syncBounds_iff ⟨.little, 0x100, 0x1000⟩ .sramToMirror FEE_SRAM_START 4 4 (by decide)).2 (by decide)

/-- The last two bytes that are accepted: the first chunk already ends beyond the array, and `smile_fee_read_sram`
refuses them. -/
theorem not_syncBounds_last :
    ¬ SyncRefused 0x00BFFFFC 2 ∧ SramRefused 0x00BFFFFC 2 ∧
      (SyncFn.run (fun _ _ => (0, ())) (fun _ => (0, ())) ⟨.little, 0x100, 0x1000⟩ .sramToMirror
        0x00BFFFFC 2 2 () 0).handed (fun _ _ => (0, ())) ⟨.little, 0x100, 0x1000⟩ 0x00BFFFFC 2 =
          some (⟨0x00BFFFFC, 0x1000 + 0x3FFFFC, 2⟩, 0) ∧
      0x1000 + 0x3FFFFC + 2 = 0x1000 + FEE_SRAM_SIZE.toNat + 1 ∧
      ¬ SyncBounds ⟨.little, 0x100, 0x1000⟩ .sramToMirror 0x00BFFFFC 2 2 := by
  refine ⟨by decide, by decide, by decide, rfl, fun h => ?_⟩
  exact absurd (h.1.1 (by decide)).2 (by decide)

end SmileFee
