import SmileFee.Cfg
import SmileFee.Sync

/-!
# SRAM transfers (`FEE/smile_fee_ctrl.c:5243-5380`)

| here | there |
| --- | --- |
| `FEE_SRAM_START`, `FEE_SRAM_END`, `FEE_SRAM_SIZE` | the constants of `smile_fee.h:213-256` |
| `syncSram`                  | the range checks and the two loops, which the two functions share |
| `smileFeeSyncMirrorToSram`  | `smile_fee_sync_mirror_to_sram` (`:5243`) |
| `smileFeeSyncSramToMirror`  | `smile_fee_sync_sram_to_mirror` (`:5317`) |

The loops have no bound in the source: a chunk is tried again while all slots of the log are in use.
`none` stands for a call that has not returned when the fuel is used up.

**`syncSramToMirror_copies`** is the download, with replies in any order.
-/

namespace SmileFee

open Word

def FEE_SRAM_START : U32 := 0x00800000
def FEE_SRAM_SIDE_F_STOP : U32 := 0x00BFFFFC
def FEE_SRAM_END : U32 := FEE_SRAM_SIDE_F_STOP + 1
def FEE_SRAM_SIZE : U32 := FEE_SRAM_END - FEE_SRAM_START

theorem toNat_FEE_SRAM_START : FEE_SRAM_START.toNat = 0x800000 := rfl
theorem toNat_FEE_SRAM_END : FEE_SRAM_END.toNat = 0xBFFFFD := rfl
theorem toNat_FEE_SRAM_SIZE : FEE_SRAM_SIZE.toNat = 0x3FFFFD := rfl

section Loops

variable {S : Type}

/-- `while (smile_fee_rmap_sync_status() > 3);` (`:5352`). -/
def waitPending (status : S → Int × S) : Nat → S → Option S
  | 0, _ => none
  | fuel + 1, s =>
    let (pending, s) := status s
    if pending > 3 then waitPending status fuel s else some s

/-- The second loop: what is left is one chunk. `chunk off len` is the call of `smile_fee_sync_data`. -/
def lastChunk (chunk : U32 → U32 → S → Int × S) : Nat → U32 → U32 → S → Option (Int × S)
  | 0, _, _, _ => none
  | fuel + 1, off, left, s =>
    if left ≠ 0 then
      let (ret, s) := chunk off left s
      if ret > 0 then lastChunk chunk fuel off left s
      else if ret < 0 then some (-1, s)
      else lastChunk chunk fuel off 0 s
    else some (0, s)

/-- The first loop, in chunks of `mtu` bytes; `wait` is what it does between a chunk and the look
at its result. -/
def mtuChunks (wait : Nat → S → Option S) (chunk : U32 → U32 → S → Int × S) (mtu : U32) :
    Nat → U32 → U32 → S → Option (Int × S)
  | 0, _, _, _ => none
  | fuel + 1, off, left, s =>
    if left ≥ mtu then
      let (ret, s) := chunk off mtu s
      match wait fuel s with
      | none => none
      | some s =>
        if ret > 0 then mtuChunks wait chunk mtu fuel off left s
        else if ret < 0 then some (-1, s)
        else mtuChunks wait chunk mtu fuel (off + mtu) (left - mtu) s
    else lastChunk chunk fuel off left s

def syncSram (wait : Nat → S → Option S) (chunk : U32 → U32 → S → Int × S) (fuel : Nat) (addr size mtu : U32)
    (s : S) : Option (Int × S) :=
  if addr &&& 3 ≠ 0 then some (-1, s)
  else if addr < FEE_SRAM_START then some (-1, s)
  else if addr > FEE_SRAM_END then some (-1, s)
  else if size > FEE_SRAM_SIZE then some (-1, s)
  else if addr + size > FEE_SRAM_END + 1 then some (-1, s)
  else mtuChunks wait chunk mtu fuel 0 size s

/-! ## What a finished transfer has done

`I n` holds of the states in which the first `n` bytes have been accepted. -/

variable {wait : Nat → S → Option S} {chunk : U32 → U32 → S → Int × S} {I : Nat → S → Prop} {size : Nat}

/-- A chunk that is accepted takes the transfer further, one to be tried again leaves it where it is. -/
def ChunkKeeps (chunk : U32 → U32 → S → Int × S) (I : Nat → S → Prop) (size : Nat) : Prop :=
  ∀ off len s, off.toNat + len.toNat ≤ size → I off.toNat s →
    (0 < (chunk off len s).1 → I off.toNat (chunk off len s).2) ∧
    ((chunk off len s).1 = 0 → I (off.toNat + len.toNat) (chunk off len s).2)

theorem lastChunk_rule (hchunk : ChunkKeeps chunk I size) {fuel : Nat} {off left : U32} {s s' : S}
    (hoff : left ≠ 0 → off.toNat + left.toNat = size) (hI : I (size - left.toNat) s)
    (h : lastChunk chunk fuel off left s = some (0, s')) : I size s' := by
  induction fuel generalizing left s with
  | zero => cases h
  | succ fuel ih =>
    rw [lastChunk] at h
    split at h
    · rename_i hleft
      have hsz := hoff hleft
      rw [show size - left.toNat = off.toNat by omega] at hI
      obtain ⟨hretry, hacc⟩ := hchunk off left s hsz.le hI
      rcases chunk off left s with ⟨ret, s1⟩
      simp only at h hretry hacc
      split at h
      · rename_i hret
        exact ih hoff (by rw [show size - left.toNat = off.toNat by omega]; exact hretry hret) h
      · split at h
        · cases h
        · refine ih (fun h0 => absurd rfl h0) ?_ h
          rw [show size - (0 : U32).toNat = off.toNat + left.toNat by rw [hsz]; rfl]
          exact hacc (by omega)
    · rename_i hleft
      rw [not_not.1 hleft] at hI
      obtain ⟨-, rfl⟩ := Prod.mk.inj (Option.some.inj h)
      exact hI

theorem mtuChunks_rule (hchunk : ChunkKeeps chunk I size)
    (hwait : ∀ fuel n s s', I n s → wait fuel s = some s' → I n s') (hsize : size < 2 ^ 32) {mtu : U32}
    {fuel : Nat} {off left : U32}
    {s s' : S} (hoff : off.toNat + left.toNat = size) (hI : I off.toNat s)
    (h : mtuChunks wait chunk mtu fuel off left s = some (0, s')) : I size s' := by
  induction fuel generalizing off left s with
  | zero => cases h
  | succ fuel ih =>
    rw [mtuChunks] at h
    split at h
    · rename_i hleft
      have hle : mtu.toNat ≤ left.toNat := hleft
      obtain ⟨hretry, hacc⟩ := hchunk off mtu s (by omega) hI
      rcases chunk off mtu s with ⟨ret, s1⟩
      simp only at h hretry hacc
      split at h
      · cases h
      · rename_i s2 hs2
        split at h
        · rename_i hret
          exact ih hoff (hwait _ _ _ _ (hretry hret) hs2) h
        · split at h
          · cases h
          · have hleft' : (left - mtu).toNat = left.toNat - mtu.toNat := BitVec.toNat_sub_of_le hleft
            have hoff' : (off + mtu).toNat = off.toNat + mtu.toNat := BitVec.toNat_add_of_lt (by omega)
            refine ih ?_ ?_ h
            · omega
            · rw [hoff']
              exact hwait _ _ _ _ (hacc (by omega)) hs2
    · refine lastChunk_rule hchunk (fun _ => hoff) ?_ h
      rw [show size - left.toNat = off.toNat by omega]
      exact hI

theorem waitPending_keeps {status : S → Int × S} {J : S → Prop} (hstatus : ∀ s, J s → J (status s).2) {fuel : Nat}
    {s s' : S} (hJ : J s) (h : waitPending status fuel s = some s') : J s' := by
  induction fuel generalizing s with
  | zero => cases h
  | succ fuel ih =>
    rw [waitPending] at h
    have hs := hstatus s hJ
    rcases status s with ⟨pending, s1⟩
    simp only at h hs
    split at h
    · exact ih hs h
    · rw [← Option.some.inj h]; exact hs

/-- A transfer that has returned 0 was within range, and its loops have finished. -/
theorem syncSram_zero {addr len mtu : U32} {fuel : Nat} {s s' : S}
    (h : syncSram wait chunk fuel addr len mtu s = some (0, s')) :
    FEE_SRAM_START.toNat ≤ addr.toNat ∧ addr.toNat + len.toNat ≤ FEE_SRAM_END.toNat + 1 ∧
      mtuChunks wait chunk mtu fuel 0 len s = some (0, s') := by
  have hneg (P : Prop) (h : some ((-1 : Int), s) = some (0, s')) : P := by cases h
  rw [syncSram] at h
  split at h
  · exact hneg _ h
  · split at h
    · exact hneg _ h
    · split at h
      · exact hneg _ h
      · split at h
        · exact hneg _ h
        · split at h
          · exact hneg _ h
          · rename_i h1 h2 h3 h4
            have h1 : FEE_SRAM_START.toNat ≤ addr.toNat := Nat.le_of_not_lt h1
            have h2 : addr.toNat ≤ FEE_SRAM_END.toNat := Nat.le_of_not_lt h2
            have h3 : len.toNat ≤ FEE_SRAM_SIZE.toNat := Nat.le_of_not_lt h3
            have h4 : (addr + len).toNat ≤ (FEE_SRAM_END + 1).toNat := Nat.le_of_not_lt h4
            have he := toNat_FEE_SRAM_END
            have hs := toNat_FEE_SRAM_SIZE
            have he' : (FEE_SRAM_END + 1).toNat = 0xBFFFFE := rfl
            rw [BitVec.toNat_add_of_lt (by omega)] at h4
            exact ⟨h1, by omega, h⟩

end Loops

variable {E : Type} (cb : Callbacks E) (mir : Mirror)

/-- `smile_fee_sync_mirror_to_sram` (`:5243`). -/
def smileFeeSyncMirrorToSram (fuel : Nat) (addr size mtu : U32) (s : Sys E) : Option (Int × Sys E) :=
  syncSram (fun _ s => some s) (fun sent len s =>
    smileFeeSyncData cb s feeWriteCmdData (addr + sent) (mir.sram + (addr - FEE_SRAM_START + sent).toNat) len false)
    fuel addr size mtu s

/-- `smile_fee_sync_sram_to_mirror` (`:5317`). -/
def smileFeeSyncSramToMirror (fuel : Nat) (addr size mtu : U32) (s : Sys E) : Option (Int × Sys E) :=
  syncSram (waitPending (smileFeeRmapSyncStatus cb)) (fun recv len s =>
    smileFeeSyncData cb s feeReadCmdData (addr + recv) (mir.sram + (addr - FEE_SRAM_START + recv).toNat) len true)
    fuel addr size mtu s

/-! ## The download -/

/-- A target that answers reads with what is in its memory. -/
def Target.Serves (T : Target) (remote : Mem) : Prop :=
  ∀ c data, T.carries c data → c.isWrite = false → data = remote.read c.addr.toNat c.len.toNat

/-- The commands sent read the first `n` bytes from `addr` on, each to its place in the mirror. -/
structure Issued (addr n : Nat) (regs : List Nat) (sent : List Cmd) : Prop where
  each : ∀ (i : Nat) (c : Cmd), sent[i]? = some c → c.isWrite = false ∧ addr ≤ c.addr.toNat ∧
    c.addr.toNat + c.len.toNat ≤ addr + n ∧ regs.getD i 0 + FEE_SRAM_START.toNat = mir.sram + c.addr.toNat
  cover : ∀ x, addr ≤ x → x < addr + n →
    ∃ (i : Nat) (c : Cmd), sent[i]? = some c ∧ c.addr.toNat ≤ x ∧ x < c.addr.toNat + c.len.toNat

variable {mir} {T : Target} {addr n : Nat} {regs : List Nat}

theorem Issued.nil : Issued mir addr 0 [] [] :=
  ⟨fun i c h => by simp at h, fun x h1 h2 => by omega⟩

theorem Issued.append {sent : List Cmd} (h : Issued mir addr n regs sent) (hlen : regs.length = sent.length)
    {c : Cmd} {a : Nat} (hw : c.isWrite = false) (haddr : c.addr.toNat = addr + n)
    (ha : a + FEE_SRAM_START.toNat = mir.sram + (addr + n)) :
    Issued mir addr (n + c.len.toNat) (regs ++ [a]) (sent ++ [c]) where
  each i d hi := by
    by_cases hlt : i < sent.length
    · rw [List.getElem?_append_left hlt] at hi
      obtain ⟨h1, h2, h3, h4⟩ := h.each i d hi
      rw [List.getD_append _ _ _ _ (hlen ▸ hlt)]
      exact ⟨h1, h2, by omega, h4⟩
    · rw [List.getElem?_append_right (Nat.le_of_not_lt hlt), List.getElem?_singleton] at hi
      split at hi
      · rename_i hz
        rw [← Option.some.inj hi, List.getD_append_right _ _ _ _ (by omega), hlen, hz]
        exact ⟨hw, by omega, by omega, by rw [haddr]; exact ha⟩
      · cases hi
  cover x h1 h2 := by
    by_cases hx : x < addr + n
    · obtain ⟨i, d, hi, hd⟩ := h.cover x h1 hx
      refine ⟨i, d, ?_, hd⟩
      rw [List.getElem?_append_left (List.getElem?_eq_some_iff.1 hi).1, hi]
    · exact ⟨sent.length, c, by simp, by omega, by omega⟩

/-- While a download from `addr` on is going on, or after it, `n` bytes have been asked for. -/
def Downloading (mir : Mirror) (T : Target) (addr : Nat) (s₀ : Sys Net) (n : Nat) (s : Sys Net) : Prop :=
  ∃ regs, Inv T regs 0 s ∧ Tight 0 s ∅ ∧ Extends (Harmless 0) s₀ s ∧ Issued mir addr n regs s.env.sent

variable {s₀ s s' : Sys Net}

theorem Downloading.rx (h : Downloading mir T addr s₀ n s)
    (hrx : ∀ regs, Inv T regs 0 s → Rx T regs 0 s s') : Downloading mir T addr s₀ n s' := by
  obtain ⟨regs, hinv, htight, hext, hissued⟩ := h
  have hr := hrx regs hinv
  exact ⟨regs, hr.inv, hr.tight _ htight, hext.trans hr.ext, hr.sent ▸ hissued⟩

theorem Downloading.status (h : Downloading mir T addr s₀ n s) :
    Downloading mir T addr s₀ n (smileFeeRmapSyncStatus (netCallbacks T) s).2 :=
  h.rx fun _ hinv => Rx.processRx hinv

/-- One chunk of the download. -/
theorem Downloading.chunk {start size : U32} (hlo : FEE_SRAM_START.toNat ≤ start.toNat)
    (hhi : start.toNat + size.toNat ≤ FEE_SRAM_END.toNat + 1) :
    ChunkKeeps (fun recv len s => smileFeeSyncData (netCallbacks T) s feeReadCmdData (start + recv)
      (mir.sram + (start - FEE_SRAM_START + recv).toNat) len true) (Downloading mir T start.toNat s₀) size.toNat := by
  intro off len s hle h
  obtain ⟨regs, hinv, htight, hext, hissued⟩ := h
  have he := toNat_FEE_SRAM_END
  have hs := toNat_FEE_SRAM_START
  have haddr : (start + off).toNat = start.toNat + off.toNat := BitVec.toNat_add_of_lt (by omega)
  have hloc : (start - FEE_SRAM_START + off).toNat + FEE_SRAM_START.toNat = start.toNat + off.toNat := by
    have h1 : (start - FEE_SRAM_START).toNat = start.toNat - FEE_SRAM_START.toNat := BitVec.toNat_sub_of_le hlo
    rw [BitVec.toNat_add_of_lt (by omega)]
    omega
  have hlen : len.toNat ≤ RMAP_MAX_DATA_LEN := by
    simp only [RMAP_MAX_DATA_LEN]; omega
  obtain ⟨hext', -, slot, hsub⟩ := syncData_spec hinv feeReadCmdData (start + off) len true
    (fun cfg transId data => trId_genCmd cfg transId _ len (by decide) data)
    (NoReuse.zero _ (mir.sram + (start - FEE_SRAM_START + off).toNat))
  have hext' := hext.trans hext'
  cases hsub with
  | unsent hrc hsent inv tight =>
    refine ⟨fun hpos => ⟨regs, inv, tight hpos htight, hext', hsent ▸ hissued⟩, fun h0 => absurd h0 hrc⟩
  | sent hrc hsent inv tight =>
    refine ⟨fun hpos => absurd hpos (not_lt_of_ge hrc), fun _ => ⟨_, inv, tight htight, hext', ?_⟩⟩
    rw [hsent]
    refine Eq.subst (motive := fun k => Issued mir start.toNat (off.toNat + k) _ _) ?_
      (hissued.append hinv.regs_len (isWrite_genCmd _ slot _ _ (by decide) _)
        ((congrArg BitVec.toNat (addr_genCmd _ slot _ _ (by decide) _)).trans haddr) (by omega))
    exact congrArg BitVec.toNat (len_genCmd _ slot _ (by decide) hlen _)

/-- When the replies to all commands have been applied, the bytes asked for have been copied, and no
other byte of the memory has changed. -/
theorem Downloading.copied (h : Downloading mir T addr s₀ n s) {remote : Mem} (hT : T.Serves remote)
    (h₀ : s₀.rxLog = []) (hlo : FEE_SRAM_START.toNat ≤ addr) (hdone : ∀ i < s.env.sent.length, i ∈ applied s.rxLog) :
    (∀ x, addr ≤ x → x < addr + n → s.mem (mir.sram + (x - FEE_SRAM_START.toNat)) = remote x) ∧
    (∀ y, (∀ x, addr ≤ x → x < addr + n → y ≠ mir.sram + (x - FEE_SRAM_START.toNat)) → s.mem y = s₀.mem y) ∧
    s.log.Empty := by
  obtain ⟨regs, hinv, htight, ⟨new, hlog, hmem, -⟩, hissued⟩ := h
  rw [h₀, List.nil_append] at hlog
  -- what an applied packet has written, and where
  have happ : ∀ e ∈ new, ∀ slot a data, e.2 = .applied slot a data → ∃ c, s.env.sent[e.1.origin]? = some c ∧
      a + FEE_SRAM_START.toNat = mir.sram + c.addr.toNat ∧ data = remote.read c.addr.toNat c.len.toNat := by
    intro e he slot a data heq
    obtain ⟨c, data', hc, -, hcar, hr⟩ := hinv.log e (hlog ▸ he)
    obtain ⟨hw, -, -, hreg⟩ := hissued.each _ c hc
    rcases hr with hr | hr | ⟨hr, -⟩
    · rw [hr] at heq; cases heq
    · rw [hr] at heq
      cases heq
      exact ⟨c, hc, hreg, hT c data hcar hw⟩
    · rw [hr] at heq; cases heq
  refine ⟨fun x h1 h2 => ?_, fun y hy => ?_, ?_⟩
  · obtain ⟨i, c, hc, hx⟩ := hissued.cover x h1 h2
    obtain ⟨e, he, hi⟩ := List.mem_filterMap.1 (hdone i (List.getElem?_eq_some_iff.1 hc).1)
    have hcov : e.2.Covers (mir.sram + (x - FEE_SRAM_START.toNat)) := by
      split at hi
      · rename_i slot a data heq
        obtain ⟨c', hc', ha, hdata⟩ := happ e (hlog ▸ he) slot a data heq
        rw [Option.some.inj hi, hc] at hc'
        cases hc'
        exact ⟨slot, a, data, heq, by omega, by rw [hdata, Mem.length_read]; omega⟩
      · cases hi
    rw [hmem, @replay_inside new (fun y => remote (y + FEE_SRAM_START.toNat - mir.sram)) ?_ _
      ⟨e, hlog ▸ he, hcov⟩ s₀.mem]
    · congr 1; omega
    · intro e he slot a data heq
      obtain ⟨c, hc, ha, hdata⟩ := happ e he slot a data heq
      rw [hdata, Mem.length_read]
      exact List.map_congr_left fun j _ => by congr 1; omega
  · rw [hmem]
    refine replay_outside (fun e he hcov => ?_) _
    obtain ⟨slot, a, data, heq, h1, h2⟩ := hcov
    obtain ⟨c, hc, ha, hdata⟩ := happ e he slot a data heq
    obtain ⟨-, h3, h4, -⟩ := hissued.each _ c hc
    rw [hdata, Mem.length_read] at h2
    exact hy (c.addr.toNat + (y - a)) (by omega) (by omega) (by omega)
  · exact hinv.empty_of_applied htight hdone

/-- Calls of `smile_fee_rmap_sync_status`, and what happens outside during each. -/
def syncStatusCalls (T : Target) (s : Sys Net) (during : List Outside) : Sys Net :=
  during.foldl (fun s o => (smileFeeRmapSyncStatus (netCallbacks T) (o.enter s)).2) s

theorem Downloading.statusCalls (h : Downloading mir T addr s₀ n s) (during : List Outside) :
    Downloading mir T addr s₀ n (syncStatusCalls T s during) := by
  induction during generalizing s with
  | nil => exact h
  | cons o during ih => exact ih (h.rx fun _ hinv => Rx.enter hinv o).status

/-- **The download is independent of the order of the replies**: from an empty log and an idle link,
once `smile_fee_sync_sram_to_mirror` has returned 0 and the replies to its commands have been
applied, during the call or during any later polls, the mirror holds the bytes of the remote SRAM,
nothing else has been written, and the log is empty again. -/
theorem syncSramToMirror_copies (T : Target) (remote : Mem) (hT : T.Serves remote) (mir : Mirror) (s : Sys Net)
    (hlog : s.log.Empty) (henv : s.env.Idle) (hrx : s.rxLog = []) (fuel : Nat) (addr size mtu : U32) (s₁ : Sys Net)
    (hret : smileFeeSyncSramToMirror (netCallbacks T) mir fuel addr size mtu s = some (0, s₁))
    (later : List Outside)
    (hdone : ∀ i < (syncStatusCalls T s₁ later).env.sent.length, i ∈ applied (syncStatusCalls T s₁ later).rxLog) :
    let s₂ := syncStatusCalls T s₁ later
    (∀ x, addr.toNat ≤ x → x < addr.toNat + size.toNat →
      s₂.mem (mir.sram + (x - FEE_SRAM_START.toNat)) = remote x) ∧
    (∀ y, (∀ x, addr.toNat ≤ x → x < addr.toNat + size.toNat → y ≠ mir.sram + (x - FEE_SRAM_START.toNat)) →
      s₂.mem y = s.mem y) ∧
    s₂.log.Empty := by
  obtain ⟨hlo, hhi, hloops⟩ := syncSram_zero hret
  obtain ⟨hinv, htight⟩ := Inv.start (T := T) hlog henv hrx
  have hstart : Downloading mir T addr.toNat s (0 : U32).toNat s := by
    refine ⟨[], hinv, htight, .of_eq rfl rfl, ?_⟩
    rw [henv.1]; exact .nil
  have hend : Downloading mir T addr.toNat s size.toNat s₁ :=
    mtuChunks_rule (Downloading.chunk hlo hhi)
      (fun fuel n s s' h hw => waitPending_keeps (fun s hs => Downloading.status hs) h hw) size.isLt (by simp)
      hstart hloops
  exact (hend.statusCalls later).copied hT hrx hlo hdone

/-- Six bytes in two chunks, whose replies come in the other order. -/
theorem syncSramToMirror_copies_two_chunks :
    let remote : Mem := fun x => BitVec.ofNat 8 x
    let T := servingTarget fun c => remote.read c.addr.toNat c.len.toNat
    let mir : Mirror := ⟨.little, 0x100, 0x1000⟩
    let reply (i : Nat) (id len : U8) (data : List U8) : Arrival :=
      ⟨i, [0, 1, 0x0c, 0, 0, 0, id, 0, 0, 0, len, rmapCrc8 [0, 1, 0x0c, 0, 0, 0, id, 0, 0, 0, len]] ++ data ++
        [rmapCrc8 data], fun _ => 0⟩
    let later : List Outside := [{ sched := [[reply 1 1 2 [4, 5]], [reply 0 0 4 [0, 1, 2, 3]]] }]
    ∃ s₁, smileFeeSyncSramToMirror (netCallbacks T) mir 4 0x800000 6 4 ⟨{}, {}, fun _ => 0xFF, [], {}⟩ = some (0, s₁) ∧
      ∀ x, 0x800000 ≤ x → x < 0x800006 → (syncStatusCalls T s₁ later).mem (0x1000 + (x - 0x800000)) = remote x := by
  intro remote T mir reply later
  have hrun : ((smileFeeSyncSramToMirror (netCallbacks T) mir 4 0x800000 6 4
      ⟨{}, {}, fun _ => 0xFF, [], {}⟩).map fun r : Int × Sys Net =>
        (r.1, decide (∀ i < (syncStatusCalls T r.2 later).env.sent.length, i ∈ applied (syncStatusCalls T r.2 later).rxLog))) = some (0, true) := by decide
  obtain ⟨⟨rc, s₁⟩, hret, hr⟩ := Option.map_eq_some_iff.1 hrun
  obtain ⟨rfl, hdone⟩ := Prod.mk.inj hr
  have hempty : TransLog.Empty {} := ⟨rfl, fun k => by simp [TransLog.holds]⟩
  exact ⟨s₁, hret, (syncSramToMirror_copies T remote (fun c data h _ => h) mir _ hempty ⟨rfl, rfl, rfl⟩ rfl
    4 0x800000 6 4 s₁ hret later (of_decide_eq_true hdone)).1⟩

end SmileFee
