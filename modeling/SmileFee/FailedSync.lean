import SmileFee.LogRuns

/-!
# Submissions that fail (`FEE/smile_fee_rmap.c:296-314, 391-497`)

`smile_fee_sync` and `smile_fee_sync_data` take a slot before they allocate and generate the command
and hand it to `rmap_tx`. Each of these steps can fail, and none of the error paths releases the slot:
its transaction was never transmitted, so no reply will release it either.

**`failed_sync_noTrace_iff`** says when a failing call leaves the log as if it had not been made: when no
slot was taken at all, when the slot taken is one that the call's own look at the queue had freed, or
when only `rmap_tx` failed and a packet with the id of the slot was read right before.
-/

namespace SmileFee

variable {E : Type} (cb : Callbacks E)

/-! ## When a slot is freed -/

/-- The packets the link hands over from `env` on, each with whether its packet structure can be
allocated. -/
def received : Nat → E → List (Pkt × Bool)
  | 0, _ => []
  | n + 1, env =>
    if (cb.rxSize env).1 = 0 then [] else
    if (cb.malloc (cb.rxSize env).2).1 = false then [] else
    let (pkt, env) := cb.rxRead (cb.malloc (cb.rxSize env).2).2
    if pkt.bytes.length = 0 then []
    else (pkt, (cb.malloc env).1) :: received n (cb.malloc env).2

/-- A packet received carries `k` as its transaction id. -/
def CarriesId (k : Nat) (p : Pkt × Bool) : Prop :=
  p.2 = true ∧ ∃ rp, p.1.buf.decode = some rp ∧ rp.trId.toNat = k

/-- One packet frees a slot if it carries its id and an address was registered. -/
theorem rxPacket_frees_iff (pkt : Pkt) {s : Sys E} {k : Nat} (hk : k ∈ s.log.slots) :
    k ∉ (rxPacket cb pkt s).log.slots ↔ s.log.localAddr k ≠ 0 ∧ CarriesId k (pkt, (cb.malloc s.env).1) := by
  rcases rxPacket_cases cb pkt s with ⟨r, -, heq, hnone⟩ | ⟨hok, rp, hdec, hmem, haddr, heq⟩
  · rw [heq]
    refine iff_of_false (fun h => h hk) ?_
    rintro ⟨ha, hok, rp, hdec, hid⟩
    have hz := hnone hok rp hdec
    rw [hid, s.log.getAddr_of_mem hk] at hz
    exact ha hz
  · rw [heq]
    simp only [s.log.slots_releaseSlot, Finset.mem_erase, not_and]
    constructor
    · intro h
      have hid : k = rp.trId.toNat := by
        by_contra hne
        exact h hne hk
      exact ⟨by rw [hid]; exact haddr, hok, rp, hdec, hid.symm⟩
    · rintro ⟨-, -, rp', hdec', hid⟩ hne
      obtain rfl : rp = rp' := Option.some.inj (hdec.symm.trans hdec')
      exact absurd hid.symm hne

/-- As long as a slot is in use the loop goes on, so every packet received is looked at. -/
theorem rxLoop_frees_iff (n : Nat) (cnt : Int) {s : Sys E} (hwf : s.log.WF) {k : Nat} (hk : k ∈ s.log.slots) :
    k ∉ (rxLoop cb n cnt s).2.log.slots ↔ s.log.localAddr k ≠ 0 ∧ ∃ p ∈ received cb n s.env, CarriesId k p := by
  induction n generalizing cnt s with
  | zero => simp [rxLoop, received, hk]
  | succ n ih =>
    have hpend : s.log.pending ≠ 0 := by
      have hpos : 0 < s.log.slots.card := Finset.card_pos.2 ⟨k, hk⟩
      rw [TransLog.WF] at hwf
      omega
    rw [rxLoop, received]
    dsimp only
    by_cases hn : (cb.rxSize s.env).1 = 0
    · rw [if_pos hn, if_pos hn]
      simp [hk]
    rw [if_neg hn, if_neg hn, if_neg hpend]
    by_cases hbuf : (cb.malloc (cb.rxSize s.env).2).1 = false
    · rw [if_pos hbuf, hbuf]
      simp [hk]
    rw [if_neg hbuf, if_neg (by simpa using hbuf)]
    by_cases hlen : (cb.rxRead (cb.malloc (cb.rxSize s.env).2).2).1.bytes.length = 0
    · rw [if_pos hlen, if_pos hlen]
      simp [hk]
    rw [if_neg hlen, if_neg hlen]
    generalize (cb.rxRead (cb.malloc (cb.rxSize s.env).2).2).1 = pkt
    generalize (cb.rxRead (cb.malloc (cb.rxSize s.env).2).2).2 = env
    have hfirst := rxPacket_frees_iff cb pkt (s := { s with env := env }) hk
    have hdrain := rxPacket_drains cb pkt { s with env := env }
    simp only [List.mem_cons, exists_eq_or_imp]
    by_cases hfree : k ∈ (rxPacket cb pkt { s with env := env }).log.slots
    · rw [ih (cnt + 1) (hdrain.wf hwf) hfree, hdrain.localAddr, rxPacket_env]
      have hnot : ¬ (s.log.localAddr k ≠ 0 ∧ CarriesId k (pkt, (cb.malloc env).1)) := fun h => hfirst.2 h hfree
      tauto
    · -- once freed a slot stays free
      have hgone : k ∉ (rxLoop cb n (cnt + 1) (rxPacket cb pkt { s with env := env })).2.log.slots := fun h =>
        hfree ((rxLoop_drains cb n (cnt + 1) _).slots h)
      obtain ⟨ha, hc⟩ := hfirst.1 hfree
      exact iff_of_true hgone ⟨ha, Or.inl hc⟩

theorem processRx_frees_iff (hconn : cb.connected = true) {s : Sys E} (hwf : s.log.WF) {k : Nat}
    (hk : k ∈ s.log.slots) : k ∉ (smileFeeProcessRx cb s).2.log.slots ↔
      s.log.localAddr k ≠ 0 ∧ ∃ p ∈ received cb (cb.left s.env) s.env, CarriesId k p := by
  unfold smileFeeProcessRx
  rw [hconn, if_neg (by simp)]
  exact rxLoop_frees_iff cb _ 0 hwf hk

/-! ## What happens to the slot -/

/-- Everything behind the taking of slot `k` succeeds, or only `rmap_tx` fails and the slot is freed by
a packet read before. -/
def SubmitHolds (s : Sys E) (fn : RmapCfg → U16 → List U8) (k data size : Nat) : Prop :=
  (cb.malloc s.env).1 = true ∧ (cb.malloc (cb.malloc s.env).2).1 = true ∧
  (fn s.cfg (BitVec.ofNat 16 k)).length ≠ 0 ∧ cb.connected = true ∧
  let s := { s with env := (cb.malloc (cb.malloc s.env).2).2 }
  let r := (smileFeeProcessRx cb s).2
  (cb.tx r.env (fn s.cfg (BitVec.ofNat 16 k)) r.cfg.dpath.length (txData r.mem data size)).1 = false ∨
    s.log.localAddr k ≠ 0 ∧ ∃ p ∈ received cb (cb.left s.env) s.env, CarriesId k p

/-- A submission that fails has freed its slot exactly in this case. -/
theorem submitCmd_holds_iff {s : Sys E} (hwf : s.log.WF) (fn : RmapCfg → U16 → List U8) {k : Nat}
    (hk : k ∈ s.log.slots) (data size : Nat) :
    ((submitCmd cb s fn k data size).1 ≠ 0 → k ∉ (submitCmd cb s fn k data size).2.log.slots) ↔
      SubmitHolds cb s fn k data size := by
  rw [submitCmd, SubmitHolds]
  dsimp only
  by_cases h1 : (cb.malloc s.env).1 = true
  swap
  · rw [if_pos (by simpa using h1)]
    exact iff_of_false (fun h => h (by simp) hk) (fun h => h1 h.1)
  rw [if_neg (by simpa using h1)]
  by_cases h2 : (cb.malloc (cb.malloc s.env).2).1 = true
  swap
  · rw [if_neg h2, if_pos (List.length_nil)]
    exact iff_of_false (fun h => h (by simp) hk) (fun h => h2 h.2.1)
  rw [if_pos h2]
  by_cases h3 : (fn s.cfg (BitVec.ofNat 16 k)).length = 0
  · rw [if_pos h3]
    exact iff_of_false (fun h => h (by simp) hk) (fun h => h.2.2.1 h3)
  rw [if_neg h3, smileFeeSubmitTx]
  dsimp only
  by_cases h4 : cb.connected = true
  swap
  · rw [if_pos (by simpa using h4), smileFeeProcessRx, if_pos (by simpa using h4)]
    exact iff_of_false (fun h => h (by simp) hk) (fun h => h4 h.2.2.2.1)
  rw [if_neg (by simpa using h4)]
  generalize (cb.malloc (cb.malloc s.env).2).2 = env at *
  have hfrees := processRx_frees_iff cb h4 (s := { s with env := env }) hwf hk
  generalize (smileFeeProcessRx cb { s with env := env }).2 = r at *
  rw [← hfrees]
  by_cases h5 : (cb.tx r.env (fn s.cfg (BitVec.ofNat 16 k)) r.cfg.dpath.length (txData r.mem data size)).1 = true
  · rw [if_pos h5]
    simp [h1, h2, h3, h4, h5]
  · rw [if_neg h5]
    simp [h1, h2, h3, h4, h5]

/-- The log shows no trace of a call: no slot is in use that was not, and the counter has not grown. -/
structure NoTrace (l l' : TransLog) : Prop where
  slots : l'.slots ⊆ l.slots
  pending : l'.pending ≤ l.pending

/-- After the taking of slot `k` there is no trace exactly if it had been in use before or is free again. -/
theorem noTrace_iff {s s1 s' : Sys E} {l : TransLog} {k : Nat} (hwf : l.WF) (hwf' : s'.log.WF)
    (hslots : s1.log.slots = insert k s.log.slots) (hsub : s.log.slots ⊆ l.slots) (h : Drains s1 s') :
    NoTrace l s'.log ↔ k ∈ l.slots ∨ k ∉ s'.log.slots := by
  have hle := h.slots
  rw [hslots] at hle
  constructor
  · intro hno
    by_contra hor
    push Not at hor
    exact hor.1 (hno.slots hor.2)
  · intro hor
    have hs : s'.log.slots ⊆ l.slots := by
      intro j hj
      rcases Finset.mem_insert.1 (hle hj) with rfl | hj'
      · exact hor.resolve_right fun hno => hno hj
      · exact hsub hj'
    have hcard := Finset.card_le_card hs
    rw [TransLog.WF] at hwf hwf'
    exact ⟨hs, by omega⟩

/-- What becomes of a slot taken for a submission. -/
theorem submit_noTrace_iff {s : Sys E} {l : TransLog} (hl : l.WF) (hwf : s.log.WF) (hsub : s.log.slots ⊆ l.slots)
    (fn : RmapCfg → U16 → List U8) {k a : Nat} (hk : (s.log.grabSlot a).1 = k) (data size : Nat) :
    ((submitCmd cb { s with log := (s.log.grabSlot a).2 } fn k data size).1 ≠ 0 →
      NoTrace l (submitCmd cb { s with log := (s.log.grabSlot a).2 } fn k data size).2.log) ↔
    k ∈ l.slots ∨ SubmitHolds cb { s with log := (s.log.grabSlot a).2 } fn k data size := by
  have hwf1 := hwf.grabSlot a
  have hslots : (s.log.grabSlot a).2.slots = insert k s.log.slots := by
    rcases s.log.grabSlot_spec a with ⟨-, k', -, -, hret, hslots, -⟩ | ⟨-, h⟩
    · obtain rfl : k = k' := by omega
      exact hslots
    · rw [h] at hk
      simp at hk
  have hmem : k ∈ (s.log.grabSlot a).2.slots := by
    rw [hslots]
    exact Finset.mem_insert_self k _
  have hdrain := submitCmd_drains cb { s with log := (s.log.grabSlot a).2 } fn k data size
  rw [noTrace_iff hl (hdrain.wf hwf1) hslots hsub hdrain,
    ← submitCmd_holds_iff cb (s := { s with log := (s.log.grabSlot a).2 }) hwf1 fn hmem data size]
  tauto

theorem sync_noTrace_iff {s : Sys E} (hwf : s.log.WF) (fn : RmapCfg → U16 → List U8) (addr dataLen : Nat) :
    ((smileFeeSync cb s fn addr dataLen).1 ≠ 0 → NoTrace s.log (smileFeeSync cb s fn addr dataLen).2.log) ↔
      dataLen % 4 ≠ 0 ∨ ∀ k : Nat, (s.log.grabSlot addr).1 = k →
        SubmitHolds cb { s with log := (s.log.grabSlot addr).2 } fn k addr dataLen := by
  unfold smileFeeSync
  by_cases hmod : dataLen % 4 ≠ 0
  · rw [if_pos hmod]
    exact iff_of_true (fun _ => ⟨Finset.Subset.refl _, le_rfl⟩) (Or.inl hmod)
  · rw [if_neg hmod, or_iff_right hmod]
    dsimp only
    rcases s.log.grabSlot_spec addr with ⟨-, k, -, hfree, hret, -⟩ | ⟨-, hfull⟩
    · rw [hret, if_neg (by omega), Int.toNat_natCast,
        submit_noTrace_iff cb hwf hwf (Finset.Subset.refl _) fn hret addr dataLen, or_iff_right hfree]
      simp
    · rw [hfull, if_pos (by simp)]
      refine iff_of_true (fun _ => ⟨Finset.Subset.refl _, le_rfl⟩) fun k hk => ?_
      simp at hk

theorem syncData_noTrace_iff {s : Sys E} (hwf : s.log.WF) (fn : RmapCfg → U16 → U32 → U32 → List U8) (addr : U32)
    (data : Nat) (dataLen : U32) (read : Bool) :
    ((smileFeeSyncData cb s fn addr data dataLen read).1 ≠ 0 →
      NoTrace s.log (smileFeeSyncData cb s fn addr data dataLen read).2.log) ↔
    let r := (smileFeeProcessRx cb s).2
    ∀ k : Nat, (r.log.grabSlot data).1 = k → k ∈ s.log.slots ∨
      SubmitHolds cb { r with log := (r.log.grabSlot data).2 } (fun cfg transId => fn cfg transId addr dataLen) k
        (if read then 0 else data) (if read then 0 else dataLen.toNat) := by
  have hdrain := processRx_drains cb s
  unfold smileFeeSyncData
  dsimp only
  generalize (smileFeeProcessRx cb s).2 = r at hdrain
  rcases r.log.grabSlot_spec data with ⟨-, k, -, hfree, hret, -⟩ | ⟨-, hfull⟩
  · rw [hret, if_neg (by omega), Int.toNat_natCast,
      submit_noTrace_iff cb hwf (hdrain.wf hwf) hdrain.slots _ hret]
    simp
  · rw [hfull, if_pos (by simp)]
    refine iff_of_true (fun _ => ⟨hdrain.slots, hdrain.pending_le⟩) fun k hk => ?_
    simp at hk

/-- **When a failing submission leaves no trace**: after any calls and for any callbacks, generator and
arguments. The slot taken by `smile_fee_sync` is a free one; the one taken by `smile_fee_sync_data` may
have been in use until the call looked at the queue. -/
theorem failed_sync_noTrace_iff (cfg : RmapCfg) (mem : Mem) (env : E) (calls : List (LibCall E)) :
    (∀ fn addr dataLen,
      let s := LibCall.run cb (.start cfg mem env) calls
      ((smileFeeSync cb s fn addr dataLen).1 ≠ 0 → NoTrace s.log (smileFeeSync cb s fn addr dataLen).2.log) ↔
      dataLen % 4 ≠ 0 ∨ ∀ k : Nat, (s.log.grabSlot addr).1 = k →
        SubmitHolds cb { s with log := (s.log.grabSlot addr).2 } fn k addr dataLen) ∧
    ∀ fn addr data dataLen read,
      let s := LibCall.run cb (.start cfg mem env) calls
      let r := (smileFeeProcessRx cb s).2
      ((smileFeeSyncData cb s fn addr data dataLen read).1 ≠ 0 →
        NoTrace s.log (smileFeeSyncData cb s fn addr data dataLen read).2.log) ↔
      ∀ k : Nat, (r.log.grabSlot data).1 = k → k ∈ s.log.slots ∨
        SubmitHolds cb { r with log := (r.log.grabSlot data).2 } (fun cfg transId => fn cfg transId addr dataLen) k
          (if read then 0 else data) (if read then 0 else dataLen.toNat) := by
  have hwf := LibCall.run_wf cb (s := .start cfg mem env) TransLog.WF.start calls
  constructor
  · intro fn addr dataLen
    exact sync_noTrace_iff cb hwf fn addr dataLen
  · intro fn addr data dataLen read
    exact syncData_noTrace_iff cb hwf fn addr data dataLen read

/-- A link that takes no command. -/
def deadCallbacks : Callbacks Unit where
  malloc _ := (true, ())
  tx _ _ _ _ := (true, ())
  rxSize _ := (0, ())
  rxRead _ := (⟨[], fun _ => 0, 0⟩, ())
  left _ := 0
  left_malloc _ := le_rfl
  left_size _ := le_rfl
  left_pos _ h := absurd rfl h
  left_read _ h := absurd rfl h

/-- A register write and a write to the SRAM over a dead link: both fail, and each leaves a slot in use. -/
theorem failed_sync_leaks :
    ((smileFeeSync deadCallbacks (.start {} (fun _ => 0) ())
        (fun cfg transId => smileFeeGenCmd cfg transId RMAP_WRITE_ADDR_INC_REPLY 0x0 4) 0x100 4).1 = -1 ∧
      ¬ NoTrace (Sys.start {} (fun _ => 0) ()).log (smileFeeSync deadCallbacks (.start {} (fun _ => 0) ())
        (fun cfg transId => smileFeeGenCmd cfg transId RMAP_WRITE_ADDR_INC_REPLY 0x0 4) 0x100 4).2.log) ∧
    (smileFeeSyncData deadCallbacks (.start {} (fun _ => 0) ())
        (fun cfg transId addr size => smileFeeGenCmd cfg transId RMAP_WRITE_ADDR_INC_REPLY addr size)
        0x800000 0x200 8 false).1 = -1 ∧
      ¬ NoTrace (Sys.start {} (fun _ => 0) ()).log (smileFeeSyncData deadCallbacks (.start {} (fun _ => 0) ())
        (fun cfg transId addr size => smileFeeGenCmd cfg transId RMAP_WRITE_ADDR_INC_REPLY addr size)
        0x800000 0x200 8 false).2.log := by
  refine ⟨⟨by decide, fun h => ?_⟩, by decide, fun h => ?_⟩
  · exact absurd h.pending (by decide)
  · exact absurd h.pending (by decide)

end SmileFee
