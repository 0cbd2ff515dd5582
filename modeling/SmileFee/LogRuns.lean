import SmileFee.TransLog

/-!
# The transaction log over any run (`FEE/smile_fee_rmap.c:119-314, 391-497, 705-722`)

`Net` knows only links that deliver answers to transmitted commands. Here the callbacks are any
functions, so what is received is any sequence of byte strings, and the command generators are any
functions too. What is left is what the library itself guarantees.

**`log_invariant`**: the counter counts the slots in use, and a packet frees at most the slot it names.

**`reply_completes_iff`**: it frees that slot unless `NULL` was registered, since
`trans_log_get_addr` returns `NULL` both for "not in use" and for "no address"; the log's
description allows to omit the address for write commands.

**`processRx_writes`**: the length of what is written is the packet's, as the description of the log
says, and not that of the request.
-/

namespace SmileFee

variable {E : Type} (cb : Callbacks E)

/-! ## What receiving can do -/

/-- What a packet of the receive log is to the transactions in `l`: if it was applied, it named one
of them and carried the data written to its address. -/
def Names (l : TransLog) (e : Pkt × RxResult) : Prop :=
  ∀ k a data, e.2 = .applied k a data → k ∈ l.slots ∧ a = l.localAddr k ∧
    ∃ rp, e.1.buf.decode = some rp ∧ rp.trId.toNat = k ∧ rp.data = data

/-- What receiving does to the system: slots are freed and counted down, and all that is written is
what the packets read in between carried for the transactions outstanding at the start. -/
structure Drains (s s' : Sys E) : Prop where
  cfg : s'.cfg = s.cfg
  slots : s'.log.slots ⊆ s.log.slots
  localAddr : s'.log.localAddr = s.log.localAddr
  balance : s'.log.pending - s'.log.slots.card = s.log.pending - s.log.slots.card
  received : Extends (Names s.log) s s'

namespace Drains

variable {s s' s'' : Sys E}

/-- Only the callbacks have done something. -/
theorem of_env (env : E) : Drains s { s with env := env } :=
  ⟨rfl, Finset.Subset.refl _, rfl, rfl, .of_eq rfl rfl⟩

theorem trans (h : Drains s s') (h' : Drains s' s'') : Drains s s'' where
  cfg := h'.cfg.trans h.cfg
  slots := h'.slots.trans h.slots
  localAddr := h'.localAddr.trans h.localAddr
  balance := h'.balance.trans h.balance
  received := h.received.trans (h'.received.mono fun e he k a data hr => by
    obtain ⟨hk, ha, hrp⟩ := he k a data hr
    exact ⟨h.slots hk, by rw [ha, h.localAddr], hrp⟩)

theorem wf (h : Drains s s') (hwf : s.log.WF) : s'.log.WF := by
  have hb := h.balance
  rw [TransLog.WF] at hwf ⊢
  omega

theorem pending_le (h : Drains s s') : s'.log.pending ≤ s.log.pending := by
  have hb := h.balance
  have hc := Finset.card_le_card h.slots
  omega

end Drains

namespace TransLog

variable (l : TransLog)

theorem slots_releaseSlot (k : Nat) : (l.releaseSlot k).slots = l.slots.erase k := by
  ext j
  rw [Finset.mem_erase, ← not_iff_not, ← holds_eq_none, holds_releaseSlot, Function.update_apply, not_and,
    ← holds_eq_none]
  split
  · simp_all
  · simp_all

theorem localAddr_releaseSlot (k : Nat) : (l.releaseSlot k).localAddr = l.localAddr := by
  unfold releaseSlot
  split
  · rfl
  · split <;> rfl

theorem pending_releaseSlot {k : Nat} (h : k ∈ l.slots) : (l.releaseSlot k).pending = l.pending - 1 := by
  rw [l.releaseSlot_of_used h]

theorem card_slots_le : l.slots.card ≤ TRANS_LOG_SIZE := by
  have h := Finset.card_filter_le (Finset.range TRANS_LOG_SIZE) fun k => l.inUse k = true
  rwa [Finset.card_range] at h

/-- The log is full exactly when each of its slots is in use. -/
theorem card_slots_lt : l.slots.card < TRANS_LOG_SIZE ↔ ∃ k < TRANS_LOG_SIZE, k ∉ l.slots := by
  have hsub : l.slots ⊆ Finset.range TRANS_LOG_SIZE := Finset.filter_subset _ _
  constructor
  · intro h
    by_contra hall
    push Not at hall
    have hle := Finset.card_le_card fun k hk => hall k (Finset.mem_range.1 hk)
    rw [Finset.card_range] at hle
    omega
  · rintro ⟨k, hk, hfree⟩
    have hlt := Finset.card_lt_card (Finset.ssubset_iff_subset_ne.2 ⟨hsub, fun heq => hfree (by
      rw [heq]; exact Finset.mem_range.2 hk)⟩)
    rwa [Finset.card_range] at hlt

theorem getAddr_of_mem {k : Nat} (h : k ∈ l.slots) : l.getAddr k = l.localAddr k := by
  rw [getAddr_eq, holds, if_pos (l.mem_slots.1 h)]
  rfl

theorem getAddr_of_notMem {k : Nat} (h : k ∉ l.slots) : l.getAddr k = 0 := by
  rw [getAddr_eq, l.holds_eq_none.2 h]
  rfl

end TransLog

/-- What becomes of a packet: it is without effect, or it is applied to the transaction it names,
which has an address. -/
theorem rxPacket_cases (pkt : Pkt) (s : Sys E) :
    (∃ r, (∀ k a data, r ≠ .applied k a data) ∧ rxPacket cb pkt s =
        { s with env := (cb.malloc s.env).2, rxLog := s.rxLog ++ [(pkt, r)] } ∧
      ((cb.malloc s.env).1 = true → ∀ rp, pkt.buf.decode = some rp → s.log.getAddr rp.trId.toNat = 0)) ∨
    (cb.malloc s.env).1 = true ∧ ∃ rp, pkt.buf.decode = some rp ∧ rp.trId.toNat ∈ s.log.slots ∧
      s.log.localAddr rp.trId.toNat ≠ 0 ∧ rxPacket cb pkt s = { s with
        env := (cb.malloc s.env).2
        mem := s.mem.write (s.log.localAddr rp.trId.toNat) rp.data
        log := s.log.releaseSlot rp.trId.toNat
        rxLog := s.rxLog ++
          [(pkt, .applied rp.trId.toNat (s.log.localAddr rp.trId.toNat) rp.data)] } := by
  have h := rxPacket_step cb pkt s
  generalize rxPacket cb pkt s = s' at h ⊢
  cases h with
  | noMem hm => exact Or.inl ⟨.noMem, by simp, rfl, by simp [hm]⟩
  | malformed _ hdec => exact Or.inl ⟨.malformed, by simp, rfl, by simp [hdec]⟩
  | unknown _ hdec haddr =>
    refine Or.inl ⟨.unknown, by simp, rfl, fun _ rp' hrp => ?_⟩
    rw [← Option.some.inj (hdec.symm.trans hrp)]
    exact haddr
  | @applied rp hm hdec haddr =>
    -- there is no address for a slot that is not in use
    have hmem : rp.trId.toNat ∈ s.log.slots := by
      by_contra h
      exact haddr (s.log.getAddr_of_notMem h)
    rw [s.log.getAddr_of_mem hmem] at haddr ⊢
    exact Or.inr ⟨hm, rp, hdec, hmem, haddr, rfl⟩

theorem rxPacket_drains (pkt : Pkt) (s : Sys E) : Drains s (rxPacket cb pkt s) := by
  rcases rxPacket_cases cb pkt s with ⟨r, hr, heq, -⟩ | ⟨-, rp, hdec, hmem, -, heq⟩
  · rw [heq]
    refine ⟨rfl, Finset.Subset.refl _, rfl, rfl, ⟨[(pkt, r)], rfl, ?_, ?_⟩⟩
    · cases r with
      | applied k a data => exact absurd rfl (hr k a data)
      | _ => rfl
    · intro e he k a data hap
      rw [List.mem_singleton.1 he] at hap
      exact absurd hap (hr k a data)
  · rw [heq]
    constructor
    · rfl
    · rw [s.log.slots_releaseSlot]
      exact Finset.erase_subset _ _
    · exact s.log.localAddr_releaseSlot _
    · have hpos : 0 < s.log.slots.card := Finset.card_pos.2 ⟨_, hmem⟩
      rw [s.log.pending_releaseSlot hmem, s.log.slots_releaseSlot, Finset.card_erase_of_mem hmem]
      omega
    · refine ⟨_, rfl, rfl, fun e he k a data hap => ?_⟩
      obtain rfl := List.mem_singleton.1 he
      cases hap
      exact ⟨hmem, rfl, rp, hdec, rfl, rfl⟩

theorem rxLoop_drains (k : Nat) (cnt : Int) (s : Sys E) : Drains s (rxLoop cb k cnt s).2 := by
  induction k generalizing cnt s with
  | zero => exact .of_env _
  | succ k ih =>
    unfold rxLoop
    dsimp only
    split
    · exact .of_env _
    · split
      · exact .of_env _
      · split
        · exact .of_env _
        · split
          · exact .of_env _
          · exact (Drains.of_env _).trans ((rxPacket_drains cb _ _).trans (ih _ _))

theorem processRx_drains (s : Sys E) : Drains s (smileFeeProcessRx cb s).2 := by
  unfold smileFeeProcessRx
  split
  · exact .of_env s.env
  · exact rxLoop_drains cb _ 0 s

theorem submitTx_drains (s : Sys E) (cmd : List U8) (data dataSize : Nat) :
    Drains s (smileFeeSubmitTx cb s cmd data dataSize).2 := by
  unfold smileFeeSubmitTx
  dsimp only
  split
  · exact processRx_drains cb s
  · split
    · exact (processRx_drains cb s).trans (.of_env _)
    · exact (processRx_drains cb s).trans (.of_env _)

theorem submitCmd_drains (s : Sys E) (fn : RmapCfg → U16 → List U8) (slot data dataSize : Nat) :
    Drains s (submitCmd cb s fn slot data dataSize).2 := by
  unfold submitCmd
  dsimp only
  generalize (if (cb.malloc (cb.malloc s.env).2).1 = true then fn s.cfg (BitVec.ofNat 16 slot) else []) = cmd
  split
  · exact .of_env _
  · split
    · exact .of_env _
    · exact (Drains.of_env _).trans (submitTx_drains cb _ cmd data dataSize)

/-! ## Taking a slot -/

/-- Taking a slot for `addr` succeeds as long as one is free. -/
theorem TransLog.grabSlot_spec (l : TransLog) (addr : Nat) :
    (l.slots.card < TRANS_LOG_SIZE ∧ ∃ k < TRANS_LOG_SIZE, k ∉ l.slots ∧ (l.grabSlot addr).1 = k ∧
      (l.grabSlot addr).2.slots = insert k l.slots ∧
      (l.grabSlot addr).2.localAddr = Function.update l.localAddr k addr ∧
      (l.grabSlot addr).2.pending = l.pending + 1) ∨
    (l.slots.card = TRANS_LOG_SIZE ∧ l.grabSlot addr = (-1, l)) := by
  rcases l.grabSlot_cases addr with ⟨k, hk, hfree, -, h⟩ | ⟨hall, h⟩
  · rw [l.holds_eq_none] at hfree
    refine Or.inl ⟨l.card_slots_lt.2 ⟨k, hk, hfree⟩, k, hk, hfree, ?_⟩
    rw [h]
    exact ⟨rfl, l.slots_take hk addr, rfl, rfl⟩
  · refine Or.inr ⟨?_, h⟩
    have hle := l.card_slots_le
    have hnlt : ¬ l.slots.card < TRANS_LOG_SIZE := by
      rw [l.card_slots_lt]
      rintro ⟨k, hk, hfree⟩
      exact hfree (hall k hk)
    omega

theorem TransLog.WF.grabSlot {l : TransLog} (h : l.WF) (addr : Nat) : (l.grabSlot addr).2.WF := by
  rcases l.grabSlot_cases addr with ⟨k, hk, hfree, -, hg⟩ | ⟨-, hg⟩
  · rw [hg]
    exact h.take hk hfree addr
  · rw [hg]
    exact h

theorem sync_wf {s : Sys E} (h : s.log.WF) (fn : RmapCfg → U16 → List U8) (addr dataLen : Nat) :
    (smileFeeSync cb s fn addr dataLen).2.log.WF := by
  have hg := h.grabSlot addr
  unfold smileFeeSync
  split
  · exact h
  · dsimp only
    split
    · exact hg
    · exact (submitCmd_drains cb _ fn _ addr dataLen).wf hg

theorem syncData_wf {s : Sys E} (h : s.log.WF) (fn : RmapCfg → U16 → U32 → U32 → List U8) (addr : U32) (data : Nat)
    (dataLen : U32) (read : Bool) : (smileFeeSyncData cb s fn addr data dataLen read).2.log.WF := by
  have hg := ((processRx_drains cb s).wf h).grabSlot data
  unfold smileFeeSyncData
  dsimp only
  split
  · exact hg
  · exact (submitCmd_drains cb _ _ _ _ _).wf hg

/-! ## Runs -/

/-- A call of the library with any command generator, or whatever happens outside in between. -/
inductive LibCall (E : Type) where
  | sync (fn : RmapCfg → U16 → List U8) (addr dataLen : Nat)
  | syncData (fn : RmapCfg → U16 → U32 → U32 → List U8) (addr : U32) (data : Nat) (dataLen : U32) (read : Bool)
  | status
  | resetLog
  | outside (env : E)

namespace LibCall

def exec (s : Sys E) : LibCall E → Int × Sys E
  | sync fn addr dataLen => smileFeeSync cb s fn addr dataLen
  | syncData fn addr data dataLen read => smileFeeSyncData cb s fn addr data dataLen read
  | status => smileFeeRmapSyncStatus cb s
  | resetLog => (0, smileFeeRmapResetLog s)
  | outside env => (0, { s with env := env })

def run (s : Sys E) (calls : List (LibCall E)) : Sys E := calls.foldl (fun s c => (c.exec cb s).2) s

theorem exec_wf {s : Sys E} (h : s.log.WF) (c : LibCall E) : (c.exec cb s).2.log.WF := by
  cases c with
  | sync fn addr dataLen => exact sync_wf cb h fn addr dataLen
  | syncData fn addr data dataLen read => exact syncData_wf cb h fn addr data dataLen read
  | status => exact (processRx_drains cb s).wf h
  | resetLog => exact .reset _
  | outside env => exact h

theorem run_wf {s : Sys E} (h : s.log.WF) (calls : List (LibCall E)) : (run cb s calls).log.WF := by
  induction calls generalizing s with
  | nil => exact h
  | cons c calls ih => exact ih (exec_wf cb h c)

end LibCall

/-- The library after `smile_fee_rmap_init`, with an empty log. -/
def Sys.start (cfg : RmapCfg) (mem : Mem) (env : E) : Sys E := { cfg := cfg, log := {}, mem := mem, env := env }

theorem TransLog.WF.start : WF {} := by
  have hs : slots {} = ∅ := by
    ext k
    simp [mem_slots]
  rw [WF, hs]
  rfl

/-- **The log under hostile input**: after any calls the counter counts the slots in use, at most all
of them; a packet that names no transaction is without effect, and any other frees at most the slot it
names; a slot is handed out, a free one, exactly as long as there is one. -/
theorem log_invariant (cfg : RmapCfg) (mem : Mem) (env : E) (calls : List (LibCall E)) :
    (∃ n : Nat, (LibCall.run cb (.start cfg mem env) calls).log.pending = n ∧
      n = (LibCall.run cb (.start cfg mem env) calls).log.slots.card ∧ n ≤ TRANS_LOG_SIZE) ∧
    (∀ (s : Sys E) (pkt : Pkt), (∀ rp, pkt.buf.decode = some rp → rp.trId.toNat ∉ s.log.slots) →
      (rxPacket cb pkt s).log = s.log ∧ (rxPacket cb pkt s).mem = s.mem) ∧
    (∀ (s : Sys E) (pkt : Pkt) (rp : RmapPkt), pkt.buf.decode = some rp → rp.trId.toNat ∈ s.log.slots →
      (rxPacket cb pkt s).log = s.log ∨
        (rxPacket cb pkt s).log.slots = s.log.slots.erase rp.trId.toNat ∧
        (rxPacket cb pkt s).log.pending = s.log.pending - 1 ∧
        (rxPacket cb pkt s).log.localAddr = s.log.localAddr) ∧
    (∀ (l : TransLog) (addr : Nat), (0 ≤ (l.grabSlot addr).1 ↔ l.slots.card < TRANS_LOG_SIZE) ∧
      ∀ k : Nat, (l.grabSlot addr).1 = k →
        k < TRANS_LOG_SIZE ∧ k ∉ l.slots ∧ (l.grabSlot addr).2.slots = insert k l.slots) := by
  refine ⟨?_, fun s pkt hun => ?_, fun s pkt rp hdec hused => ?_, fun l addr => ?_⟩
  · have hwf := LibCall.run_wf cb (s := .start cfg mem env) TransLog.WF.start calls
    have hle := (LibCall.run cb (.start cfg mem env) calls).log.card_slots_le
    exact ⟨_, hwf, rfl, hle⟩
  · rcases rxPacket_cases cb pkt s with ⟨r, -, h, -⟩ | ⟨-, rp, hdec, hmem, -, -⟩
    · rw [h]
      exact ⟨rfl, rfl⟩
    · exact absurd hmem (hun rp hdec)
  · rcases rxPacket_cases cb pkt s with ⟨r, -, h, -⟩ | ⟨-, rp', hdec', -, -, h⟩
    · rw [h]
      exact Or.inl rfl
    · obtain rfl : rp = rp' := Option.some.inj (hdec.symm.trans hdec')
      rw [h]
      exact Or.inr ⟨s.log.slots_releaseSlot _, s.log.pending_releaseSlot hused, s.log.localAddr_releaseSlot _⟩
  · rcases l.grabSlot_spec addr with ⟨hlt, k, hk, hfree, hret, hslots, -⟩ | ⟨hfull, h⟩
    · refine ⟨iff_of_true (by omega) hlt, fun k' hk' => ?_⟩
      obtain rfl : k = k' := by omega
      exact ⟨hk, hfree, hslots⟩
    · rw [h]
      exact ⟨iff_of_false (by simp) (by omega), fun k hk => by omega⟩

/-! ## Completing a transaction -/

/-- `smile_fee_process_rx` is called, reads `pkt` and nothing else, and can allocate what it needs. -/
structure Delivers (env : E) (pkt : Pkt) : Prop where
  connected : cb.connected = true
  announced : (cb.rxSize env).1 ≠ 0
  buffer : (cb.malloc (cb.rxSize env).2).1 = true
  read : (cb.rxRead (cb.malloc (cb.rxSize env).2).2).1 = pkt
  packet : (cb.malloc (cb.rxRead (cb.malloc (cb.rxSize env).2).2).2).1 = true
  last : (cb.rxSize (cb.malloc (cb.rxRead (cb.malloc (cb.rxSize env).2).2).2).2).1 = 0

theorem decode_ne_nil {pkt : Pkt} {rp : RmapPkt} (h : pkt.buf.decode = some rp) : pkt.bytes.length ≠ 0 := by
  intro hnil
  have hbytes : pkt.bytes = [] := List.length_eq_zero_iff.1 hnil
  rw [Pkt.buf, hbytes] at h
  cases h

/-- With something pending, receiving one packet is processing it. -/
theorem processRx_single {s : Sys E} {pkt : Pkt} (h : Delivers cb s.env pkt) (hp : s.log.pending ≠ 0)
    (hne : pkt.bytes.length ≠ 0) :
    (smileFeeProcessRx cb s).2.log =
      (rxPacket cb pkt { s with env := (cb.rxRead (cb.malloc (cb.rxSize s.env).2).2).2 }).log := by
  obtain ⟨hconn, hsize, hbuf, hread, -, hlast⟩ := h
  rw [smileFeeProcessRx, hconn, if_neg (by simp), rxLoop_while, rxTurn]
  dsimp only
  rw [if_neg hsize, if_neg hp, hbuf, if_neg (by simp), hread, if_neg hne, rxLoop_while, rxTurn]
  dsimp only
  rw [rxPacket_env, if_pos hlast]

/-- **A reply completes its transaction exactly if a local address was registered**: after any calls,
whatever slot is in use and whatever the packet that carries its index. -/
theorem reply_completes_iff (cfg : RmapCfg) (mem : Mem) (env : E) (calls : List (LibCall E)) (k : Nat)
    (pkt : Pkt) (rp : RmapPkt) (hk : k ∈ (LibCall.run cb (.start cfg mem env) calls).log.slots)
    (hpkt : Delivers cb (LibCall.run cb (.start cfg mem env) calls).env pkt)
    (hdec : pkt.buf.decode = some rp) (hid : rp.trId.toNat = k) :
    ((smileFeeProcessRx cb (LibCall.run cb (.start cfg mem env) calls)).2.log.slots =
        (LibCall.run cb (.start cfg mem env) calls).log.slots.erase k ∧
      (smileFeeProcessRx cb (LibCall.run cb (.start cfg mem env) calls)).2.log.pending =
        (LibCall.run cb (.start cfg mem env) calls).log.pending - 1) ↔
    (LibCall.run cb (.start cfg mem env) calls).log.localAddr k ≠ 0 := by
  have hwf := LibCall.run_wf cb (s := .start cfg mem env) TransLog.WF.start calls
  generalize LibCall.run cb (.start cfg mem env) calls = s at *
  have hpos : 0 < s.log.slots.card := Finset.card_pos.2 ⟨k, hk⟩
  have hpend : s.log.pending ≠ 0 := by rw [TransLog.WF] at hwf; omega
  rw [processRx_single cb hpkt hpend (decode_ne_nil hdec)]
  rcases rxPacket_cases cb pkt { s with env := (cb.rxRead (cb.malloc (cb.rxSize s.env).2).2).2 } with
    ⟨r, -, heq, hnone⟩ | ⟨-, rp', hdec', -, haddr, heq⟩
  · -- the lookup answers "not in use" for a slot without an address
    have haddr := hnone hpkt.packet rp hdec
    rw [hid, s.log.getAddr_of_mem hk] at haddr
    rw [heq, haddr]
    refine iff_of_false (fun h => ?_) (fun h => h rfl)
    have : k ∈ s.log.slots.erase k := h.1 ▸ hk
    exact Finset.notMem_erase k _ this
  · obtain rfl : rp = rp' := Option.some.inj (hdec.symm.trans hdec')
    rw [heq, hid] at *
    exact iff_of_true ⟨s.log.slots_releaseSlot k, s.log.pending_releaseSlot hk⟩ haddr

/-! ### A queue of packets -/

/-- A link that takes every command and delivers the packets of a list. -/
def queueCallbacks : Callbacks (List Pkt) where
  malloc q := (true, q)
  tx q _ _ _ := (false, q)
  rxSize q := ((q.head?.map fun p => p.bytes.length).getD 0, q)
  rxRead q := ((q.head?).getD ⟨[], fun _ => 0, 0⟩, q.tail)
  left q := q.length
  left_malloc _ := le_rfl
  left_size _ := le_rfl
  left_pos q h := by
    cases q with
    | nil => exact absurd rfl h
    | cons p q => exact Nat.succ_pos _
  left_read q h := by
    cases q with
    | nil => exact absurd rfl h
    | cons p q => exact Nat.lt_succ_self _

theorem queueCallbacks_delivers {pkt : Pkt} (h : pkt.bytes.length ≠ 0) : Delivers queueCallbacks [pkt] pkt :=
  ⟨rfl, h, rfl, rfl, rfl, rfl⟩

/-- Writing to register 0 with its mirror at `addr`, and then a packet arrives. -/
def writeThen (addr : Nat) (pkt : Pkt) : List (LibCall (List Pkt)) :=
  [.sync (fun cfg transId => smileFeeGenCmd cfg transId RMAP_WRITE_ADDR_INC_REPLY 0x0 4) addr 4, .outside [pkt]]

/-- The reply to a write of transaction 0, with the status "success". -/
def writeReplyPkt : Pkt := { bytes := [0x50, 0x01, 0x2c, 0x00, 0x51, 0x00, 0x00, 0x1d, 0x00, 0x00, 0x00, 0x00] }

/-- A reply to a read of transaction 0, with four bytes of data. -/
def readReplyPkt : Pkt :=
  { bytes := [0x50, 0x01, 0x0c, 0x00, 0x51, 0x00, 0x00, 0x00, 0x00, 0x00, 0x04, 0x00, 0x01, 0x02, 0x03, 0x04, 0x00] }

theorem reply_completes_iff_write :
    ((smileFeeProcessRx queueCallbacks
        (LibCall.run queueCallbacks (.start {} (fun _ => 0) []) (writeThen 0x100 writeReplyPkt))).2.log.slots =
        (LibCall.run queueCallbacks (.start {} (fun _ => 0) []) (writeThen 0x100 writeReplyPkt)).log.slots.erase 0 ∧
      (smileFeeProcessRx queueCallbacks
        (LibCall.run queueCallbacks (.start {} (fun _ => 0) []) (writeThen 0x100 writeReplyPkt))).2.log.pending =
        (LibCall.run queueCallbacks (.start {} (fun _ => 0) []) (writeThen 0x100 writeReplyPkt)).log.pending - 1) ↔
    (LibCall.run queueCallbacks (.start {} (fun _ => 0) []) (writeThen 0x100 writeReplyPkt)).log.localAddr 0 ≠ 0 :=
  reply_completes_iff queueCallbacks {} (fun _ => 0) [] (writeThen 0x100 writeReplyPkt) 0 writeReplyPkt
    ((writeReplyPkt.buf.decode).get (by decide)) (by decide) (queueCallbacks_delivers (by decide)) (by decide) (by decide)

/-- Without a local address the reply to the write is not recognised, and its slot stays in use. -/
theorem reply_without_addr_ignored :
    (0 ∈ (LibCall.run queueCallbacks (.start {} (fun _ => 0) []) (writeThen 0 writeReplyPkt)).log.slots ∧
      Delivers queueCallbacks
        (LibCall.run queueCallbacks (.start {} (fun _ => 0) []) (writeThen 0 writeReplyPkt)).env writeReplyPkt ∧
      writeReplyPkt.buf.decode.map (fun rp => rp.trId.toNat) = some 0) ∧
    0 ∈ (smileFeeProcessRx queueCallbacks
      (LibCall.run queueCallbacks (.start {} (fun _ => 0) []) (writeThen 0 writeReplyPkt))).2.log.slots ∧
    (smileFeeProcessRx queueCallbacks
      (LibCall.run queueCallbacks (.start {} (fun _ => 0) []) (writeThen 0 writeReplyPkt))).2.log.pending = 1 := by
  refine ⟨⟨by decide, queueCallbacks_delivers (by decide), by decide⟩, by decide, by decide⟩

/-! ## What replies write -/

/-- **Replies write as much as they carry**: every byte changed lies behind the address registered for
a transaction that was outstanding, within the data length of a packet read that names it. So where no
packet carries more than was requested, only what was requested changes; nothing is requested by a
write. -/
theorem processRx_writes (s : Sys E) :
    ∃ new, (smileFeeProcessRx cb s).2.rxLog = s.rxLog ++ new ∧
      (∀ x, (smileFeeProcessRx cb s).2.mem x ≠ s.mem x → ∃ e ∈ new, ∃ rp, e.1.buf.decode = some rp ∧
        rp.trId.toNat ∈ s.log.slots ∧ s.log.localAddr rp.trId.toNat ≤ x ∧
        x < s.log.localAddr rp.trId.toNat + rp.dataLen.toNat) ∧
      ∀ requested : Nat → Nat,
        (∀ e ∈ new, ∀ rp, e.1.buf.decode = some rp → rp.trId.toNat ∈ s.log.slots →
          rp.dataLen.toNat ≤ requested rp.trId.toNat) →
        ∀ x, (smileFeeProcessRx cb s).2.mem x ≠ s.mem x →
          ∃ k ∈ s.log.slots, s.log.localAddr k ≤ x ∧ x < s.log.localAddr k + requested k := by
  obtain ⟨new, hlog, hmem, hnames⟩ := (processRx_drains cb s).received
  have hwrites : ∀ x, (smileFeeProcessRx cb s).2.mem x ≠ s.mem x → ∃ e ∈ new, ∃ rp, e.1.buf.decode = some rp ∧
      rp.trId.toNat ∈ s.log.slots ∧ s.log.localAddr rp.trId.toNat ≤ x ∧
      x < s.log.localAddr rp.trId.toNat + rp.dataLen.toNat := by
    intro x hx
    by_contra hno
    refine hx ?_
    rw [hmem]
    refine replay_outside (fun e he hc => hno ?_) s.mem
    obtain ⟨k, a, data, hr, hlo, hhi⟩ := hc
    obtain ⟨hk, rfl, rp, hdec, rfl, rfl⟩ := hnames e he k a data hr
    refine ⟨e, he, rp, hdec, hk, hlo, ?_⟩
    rw [← Buf.length_data_of_decode hdec]
    exact hhi
  refine ⟨new, hlog, hwrites, fun requested hreq x hx => ?_⟩
  obtain ⟨e, he, rp, hdec, hk, hlo, hhi⟩ := hwrites x hx
  have hle := hreq e he rp hdec hk
  exact ⟨_, hk, hlo, by omega⟩

/-- A packet with data that names a write: all transactions outstanding are writes, and a byte of the
register they were submitted with changes. -/
theorem processRx_writes_unrequested :
    (LibCall.run queueCallbacks (.start {} (fun _ => 0) []) (writeThen 0x100 readReplyPkt)).log.slots = {0} ∧
    ¬ ∀ x, (smileFeeProcessRx queueCallbacks
        (LibCall.run queueCallbacks (.start {} (fun _ => 0) []) (writeThen 0x100 readReplyPkt))).2.mem x ≠
          (LibCall.run queueCallbacks (.start {} (fun _ => 0) []) (writeThen 0x100 readReplyPkt)).mem x →
      ∃ k ∈ (LibCall.run queueCallbacks (.start {} (fun _ => 0) []) (writeThen 0x100 readReplyPkt)).log.slots,
        (LibCall.run queueCallbacks (.start {} (fun _ => 0) []) (writeThen 0x100 readReplyPkt)).log.localAddr k ≤ x ∧
        x < (LibCall.run queueCallbacks (.start {} (fun _ => 0) []) (writeThen 0x100 readReplyPkt)).log.localAddr k +
          0 := by
  refine ⟨by decide, fun h => ?_⟩
  obtain ⟨k, -, hlo, hhi⟩ := h 0x100 (by decide)
  omega

end SmileFee
