import SmileFee.Session
import SmileFee.SimLink
import SmileFee.SimTarget
import SmileFee.SramAccess

/-!
# The simulator in the format of the GRESB (`SIM/smile_fee_sim.c:281-348`, `485-658`)

In this format `rmap_sim_rx` is called from behind the header of the GRESB, with a length that counts this header too.
The four bytes of data that a read seems to lack are then there, and the simulator is a target for reads and writes
of registers.

| Command              | `gresbReceive`                      | Here                      |
|----------------------|-------------------------------------|---------------------------|
| write of a register  | memory written, response            | `gresbReceive_regWrite`   |
| read of a register   | memory kept, the four bytes of it   | `gresbReceive_regRead`    |
| write to the SRAM    | memory written, response            | `gresbReceive_sramWrite`  |

A reply to a read is made when the command is received. `Genuine` says that the packets that arrive are such replies,
and `Callbacks.Keeps` that what the callbacks keep is kept by the library.
-/

namespace SmileFee

open Word Mem

/-! ## What the callbacks keep, the library keeps -/

/-- `J` is kept by all callbacks but for the transmission, which makes it `J'`. -/
structure Callbacks.Keeps {E : Type} (cb : Callbacks E) (J J' : E → List (Pkt × RxResult) → Prop) : Prop where
  malloc : ∀ {e l}, J e l → J (cb.malloc e).2 l
  size : ∀ {e l}, J e l → J (cb.rxSize e).2 l
  read : ∀ {e l}, J e l → J (cb.rxRead e).2 l ∧ ((cb.rxRead e).1.bytes.length ≠ 0 →
    ∀ r, J (cb.rxRead e).2 (l ++ [((cb.rxRead e).1, r)]))
  tx : ∀ {e l}, J e l → ∀ hdr n data, J' (cb.tx e hdr n data).2 l
  unsent : ∀ {e l}, J e l → J' e l

namespace Callbacks.Keeps

variable {E : Type} {cb : Callbacks E} {J J' : E → List (Pkt × RxResult) → Prop} (hJ : cb.Keeps J J')
include hJ

theorem packet {pkt : Pkt} {s : Sys E} (h : ∀ r, J s.env (s.rxLog ++ [(pkt, r)])) :
    J (rxPacket cb pkt s).env (rxPacket cb pkt s).rxLog := by
  have hstep := rxPacket_step cb pkt s
  generalize rxPacket cb pkt s = s' at hstep ⊢
  cases hstep with
  | noMem => exact hJ.malloc (h _)
  | malformed => exact hJ.malloc (h _)
  | unknown => exact hJ.malloc (h _)
  | applied => exact hJ.malloc (h _)

theorem loop (k : Nat) (cnt : Int) {s : Sys E} (h : J s.env s.rxLog) :
    J (rxLoop cb k cnt s).2.env (rxLoop cb k cnt s).2.rxLog := by
  induction k generalizing cnt s with
  | zero => exact hJ.size h
  | succ k ih =>
    have hsize := hJ.size h
    have hmalloc := hJ.malloc hsize
    obtain ⟨hread, hlogged⟩ := hJ.read hmalloc
    simp only [rxLoop]
    split
    · exact hsize
    · split
      · exact hsize
      · split
        · exact hmalloc
        · split
          · exact hread
          · rename_i hne
            exact ih _ (hJ.packet (hlogged hne))

theorem processRx {s : Sys E} (h : J s.env s.rxLog) :
    J (smileFeeProcessRx cb s).2.env (smileFeeProcessRx cb s).2.rxLog := by
  unfold smileFeeProcessRx
  split
  · exact h
  · exact hJ.loop _ _ h

theorem submitTx {s : Sys E} (h : J s.env s.rxLog) (cmd : List U8) (data size : Nat) :
    J' (smileFeeSubmitTx cb s cmd data size).2.env (smileFeeSubmitTx cb s cmd data size).2.rxLog := by
  have hrx := hJ.processRx h
  simp only [smileFeeSubmitTx]
  split
  · exact hJ.unsent hrx
  · split
    · exact hJ.tx hrx _ _ _
    · exact hJ.tx hrx _ _ _

theorem submitCmd {s : Sys E} (h : J s.env s.rxLog) (fn : RmapCfg → U16 → List U8) (slot data size : Nat) :
    J' (submitCmd cb s fn slot data size).2.env (submitCmd cb s fn slot data size).2.rxLog := by
  have h1 := hJ.malloc h
  have h2 := hJ.malloc h1
  simp only [SmileFee.submitCmd]
  split
  · exact hJ.unsent h1
  · generalize (if (cb.malloc (cb.malloc s.env).2).1 = true then fn s.cfg (BitVec.ofNat 16 slot) else []) = cmd
    split
    · exact hJ.unsent h2
    · exact @submitTx _ _ _ _ hJ { s with env := (cb.malloc (cb.malloc s.env).2).2 } h2 cmd data size

theorem sync {s : Sys E} (h : J s.env s.rxLog) (fn : RmapCfg → U16 → List U8) (addr dataLen : Nat) :
    J' (smileFeeSync cb s fn addr dataLen).2.env (smileFeeSync cb s fn addr dataLen).2.rxLog := by
  simp only [smileFeeSync]
  split
  · exact hJ.unsent h
  · split
    · exact hJ.unsent h
    · exact @submitCmd _ _ _ _ hJ { s with log := (s.log.grabSlot addr).2 } h fn _ addr dataLen

theorem syncData {s : Sys E} (h : J s.env s.rxLog) (fn : RmapCfg → U16 → U32 → U32 → List U8) (addr : U32) (data : Nat)
    (dataLen : U32) (read : Bool) : J' (smileFeeSyncData cb s fn addr data dataLen read).2.env
      (smileFeeSyncData cb s fn addr data dataLen read).2.rxLog := by
  have hrx := hJ.processRx h
  simp only [smileFeeSyncData]
  generalize (smileFeeProcessRx cb s).2 = s₁ at hrx ⊢
  split
  · exact hJ.unsent hrx
  · exact @submitCmd _ _ _ _ hJ { s₁ with log := (s₁.log.grabSlot data).2 } hrx _ _ _ _

end Callbacks.Keeps

/-! ## Replies are those of the target -/

/-- What a target answers does not depend on the commands that come after. -/
def Target.Steady (T : Target) : Prop :=
  ∀ sent c answered i bytes, i < sent.length → T.answers sent answered i bytes = true →
    T.answers (sent ++ [c]) answered i bytes = true

/-- A packet that has arrived is a reply of the target, to one of the first `k` commands. -/
def Genuine (T : Target) (k : Nat) (env : Net) (l : List (Pkt × RxResult)) : Prop :=
  ∀ p, p ∈ env.rxq ∨ p ∈ l.map Prod.fst →
    p.origin < k ∧ ∃ answered, T.answers env.sent answered p.origin p.bytes = true

section Genuine

variable {T : Target} {k : Nat} {env : Net} {l : List (Pkt × RxResult)}

theorem Genuine.of_same (h : Genuine T k env l) {env' : Net} (hq : env'.rxq = env.rxq) (hsent : env'.sent = env.sent) :
    Genuine T k env' l := by
  intro p hp
  rw [hq] at hp
  rw [hsent]
  exact h p hp

@[simp] theorem Net.sent_deliver (env : Net) (a : Arrival) : (env.deliver T a).sent = env.sent := by
  unfold Net.deliver
  split <;> rfl

@[simp] theorem Net.sent_arrivals (as : List Arrival) (env : Net) :
    (as.foldl (Net.deliver T) env).sent = env.sent := by
  induction as generalizing env with
  | nil => rfl
  | cons a as ih => rw [List.foldl_cons, ih, Net.sent_deliver]

@[simp] theorem Net.sent_poll (env : Net) : (env.poll T).sent = env.sent := by
  unfold Net.poll
  split
  · rfl
  · exact Net.sent_arrivals _ _

theorem Genuine.deliver (h : Genuine T env.sent.length env l) (a : Arrival) :
    Genuine T env.sent.length (env.deliver T a) l := by
  unfold Net.deliver
  split
  · rename_i hc
    intro p hp
    rcases hp with hp | hp
    · rcases List.mem_append.1 hp with hp | hp
      · exact h p (Or.inl hp)
      · rw [List.mem_singleton.1 hp]
        exact ⟨hc.1, _, hc.2.2⟩
    · exact h p (Or.inr hp)
  · exact h

theorem Genuine.arrivals (as : List Arrival) (h : Genuine T env.sent.length env l) :
    Genuine T env.sent.length (as.foldl (Net.deliver T) env) l := by
  induction as generalizing env with
  | nil => exact h
  | cons a as ih =>
    have ha := h.deliver a
    rw [← @Net.sent_deliver T env a] at ha
    have := ih ha
    rwa [Net.sent_deliver] at this

theorem Genuine.poll (h : Genuine T env.sent.length env l) : Genuine T env.sent.length (env.poll T) l := by
  unfold Net.poll
  split
  · exact h
  · rename_i now later _
    exact @Genuine.arrivals T { env with sched := later } l now h

/-- Commands that have been sent stay so. -/
theorem netCallbacks_sent (old : List Cmd) :
    (netCallbacks T).Keeps (fun env _ => old <+: env.sent) (fun env _ => old <+: env.sent) where
  malloc {e} _ h := by
    show old <+: e.malloc.2.sent
    rwa [Net.sent_malloc]
  size {e} _ h := by
    show old <+: (e.poll T).sent
    rwa [Net.sent_poll]
  read {e} _ h := by
    have hsent : e.rxRead.2.sent = e.sent := by
      unfold Net.rxRead
      split <;> rfl
    have hread : old <+: e.rxRead.2.sent := by rwa [hsent]
    exact ⟨hread, fun _ _ => hread⟩
  tx {e} _ h hdr n data := by
    obtain ⟨-, -, ⟨-, hsent⟩ | hsent⟩ := e.tx_cases hdr n data
    · show old <+: (e.tx hdr n data).2.sent
      rwa [hsent]
    · show old <+: (e.tx hdr n data).2.sent
      rw [hsent]
      exact h.trans (List.prefix_append _ _)
  unsent h := h

/-- Until it sends a command, the library reads replies to the commands before. -/
theorem netCallbacks_genuine (hT : T.Steady) : (netCallbacks T).Keeps
    (fun env l => env.sent.length = k ∧ Genuine T k env l) (fun env l => Genuine T k env l) where
  malloc := fun ⟨hk, h⟩ =>
    ⟨(congrArg List.length (Net.sent_malloc _)).trans hk, h.of_same (Net.rxq_malloc _) (Net.sent_malloc _)⟩
  size := by
    rintro e l ⟨rfl, h⟩
    exact ⟨congrArg List.length (Net.sent_poll e), h.poll⟩
  read := by
    rintro e l ⟨hk, h⟩
    have hread : (netCallbacks T).rxRead e = e.rxRead := rfl
    rw [hread]
    cases hq : e.rxq with
    | nil =>
      have he : e.rxRead = ({ bytes := [] }, e) := by simp [Net.rxRead, hq]
      rw [he]
      exact ⟨⟨hk, h⟩, fun hne => absurd rfl hne⟩
    | cons p rest =>
      rw [Net.rxRead_eq hq]
      have hrest : ∀ q, q ∈ rest ∨ q ∈ l.map Prod.fst → q.origin < k ∧ ∃ answered, T.answers e.sent answered q.origin
          q.bytes = true := fun q hmem => h q (hmem.imp_left fun hr => by rw [hq]; exact List.mem_cons_of_mem _ hr)
      refine ⟨⟨hk, hrest⟩, fun _ r => ⟨hk, fun q hmem => ?_⟩⟩
      rw [List.map_append, List.mem_append, ← or_assoc] at hmem
      rcases hmem with hmem | hmem
      · exact hrest q hmem
      · rw [List.mem_singleton.1 hmem]
        exact h p (Or.inl (by rw [hq]; exact List.mem_cons_self))
  tx := by
    rintro e l ⟨hk, h⟩ hdr n data p hp
    obtain ⟨-, hq, hsent⟩ := e.tx_cases hdr n data
    have hp' : p ∈ e.rxq ∨ p ∈ l.map Prod.fst := hp.imp_left fun hm => (congrArg (p ∈ ·) hq).mp hm
    obtain ⟨hlt, answered, hans⟩ := h p hp'
    refine ⟨hlt, answered, ?_⟩
    show T.answers (e.tx hdr n data).2.sent answered p.origin p.bytes = true
    rcases hsent with ⟨-, hsent⟩ | hsent
    · rw [hsent]; exact hans
    · rw [hsent]
      exact hT _ _ _ _ _ (by omega) hans
  unsent := fun ⟨_, h⟩ => h

theorem Genuine.mono (h : Genuine T k env l) {k' : Nat} (hk : k ≤ k') : Genuine T k' env l := by
  intro p hp
  obtain ⟨hlt, hans⟩ := h p hp
  exact ⟨by omega, hans⟩

end Genuine

/-! ## Registers and SRAM -/

/-- The bytes of the registers. -/
def Mirror.InRegs (s : Mirror) (x : Nat) : Prop := s.fee ≤ x ∧ x < s.fee + OFFSET_OF_SRAM.toNat

/-- The SRAM, which is allocated by itself, does not lie in the registers. -/
def Mirror.Apart (s : Mirror) : Prop :=
  s.fee + OFFSET_OF_SRAM.toNat ≤ s.sram ∨ s.sram + FEE_SRAM_SIZE.toNat ≤ s.fee

instance (s : Mirror) : Decidable s.Apart := inferInstanceAs (Decidable (_ ∨ _))

/-- A mirror after `smile_fee_ctrl_init`: both arrays are allocated. -/
structure Mirror.Alloc (s : Mirror) : Prop where
  fee_ne : s.fee ≠ 0
  sram_ne : s.sram ≠ 0
  apart : s.Apart

/-- Byte `x` of the SRAM. -/
def Mirror.sramAt (s : Mirror) (m : Mem) (x : Nat) : U8 := m (s.sram + x)

section

variable {s : Mirror}

theorem Mirror.Apart.not_inRegs (h : s.Apart) {x : Nat} (hx : x < FEE_SRAM_SIZE.toNat) : ¬ s.InRegs (s.sram + x) := by
  rintro ⟨hlo, hhi⟩
  rcases h with h | h <;> omega

theorem Mirror.inRegs_cfgReg {n : Nat} (hn : n < 486) {x : Nat} (hlo : s.cfgReg n ≤ x) (hhi : x < s.cfgReg n + 4) :
    s.InRegs x := by
  simp only [Mirror.cfgReg] at hlo hhi
  rw [Mirror.InRegs, toNat_OFFSET_OF_SRAM]
  omega

/-- A register has no byte of the SRAM. -/
theorem Mirror.getReg_write_sram (h : s.Apart) {n : Nat} (hn : n < 486) (m : Mem) {addr : U32} {data : List U8}
    (hin : SramRange addr data.length) : s.getReg n (m.write (sramPtr s addr) data) = s.getReg n m := by
  obtain ⟨hptr, hend⟩ := hin.inside s
  rw [s.getReg_eq, loadBe32_write_disjoint, ← s.getReg_eq]
  rw [Mirror.Apart, toNat_OFFSET_OF_SRAM] at h
  rw [Mirror.cfgReg]
  rcases h with h | h <;> omega

/-- Writes to the SRAM, byte by byte. -/
theorem Mirror.sramAt_write (m : Mem) {addr : U32} {data : List U8} (hin : SramRange addr data.length) (x : Nat) :
    s.sramAt (m.write (sramPtr s addr) data) x =
      if addr.toNat - FEE_SRAM_START.toNat ≤ x ∧ x < addr.toNat - FEE_SRAM_START.toNat + data.length then
        data.getD (x - (addr.toNat - FEE_SRAM_START.toNat)) 0
      else s.sramAt m x := by
  obtain ⟨hptr, -⟩ := hin.inside s
  rw [Mirror.sramAt, hptr]
  split
  · rename_i hx
    obtain ⟨hlo, hhi⟩ := hx
    obtain ⟨i, rfl⟩ := Nat.exists_eq_add_of_le hlo
    rw [← Nat.add_assoc, write_inside _ _ _ _ (by omega), Nat.add_sub_cancel_left, List.getD_eq_getElem]
  · rename_i hx
    exact write_outside _ _ _ _ (by omega)

end

/-! ## The FEE -/

/-- A command as the simulator receives it in the format of the GRESB, sent by `rmap_tx`. -/
def gresbReceive (sim : Mirror) (z : Junk) (c : Cmd) (mem : Mem) : Option (Mem × List U8) :=
  rmapSimRx sim z.reply mem (simBuf false z.beyond (rmapTx z.blob c))

/-- The memory of the FEE in which it receives command `j`. `own j` is what its own program has done to it since the
command before. -/
def gresbMem (sim : Mirror) (own : Nat → Mem → Mem) (junk : Nat → Junk) (fee₀ : Mem) (sent : List Cmd) : Nat → Mem
  | 0 => own 0 fee₀
  | j + 1 =>
    let mem := gresbMem sim own junk fee₀ sent j
    own (j + 1) (match sent[j]? with
      | none => mem
      | some c => ((gresbReceive sim (junk j) c mem).map Prod.fst).getD mem)

/-- A read of four bytes from one of the registers. -/
def Cmd.IsRegRead (cfg : RmapCfg) (c : Cmd) : Prop :=
  c.nonCrcBytes = 0 ∧ c.hdr = feeReadCmdRegister cfg c.trId c.addr ∧ c.addr < OFFSET_OF_SRAM ∧ c.data.getD [] = []

instance (cfg : RmapCfg) (c : Cmd) : Decidable (c.IsRegRead cfg) :=
  inferInstanceAs (Decidable (_ ∧ _ ∧ _ ∧ _))

/-- A write of bytes that lie in the SRAM. -/
def Cmd.IsSramWrite (cfg : RmapCfg) (c : Cmd) : Prop :=
  c.nonCrcBytes = 0 ∧ c.hdr = feeWriteCmdData cfg c.trId c.addr c.len ∧ SramRange c.addr c.len.toNat ∧
    c.data.map List.length = some c.len.toNat

instance (cfg : RmapCfg) (c : Cmd) : Decidable (c.IsSramWrite cfg) :=
  inferInstanceAs (Decidable (_ ∧ _ ∧ _ ∧ _))

theorem Cmd.IsSramWrite.length_data {cfg : RmapCfg} {c : Cmd} (h : c.IsSramWrite cfg) {data : List U8}
    (hdata : c.data = some data) : data.length = c.len.toNat := by
  have hlen := h.2.2.2
  rw [hdata] at hlen
  exact Option.some.inj hlen

/-- The commands that are answered. -/
def Cmd.IsServed (cfg : RmapCfg) (c : Cmd) : Prop := c.IsRegWrite cfg ∨ c.IsRegRead cfg ∨ c.IsSramWrite cfg

instance (cfg : RmapCfg) (c : Cmd) : Decidable (c.IsServed cfg) := inferInstanceAs (Decidable (_ ∨ _ ∨ _))

/-- The response to a register read. -/
def readReply (cfg : RmapCfg) (transId : U16) : RmapPkt :=
  { dst := cfg.icuAddr, protoId := 1, instruction := setRiCmdResp (cmdInstr RMAP_READ_ADDR_INC 0) false
    key := cfg.dstKey, src := cfg.smileFeeAddr, trId := transId, dataLen := 4 }

@[simp] theorem riCmdResp_readReply (cfg : RmapCfg) (transId : U16) :
    riCmdResp (readReply cfg transId).instruction = false := riCmdResp_setRiCmdResp _ _

@[simp] theorem riCmd_readReply (cfg : RmapCfg) (transId : U16) :
    riCmd (readReply cfg transId).instruction = RMAP_READ_ADDR_INC := by
  rw [readReply, riCmd_setRiCmdResp, riCmd_cmdInstr (by decide)]

theorem readReply_hdrOk (cfg : RmapCfg) (transId : U16) : (readReply cfg transId).HdrOk where
  path_nil := rfl
  proto := rfl
  valid := by
    rw [rmapGetMinHdrSize, riCmd_readReply, riCmdResp_readReply]; decide
  rpath_len := by simp [readReply]
  addr_reply _ := rfl
  len_reply h hw := by
    rw [riCmdWrite, riCmd_readReply] at hw
    exact absurd hw (by decide)
  len_lt := by
    show (4 : U32).toNat < 2 ^ 24
    decide

section Fee

variable {cfg : RmapCfg} (hd : cfg.dpath = []) (hr : cfg.rpath = []) (sim : Mirror)
include hd

theorem isWrite_of_regRead {c : Cmd} (hc : c.IsRegRead cfg) : c.isWrite = false := by
  obtain ⟨hdr, nonCrcBytes, data⟩ := c
  obtain ⟨h0, hhdr, -, -⟩ := hc
  simp only at h0 hhdr
  have h := isWrite_genCmd cfg (Cmd.trId ⟨hdr, nonCrcBytes, data⟩) (Cmd.addr ⟨hdr, nonCrcBytes, data⟩) 4
    (by decide : rmapValidateCmdCode RMAP_READ_ADDR_INC = true) data
  rw [show smileFeeGenCmd cfg _ RMAP_READ_ADDR_INC _ 4 = hdr from hhdr.symm, hd, List.length_nil, ← h0] at h
  exact h.trans (by decide)

theorem isWrite_of_regWrite {c : Cmd} (hc : c.IsRegWrite cfg) : c.isWrite = true := by
  obtain ⟨hdr, nonCrcBytes, data⟩ := c
  obtain ⟨h0, hhdr, -, -⟩ := hc
  simp only at h0 hhdr
  have h := isWrite_genCmd cfg (Cmd.trId ⟨hdr, nonCrcBytes, data⟩) (Cmd.addr ⟨hdr, nonCrcBytes, data⟩) 4
    (by decide : rmapValidateCmdCode RMAP_WRITE_ADDR_INC_REPLY = true) data
  rw [show smileFeeGenCmd cfg _ RMAP_WRITE_ADDR_INC_REPLY _ 4 = hdr from hhdr.symm, hd, List.length_nil, ← h0] at h
  exact h.trans (by decide)

omit hd in
/-- The reply to a write has no data. -/
theorem Replies.data_of_write {c : Cmd} (hw : c.isWrite = true) {data bytes : List U8} (h : Replies c data bytes) :
    data = [] := by
  obtain ⟨p, crc, extra, -, -, -, -, hlen, hdata, -⟩ := h
  rw [hlen, hw, if_pos rfl] at hdata
  exact List.length_eq_zero_iff.1 hdata

theorem len_of_regRead {c : Cmd} (hc : c.IsRegRead cfg) : c.len = 4 := by
  obtain ⟨hdr, nonCrcBytes, data⟩ := c
  obtain ⟨h0, hhdr, -, -⟩ := hc
  simp only at h0 hhdr
  have h := len_genCmd cfg (Cmd.trId ⟨hdr, nonCrcBytes, data⟩) (Cmd.addr ⟨hdr, nonCrcBytes, data⟩)
    (by decide : rmapValidateCmdCode RMAP_READ_ADDR_INC = true) (by decide : (4 : U32).toNat ≤ RMAP_MAX_DATA_LEN) data
  rw [show smileFeeGenCmd cfg _ RMAP_READ_ADDR_INC _ 4 = hdr from hhdr.symm, hd, List.length_nil, ← h0] at h
  exact h

theorem regRead_bytes {c : Cmd} (hc : c.IsRegRead cfg) (blob : Mem) :
    packaged (smileFeePackage blob c.hdr c.nonCrcBytes c.data) =
      (cmdPkt cfg c.trId RMAP_READ_ADDR_INC c.addr 4).onWire
        (rmapCrc8 (rmapBuildHdr (cmdPkt cfg c.trId RMAP_READ_ADDR_INC c.addr 4))) [] := by
  obtain ⟨h0, hhdr, -, hdata⟩ := hc
  have hvalid : rmapValidateCmdCode RMAP_READ_ADDR_INC = true := by decide
  rw [h0, hhdr, feeReadCmdRegister, smileFeeGenCmd, smileFeeGenPkt_eq cfg c.trId c.addr hvalid (by decide),
    packaged_cmdPkt hd c.trId c.addr 4 hvalid blob c.data, hdata]
  rfl

include hr

/-- **A register read**: in this format the four bytes that are missing are there. -/
theorem gresbReceive_regRead {c : Cmd} (hc : c.IsRegRead cfg) (z : Junk) (mem : Mem) :
    ∃ reply, gresbReceive sim z c mem = some (mem, reply) ∧
      Replies c (mem.read (sim.fee + c.addr.toNat) 4) reply := by
  have hp := cmdPkt_hdrOk hd c.trId RMAP_READ_ADDR_INC c.addr (by decide) (by decide : (4 : U32).toNat ≤ _)
  have hbytes := regRead_bytes hd hc z.blob
  have hlen : (packaged (smileFeePackage z.blob c.hdr c.nonCrcBytes c.data)).length < 2 ^ 24 := by
    have hhdr := length_buildHdr_cmdPkt_le cfg c.trId RMAP_READ_ADDR_INC c.addr 4
    rw [hbytes, length_onWire, List.length_nil]
    omega
  have hbuf : simBuf false z.beyond (rmapTx z.blob c) = ⟨(cmdPkt cfg c.trId RMAP_READ_ADDR_INC c.addr 4).onWire
      (rmapCrc8 (rmapBuildHdr (cmdPkt cfg c.trId RMAP_READ_ADDR_INC c.addr 4)))
      ((List.range 4).map fun i => z.beyond ((packaged (smileFeePackage z.blob c.hdr c.nonCrcBytes c.data)).length + i)),
      z.beyond⟩ := by
    rw [rmapTx, gresbSend_eq hlen, simBuf, if_neg (by decide)]
    simp only [gresbGetSpwData_create, length_gresbCreateHostDataPkt, Nat.add_sub_cancel_left]
    rw [hbytes, onWire_append, List.nil_append]
  have hdec := decode_onWire_data hp (rmapCrc8 (rmapBuildHdr (cmdPkt cfg c.trId RMAP_READ_ADDR_INC c.addr 4))) z.beyond
    ((List.range 4).map fun i => z.beyond ((packaged (smileFeePackage z.blob c.hdr c.nonCrcBytes c.data)).length + i)) []
    (by simp [cmdPkt]) (by simp [List.range_succ])
  rw [List.append_nil, ← hbuf] at hdec
  have haddr : simLocalAddr sim { cmdPkt cfg c.trId RMAP_READ_ADDR_INC c.addr 4 with
      data := (List.range 4).map fun i =>
        z.beyond ((packaged (smileFeePackage z.blob c.hdr c.nonCrcBytes c.data)).length + i)
      dataCrc := Buf.get (simBuf false z.beyond (rmapTx z.blob c))
        ((rmapBuildHdr (cmdPkt cfg c.trId RMAP_READ_ADDR_INC c.addr 4)).length + 1 + ((List.range 4).map fun i =>
        z.beyond ((packaged (smileFeePackage z.blob c.hdr c.nonCrcBytes c.data)).length + i)).length)
      hdrCrc := Buf.get (simBuf false z.beyond (rmapTx z.blob c)) RMAP_HEADER_CRC } = some (sim.fee + c.addr.toNat) :=
    if_pos hc.2.2.1
  have hcmd : riCmd (cmdPkt cfg c.trId RMAP_READ_ADDR_INC c.addr 4).instruction = RMAP_READ_ADDR_INC :=
    riCmd_cmdInstr (by decide) _
  simp only [gresbReceive, rmapSimRx, hdec, haddr, simServe, riCmd_setRiCmdResp, hcmd]
  refine ⟨_, rfl, ?_⟩
  rw [packaged_eq _ _ _ _ (rmapBuildHdr_ne_nil _)]
  have hreply (p : RmapPkt) (h : rmapBuildHdr p = rmapBuildHdr (readReply cfg c.trId)) (crc : U8) (data extra : List U8)
      (hdata : data.length = 4) : Replies c data (rmapBuildHdr p ++ crc :: (data ++ extra)) := by
    rw [h]
    have hw := isWrite_of_regRead hd hc
    refine ⟨readReply cfg c.trId, crc, extra, readReply_hdrOk cfg c.trId, by simp, ?_, rfl, ?_, hdata, rfl⟩
    · rw [hw, riCmdWrite, riCmd_readReply]; rfl
    · rw [hw, len_of_regRead hd hc]; rfl
  refine hreply _ ?_ _ _ _ (by simp)
  simp [rmapBuildHdr, readReply, cmdPkt, hd, hr, dataLenBytes]

theorem gresbReceive_regWrite {c : Cmd} (hc : c.IsRegWrite cfg) (z : Junk) (mem : Mem) :
    ∃ data reply, c.data = some data ∧
      gresbReceive sim z c mem = some (mem.write (sim.fee + c.addr.toNat) data, reply) ∧ Replies c [] reply := by
  rw [gresbReceive, rmapSimRx_rmapTx hd hc]
  exact simReceive_regWrite hd hr sim z mem hc

omit hd hr in
/-- A packet with as many bytes of data as its header says, none perhaps. -/
theorem decode_onWire_fits {p : RmapPkt} (hp : p.HdrOk) (crc : U8) (z : Nat → U8) (data extra : List U8)
    (hlen : p.dataLen.toNat = data.length) : ∃ x y, Buf.decode ⟨p.onWire crc (data ++ extra), z⟩ =
      some { p with data := data, dataCrc := x, hdrCrc := y } := by
  by_cases hne : data = []
  · subst hne
    exact ⟨_, _, decode_onWire_nodata hp crc _ z (BitVec.eq_of_toNat_eq hlen)⟩
  · exact ⟨_, _, decode_onWire_data hp crc z data extra hlen hne⟩

omit hd hr in
/-- A packet that decodes to a write. -/
theorem rmapSimRx_of_write {blob mem : Mem} {pkt : Buf} {rp : RmapPkt} (hdec : pkt.decode = some rp) {a : Nat}
    (ha : simLocalAddr sim rp = some a) (hcmd : riCmd rp.instruction = RMAP_WRITE_ADDR_INC_REPLY) :
    rmapSimRx sim blob mem pkt = some (mem.write a rp.data, packaged (smileFeePackage blob (rmapBuildHdr { rp with
      instruction := setRiCmdResp rp.instruction false, src := rp.dst, dst := rp.src, dataLen := 0 }) 0 none)) := by
  have hread : RMAP_WRITE_ADDR_INC_REPLY ≠ RMAP_READ_ADDR_INC := by decide
  have hverify : RMAP_WRITE_ADDR_INC_REPLY ≠ RMAP_WRITE_ADDR_INC_VERIFY_REPLY := by decide
  simp only [rmapSimRx, hdec, ha, simServe, riCmd_setRiCmdResp, hcmd, if_neg hread, if_neg hverify, if_true]

omit hr in
/-- The write to the SRAM, as `rmap_tx` gets it from `smile_fee_package`. -/
theorem sramWrite_bytes {c : Cmd} (hc : c.IsSramWrite cfg) (blob : Mem) : ∃ data, c.data = some data ∧
    c.len.toNat = data.length ∧ packaged (smileFeePackage blob c.hdr c.nonCrcBytes c.data) =
      (cmdPkt cfg c.trId RMAP_WRITE_ADDR_INC_REPLY c.addr c.len).onWire
        (rmapCrc8 (rmapBuildHdr (cmdPkt cfg c.trId RMAP_WRITE_ADDR_INC_REPLY c.addr c.len)))
        (data ++ [rmapCrc8 data]) := by
  obtain ⟨h0, hhdr, ⟨hlo, hhi⟩, hdata⟩ := hc
  obtain ⟨data, hsome, hlen⟩ := Option.map_eq_some_iff.1 hdata
  have hend := toNat_FEE_SRAM_END
  have hvalid : rmapValidateCmdCode RMAP_WRITE_ADDR_INC_REPLY = true := by decide
  have hmax : c.len.toNat ≤ RMAP_MAX_DATA_LEN := by
    simp only [RMAP_MAX_DATA_LEN]
    omega
  refine ⟨data, hsome, hlen.symm, ?_⟩
  rw [h0, hhdr, hsome, feeWriteCmdData, smileFeeGenCmd, smileFeeGenPkt_eq cfg c.trId c.addr hvalid hmax,
    packaged_cmdPkt hd c.trId c.addr c.len hvalid blob (some data)]
  rfl

omit hr in
theorem isWrite_of_sramWrite {c : Cmd} (hc : c.IsSramWrite cfg) : c.isWrite = true := by
  obtain ⟨hdr, nonCrcBytes, data⟩ := c
  obtain ⟨h0, hhdr, -, -⟩ := hc
  simp only at h0 hhdr
  have h := isWrite_genCmd cfg (Cmd.trId ⟨hdr, nonCrcBytes, data⟩) (Cmd.addr ⟨hdr, nonCrcBytes, data⟩)
    (Cmd.len ⟨hdr, nonCrcBytes, data⟩) (by decide : rmapValidateCmdCode RMAP_WRITE_ADDR_INC_REPLY = true) data
  rw [show smileFeeGenCmd cfg _ RMAP_WRITE_ADDR_INC_REPLY _ _ = hdr from hhdr.symm, hd, List.length_nil, ← h0] at h
  exact h.trans (by decide)

/-- **A write to the SRAM.** -/
theorem gresbReceive_sramWrite {c : Cmd} (hc : c.IsSramWrite cfg) (z : Junk) (mem : Mem) :
    ∃ data reply, c.data = some data ∧
      gresbReceive sim z c mem = some (mem.write (sramPtr sim c.addr) data, reply) ∧ Replies c [] reply := by
  obtain ⟨data, hsome, hlen, hbytes⟩ := sramWrite_bytes hd hc z.blob
  have hw := isWrite_of_sramWrite hd hc
  obtain ⟨-, -, ⟨hlo, hhi⟩, -⟩ := hc
  have hstart := toNat_FEE_SRAM_START
  have hend := toNat_FEE_SRAM_END
  have hmax : c.len.toNat ≤ RMAP_MAX_DATA_LEN := by
    simp only [RMAP_MAX_DATA_LEN]
    omega
  have hp := cmdPkt_hdrOk hd c.trId RMAP_WRITE_ADDR_INC_REPLY c.addr (by decide) hmax
  have hlt : (packaged (smileFeePackage z.blob c.hdr c.nonCrcBytes c.data)).length < 2 ^ 24 := by
    have hhdr := length_buildHdr_cmdPkt_le cfg c.trId RMAP_WRITE_ADDR_INC_REPLY c.addr c.len
    rw [hbytes, length_onWire, List.length_append, List.length_singleton, ← hlen]
    omega
  obtain ⟨x, y, hdec⟩ := decode_onWire_fits hp
    (rmapCrc8 (rmapBuildHdr (cmdPkt cfg c.trId RMAP_WRITE_ADDR_INC_REPLY c.addr c.len))) z.beyond data
    ([rmapCrc8 data] ++ (List.range 4).map fun i =>
      z.beyond ((packaged (smileFeePackage z.blob c.hdr c.nonCrcBytes c.data)).length + i)) hlen
  have haddr (rp : RmapPkt) (ha : rp.addr = c.addr) (hl : rp.dataLen = c.len) :
      simLocalAddr sim rp = some (sramPtr sim c.addr) := by
    have hge : ¬ c.addr < OFFSET_OF_SRAM := by
      show ¬ c.addr.toNat < 1944
      omega
    have hfit : ¬ c.addr + c.len > FEE_SRAM_END := by
      simp only [GT.gt, BitVec.lt_def, BitVec.toNat_add]
      omega
    have hsram : c.addr ≥ FEE_SRAM_START := hlo
    rw [simLocalAddr, ha, hl, if_neg hge, if_pos hsram, if_neg hfit]
    rfl
  have hcmd : riCmd (cmdPkt cfg c.trId RMAP_WRITE_ADDR_INC_REPLY c.addr c.len).instruction = RMAP_WRITE_ADDR_INC_REPLY :=
    riCmd_cmdInstr (by decide) _
  rw [gresbReceive, rmapTx, gresbSend_eq hlt, simBuf, if_neg (by decide)]
  simp only [gresbGetSpwData_create, length_gresbCreateHostDataPkt, Nat.add_sub_cancel_left]
  rw [hbytes, onWire_append, ← hbytes, List.append_assoc, rmapSimRx_of_write sim hdec (haddr _ rfl rfl) hcmd]
  refine ⟨data, _, hsome, rfl, ?_⟩
  rw [packaged_eq _ _ _ _ (rmapBuildHdr_ne_nil _), Option.getD_none, List.nil_append]
  have hreply (p : RmapPkt) (h : rmapBuildHdr p = rmapBuildHdr (writeReply cfg c.trId)) (crc : U8) (tail : List U8) :
      Replies c [] (rmapBuildHdr p ++ crc :: tail) := by
    rw [h]
    exact ⟨writeReply cfg c.trId, crc, tail, writeReply_hdrOk cfg c.trId, by simp, by rw [hw]; simp, rfl, by rw [hw]; rfl,
      rfl, rfl⟩
  refine hreply _ ?_ _ _
  simp [rmapBuildHdr, writeReply, cmdPkt, hd, hr]

variable (own : Nat → Mem → Mem) (junk : Nat → Junk) (fee₀ : Mem)

/-- The simulator in the format of the GRESB: the reply to a command is what it produces then. -/
def gresbTarget : Target where
  answers sent _ i bytes := match sent[i]? with
    | none => false
    | some c => decide (c.IsServed cfg ∧
        (gresbReceive sim (junk i) c (gresbMem sim own junk fee₀ sent i)).map Prod.snd = some bytes)
  wellFormed sent answered i c bytes hc h := by
    simp only [hc, decide_eq_true_eq] at h
    obtain ⟨hwrite | hread | hsram, h⟩ := h
    · obtain ⟨data, reply, -, hrx, hrep⟩ := gresbReceive_regWrite hd hr sim hwrite (junk i)
        (gresbMem sim own junk fee₀ sent i)
      rw [hrx] at h
      rw [← Option.some.inj h]
      exact ⟨[], hrep, trivial⟩
    · obtain ⟨reply, hrx, hrep⟩ := gresbReceive_regRead hd hr sim hread (junk i) (gresbMem sim own junk fee₀ sent i)
      rw [hrx] at h
      rw [← Option.some.inj h]
      exact ⟨_, hrep, trivial⟩
    · obtain ⟨data, reply, -, hrx, hrep⟩ := gresbReceive_sramWrite hd hr sim hsram (junk i)
        (gresbMem sim own junk fee₀ sent i)
      rw [hrx] at h
      rw [← Option.some.inj h]
      exact ⟨[], hrep, trivial⟩

omit hd hr in
theorem gresbMem_append {sent more : List Cmd} {j : Nat} (hj : j ≤ sent.length) :
    gresbMem sim own junk fee₀ (sent ++ more) j = gresbMem sim own junk fee₀ sent j := by
  induction j with
  | zero => rfl
  | succ j ih =>
    simp only [gresbMem]
    rw [ih (Nat.le_of_succ_le hj), List.getElem?_append_left hj]

omit hd hr in
theorem gresbMem_of_prefix {sent sent' : List Cmd} (h : sent <+: sent') {j : Nat} (hj : j ≤ sent.length) :
    gresbMem sim own junk fee₀ sent' j = gresbMem sim own junk fee₀ sent j := by
  obtain ⟨more, rfl⟩ := h
  exact gresbMem_append sim own junk fee₀ hj

theorem gresbTarget_steady : (gresbTarget hd hr sim own junk fee₀).Steady := by
  intro sent c answered i bytes hi h
  simp only [gresbTarget] at h ⊢
  rwa [List.getElem?_append_left hi, gresbMem_append sim own junk fee₀ hi.le]

/-- **What a reply to a read carries** is what the register had when the command was received. -/
theorem data_of_answer {sent : List Cmd} {answered : List Nat} {i : Nat} {c : Cmd} {data bytes : List U8}
    (hi : sent[i]? = some c) (hc : c.IsRegRead cfg) (hrep : Replies c data bytes)
    (h : (gresbTarget hd hr sim own junk fee₀).answers sent answered i bytes = true) :
    data = (gresbMem sim own junk fee₀ sent i).read (sim.fee + c.addr.toNat) 4 := by
  simp only [gresbTarget, hi, decide_eq_true_eq] at h
  obtain ⟨reply, hrx, hrep'⟩ := gresbReceive_regRead hd hr sim hc (junk i) (gresbMem sim own junk fee₀ sent i)
  rw [hrx] at h
  rw [← Option.some.inj h.2] at hrep
  obtain ⟨rp, hdec, -, hdata, -⟩ := hrep.decode fun _ => 0
  obtain ⟨rp', hdec', -, hdata', -⟩ := hrep'.decode fun _ => 0
  obtain rfl := Option.some.inj (hdec.symm.trans hdec')
  exact hdata.symm.trans hdata'

end Fee

end SmileFee
