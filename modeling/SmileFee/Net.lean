import SmileFee.TransLog

/-!
# A link and a target behind the callbacks

`Net` is the world behind `rmap_tx` and `rmap_rx`: the commands transmitted so far, which of them
have been answered, and the replies waiting to be read. A command is known by its place in `sent`.
What happens outside of the program is decided in advance: `sched` lists what arrives before each
look at the queue, so that replies come after any delay, in any order and at any poll; `mallocs`
and `txs` list the outcomes of the allocations and transmissions to come.

The link neither forges nor duplicates: `deliver` takes an arrival only if it answers a transmitted
command that has not been answered, in a way the `Target` can answer.
-/

namespace SmileFee

open Word

/-! ## Commands and replies on the link -/

/-- A command as `rmap_tx` receives it. -/
structure Cmd where
  hdr : List U8
  nonCrcBytes : Nat
  data : Option (List U8)
deriving DecidableEq, Repr

namespace Cmd

variable (c : Cmd)

/-- A byte of the header behind the destination path. -/
def byte (i : Nat) : U8 := c.hdr.getD (c.nonCrcBytes + i) 0

def instr : U8 := c.byte RMAP_INSTRUCTION
def skip : Nat := riReplyAddrLen c.instr * 4
def trId : U16 := join16 (c.byte (RMAP_TRANS_ID_BYTE0 + c.skip)) (c.byte (RMAP_TRANS_ID_BYTE1 + c.skip))
def isWrite : Bool := riCmdWrite c.instr

def addr : U32 := join32 (c.byte (RMAP_ADDR_BYTE0 + c.skip)) (c.byte (RMAP_ADDR_BYTE1 + c.skip))
  (c.byte (RMAP_ADDR_BYTE2 + c.skip)) (c.byte (RMAP_ADDR_BYTE3 + c.skip))

/-- The data length field, behind the address field. -/
def len : U32 := join24 (c.byte (RMAP_DATALEN_BYTE0 + c.skip + 4)) (c.byte (RMAP_DATALEN_BYTE1 + c.skip + 4))
  (c.byte (RMAP_DATALEN_BYTE2 + c.skip + 4))

end Cmd

/-! ### What a generated header says -/

namespace Cmd

/-- The header of a packet, with the path in front that is not part of the CRC. -/
def ofPkt (p : RmapPkt) (data : Option (List U8)) : Cmd := ⟨rmapBuildHdr p, p.path.length, data⟩

variable {p : RmapPkt} (hr : riCmdResp p.instruction = true)
  (hl : riReplyAddrLen p.instruction * 4 = p.rpath.length) (data : Option (List U8))
include hr hl

omit hl in
theorem hdr_ofPkt : (ofPkt p data).hdr = p.path ++ (([p.dst, p.protoId, p.instruction, p.key] ++ p.rpath) ++
    ([p.src, u8 (p.trId >>> 8), u8 p.trId, 0x0, u8 (p.addr >>> 24), u8 (p.addr >>> 16), u8 (p.addr >>> 8),
      u8 p.addr] ++ dataLenBytes p.dataLen)) := by
  simp [ofPkt, rmapBuildHdr, hr]

omit hl in
theorem instr_ofPkt : (ofPkt p data).instr = p.instruction := by
  rw [instr, byte, hdr_ofPkt hr, show (ofPkt p data).nonCrcBytes = p.path.length from rfl,
    List.getD_append_right _ _ _ _ (Nat.le_add_right _ _), Nat.add_sub_cancel_left]
  rfl

theorem skip_ofPkt : (ofPkt p data).skip = p.rpath.length := by rw [skip, instr_ofPkt hr, hl]

omit hl in
/-- The byte `k` places behind the reply path. -/
theorem byte_ofPkt (k i : Nat) (hi : i = 4 + p.rpath.length + k) : (ofPkt p data).byte i =
    ([p.src, u8 (p.trId >>> 8), u8 p.trId, 0x0, u8 (p.addr >>> 24), u8 (p.addr >>> 16), u8 (p.addr >>> 8),
      u8 p.addr] ++ dataLenBytes p.dataLen).getD k 0 := by
  rw [byte, hdr_ofPkt hr, show (ofPkt p data).nonCrcBytes = p.path.length from rfl,
    List.getD_append_right _ _ _ _ (Nat.le_add_right _ _), Nat.add_sub_cancel_left, hi,
    List.getD_append_right _ _ _ _ (by simp; omega)]
  congr 1
  simp
  omega

theorem trId_ofPkt : (ofPkt p data).trId = p.trId := by
  rw [trId, skip_ofPkt hr hl, byte_ofPkt hr data 1 _ (by simp [RMAP_TRANS_ID_BYTE0]; omega),
    byte_ofPkt hr data 2 _ (by simp [RMAP_TRANS_ID_BYTE1]; omega)]
  exact join16_split p.trId

theorem addr_ofPkt : (ofPkt p data).addr = p.addr := by
  rw [addr, skip_ofPkt hr hl, byte_ofPkt hr data 4 _ (by simp [RMAP_ADDR_BYTE0]; omega),
    byte_ofPkt hr data 5 _ (by simp [RMAP_ADDR_BYTE1]; omega),
    byte_ofPkt hr data 6 _ (by simp [RMAP_ADDR_BYTE2]; omega),
    byte_ofPkt hr data 7 _ (by simp [RMAP_ADDR_BYTE3]; omega)]
  exact join32_split p.addr

theorem len_ofPkt (hlt : p.dataLen.toNat < 2 ^ 24) : (ofPkt p data).len = p.dataLen := by
  rw [len, skip_ofPkt hr hl, byte_ofPkt hr data 8 _ (by simp [RMAP_DATALEN_BYTE0]; omega),
    byte_ofPkt hr data 9 _ (by simp [RMAP_DATALEN_BYTE1]; omega),
    byte_ofPkt hr data 10 _ (by simp [RMAP_DATALEN_BYTE2]; omega)]
  exact join24_split p.dataLen hlt

end Cmd

/-- A generated command is that of the packet `cmdPkt`. -/
theorem genCmd_eq_ofPkt (cfg : RmapCfg) (transId : U16) {cmd : U8} (addr size : U32)
    (hc : rmapValidateCmdCode cmd = true) (data : Option (List U8)) :
    (⟨smileFeeGenCmd cfg transId cmd addr size, cfg.dpath.length, data⟩ : Cmd) =
      Cmd.ofPkt (cmdPkt cfg transId cmd addr (if size.toNat > RMAP_MAX_DATA_LEN then 0 else size)) data := by
  rw [smileFeeGenCmd, smileFeeGenPkt_eq_cmdPkt cfg transId addr size hc]
  rfl

/-- It carries the transaction id it was generated for. -/
theorem trId_genCmd (cfg : RmapCfg) (transId : U16) {cmd : U8} (addr size : U32)
    (hc : rmapValidateCmdCode cmd = true) (data : Option (List U8)) :
    Cmd.trId ⟨smileFeeGenCmd cfg transId cmd addr size, cfg.dpath.length, data⟩ = transId := by
  rw [genCmd_eq_ofPkt cfg transId addr size hc]
  exact Cmd.trId_ofPkt (riCmdResp_cmdPkt ..) (riReplyAddrLen_cmdPkt ..) data

theorem addr_genCmd (cfg : RmapCfg) (transId : U16) {cmd : U8} (addr size : U32)
    (hc : rmapValidateCmdCode cmd = true) (data : Option (List U8)) :
    Cmd.addr ⟨smileFeeGenCmd cfg transId cmd addr size, cfg.dpath.length, data⟩ = addr := by
  rw [genCmd_eq_ofPkt cfg transId addr size hc]
  exact Cmd.addr_ofPkt (riCmdResp_cmdPkt ..) (riReplyAddrLen_cmdPkt ..) data

theorem len_genCmd (cfg : RmapCfg) (transId : U16) {cmd : U8} (addr : U32) {size : U32}
    (hc : rmapValidateCmdCode cmd = true) (hs : size.toNat ≤ RMAP_MAX_DATA_LEN) (data : Option (List U8)) :
    Cmd.len ⟨smileFeeGenCmd cfg transId cmd addr size, cfg.dpath.length, data⟩ = size := by
  rw [genCmd_eq_ofPkt cfg transId addr size hc, if_neg (by omega)]
  refine Cmd.len_ofPkt (riCmdResp_cmdPkt ..) (riReplyAddrLen_cmdPkt ..) data ?_
  simp only [RMAP_MAX_DATA_LEN] at hs
  show size.toNat < 2 ^ 24
  omega

theorem isWrite_genCmd (cfg : RmapCfg) (transId : U16) {cmd : U8} (addr size : U32)
    (hc : rmapValidateCmdCode cmd = true) (data : Option (List U8)) :
    Cmd.isWrite ⟨smileFeeGenCmd cfg transId cmd addr size, cfg.dpath.length, data⟩ =
      (cmd &&& RMAP_CMD_BIT_WRITE != 0) := by
  rw [genCmd_eq_ofPkt cfg transId addr size hc, Cmd.isWrite, Cmd.instr_ofPkt (riCmdResp_cmdPkt ..) data,
    riCmdWrite]
  exact congrArg (fun b => b &&& RMAP_CMD_BIT_WRITE != 0) (riCmd_cmdInstr hc _)

/-! ### Replies -/

/-- `bytes` is a well-formed reply to `c` with the data `data`: a reply header with the transaction
id of the command, its CRC byte, and, for a command that reads, as many bytes as it asks for. What
follows the data (its CRC) does not matter. -/
def Replies (c : Cmd) (data bytes : List U8) : Prop :=
  ∃ (p : RmapPkt) (crc : U8) (extra : List U8), p.HdrOk ∧ riCmdResp p.instruction = false ∧
    riCmdWrite p.instruction = c.isWrite ∧ p.trId = c.trId ∧
    p.dataLen = (if c.isWrite then 0 else c.len) ∧ data.length = p.dataLen.toNat ∧
    bytes = p.onWire crc (data ++ extra)

/-- What a reply carries is what it decodes to. -/
theorem Replies.decode {c : Cmd} {data bytes : List U8} (h : Replies c data bytes) (beyond : Nat → U8) :
    ∃ rp, Buf.decode ⟨bytes, beyond⟩ = some rp ∧ rp.trId = c.trId ∧ rp.data = data ∧
      rp.dataLen.toNat = data.length := by
  obtain ⟨p, crc, extra, hp, -, -, htid, -, hlen, rfl⟩ := h
  by_cases hne : data = []
  · have hz : p.dataLen = 0 := BitVec.eq_of_toNat_eq (by rw [← hlen, hne]; rfl)
    exact ⟨_, decode_onWire_nodata hp crc _ beyond hz, htid, hne.symm, hlen.symm⟩
  · exact ⟨_, decode_onWire_data hp crc beyond data extra hlen.symm hne, htid, rfl, hlen.symm⟩

theorem Replies.ne_nil {c : Cmd} {data bytes : List U8} (h : Replies c data bytes) : bytes ≠ [] := by
  obtain ⟨p, crc, extra, -, -, -, -, -, -, rfl⟩ := h
  simp [RmapPkt.onWire]

/-- The target: which replies it can give to the command with a certain number, and what data they
may carry. All of them are well-formed. -/
structure Target where
  answers : List Cmd → List Nat → Nat → List U8 → Bool
  carries : Cmd → List U8 → Prop := fun _ _ => True
  wellFormed : ∀ sent answered i c bytes, sent[i]? = some c → answers sent answered i bytes = true →
    ∃ data, Replies c data bytes ∧ carries c data

/-- The header of the reply to a command. -/
def replyPkt (c : Cmd) : RmapPkt :=
  { dst := c.byte (RMAP_SRC_ADDR + c.skip), protoId := 1, instruction := setRiCmdResp c.instr false
    src := c.byte RMAP_DEST_ADDRESS, trId := c.trId, dataLen := if c.isWrite then 0 else c.len }

def replyBytes (c : Cmd) (data : List U8) : List U8 :=
  (replyPkt c).onWire (rmapCrc8 (rmapBuildHdr (replyPkt c))) (data ++ [rmapCrc8 data])

theorem replyBytes_replies {c : Cmd} {data : List U8} (hv : 0 ≤ rmapGetMinHdrSize (replyPkt c).instruction)
    (hl : data.length = (replyPkt c).dataLen.toNat) : Replies c data (replyBytes c data) := by
  have hok : (replyPkt c).HdrOk := by
    refine ⟨rfl, rfl, hv, by simp [replyPkt], fun _ => rfl, fun _ hw => ?_, ?_⟩
    · have hw : c.isWrite = true := by simpa [replyPkt, Cmd.isWrite] using hw
      simp [replyPkt, hw]
    · simp only [replyPkt]
      split
      · decide
      · exact join24_lt _ _ _
  exact ⟨replyPkt c, _, [rmapCrc8 data], hok, by simp [replyPkt], by simp [replyPkt, Cmd.isWrite], rfl, rfl, hl, rfl⟩

/-- A target that answers every command it understands, a read with `content`. -/
def servingTarget (content : Cmd → List U8) : Target where
  answers sent _ i bytes := match sent[i]? with
    | none => false
    | some c => decide (0 ≤ rmapGetMinHdrSize (replyPkt c).instruction ∧
        (content c).length = (replyPkt c).dataLen.toNat ∧ bytes = replyBytes c (content c))
  carries c data := data = content c
  wellFormed sent answered i c bytes hc h := by
    simp only [hc, decide_eq_true_eq] at h
    obtain ⟨hv, hl, rfl⟩ := h
    exact ⟨content c, replyBytes_replies hv hl, rfl⟩

/-! ## The link -/

/-- A reply on its way: the number of its command, and its bytes. -/
structure Arrival where
  idx : Nat
  bytes : List U8
  beyond : Nat → U8 := fun _ => 0

/-- The command is sent; it is not, and `rmap_tx` says so; it is sent though `rmap_tx` returns an error. -/
inductive TxResult where
  | ok
  | refused
  | failed
deriving DecidableEq, Repr

structure Net where
  sent : List Cmd := []
  answered : List Nat := []
  rxq : List Pkt := []
  sched : List (List Arrival) := []
  mallocs : List Bool := []
  txs : List TxResult := []

namespace Net

/-- Nothing is in flight, and the numbering of commands starts here. -/
def Idle (n : Net) : Prop := n.sent = [] ∧ n.answered = [] ∧ n.rxq = []

variable (T : Target)

def deliver (n : Net) (a : Arrival) : Net :=
  if a.idx < n.sent.length ∧ a.idx ∉ n.answered ∧ T.answers n.sent n.answered a.idx a.bytes then
    { n with answered := n.answered ++ [a.idx], rxq := n.rxq ++ [⟨a.bytes, a.beyond, a.idx⟩] }
  else n

/-- What has arrived before a look at the queue. -/
def poll (n : Net) : Net :=
  match n.sched with
  | [] => n
  | now :: later => now.foldl (deliver T) { n with sched := later }

def malloc (n : Net) : Bool × Net :=
  match n.mallocs with
  | [] => (true, n)
  | ok :: later => (ok, { n with mallocs := later })

def tx (n : Net) (hdr : List U8) (nonCrcBytes : Nat) (data : Option (List U8)) : Bool × Net :=
  let sent := n.sent ++ [⟨hdr, nonCrcBytes, data⟩]
  match n.txs with
  | [] => (false, { n with sent := sent })
  | .ok :: later => (false, { n with sent := sent, txs := later })
  | .refused :: later => (true, { n with txs := later })
  | .failed :: later => (true, { n with sent := sent, txs := later })

def rxSize (n : Net) : Nat × Net :=
  let n := n.poll T
  (match n.rxq with
    | [] => 0
    | p :: _ => p.bytes.length, n)

def rxRead (n : Net) : Pkt × Net :=
  match n.rxq with
  | [] => ({ bytes := [] }, n)
  | p :: rest => (p, { n with rxq := rest })

/-- A transmission appends the command to what was sent, or it fails; nothing else changes. -/
theorem tx_cases (n : Net) (hdr : List U8) (nonCrcBytes : Nat) (data : Option (List U8)) :
    (n.tx hdr nonCrcBytes data).2.answered = n.answered ∧ (n.tx hdr nonCrcBytes data).2.rxq = n.rxq ∧
    (((n.tx hdr nonCrcBytes data).1 = true ∧ (n.tx hdr nonCrcBytes data).2.sent = n.sent) ∨
      (n.tx hdr nonCrcBytes data).2.sent = n.sent ++ [⟨hdr, nonCrcBytes, data⟩]) := by
  unfold tx
  dsimp only
  split <;> simp

/-- The packets in the queue and those still to arrive. -/
def left (n : Net) : Nat := n.rxq.length + (n.sched.map List.length).sum

theorem left_deliver (n : Net) (a : Arrival) : (n.deliver T a).left ≤ n.left + 1 := by
  unfold deliver
  split
  · simp [left]; omega
  · omega

theorem left_foldl (as : List Arrival) (n : Net) : (as.foldl (deliver T) n).left ≤ n.left + as.length := by
  induction as generalizing n with
  | nil => simp
  | cons a as ih =>
    have h1 := ih (n.deliver T a)
    have h2 := n.left_deliver T a
    simp only [List.foldl_cons, List.length_cons]
    omega

theorem left_poll (n : Net) : (n.poll T).left ≤ n.left := by
  unfold poll
  split
  · exact le_rfl
  · rename_i now later hs
    refine (left_foldl T now _).trans ?_
    simp [left, hs]
    omega

@[simp] theorem left_malloc (n : Net) : n.malloc.2.left = n.left := by
  unfold malloc; split <;> rfl

@[simp] theorem rxq_malloc (n : Net) : n.malloc.2.rxq = n.rxq := by
  unfold malloc; split <;> rfl

@[simp] theorem sent_malloc (n : Net) : n.malloc.2.sent = n.sent := by
  unfold malloc; split <;> rfl

@[simp] theorem answered_malloc (n : Net) : n.malloc.2.answered = n.answered := by
  unfold malloc; split <;> rfl

theorem rxRead_eq {n : Net} {p : Pkt} {rest : List Pkt} (h : n.rxq = p :: rest) :
    n.rxRead = (p, { n with rxq := rest }) := by
  simp [rxRead, h]

theorem left_rxRead {n : Net} {p : Pkt} {rest : List Pkt} (h : n.rxq = p :: rest) : n.rxRead.2.left < n.left := by
  rw [rxRead_eq h]
  simp [left, h]

theorem rxSize_ne_zero {n : Net} (h : (n.rxSize T).1 ≠ 0) : ∃ p rest, (n.poll T).rxq = p :: rest := by
  unfold rxSize at h
  cases hq : (n.poll T).rxq with
  | nil => simp [hq] at h
  | cons p rest => exact ⟨p, rest, rfl⟩

end Net

/-- The callbacks in front of a link to the target `T`. -/
def netCallbacks (T : Target) : Callbacks Net where
  malloc := Net.malloc
  tx := Net.tx
  rxSize := Net.rxSize T
  rxRead := Net.rxRead
  left := Net.left
  left_malloc n := (Net.left_malloc n).le
  left_size n := Net.left_poll T n
  left_pos n h := by
    obtain ⟨p, rest, hq⟩ := Net.rxSize_ne_zero T h
    have := Net.left_poll T n
    have : 0 < (n.poll T).left := by simp [Net.left, hq]
    omega
  left_read n h := by
    obtain ⟨p, rest, hq⟩ := Net.rxSize_ne_zero T h
    have hq' : (Net.malloc (n.rxSize T).2).2.rxq = p :: rest := by
      rw [Net.rxq_malloc]; exact hq
    have hl : (Net.malloc (n.rxSize T).2).2.left ≤ n.left := by
      rw [Net.left_malloc]; exact Net.left_poll T n
    exact (Net.left_rxRead hq').trans_le hl

/-- What happens outside during a call. -/
structure Outside where
  sched : List (List Arrival) := []
  mallocs : List Bool := []
  txs : List TxResult := []

def Outside.enter (o : Outside) (s : Sys Net) : Sys Net :=
  { s with env := { s.env with sched := o.sched, mallocs := o.mallocs, txs := o.txs } }

end SmileFee
