import SmileFee.RmapCodec

/-!
# Command generation and packaging (`FEE/smile_fee_rmap.c`, `FEE/smile_fee_cmd.c`)

| here | there |
| --- | --- |
| `RmapCfg`                | the file-scope addressing configuration (`smile_fee_rmap.c:55-66`); its setters keep the path lengths in bounds |
| `smileFeeGenCmd`         | `smile_fee_gen_cmd` (`:333`) with a command buffer, `smileFeeGenCmdSize` with `NULL` |
| `smileFeePackage`        | `smile_fee_package` (`:519`) writing to `blob`, `smileFeePackageSize` with `NULL` |
| `feeReadCmdRegister` …   | the internal generators of `smile_fee_cmd.c:54-130`, to which all others pass a constant |

The setters of the packet that `smile_fee_gen_cmd` calls may fail; it ignores that, so the packet
stays as it was. The allocation of the packet is taken to succeed.
-/

namespace SmileFee

open Word

/-! ## Addressing configuration -/

structure RmapCfg where
  smileFeeAddr : U8 := 0
  icuAddr : U8 := 0
  dpath : List U8 := []
  rpath : List U8 := []
  dstKey : U8 := 0
  dpath_le : dpath.length ≤ RMAP_MAX_PATH_LEN := by decide
  rpath_le : rpath.length ≤ RMAP_MAX_REPLY_PATH_LEN := by decide
  rpath_mod : rpath.length % 4 = 0 := by decide

def smileFeeSetDestinationLogicalAddress (cfg : RmapCfg) (addr : U8) : RmapCfg :=
  { cfg with smileFeeAddr := addr }

def smileFeeSetSourceLogicalAddress (cfg : RmapCfg) (addr : U8) : RmapCfg :=
  { cfg with icuAddr := addr }

/-- `smile_fee_set_destination_path` (`:626`): `none` for the error return. -/
def smileFeeSetDestinationPath (cfg : RmapCfg) (path : List U8) : Option RmapCfg :=
  if h : path.length ≤ RMAP_MAX_PATH_LEN then some { cfg with dpath := path, dpath_le := h } else none

/-- `smile_fee_set_return_path` (`:659`). -/
def smileFeeSetReturnPath (cfg : RmapCfg) (path : List U8) : Option RmapCfg :=
  if h : path.length ≤ RMAP_MAX_REPLY_PATH_LEN then
    if hm : path.length % 4 = 0 then some { cfg with rpath := path, rpath_le := h, rpath_mod := hm } else none
  else none

def smileFeeSetDestinationKey (cfg : RmapCfg) (key : U8) : RmapCfg := { cfg with dstKey := key }

/-! ## Command generation -/

/-- The packet `smile_fee_gen_cmd` sets up (`:340-360`). -/
def smileFeeGenPkt (cfg : RmapCfg) (transId : U16) (rmapCmdType : U8) (addr size : U32) : RmapPkt :=
  let pkt := rmapSetSrc (rmapSetDst rmapCreatePacket cfg.smileFeeAddr) cfg.icuAddr
  let pkt := (rmapSetDestPath pkt cfg.dpath).getD pkt
  let pkt := (rmapSetReplyPath pkt cfg.rpath).getD pkt
  let pkt := rmapSetKey pkt cfg.dstKey
  let pkt := (rmapSetCmd pkt rmapCmdType).getD pkt
  let pkt := rmapSetDataAddr (rmapSetTrId pkt transId) addr
  (rmapSetDataLen pkt size).getD pkt

/-- `smile_fee_gen_cmd` (`:333`): the bytes written to `cmd`, whose number is returned. -/
def smileFeeGenCmd (cfg : RmapCfg) (transId : U16) (rmapCmdType : U8) (addr size : U32) : List U8 :=
  rmapBuildHdr (smileFeeGenPkt cfg transId rmapCmdType addr size)

def smileFeeGenCmdSize (cfg : RmapCfg) (transId : U16) (rmapCmdType : U8) (addr size : U32) : Int :=
  rmapBuildHdrSize (smileFeeGenPkt cfg transId rmapCmdType addr size)

/-- `fee_read_cmd_register_internal`. -/
def feeReadCmdRegister (cfg : RmapCfg) (transId : U16) (addr : U32) : List U8 :=
  smileFeeGenCmd cfg transId RMAP_READ_ADDR_INC addr 4

/-- `fee_write_cmd_register_internal`. -/
def feeWriteCmdRegister (cfg : RmapCfg) (transId : U16) (addr : U32) : List U8 :=
  smileFeeGenCmd cfg transId RMAP_WRITE_ADDR_INC_REPLY addr 4

/-- `fee_write_cmd_data_internal`. -/
def feeWriteCmdData (cfg : RmapCfg) (transId : U16) (addr size : U32) : List U8 :=
  smileFeeGenCmd cfg transId RMAP_WRITE_ADDR_INC_REPLY addr size

/-- `fee_read_cmd_data_internal`. -/
def feeReadCmdData (cfg : RmapCfg) (transId : U16) (addr size : U32) : List U8 :=
  smileFeeGenCmd cfg transId RMAP_READ_ADDR_INC addr size

/-! ## Packaging -/

/-- The command codes after which `smile_fee_package` counts a data CRC; `0xa` is not among them. -/
def hasDataCrc (cmd : U8) : Bool :=
  [RMAP_READ_MODIFY_WRITE_ADDR_INC, RMAP_WRITE_ADDR_SINGLE, RMAP_WRITE_ADDR_INC,
    RMAP_WRITE_ADDR_SINGLE_VERIFY, RMAP_WRITE_ADDR_INC_VERIFY, RMAP_WRITE_ADDR_SINGLE_VERIFY_REPLY,
    RMAP_WRITE_ADDR_INC_VERIFY_REPLY, RMAP_WRITE_ADDR_INC_REPLY].contains cmd

/-- `ri->cmd` of a header behind `nonCrcBytes` path bytes. -/
def packageCmd (cmd : List U8) (nonCrcBytes : Nat) : U8 :=
  riCmd (cmd.getD (nonCrcBytes + RMAP_INSTRUCTION) 0)

/-- `smile_fee_package` with `blob == NULL`; `data` is `none` for `NULL`. -/
def smileFeePackageSize (cmd : List U8) (nonCrcBytes : Nat) (data : Option (List U8)) : Nat :=
  if cmd.length = 0 then 0 else
  let n := cmd.length + 1
  let n := if hasDataCrc (packageCmd cmd nonCrcBytes) then n + 1 else n
  match data with
  | some d => n + d.length
  | none => n

/-- `smile_fee_package` (`:519`): the returned size, and the memory of `blob` afterwards. -/
def smileFeePackage (blob : Mem) (cmd : List U8) (nonCrcBytes : Nat) (data : Option (List U8)) : Nat × Mem :=
  if cmd.length = 0 then (0, blob) else
  let n := smileFeePackageSize cmd nonCrcBytes data
  let blob := blob.write 0 cmd
  let blob := blob.write cmd.length [rmapCrc8 (cmd.drop nonCrcBytes)]
  match data with
  | some d =>
    let blob := blob.write (cmd.length + 1) d
    -- written for every command code, counted or not
    (n, blob.write (cmd.length + 1 + d.length) [rmapCrc8 (blob.read (cmd.length + 1) d.length)])
  | none =>
    if hasDataCrc (packageCmd cmd nonCrcBytes) then (n, blob.write (cmd.length + 1) [0x0]) else (n, blob)

/-- The packet in a blob: as many of its bytes as `smile_fee_package` returned. -/
def packaged (r : Nat × Mem) : List U8 := r.2.read 0 r.1

/-- The data CRC field of a packet. -/
def dataCrcField (cmd : List U8) (nonCrcBytes : Nat) (data : Option (List U8)) : List U8 :=
  if hasDataCrc (packageCmd cmd nonCrcBytes) then [data.elim 0 rmapCrc8] else []

theorem smileFeePackageSize_eq (cmd : List U8) (nonCrcBytes : Nat) (data : Option (List U8)) (hc : cmd ≠ []) :
    smileFeePackageSize cmd nonCrcBytes data =
      cmd.length + 1 + (data.getD []).length + (dataCrcField cmd nonCrcBytes data).length := by
  have hl : ¬ cmd.length = 0 := by simpa using hc
  simp only [smileFeePackageSize, if_neg hl, dataCrcField]
  by_cases hd : hasDataCrc (packageCmd cmd nonCrcBytes) = true
  · cases data <;> simp [hd]; omega
  · cases data <;> simp [hd]

theorem smileFeePackage_fst (blob : Mem) (cmd : List U8) (nonCrcBytes : Nat) (data : Option (List U8)) :
    (smileFeePackage blob cmd nonCrcBytes data).1 = smileFeePackageSize cmd nonCrcBytes data := by
  by_cases hl : cmd.length = 0
  · simp [smileFeePackage, smileFeePackageSize, hl]
  · cases data <;> simp only [smileFeePackage, if_neg hl]
    split <;> rfl

/-- What is written behind the header CRC: all data is followed by a CRC, counted or not. -/
def packageTail (cmd : List U8) (nonCrcBytes : Nat) : Option (List U8) → List U8
  | some d => d ++ [rmapCrc8 d]
  | none => if hasDataCrc (packageCmd cmd nonCrcBytes) then [0x0] else []

/-- All that is written to the blob. -/
theorem smileFeePackage_snd (blob : Mem) (cmd : List U8) (nonCrcBytes : Nat) (data : Option (List U8))
    (hc : cmd ≠ []) : (smileFeePackage blob cmd nonCrcBytes data).2 =
      blob.write 0 (cmd ++ rmapCrc8 (cmd.drop nonCrcBytes) :: packageTail cmd nonCrcBytes data) := by
  have hl : ¬ cmd.length = 0 := by simpa using hc
  have h1 : (blob.write 0 cmd).write cmd.length [rmapCrc8 (cmd.drop nonCrcBytes)] =
      blob.write 0 (cmd ++ [rmapCrc8 (cmd.drop nonCrcBytes)]) := by
    simpa using Mem.write_write_append blob 0 cmd [rmapCrc8 (cmd.drop nonCrcBytes)]
  have h2 (d : List U8) : (blob.write 0 (cmd ++ [rmapCrc8 (cmd.drop nonCrcBytes)])).write (cmd.length + 1) d =
      blob.write 0 (cmd ++ rmapCrc8 (cmd.drop nonCrcBytes) :: d) := by
    simpa using Mem.write_write_append blob 0 (cmd ++ [rmapCrc8 (cmd.drop nonCrcBytes)]) d
  have h3 (d e : List U8) :
      (blob.write 0 (cmd ++ rmapCrc8 (cmd.drop nonCrcBytes) :: d)).write (cmd.length + 1 + d.length) e =
      blob.write 0 (cmd ++ rmapCrc8 (cmd.drop nonCrcBytes) :: (d ++ e)) := by
    simpa [Nat.add_assoc, Nat.add_comm, Nat.add_left_comm] using
      Mem.write_write_append blob 0 (cmd ++ rmapCrc8 (cmd.drop nonCrcBytes) :: d) e
  have h4 (d : List U8) :
      (blob.write 0 (cmd ++ rmapCrc8 (cmd.drop nonCrcBytes) :: d)).read (cmd.length + 1) d.length = d := by
    rw [← h2, Mem.read_write_same]
  cases data with
  | some d => simp [smileFeePackage, hl, h1, h2, h3, h4, packageTail]
  | none =>
    by_cases hd : hasDataCrc (packageCmd cmd nonCrcBytes) = true
    · simp [smileFeePackage, hl, hd, h1, h2, packageTail]
    · simp [smileFeePackage, hl, hd, h1, packageTail]

/-- Of the tail, what the returned size counts. -/
theorem take_packageTail (cmd : List U8) (nonCrcBytes : Nat) (data : Option (List U8)) :
    (packageTail cmd nonCrcBytes data).take ((data.getD []).length + (dataCrcField cmd nonCrcBytes data).length) =
      data.getD [] ++ dataCrcField cmd nonCrcBytes data := by
  by_cases hd : hasDataCrc (packageCmd cmd nonCrcBytes) = true <;> cases data <;> simp [packageTail, dataCrcField, hd]

theorem length_packageTail (cmd : List U8) (nonCrcBytes : Nat) (data : Option (List U8)) :
    (data.getD []).length + (dataCrcField cmd nonCrcBytes data).length ≤ (packageTail cmd nonCrcBytes data).length := by
  by_cases hd : hasDataCrc (packageCmd cmd nonCrcBytes) = true <;> cases data <;> simp [packageTail, dataCrcField, hd]

/-- **`smile_fee_package`**: header, header CRC, data, data CRC. -/
theorem packaged_eq (blob : Mem) (cmd : List U8) (nonCrcBytes : Nat) (data : Option (List U8)) (hc : cmd ≠ []) :
    packaged (smileFeePackage blob cmd nonCrcBytes data) =
      cmd ++ rmapCrc8 (cmd.drop nonCrcBytes) :: (data.getD [] ++ dataCrcField cmd nonCrcBytes data) := by
  have hlen := length_packageTail cmd nonCrcBytes data
  rw [packaged, smileFeePackage_snd _ _ _ _ hc, smileFeePackage_fst, smileFeePackageSize_eq _ _ _ hc,
    Mem.read_write_take _ _ _ _ (by simp only [List.length_append, List.length_cons]; omega),
    ← take_packageTail cmd nonCrcBytes data, Nat.add_assoc, Nat.add_assoc, List.take_length_add_append,
    Nat.add_comm 1, List.take_succ_cons]

/-! ## The packets of the command generators -/

/-- The instruction byte of a command with a reply path of `rpathLen` bytes. -/
def cmdInstr (cmd : U8) (rpathLen : Nat) : U8 :=
  setRiCmdResp (setRiCmd (setRiReplyAddrLen 0 (BitVec.ofNat 8 (rpathLen / 4))) (cmd &&& 0xF)) true

@[simp] theorem riCmdResp_cmdInstr (cmd : U8) (n : Nat) : riCmdResp (cmdInstr cmd n) = true := by
  simp [cmdInstr]

theorem riCmd_cmdInstr {cmd : U8} (h : rmapValidateCmdCode cmd = true) (n : Nat) :
    riCmd (cmdInstr cmd n) = cmd := by
  have hc : cmd &&& 0xF = cmd := by
    simp only [rmapValidateCmdCode, decide_eq_true_eq, List.mem_cons, List.not_mem_nil, or_false] at h
    rcases h with h | h | h | h | h | h | h | h | h | h | h <;> (rw [h]; rfl)
  simp only [cmdInstr, riCmd_setRiCmdResp, riCmd_setRiCmd, hc]

theorem riReplyAddrLen_cmdInstr (cmd : U8) {n : Nat} (h : n ≤ RMAP_MAX_REPLY_PATH_LEN) (hm : n % 4 = 0) :
    riReplyAddrLen (cmdInstr cmd n) * 4 = n := by
  simp only [RMAP_MAX_REPLY_PATH_LEN] at h
  have hn : n = 0 ∨ n = 4 ∨ n = 8 ∨ n = 12 := by omega
  simp only [cmdInstr, riReplyAddrLen_setRiCmdResp, riReplyAddrLen_setRiCmd, riReplyAddrLen_setRiReplyAddrLen]
  rcases hn with rfl | rfl | rfl | rfl <;> rfl

theorem minHdrSize_cmdInstr {cmd : U8} (h : rmapValidateCmdCode cmd = true) (n : Nat) :
    rmapGetMinHdrSize (cmdInstr cmd n) = 15 := by
  have hc := riCmd_cmdInstr h n
  simp only [rmapValidateCmdCode, decide_eq_true_eq, List.mem_cons, List.not_mem_nil, or_false] at h
  simp only [rmapGetMinHdrSize, riCmdResp_cmdInstr, hc]
  rcases h with rfl | rfl | rfl | rfl | rfl | rfl | rfl | rfl | rfl | rfl | rfl <;> rfl

/-- A packet with the fields of a command to be sent over `cfg`. -/
def cmdPkt (cfg : RmapCfg) (transId : U16) (cmd : U8) (addr size : U32) : RmapPkt :=
  { path := cfg.dpath, dst := cfg.smileFeeAddr, protoId := 1, instruction := cmdInstr cmd cfg.rpath.length
    key := cfg.dstKey, src := cfg.icuAddr, rpath := cfg.rpath, trId := transId, addr := addr, dataLen := size }

theorem riCmdResp_cmdPkt (cfg : RmapCfg) (transId : U16) (cmd : U8) (addr size : U32) :
    riCmdResp (cmdPkt cfg transId cmd addr size).instruction = true := riCmdResp_cmdInstr _ _

theorem riReplyAddrLen_cmdPkt (cfg : RmapCfg) (transId : U16) (cmd : U8) (addr size : U32) :
    riReplyAddrLen (cmdPkt cfg transId cmd addr size).instruction * 4 =
      (cmdPkt cfg transId cmd addr size).rpath.length :=
  riReplyAddrLen_cmdInstr cmd cfg.rpath_le cfg.rpath_mod

/-- The paths of a configuration are never refused. -/
theorem rmapSetDestPath_cfg (cfg : RmapCfg) (pkt : RmapPkt) :
    rmapSetDestPath pkt cfg.dpath = some { pkt with path := cfg.dpath } :=
  if_neg (not_lt.2 cfg.dpath_le)

theorem rmapSetReplyPath_cfg (cfg : RmapCfg) (pkt : RmapPkt) : rmapSetReplyPath pkt cfg.rpath = some { pkt with
    rpath := cfg.rpath
    instruction := setRiReplyAddrLen pkt.instruction (BitVec.ofNat 8 (cfg.rpath.length / 4)) } :=
  (if_neg (not_lt.2 cfg.rpath_le)).trans (if_neg (not_not.2 cfg.rpath_mod))

/-- With a valid command code only a size of more than 24 bits is not set. -/
theorem smileFeeGenPkt_eq_cmdPkt (cfg : RmapCfg) (transId : U16) {cmd : U8} (addr size : U32)
    (hc : rmapValidateCmdCode cmd = true) : smileFeeGenPkt cfg transId cmd addr size =
      cmdPkt cfg transId cmd addr (if size.toNat > RMAP_MAX_DATA_LEN then 0 else size) := by
  simp only [smileFeeGenPkt, rmapSetDestPath_cfg, rmapSetReplyPath_cfg, rmapSetCmd, hc, rmapSetDataLen, Option.getD_some,
    if_true]
  split <;> rfl

theorem smileFeeGenPkt_eq (cfg : RmapCfg) (transId : U16) {cmd : U8} (addr : U32) {size : U32}
    (hc : rmapValidateCmdCode cmd = true) (hs : size.toNat ≤ RMAP_MAX_DATA_LEN) :
    smileFeeGenPkt cfg transId cmd addr size = cmdPkt cfg transId cmd addr size := by
  rw [smileFeeGenPkt_eq_cmdPkt cfg transId addr size hc, if_neg (by omega)]

theorem cmdPkt_hdrOk {cfg : RmapCfg} (hd : cfg.dpath = []) (transId : U16) (cmd : U8) (addr : U32) {size : U32}
    (hc : rmapValidateCmdCode cmd = true) (hs : size.toNat ≤ RMAP_MAX_DATA_LEN) :
    (cmdPkt cfg transId cmd addr size).HdrOk where
  path_nil := hd
  proto := rfl
  valid := by simp [cmdPkt, minHdrSize_cmdInstr hc]
  rpath_len := by
    simpa [cmdPkt] using (riReplyAddrLen_cmdInstr cmd cfg.rpath_le cfg.rpath_mod).symm
  addr_reply := by simp [cmdPkt]
  len_reply := by simp [cmdPkt]
  len_lt := by simp only [RMAP_MAX_DATA_LEN] at hs; simp only [cmdPkt]; omega

theorem rmapBuildHdr_ne_nil (p : RmapPkt) : rmapBuildHdr p ≠ [] := by simp [rmapBuildHdr]

/-- The instruction byte is where `smile_fee_package` looks for it. -/
theorem packageCmd_buildHdr (p : RmapPkt) : packageCmd (rmapBuildHdr p) p.path.length = riCmd p.instruction := by
  simp [packageCmd, rmapBuildHdr, RMAP_INSTRUCTION]

/-- A command in one piece: what `smile_fee_package` makes of its header and its data. -/
theorem packaged_cmdPkt {cfg : RmapCfg} (hd : cfg.dpath = []) (transId : U16) {cmd : U8} (addr size : U32)
    (hc : rmapValidateCmdCode cmd = true) (blob : Mem) (data : Option (List U8)) :
    packaged (smileFeePackage blob (rmapBuildHdr (cmdPkt cfg transId cmd addr size)) 0 data) =
      (cmdPkt cfg transId cmd addr size).onWire (rmapCrc8 (rmapBuildHdr (cmdPkt cfg transId cmd addr size)))
        (data.getD [] ++ if hasDataCrc cmd then [data.elim 0 rmapCrc8] else []) := by
  have hcmd : packageCmd (rmapBuildHdr (cmdPkt cfg transId cmd addr size)) 0 = cmd := by
    have h := packageCmd_buildHdr (cmdPkt cfg transId cmd addr size)
    rw [show (cmdPkt cfg transId cmd addr size).path.length = 0 by simp [cmdPkt, hd]] at h
    rw [h]
    exact riCmd_cmdInstr hc _
  rw [packaged_eq _ _ _ _ (rmapBuildHdr_ne_nil _), dataCrcField, hcmd]
  rfl

/-! ## Round trips -/

/-- **Write commands decode to what was set**: any command code with any payload, in
particular the writes that carry a data CRC. -/
theorem writeCommand_roundtrip (dst src key cmd : U8) (trId : U16) (addr : U32) (rpath data : List U8)
    (hcmd : rmapValidateCmdCode cmd = true) (hr : rpath.length ∈ [0, 4, 8, 12]) (hne : data ≠ [])
    (hl : data.length ≤ RMAP_MAX_DATA_LEN) (blob : Mem) (beyond : Nat → U8) :
    ∃ pkt q,
      (do
        let pkt := rmapSetKey (rmapSetSrc (rmapSetDst rmapCreatePacket dst) src) key
        let pkt ← rmapSetReplyPath (rmapSetDataAddr (rmapSetTrId pkt trId) addr) rpath
        let pkt ← rmapSetCmd pkt cmd
        rmapSetDataLen pkt (BitVec.ofNat 32 data.length)) = some pkt ∧
      Buf.decode ⟨packaged (smileFeePackage blob (rmapBuildHdr pkt) 0 (some data)), beyond⟩ = some q ∧
      q.dst = dst ∧ q.protoId = BitVec.ofNat 8 RMAP_PROTOCOL_ID ∧ q.instruction = pkt.instruction ∧
      q.key = key ∧ q.src = src ∧ q.rpath = rpath ∧ q.trId = trId ∧ q.addr = addr ∧
      q.dataLen.toNat = data.length ∧ q.data = data := by
  simp only [RMAP_MAX_DATA_LEN] at hl
  have hr12 : rpath.length ≤ 12 ∧ rpath.length % 4 = 0 := by
    simp only [List.mem_cons, List.not_mem_nil, or_false] at hr
    omega
  -- the setters are those of a generator configured with these addresses
  let cfg : RmapCfg :=
    { smileFeeAddr := dst, icuAddr := src, rpath := rpath, dstKey := key, rpath_le := hr12.1, rpath_mod := hr12.2 }
  have hlen : (BitVec.ofNat 32 data.length).toNat = data.length := by
    rw [BitVec.toNat_ofNat]; omega
  have hp := @cmdPkt_hdrOk cfg rfl trId cmd addr (BitVec.ofNat 32 data.length) hcmd (by rw [hlen]; exact hl)
  have hdec := decode_onWire_data hp (rmapCrc8 (rmapBuildHdr (cmdPkt cfg trId cmd addr (BitVec.ofNat 32 data.length))))
    beyond data (if hasDataCrc cmd then [rmapCrc8 data] else []) hlen hne
  have hbytes := @packaged_cmdPkt cfg rfl trId cmd addr (BitVec.ofNat 32 data.length) hcmd blob (some data)
  refine ⟨cmdPkt cfg trId cmd addr (BitVec.ofNat 32 data.length), _, ?_,
    (congrArg (fun bytes => Buf.decode ⟨bytes, beyond⟩) hbytes).trans hdec,
    rfl, rfl, rfl, rfl, rfl, rfl, rfl, rfl, hlen, rfl⟩
  have h1 : ¬ rpath.length > RMAP_MAX_REPLY_PATH_LEN := by simp only [RMAP_MAX_REPLY_PATH_LEN]; omega
  have h2 : ¬ rpath.length % 4 ≠ 0 := by omega
  have h3 : ¬ (BitVec.ofNat 32 data.length).toNat > RMAP_MAX_DATA_LEN := by
    rw [hlen]; simp only [RMAP_MAX_DATA_LEN]; omega
  simp only [rmapSetReplyPath, if_neg h1, if_neg h2, rmapSetCmd, hcmd, if_true, rmapSetDataLen, if_neg h3,
    Option.bind_eq_bind, Option.bind_some]
  rfl

/-- A byte written with the code for a single address, over a reply path of four bytes. -/
theorem writeCommand_roundtrip_single :
    ∃ pkt q,
      (do
        let pkt := rmapSetKey (rmapSetSrc (rmapSetDst rmapCreatePacket 0x51) 0x50) 0xd1
        let pkt ← rmapSetReplyPath (rmapSetDataAddr (rmapSetTrId pkt 7) 0x40) [1, 2, 3, 4]
        let pkt ← rmapSetCmd pkt RMAP_WRITE_ADDR_SINGLE
        rmapSetDataLen pkt (BitVec.ofNat 32 [(0xaa : U8)].length)) = some pkt ∧
      Buf.decode ⟨packaged (smileFeePackage (fun _ => 0) (rmapBuildHdr pkt) 0 (some [0xaa])), fun _ => 0⟩ = some q ∧
      q.dst = 0x51 ∧ q.protoId = BitVec.ofNat 8 RMAP_PROTOCOL_ID ∧ q.instruction = pkt.instruction ∧
      q.key = 0xd1 ∧ q.src = 0x50 ∧ q.rpath = [1, 2, 3, 4] ∧ q.trId = 7 ∧ q.addr = 0x40 ∧
      q.dataLen.toNat = [(0xaa : U8)].length ∧ q.data = [0xaa] :=
  writeCommand_roundtrip 0x51 0x50 0xd1 RMAP_WRITE_ADDR_SINGLE 7 0x40 [1, 2, 3, 4] [0xaa] (by decide) (by decide)
    (by decide) (by decide) (fun _ => 0) (fun _ => 0)

/-- **Read commands are refused**: a complete read command decodes to nothing, whatever it asks for;
the decoder expects behind the header the data that the reply is to carry. -/
theorem readCommand_refused (cfg : RmapCfg) (hd : cfg.dpath = []) (transId : U16) (addr size : U32)
    (h0 : size ≠ 0) (hs : size.toNat ≤ RMAP_MAX_DATA_LEN) (blob : Mem) (beyond : Nat → U8) :
    Buf.decode ⟨packaged (smileFeePackage blob (smileFeeGenCmd cfg transId RMAP_READ_ADDR_INC addr size) 0 none),
      beyond⟩ = none := by
  have hp := cmdPkt_hdrOk hd transId RMAP_READ_ADDR_INC addr (by decide) hs
  have hz : (cmdPkt cfg transId RMAP_READ_ADDR_INC addr size).dataLen = size := rfl
  have hpos : 0 < size.toNat := by
    have : size.toNat ≠ 0 := fun h => h0 (BitVec.eq_of_toNat_eq h)
    omega
  rw [smileFeeGenCmd, smileFeeGenPkt_eq cfg transId addr (by decide) hs,
    packaged_cmdPkt hd transId addr size (by decide), decode_onWire hp, hz, if_neg h0]
  exact if_pos hpos

/-- A register read. -/
theorem readCommand_refused_register :
    Buf.decode ⟨packaged (smileFeePackage (fun _ => 0)
      (smileFeeGenCmd {} 0 RMAP_READ_ADDR_INC 0x4 4) 0 none), fun _ => 0⟩ = none :=
  readCommand_refused {} rfl 0 0x4 4 (by decide) (by decide) (fun _ => 0) (fun _ => 0)

/-- The target cannot serve even the register read of a transaction 1: nothing is decoded. -/
theorem readCommand_no_roundtrip :
    ¬ ∃ q, Buf.decode ⟨packaged (smileFeePackage (fun _ => 0)
        (smileFeeGenCmd {} 1 RMAP_READ_ADDR_INC 0x4 4) 0 none), fun _ => 0⟩ = some q ∧
      q.trId = 1 ∧ q.addr = 0x4 ∧ q.dataLen = 4 ∧ q.rpath = [] := by
  rintro ⟨q, hq, -⟩
  have h : Buf.decode ⟨packaged (smileFeePackage (fun _ => 0)
    (smileFeeGenCmd {} 1 RMAP_READ_ADDR_INC 0x4 4) 0 none), fun _ => 0⟩ = none := by decide
  rw [h] at hq
  cases hq

end SmileFee
