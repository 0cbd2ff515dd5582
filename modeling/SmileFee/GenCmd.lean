import SmileFee.FeeRmap

/-!
# What `smile_fee_gen_cmd` generates (`FEE/smile_fee_rmap.c:333`)

The function asks `rmap_build_hdr` for a size, clears that much of the buffer, and has the header built
in it. `GenCmdOk` is what its description promises: a header that carries the request, or 0.

A setter that fails leaves the packet as it was, and nobody looks. With a command code that is not
valid the packet stays a reply without a command: its size comes from the error value of
`rmap_get_min_hdr_size`, while the header is built all the same. A size of more than 24 bits becomes 0.
**`genCmdOk_iff`**: for the other requests the promise is kept.
-/

namespace SmileFee

open Word

/-- `smile_fee_gen_cmd` with a command buffer: the value returned and the buffer afterwards, `none` where
`bzero` is given a negative length. -/
def smileFeeGenCmdFill (cfg : RmapCfg) (transId : U16) (rmapCmdType : U8) (addr size : U32) (cmd : Mem) :
    Option (Int × Mem) :=
  let n := smileFeeGenCmdSize cfg transId rmapCmdType addr size
  if n < 0 then none else
  let cmd := cmd.write 0 (List.replicate n.toNat 0)
  let hdr := smileFeeGenCmd cfg transId rmapCmdType addr size
  some (hdr.length, cmd.write 0 hdr)

/-- The fields of a command header, its reply path being `skip` bytes long. -/
structure CarriesRequest (hdr : List U8) (skip : Nat) (transId : U16) (cmd : U8) (addr size : U32) : Prop where
  is_cmd : riCmdResp (hdr.getD RMAP_INSTRUCTION 0) = true
  code : riCmd (hdr.getD RMAP_INSTRUCTION 0) = cmd
  trans_id : join16 (hdr.getD (RMAP_TRANS_ID_BYTE0 + skip) 0) (hdr.getD (RMAP_TRANS_ID_BYTE1 + skip) 0) = transId
  addr : join32 (hdr.getD (RMAP_ADDR_BYTE0 + skip) 0) (hdr.getD (RMAP_ADDR_BYTE1 + skip) 0)
    (hdr.getD (RMAP_ADDR_BYTE2 + skip) 0) (hdr.getD (RMAP_ADDR_BYTE3 + skip) 0) = addr
  size : join24 (hdr.getD (RMAP_DATALEN_BYTE0 + 4 + skip) 0) (hdr.getD (RMAP_DATALEN_BYTE1 + 4 + skip) 0)
    (hdr.getD (RMAP_DATALEN_BYTE2 + 4 + skip) 0) = size

/-- Both calls return the same value, and it is 0 or the length of a header that carries the request
behind the destination path. -/
def GenCmdOk (cfg : RmapCfg) (transId : U16) (cmd : U8) (addr size : U32) : Prop :=
  ∀ buf : Mem, ∃ buf',
    smileFeeGenCmdFill cfg transId cmd addr size buf =
      some (smileFeeGenCmdSize cfg transId cmd addr size, buf') ∧
    (smileFeeGenCmdSize cfg transId cmd addr size = 0 ∨
      ∃ hdr, smileFeeGenCmdSize cfg transId cmd addr size = (cfg.dpath ++ hdr).length ∧
        buf' = buf.write 0 (cfg.dpath ++ hdr) ∧ CarriesRequest hdr cfg.rpath.length transId cmd addr size)

/-! ## A header without a valid code -/

@[simp] theorem riCmd_setRiReplyAddrLen (b n : U8) : riCmd (setRiReplyAddrLen b n) = riCmd b := by
  apply BitVec.eq_of_getLsbD_eq
  intro i hi
  simp only [riCmd, setRiReplyAddrLen]
  interval_cases i <;> simp

@[simp] theorem riCmdResp_setRiReplyAddrLen (b n : U8) : riCmdResp (setRiReplyAddrLen b n) = riCmdResp b := by
  simp [riCmdResp, setRiReplyAddrLen]

/-- Of the instruction only the length of the reply path is set. -/
theorem smileFeeGenPkt_of_invalid (cfg : RmapCfg) (transId : U16) {cmd : U8} (addr size : U32)
    (hc : rmapValidateCmdCode cmd = false) : smileFeeGenPkt cfg transId cmd addr size =
      { cmdPkt cfg transId cmd addr (if size.toNat > RMAP_MAX_DATA_LEN then 0 else size) with
        instruction := setRiReplyAddrLen 0 (BitVec.ofNat 8 (cfg.rpath.length / 4)) } := by
  simp only [smileFeeGenPkt, rmapSetDestPath_cfg, rmapSetReplyPath_cfg, rmapSetCmd, hc, rmapSetDataLen, Option.getD_some,
    Option.getD_none, Bool.false_eq_true, if_false]
  split <;> rfl

theorem length_buildHdr_readReply {p : RmapPkt} (hr : riCmdResp p.instruction = false)
    (hw : riCmdWrite p.instruction = false) : (rmapBuildHdr p).length = p.path.length + p.rpath.length + 11 := by
  simp [rmapBuildHdr, hr, hw, dataLenBytes]
  omega

/-- The size query and the header disagree by twelve bytes. -/
theorem genCmd_of_invalid (cfg : RmapCfg) (transId : U16) {cmd : U8} (addr size : U32)
    (hc : rmapValidateCmdCode cmd = false) :
    smileFeeGenCmdSize cfg transId cmd addr size = cfg.dpath.length + cfg.rpath.length - 1 ∧
      (smileFeeGenCmd cfg transId cmd addr size).length = cfg.dpath.length + cfg.rpath.length + 11 := by
  rw [smileFeeGenCmdSize, smileFeeGenCmd, smileFeeGenPkt_of_invalid cfg transId addr size hc]
  constructor
  · have hmin : rmapGetMinHdrSize (setRiReplyAddrLen 0 (BitVec.ofNat 8 (cfg.rpath.length / 4))) = -1 := by
      rw [rmapGetMinHdrSize, riCmd_setRiReplyAddrLen, riCmdResp_setRiReplyAddrLen]
      rfl
    simp only [rmapBuildHdrSize, hmin, cmdPkt]
    omega
  · refine length_buildHdr_readReply ?_ ?_
    · rw [riCmdResp_setRiReplyAddrLen]
      rfl
    · rw [riCmdWrite, riCmd_setRiReplyAddrLen]
      rfl

/-! ## A header with a valid code -/

/-- A byte behind the reply path of a command header. -/
theorem getD_buildHdr {p : RmapPkt} (hp : p.path = []) (hr : riCmdResp p.instruction = true) (k i : Nat)
    (hi : i = 4 + k + p.rpath.length) : (rmapBuildHdr p).getD i 0 =
      ([p.src, u8 (p.trId >>> 8), u8 p.trId, 0x0, u8 (p.addr >>> 24), u8 (p.addr >>> 16), u8 (p.addr >>> 8), u8 p.addr] ++
        dataLenBytes p.dataLen).getD k 0 := by
  subst hi
  have hsplit : rmapBuildHdr p = ([p.dst, p.protoId, p.instruction, p.key] ++ p.rpath) ++
      ([p.src, u8 (p.trId >>> 8), u8 p.trId, 0x0, u8 (p.addr >>> 24), u8 (p.addr >>> 16), u8 (p.addr >>> 8),
        u8 p.addr] ++ dataLenBytes p.dataLen) := by
    simp [rmapBuildHdr, hp, hr]
  rw [hsplit, List.getD_append_right _ _ _ _ (by simp; omega)]
  congr 1
  simp
  omega

/-- A command header carries the fields of its packet. -/
theorem carriesRequest_buildHdr {p : RmapPkt} (hp : p.path = []) (hr : riCmdResp p.instruction = true)
    (hl : p.dataLen.toNat ≤ RMAP_MAX_DATA_LEN) :
    CarriesRequest (rmapBuildHdr p) p.rpath.length p.trId (riCmd p.instruction) p.addr p.dataLen := by
  have hinstr : (rmapBuildHdr p).getD RMAP_INSTRUCTION 0 = p.instruction := by
    simp [rmapBuildHdr, hp, RMAP_INSTRUCTION]
  have hb := getD_buildHdr hp hr
  refine ⟨by rw [hinstr, hr], by rw [hinstr], ?_, ?_, ?_⟩
  · rw [hb 1 (RMAP_TRANS_ID_BYTE0 + p.rpath.length) rfl, hb 2 (RMAP_TRANS_ID_BYTE1 + p.rpath.length) rfl]
    exact join16_split p.trId
  · rw [hb 4 (RMAP_ADDR_BYTE0 + p.rpath.length) rfl, hb 5 (RMAP_ADDR_BYTE1 + p.rpath.length) rfl,
      hb 6 (RMAP_ADDR_BYTE2 + p.rpath.length) rfl, hb 7 (RMAP_ADDR_BYTE3 + p.rpath.length) rfl]
    exact join32_split p.addr
  · rw [hb 8 (RMAP_DATALEN_BYTE0 + 4 + p.rpath.length) rfl, hb 9 (RMAP_DATALEN_BYTE1 + 4 + p.rpath.length) rfl,
      hb 10 (RMAP_DATALEN_BYTE2 + 4 + p.rpath.length) rfl]
    exact join24_split p.dataLen (by simp only [RMAP_MAX_DATA_LEN] at hl; omega)

/-- What is generated for a valid code. -/
theorem genCmd_of_valid (cfg : RmapCfg) (transId : U16) {cmd : U8} (addr size : U32)
    (hc : rmapValidateCmdCode cmd = true) (buf : Mem) :
    smileFeeGenCmdSize cfg transId cmd addr size = (smileFeeGenCmd cfg transId cmd addr size).length ∧
      smileFeeGenCmdFill cfg transId cmd addr size buf = some (smileFeeGenCmdSize cfg transId cmd addr size,
        buf.write 0 (smileFeeGenCmd cfg transId cmd addr size)) := by
  have hsize : smileFeeGenCmdSize cfg transId cmd addr size = (smileFeeGenCmd cfg transId cmd addr size).length := by
    rw [smileFeeGenCmdSize, smileFeeGenCmd, smileFeeGenPkt_eq_cmdPkt cfg transId addr size hc]
    exact rmapBuildHdrSize_eq (by simp [cmdPkt, minHdrSize_cmdInstr hc])
  refine ⟨hsize, ?_⟩
  simp only [smileFeeGenCmdFill, hsize]
  rw [if_neg (by omega), Mem.write_write_same _ _ _ _ (by simp)]

/-- **Requests that are encoded**: those with a valid command code and a size of 24 bits. -/
theorem genCmdOk_iff (cfg : RmapCfg) (transId : U16) (cmd : U8) (addr size : U32) :
    GenCmdOk cfg transId cmd addr size ↔
      rmapValidateCmdCode cmd = true ∧ size.toNat ≤ RMAP_MAX_DATA_LEN := by
  constructor
  · intro h
    obtain ⟨buf', hfill, hcase⟩ := h fun _ => 0
    have hc : rmapValidateCmdCode cmd = true := by
      by_contra hno
      obtain ⟨hsize, hlen⟩ := genCmd_of_invalid cfg transId addr size (by simpa using hno)
      simp only [smileFeeGenCmdFill, hsize, hlen] at hfill
      split_ifs at hfill
      simp only [Option.some.injEq, Prod.mk.injEq] at hfill
      omega
    refine ⟨hc, ?_⟩
    rcases hcase with h0 | ⟨hdr, -, -, hcarries⟩
    · rw [(genCmd_of_valid cfg transId addr size hc fun _ => 0).1] at h0
      have := List.length_pos_of_ne_nil (rmapBuildHdr_ne_nil (smileFeeGenPkt cfg transId cmd addr size))
      rw [smileFeeGenCmd] at h0
      omega
    · -- three bytes hold no larger size
      rw [← hcarries.size]
      exact Nat.le_of_lt_succ (join24_lt _ _ _)
  · rintro ⟨hc, hs⟩ buf
    obtain ⟨hsize, hfill⟩ := genCmd_of_valid cfg transId addr size hc buf
    have hhdr : smileFeeGenCmd cfg transId cmd addr size =
        cfg.dpath ++ rmapBuildHdr { cmdPkt cfg transId cmd addr size with path := [] } := by
      rw [smileFeeGenCmd, smileFeeGenPkt_eq cfg transId addr hc hs]
      simp [rmapBuildHdr, cmdPkt]
    refine ⟨_, hfill, .inr ⟨_, by rw [hsize, hhdr], by rw [hhdr], ?_⟩⟩
    have hcarries := @carriesRequest_buildHdr { cmdPkt cfg transId cmd addr size with path := [] } rfl
      (riCmdResp_cmdPkt cfg transId cmd addr size) hs
    rwa [show riCmd (cmdPkt cfg transId cmd addr size).instruction = cmd from riCmd_cmdInstr hc _] at hcarries

/-- The command byte 0, with paths: five bytes are asked for, 17 are written. -/
theorem not_genCmdOk_invalid :
    smileFeeGenCmdSize { dpath := [1, 2], rpath := [0, 0, 3, 4] } 7 0 0x40 4 = 5 ∧
      (smileFeeGenCmd { dpath := [1, 2], rpath := [0, 0, 3, 4] } 7 0 0x40 4).length = 17 ∧
      ¬ GenCmdOk { dpath := [1, 2], rpath := [0, 0, 3, 4] } 7 0 0x40 4 := by
  have hsize : smileFeeGenCmdSize { dpath := [1, 2], rpath := [0, 0, 3, 4] } 7 0 0x40 4 = 5 := by decide
  have hlen : (smileFeeGenCmd { dpath := [1, 2], rpath := [0, 0, 3, 4] } 7 0 0x40 4).length = 17 := by decide
  refine ⟨hsize, hlen, fun h => ?_⟩
  obtain ⟨buf', hfill, -⟩ := h fun _ => 0
  have hfst : (smileFeeGenCmdFill { dpath := [1, 2], rpath := [0, 0, 3, 4] } 7 0 0x40 4 fun _ => 0).map Prod.fst =
      some 5 := by
    rw [hfill, hsize]
    rfl
  revert hfst
  decide

end SmileFee
