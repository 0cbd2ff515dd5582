import SmileFee.Net
import SmileFee.Sram

/-!
# The RMAP target of the simulator (`SIM/smile_fee_sim.c:485-658`)

The simulator keeps its registers and its SRAM in a `struct smile_fee_mirror` too, so that its
memory is described by a `Mirror`. `none` stands for the calls of `exit`; the buffers it allocates
are there. The blob it packages the reply in is as large as needed.

**`rmapSimRx_writeRegister`** is what becomes of a register write: its four bytes are copied to the
place of the register, and the reply is a well-formed one without data.
-/

namespace SmileFee

open Word

/-- `offset_of(struct smile_fee_mirror, sram)`: 26 configuration registers, a gap of 422 words and
38 housekeeping registers lie before it. -/
def OFFSET_OF_SRAM : U32 := 4 * (26 + 422 + 38)

/-- Step one of `rmap_sim_rx`: `&mem[local_addr]` (`:526-545`). -/
def simLocalAddr (sim : Mirror) (rp : RmapPkt) : Option Nat :=
  if rp.addr < OFFSET_OF_SRAM then some (sim.fee + rp.addr.toNat)
  else if rp.addr ≥ FEE_SRAM_START then
    if rp.addr + rp.dataLen > FEE_SRAM_END then none else some (sim.sram + (rp.addr - FEE_SRAM_START).toNat)
  else none

/-- The `switch` over the command code: the memory, the payload of the reply, and the packet turned
into a response (`:565-620`). -/
def simServe (mem : Mem) (a : Nat) (rp : RmapPkt) : Mem × Option (List U8) × RmapPkt :=
  if riCmd rp.instruction = RMAP_READ_ADDR_INC then (mem, some (mem.read a rp.dataLen.toNat), rp)
  else if riCmd rp.instruction = RMAP_WRITE_ADDR_INC_VERIFY_REPLY then
    (mem.write a rp.data, none, { rp with dataLen := 0 })
  else if riCmd rp.instruction = RMAP_WRITE_ADDR_INC_REPLY then (mem.write a rp.data, none, { rp with dataLen := 0 })
  else (mem, none, rp)  -- not implemented, but answered

/-- `rmap_sim_rx` (`:485`): the memory and the reply. -/
def rmapSimRx (sim : Mirror) (blob mem : Mem) (pkt : Buf) : Option (Mem × List U8) :=
  match pkt.decode with
  | none => none
  | some rp =>
    match simLocalAddr sim rp with
    | none => none
    | some a =>
      let rp := { rp with instruction := setRiCmdResp rp.instruction false, src := rp.dst, dst := rp.src }
      let (mem, data, rp) := simServe mem a rp
      some (mem, packaged (smileFeePackage blob (rmapBuildHdr rp) 0 data))

/-- A packet that decodes to a write to one of the registers. -/
theorem rmapSimRx_of_decode (sim : Mirror) (blob mem : Mem) {pkt : Buf} {rp : RmapPkt} (hdec : pkt.decode = some rp)
    (haddr : rp.addr < OFFSET_OF_SRAM) (hcmd : riCmd rp.instruction = RMAP_WRITE_ADDR_INC_REPLY) :
    rmapSimRx sim blob mem pkt = some (mem.write (sim.fee + rp.addr.toNat) rp.data,
      packaged (smileFeePackage blob (rmapBuildHdr { rp with
        instruction := setRiCmdResp rp.instruction false, src := rp.dst, dst := rp.src, dataLen := 0 }) 0 none)) := by
  have ha : simLocalAddr sim rp = some (sim.fee + rp.addr.toNat) := if_pos haddr
  simp only [rmapSimRx, hdec, ha, simServe, riCmd_setRiCmdResp, hcmd]
  rw [if_neg (by decide), if_neg (by decide), if_pos trivial]

/-- The response to a register write. -/
def writeReply (cfg : RmapCfg) (transId : U16) : RmapPkt :=
  { dst := cfg.icuAddr, protoId := 1, instruction := setRiCmdResp (cmdInstr RMAP_WRITE_ADDR_INC_REPLY 0) false
    key := cfg.dstKey, src := cfg.smileFeeAddr, trId := transId }

@[simp] theorem riCmdResp_writeReply (cfg : RmapCfg) (transId : U16) :
    riCmdResp (writeReply cfg transId).instruction = false := riCmdResp_setRiCmdResp _ _

@[simp] theorem riCmd_writeReply (cfg : RmapCfg) (transId : U16) :
    riCmd (writeReply cfg transId).instruction = RMAP_WRITE_ADDR_INC_REPLY := by
  rw [writeReply, riCmd_setRiCmdResp, riCmd_cmdInstr (by decide)]

@[simp] theorem riCmdWrite_writeReply (cfg : RmapCfg) (transId : U16) :
    riCmdWrite (writeReply cfg transId).instruction = true := by
  rw [riCmdWrite, riCmd_writeReply]; rfl

theorem writeReply_hdrOk (cfg : RmapCfg) (transId : U16) : (writeReply cfg transId).HdrOk where
  path_nil := rfl
  proto := rfl
  valid := by
    rw [rmapGetMinHdrSize, riCmd_writeReply, riCmdResp_writeReply]; decide
  rpath_len := by simp [writeReply]
  addr_reply _ := rfl
  len_reply _ _ := rfl
  len_lt := Nat.zero_lt_of_lt (by decide : 0 < 2 ^ 24)

variable {cfg : RmapCfg} (hd : cfg.dpath = []) (hr : cfg.rpath = [])
include hd

/-- A packet that answers a register write. -/
theorem writeReply_replies (transId : U16) (addr : U32) (data : Option (List U8)) (crc : U8) (tail : List U8) :
    Replies ⟨feeWriteCmdRegister cfg transId addr, 0, data⟩ [] ((writeReply cfg transId).onWire crc tail) := by
  have h0 : (0 : Nat) = cfg.dpath.length := by rw [hd]; rfl
  have hw : Cmd.isWrite ⟨feeWriteCmdRegister cfg transId addr, 0, data⟩ = true := by
    rw [h0]; exact isWrite_genCmd cfg transId addr 4 (by decide) data
  have hid : Cmd.trId ⟨feeWriteCmdRegister cfg transId addr, 0, data⟩ = transId := by
    rw [h0]; exact trId_genCmd cfg transId addr 4 (by decide) data
  exact ⟨writeReply cfg transId, crc, tail, writeReply_hdrOk cfg transId, by simp, by rw [hw]; simp, hid.symm,
    by rw [hw]; rfl, rfl, rfl⟩

include hr

/-- **A register write**, packaged by `smile_fee_package` and received by the simulator. -/
theorem rmapSimRx_writeRegister (sim : Mirror) (blob blob' mem : Mem) (transId : U16) {addr : U32}
    (haddr : addr < OFFSET_OF_SRAM) {data : List U8} (hlen : data.length = 4) (beyond : Nat → U8) :
    ∃ reply, rmapSimRx sim blob' mem
        ⟨packaged (smileFeePackage blob (feeWriteCmdRegister cfg transId addr) 0 (some data)), beyond⟩ =
          some (mem.write (sim.fee + addr.toNat) data, reply) ∧
      Replies ⟨feeWriteCmdRegister cfg transId addr, 0, some data⟩ [] reply := by
  have hc : rmapValidateCmdCode RMAP_WRITE_ADDR_INC_REPLY = true := by decide
  have hs : (4 : U32).toNat ≤ RMAP_MAX_DATA_LEN := by decide
  have hp := cmdPkt_hdrOk hd transId RMAP_WRITE_ADDR_INC_REPLY addr hc hs
  have hbytes : packaged (smileFeePackage blob (feeWriteCmdRegister cfg transId addr) 0 (some data)) =
      (cmdPkt cfg transId RMAP_WRITE_ADDR_INC_REPLY addr 4).onWire
        (rmapCrc8 (rmapBuildHdr (cmdPkt cfg transId RMAP_WRITE_ADDR_INC_REPLY addr 4))) (data ++ [rmapCrc8 data]) := by
    rw [feeWriteCmdRegister, smileFeeGenCmd, smileFeeGenPkt_eq cfg transId addr hc hs,
      packaged_cmdPkt hd transId addr 4 hc blob (some data)]
    rfl
  have hdec := decode_onWire_data hp (rmapCrc8 (rmapBuildHdr (cmdPkt cfg transId RMAP_WRITE_ADDR_INC_REPLY addr 4)))
    beyond data [rmapCrc8 data] (by rw [hlen]; rfl) (by rintro rfl; cases hlen)
  refine ⟨_, by rw [hbytes]; exact rmapSimRx_of_decode sim blob' mem hdec haddr (riCmd_cmdInstr hc _), ?_⟩
  rw [packaged_eq _ _ _ _ (rmapBuildHdr_ne_nil _), Option.getD_none, List.nil_append]
  have hreply (p : RmapPkt) (h : rmapBuildHdr p = rmapBuildHdr (writeReply cfg transId)) (crc : U8) (tail : List U8) :
      Replies ⟨feeWriteCmdRegister cfg transId addr, 0, some data⟩ [] (rmapBuildHdr p ++ crc :: tail) := by
    rw [h]; exact writeReply_replies hd transId addr _ crc tail
  refine hreply _ ?_ _ _
  simp [rmapBuildHdr, writeReply, cmdPkt, hd, hr]

end SmileFee
