import SmileFee.FeeData

/-!
# The transfers of the simulator (`SIM/fee_sim.c:855-1395`)

| here | there |
| --- | --- |
| `FeeDataPayload`        | `struct fee_data_payload` (`:67`) |
| `feeSimHdr…`            | the setters of the header and its two swaps (`:906-1031`) |
| `feeSimTxLoop`          | the loop of `fee_sim_tx_payload_data` (`:1200`) |
| `feeSimExecFfMode`      | `fee_sim_exec_ff_mode` (`:1232`) |
| `feeSimFrameTransfer`   | `fee_sim_frame_transfer` (`:1328`) |

A transfer is described by the packets given to `fee_send_non_rmap`. The content of the housekeeping
block and of buffers that are not written to the end is arbitrary: `malloc` does not clear it.

**`feeSimTxPayloadData_segmented`**: what is sent is the buffer in segments of the payload size, all
of the kind that the header has when the transfer begins.
-/

namespace SmileFee

open Word Mem Feed

def DPU_LOGICAL_ADDRESS : U8 := 0x50
def FEE_DATA_PROTOCOL : U8 := 0xF0

def FEE_MODE_ID_FTP : U8 := 0x1
def FEE_MODE_ID_FT : U8 := 0x3
def FEE_MODE_ID_FF : U8 := 0x4

/-! ## The header -/

section Hdr

variable (hdr : FeeDataHdr)

def feeSimHdrSetLogicalAddr (addr : U8) : FeeDataHdr := { hdr with logicalAddr := addr }
def feeSimHdrSetProtocolId (id : U8) : FeeDataHdr := { hdr with protoId := id }

/-- The assignment to a bit field of `type`. -/
def FeeDataHdr.setType (mask : U16) (sh : Nat) (v : U8) : FeeDataHdr :=
  { hdr with feePktType := setField mask sh (v.setWidth 16) hdr.feePktType }

def feeSimHdrSetPktType (type : U8) : FeeDataHdr := hdr.setType 0x3 0 (type &&& 0x3)
def feeSimHdrSetCcdSide (side : U8) : FeeDataHdr := hdr.setType 0x3 5 (side &&& 0x3)
def feeSimHdrSetCcdId (id : U8) : FeeDataHdr := hdr.setType 0x1 4 (id &&& 0x1)
def feeSimHdrSetFeeMode (mode : U8) : FeeDataHdr := hdr.setType 0xF 8 (mode &&& 0xF)
def feeSimHdrSetLastPkt (last : U8) : FeeDataHdr := hdr.setType 0x1 7 (last &&& 0x1)

def feeSimHdrSetFrameCntr (cntr : U16) : FeeDataHdr := { hdr with frameCntr := cntr }
def feeSimHdrIncSeqCntr : FeeDataHdr := { hdr with seqCntr := hdr.seqCntr + 1 }
def feeSimHdrSetDataLen (len : U16) : FeeDataHdr := { hdr with dataLen := len }

def feeSimHdrCpuToTgt (h : Host) : FeeDataHdr := hdr.swap h
def feeSimHdrTgtToCpu (h : Host) : FeeDataHdr := hdr.swap h

end Hdr

/-- The header of a packet is changed. -/
def FeeDataPkt.updHdr (pkt : FeeDataPkt) (f : FeeDataHdr → FeeDataHdr) : FeeDataPkt := { pkt with hdr := f pkt.hdr }

/-! ## The payload -/

/-- A packet to send from, with room for `dataLenMax` bytes of data. -/
structure FeeDataPayload where
  pkt : FeeDataPkt
  dataLenMax : Nat
  pos : 0 < dataLenMax
  lt : dataLenMax < 2 ^ 16

namespace FeeDataPayload

def updPkt (pld : FeeDataPayload) (f : FeeDataPkt → FeeDataPkt) : FeeDataPayload := { pld with pkt := f pld.pkt }
def updHdr (pld : FeeDataPayload) (f : FeeDataHdr → FeeDataHdr) : FeeDataPayload := pld.updPkt (·.updHdr f)


/-- `memcpy(pld->pkt->data, bs, |bs|)`. -/
def copy (pld : FeeDataPayload) (bs : List U8) : FeeDataPayload :=
  pld.updPkt fun p => { p with data := p.data.write 0 bs }

end FeeDataPayload

/-- `tx_size` of `fee_sim_create_data_payload` (`:1062-1070`), a `size_t`. -/
def feeSimTxSize (packetSize : U16) : BitVec 64 :=
  let txSize := packetSize.setWidth 64 - BitVec.ofNat 64 SIZEOF_HDR
  if txSize &&& 3#64 ≠ 0 then txSize &&& ~~~3#64 else txSize

theorem feeSimTxSize_eq (packetSize : U16) :
    (feeSimTxSize packetSize).toNat = (packetSize.setWidth 64 - BitVec.ofNat 64 SIZEOF_HDR).toNat / 4 * 4 := by
  rw [feeSimTxSize, ← toNat_and_not_three]
  split
  · rfl
  · -- the bits to be cleared are 0
    rename_i h
    congr 1
    calc packetSize.setWidth 64 - BitVec.ofNat 64 SIZEOF_HDR
        = (packetSize.setWidth 64 - BitVec.ofNat 64 SIZEOF_HDR) &&& (3#64 ||| ~~~3#64) := by
          rw [show 3#64 ||| ~~~3#64 = BitVec.allOnes 64 by decide, BitVec.and_allOnes]
      _ = (packetSize.setWidth 64 - BitVec.ofNat 64 SIZEOF_HDR) &&& ~~~3#64 := by
          rw [BitVec.and_or_distrib_left, not_not.1 h]
          exact BitVec.zero_or

/-- The size of a packet that can be allocated has not wrapped around. -/
theorem feeSimTxSize_bounds {packetSize : U16}
    (h : ¬ BitVec.ofNat 64 SIZEOF_HDR + feeSimTxSize packetSize < BitVec.ofNat 64 SIZEOF_HDR + 1)
    (h' : ¬ BitVec.ofNat 64 SIZEOF_HDR + feeSimTxSize packetSize > 0x7FFFFFFFFFFFFFFF) :
    0 < (feeSimTxSize packetSize).toNat ∧ (feeSimTxSize packetSize).toNat < 2 ^ 16 := by
  have heq := feeSimTxSize_eq packetSize
  have := packetSize.isLt
  rw [SIZEOF_HDR] at *
  bv_omega

/-- `fee_sim_create_data_payload` (`:1053`). `none` is `NULL`, or the call of `exit` when the size
has wrapped around and is more than `calloc` can give. -/
def feeSimCreateDataPayload (sim : Mirror) (m : Mem) : Option FeeDataPayload :=
  let txSize := feeSimTxSize (sim.smileFeeGetPacketSize m)
  let pktSizeMax := BitVec.ofNat 64 SIZEOF_HDR + txSize
  if h : pktSizeMax < BitVec.ofNat 64 SIZEOF_HDR + 1 then none
  else if h' : pktSizeMax > 0x7FFFFFFFFFFFFFFF then none
  else some
    { pkt := {}
      dataLenMax := txSize.toNat
      pos := (feeSimTxSize_bounds h h').1
      lt := (feeSimTxSize_bounds h h').2 }

/-- From a packet size of 14 on there is a payload, and its room is a multiple of four. -/
theorem feeSimCreateDataPayload_some (sim : Mirror) (m : Mem) (h : 14 ≤ (sim.smileFeeGetPacketSize m).toNat) :
    ∃ pld, feeSimCreateDataPayload sim m = some pld ∧ pld.pkt = {} ∧ pld.dataLenMax % 4 = 0 := by
  have hlt := (sim.smileFeeGetPacketSize m).isLt
  have htx := feeSimTxSize_eq (sim.smileFeeGetPacketSize m)
  have h1 : ¬ BitVec.ofNat 64 SIZEOF_HDR + feeSimTxSize (sim.smileFeeGetPacketSize m) <
      BitVec.ofNat 64 SIZEOF_HDR + 1 := by
    rw [SIZEOF_HDR] at *
    bv_omega
  have h2 : ¬ BitVec.ofNat 64 SIZEOF_HDR + feeSimTxSize (sim.smileFeeGetPacketSize m) > 0x7FFFFFFFFFFFFFFF := by
    rw [SIZEOF_HDR] at *
    bv_omega
  obtain ⟨hpos, hlt16⟩ := feeSimTxSize_bounds h1 h2
  refine ⟨⟨{}, _, hpos, hlt16⟩, ?_, rfl, by simp only [htx, Nat.mul_mod_left]⟩
  simp only [feeSimCreateDataPayload, dif_neg h1, dif_neg h2]

/-- Below 14 there is no payload. -/
theorem feeSimCreateDataPayload_none (sim : Mirror) (m : Mem) (h : ¬ 14 ≤ (sim.smileFeeGetPacketSize m).toNat) :
    feeSimCreateDataPayload sim m = none := by
  have htx := feeSimTxSize_eq (sim.smileFeeGetPacketSize m)
  by_cases h1 : BitVec.ofNat 64 SIZEOF_HDR + feeSimTxSize (sim.smileFeeGetPacketSize m) <
      BitVec.ofNat 64 SIZEOF_HDR + 1
  · simp only [feeSimCreateDataPayload, dif_pos h1]
  · -- the size has wrapped around
    have h2 : BitVec.ofNat 64 SIZEOF_HDR + feeSimTxSize (sim.smileFeeGetPacketSize m) > 0x7FFFFFFFFFFFFFFF := by
      rw [SIZEOF_HDR] at *
      bv_omega
    simp only [feeSimCreateDataPayload, dif_neg h1, dif_pos h2]

/-- `fee_sim_send_data_payload` (`:1102`): the packet sent and the payload after it. -/
def feeSimSendDataPayload (h : Host) (pld : FeeDataPayload) : List U8 × FeeDataPayload :=
  let n := pld.pkt.hdr.dataLen.toNat + SIZEOF_HDR
  let pld := pld.updHdr (feeSimHdrCpuToTgt · h)
  let sent := pld.pkt.bytes h n
  (sent, pld.updHdr (feeSimHdrTgtToCpu · h))

theorem feeSimSendDataPayload_snd (h : Host) (pld : FeeDataPayload) : (feeSimSendDataPayload h pld).2 = pld := by
  simp [feeSimSendDataPayload, FeeDataPayload.updHdr, FeeDataPayload.updPkt, FeeDataPkt.updHdr, feeSimHdrCpuToTgt,
    feeSimHdrTgtToCpu]

/-- The loop of `fee_sim_tx_payload_data` (`:1200`): the packets sent for the `n` bytes from `buf[i]` on. -/
def feeSimTxLoop (h : Host) (buf : Mem) (i n : Nat) (pld : FeeDataPayload) : List (List U8) × FeeDataPayload :=
  if n = 0 then ([], pld)
  else if n > pld.dataLenMax then
    let (pkt, pld') := feeSimSendDataPayload h (pld.copy (buf.read i pld.dataLenMax))
    let (pkts, pld') := feeSimTxLoop h buf (i + pld.dataLenMax) (n - pld.dataLenMax)
      (pld'.updHdr feeSimHdrIncSeqCntr)
    (pkt :: pkts, pld')
  else
    let pld := pld.copy (buf.read i n)
    let pld := pld.updHdr (feeSimHdrSetDataLen · (BitVec.ofNat 16 n))
    let pld := pld.updHdr (feeSimHdrSetLastPkt · 1)
    let (pkt, pld) := feeSimSendDataPayload h pld
    ([pkt], pld.updHdr feeSimHdrIncSeqCntr)
termination_by n
decreasing_by have := pld.pos; omega

/-- The payload that the last segment is sent from. -/
def FeeDataPayload.finish (pld : FeeDataPayload) (bs : List U8) : FeeDataPayload :=
  ((pld.copy bs).updHdr (feeSimHdrSetDataLen · (BitVec.ofNat 16 bs.length))).updHdr (feeSimHdrSetLastPkt · 1)

section

variable (h : Host) (buf : Mem) (i : Nat) {n : Nat} {pld : FeeDataPayload}

theorem feeSimTxLoop_zero : feeSimTxLoop h buf i 0 pld = ([], pld) := by
  rw [feeSimTxLoop, if_pos rfl]

/-- A full segment, and the rest from the payload with the sequence counter incremented. -/
theorem feeSimTxLoop_more (hlt : pld.dataLenMax < n) : feeSimTxLoop h buf i n pld =
    let seg := pld.copy (buf.read i pld.dataLenMax)
    let r := feeSimTxLoop h buf (i + pld.dataLenMax) (n - pld.dataLenMax) (seg.updHdr feeSimHdrIncSeqCntr)
    ((feeSimSendDataPayload h seg).1 :: r.1, r.2) := by
  rw [feeSimTxLoop, if_neg (Nat.ne_zero_of_lt hlt), if_pos hlt]
  simp only [feeSimSendDataPayload_snd]

/-- What is left fits. -/
theorem feeSimTxLoop_last (hn : 0 < n) (hle : n ≤ pld.dataLenMax) : feeSimTxLoop h buf i n pld =
    ([(feeSimSendDataPayload h (pld.finish (buf.read i n))).1],
      (pld.finish (buf.read i n)).updHdr feeSimHdrIncSeqCntr) := by
  rw [feeSimTxLoop, if_neg hn.ne', if_neg (Nat.not_lt.2 hle), FeeDataPayload.finish, length_read]
  simp only [feeSimSendDataPayload_snd]

end

/-- **Induction over the segments** of the loop. -/
theorem feeSimTxLoop_induct (buf : Mem) {motive : Nat → Nat → FeeDataPayload → Prop}
    (zero : ∀ i pld, motive i 0 pld)
    (more : ∀ i n pld, pld.dataLenMax < n → motive (i + pld.dataLenMax) (n - pld.dataLenMax)
      ((pld.copy (buf.read i pld.dataLenMax)).updHdr feeSimHdrIncSeqCntr) → motive i n pld)
    (last : ∀ i n pld, 0 < n → n ≤ pld.dataLenMax → motive i n pld)
    (i n : Nat) (pld : FeeDataPayload) : motive i n pld := by
  induction n using Nat.strong_induction_on generalizing i pld with
  | _ n ih =>
    rcases Nat.eq_zero_or_pos n with rfl | hn
    · exact zero i pld
    · rcases Nat.lt_or_ge pld.dataLenMax n with hlt | hle
      · exact more i n pld hlt (ih _ (Nat.sub_lt hn pld.pos) _ _)
      · exact last i n pld hn hle

/-- `fee_sim_tx_payload_data` (`:1182`). -/
def feeSimTxPayloadData (h : Host) (pld : FeeDataPayload) (buf : Mem) (n : Nat) : List (List U8) × FeeDataPayload :=
  let pld := pld.updHdr (feeSimHdrSetLastPkt · 0)
  let pld := pld.updHdr (feeSimHdrSetDataLen · (BitVec.ofNat 16 pld.dataLenMax))
  feeSimTxLoop h buf 0 n pld

/-- The loop over the pairs of pixels (`:1270`), from what `malloc` has left in the frame. -/
def feeSimFfFrame (E F frame : Nat → U16) : Nat → Nat → U16
  | 0 => frame
  | i + 1 => Function.update (Function.update (feeSimFfFrame E F frame i) (2 * i) (F i)) (2 * i + 1) (E i)

/-- The settings that are required once (`:1280`, `:1352`). -/
def feeSimHdrInit (frameCntr : U16) (hdr : FeeDataHdr) : FeeDataHdr :=
  let hdr := feeSimHdrSetLogicalAddr hdr DPU_LOGICAL_ADDRESS
  let hdr := feeSimHdrSetProtocolId hdr FEE_DATA_PROTOCOL
  feeSimHdrSetFrameCntr hdr frameCntr

/-- The simulator: its registers, the images `CCD2E` … `CCD4F` of its CCDs, and the frame counter. -/
structure Sim where
  mir : Mirror
  mem : Mem
  ccd : Node → Nat → U16 := fun _ _ => 0
  frameCntr : U16 := 0

/-- The elements of the frame that `fee_sim_exec_ff_mode` transmits. -/
def Sim.ffFrame (sim : Sim) (frame : Nat → U16) : Nat → U16 :=
  let (E, F) :=
    if sim.mir.smileFeeGetCcdReadout 1 sim.mem ≠ 0 then (sim.ccd .E2, sim.ccd .F2) else (sim.ccd .E4, sim.ccd .F4)
  feeSimFfFrame E F frame (FEE_CCD_IMG_SEC_ROWS * FEE_CCD_IMG_SEC_COLS / 2)

/-- `fee_sim_exec_ff_mode` (`:1232`): the packets sent. `hk` and `frame` are what the allocated
buffers hold before they are written. -/
def feeSimExecFfMode (sim : Sim) (hk : Mem) (frame : Nat → U16) (feeMode : U8) : Option (List (List U8)) :=
  let h := sim.mir.host
  let id := if sim.mir.smileFeeGetCcdReadout 1 sim.mem ≠ 0 then FEE_CCD_ID_2 else FEE_CCD_ID_4
  let n := 2 * (FEE_CCD_IMG_SEC_ROWS * FEE_CCD_IMG_SEC_COLS)
  match feeSimCreateDataPayload sim.mir sim.mem with
  | none => none
  | some pld =>
    let pld := pld.updHdr (feeSimHdrInit sim.frameCntr)
    let pld := pld.updHdr (feeSimHdrSetPktType · (u8 FEE_PKT_TYPE_HK))
    let (hkSent, pld) := feeSimTxPayloadData h pld hk FEE_HK_PACKET_DATA_LEN
    let pld := pld.updHdr (feeSimHdrSetPktType · (u8 FEE_PKT_TYPE_DATA))
    let pld := pld.updHdr (feeSimHdrSetCcdId · (u8 id))
    let pld := pld.updHdr (feeSimHdrSetFeeMode · feeMode)
    let (sent, _) := feeSimTxPayloadData h pld (ofHalfwords h (sim.ffFrame frame)) n
    some (hkSent ++ sent)

/-- The transfers of the nodes whose buffer is not `NULL` (`:1372-1398`). -/
def feeSimTxNodes (h : Host) (buf : Node → Option Mem) (n : Nat) :
    List Node → FeeDataPayload → List (List U8) × FeeDataPayload
  | [], pld => ([], pld)
  | nd :: nds, pld =>
    match buf nd with
    | none => feeSimTxNodes h buf n nds pld
    | some b =>
      let pld := pld.updHdr (feeSimHdrSetCcdSide · (u8 nd.ccdSide))
      let pld := pld.updHdr (feeSimHdrSetCcdId · (u8 nd.ccdId))
      let (sent, pld) := feeSimTxPayloadData h pld b n
      let (rest, pld) := feeSimTxNodes h buf n nds pld
      (sent ++ rest, pld)

/-- `fee_sim_frame_transfer` (`:1328`): the packets sent and the frame counter. -/
def feeSimFrameTransfer (sim : Sim) (hk : Mem) (feeMode : U8) (buf : Node → Option Mem) (n : Nat) :
    Option (List (List U8) × U16) :=
  let h := sim.mir.host
  if feeMode = FEE_MODE_ID_FTP ∨ feeMode = FEE_MODE_ID_FT then
    match feeSimCreateDataPayload sim.mir sim.mem with
    | none => none
    | some pld =>
      let frameCntr := sim.frameCntr + 1
      let pld := pld.updHdr (feeSimHdrInit frameCntr)
      let pld := pld.updHdr (feeSimHdrSetPktType · (u8 FEE_PKT_TYPE_HK))
      let (hkSent, pld) := feeSimTxPayloadData h pld hk FEE_HK_PACKET_DATA_LEN
      let pld := pld.updHdr (feeSimHdrSetPktType · (u8 FEE_PKT_TYPE_DATA))
      let pld := pld.updHdr (feeSimHdrSetFeeMode · feeMode)
      let (sent, _) := feeSimTxNodes h buf n Node.order pld
      some (hkSent ++ sent, frameCntr)
  else some ([], sim.frameCntr)

/-! ## What a transfer sends -/

/-- The bytes are a packet that carries `c`, whoever receives it. -/
def Transports (k : Kind) (c : List U8) (last : Bool) (bytes : List U8) : Prop :=
  ∀ rx pkt, Arrives rx bytes pkt → pkt.Carries k c last

theorem feeSimSendDataPayload_transports (h : Host) {pld : FeeDataPayload} {k : Kind} {c : List U8} {last : Bool}
    (hc : pld.pkt.Carries k c last) : Transports k c last (feeSimSendDataPayload h pld).1 := by
  intro rx pkt harr
  obtain ⟨hhdr, hdata⟩ := Arrives.of_swap harr
  exact ⟨by rw [hhdr, hc.kind], by rw [hhdr, hc.lastPkt], by rw [hhdr, hc.dataLen],
    by rw [← hc.dataLen, hdata, hc.dataLen, hc.data]⟩

section

variable (hdr : FeeDataHdr)

@[simp] theorem kind_setPktType (type : U8) : (feeSimHdrSetPktType hdr type).kind =
    { hdr.kind with pktType := 0x3 &&& (type &&& 0x3).setWidth 16 } := by
  simp (disch := decide) only [FeeDataHdr.kind, FeeDataHdr.pktType, FeeDataHdr.ccdSide, FeeDataHdr.ccdId,
    feeSimHdrSetPktType, FeeDataHdr.setType, getField_setField, getField_setField_disjoint]

@[simp] theorem kind_setCcdSide (side : U8) : (feeSimHdrSetCcdSide hdr side).kind =
    { hdr.kind with ccdSide := 0x3 &&& (side &&& 0x3).setWidth 16 } := by
  simp (disch := decide) only [FeeDataHdr.kind, FeeDataHdr.pktType, FeeDataHdr.ccdSide, FeeDataHdr.ccdId,
    feeSimHdrSetCcdSide, FeeDataHdr.setType, getField_setField, getField_setField_disjoint]

@[simp] theorem kind_setCcdId (id : U8) : (feeSimHdrSetCcdId hdr id).kind =
    { hdr.kind with ccdId := 0x1 &&& (id &&& 0x1).setWidth 16 } := by
  simp (disch := decide) only [FeeDataHdr.kind, FeeDataHdr.pktType, FeeDataHdr.ccdSide, FeeDataHdr.ccdId,
    feeSimHdrSetCcdId, FeeDataHdr.setType, getField_setField, getField_setField_disjoint]

@[simp] theorem kind_setFeeMode (mode : U8) : (feeSimHdrSetFeeMode hdr mode).kind = hdr.kind := by
  simp (disch := decide) only [FeeDataHdr.kind, FeeDataHdr.pktType, FeeDataHdr.ccdSide, FeeDataHdr.ccdId,
    feeSimHdrSetFeeMode, FeeDataHdr.setType, getField_setField_disjoint]

@[simp] theorem kind_setLastPkt (last : U8) : (feeSimHdrSetLastPkt hdr last).kind = hdr.kind := by
  simp (disch := decide) only [FeeDataHdr.kind, FeeDataHdr.pktType, FeeDataHdr.ccdSide, FeeDataHdr.ccdId,
    feeSimHdrSetLastPkt, FeeDataHdr.setType, getField_setField_disjoint]

@[simp] theorem kind_setLogicalAddr (addr : U8) : (feeSimHdrSetLogicalAddr hdr addr).kind = hdr.kind := rfl
@[simp] theorem kind_setProtocolId (id : U8) : (feeSimHdrSetProtocolId hdr id).kind = hdr.kind := rfl
@[simp] theorem kind_setFrameCntr (cntr : U16) : (feeSimHdrSetFrameCntr hdr cntr).kind = hdr.kind := rfl
@[simp] theorem kind_setDataLen (len : U16) : (feeSimHdrSetDataLen hdr len).kind = hdr.kind := rfl

theorem lastPkt_setLastPkt (last : U8) :
    (feeSimHdrSetLastPkt hdr last).lastPkt = 0x1 &&& (last &&& 0x1).setWidth 16 :=
  getField_setField _ _ _ _ (by decide)

end

/-- The loop, entered with the marker cleared and the full length set. -/
theorem feeSimTxLoop_segmented (h : Host) (buf : Mem) {k : Kind} {n : Nat} (hn : 0 < n) (i : Nat) (pld : FeeDataPayload)
    (hk : pld.pkt.hdr.kind = k) (hl : pld.pkt.hdr.lastPkt = 0) (hd : pld.pkt.hdr.dataLen.toNat = pld.dataLenMax) :
    Segmented (Transports k) pld.dataLenMax (buf.read i n) (feeSimTxLoop h buf i n pld).1 ∧
      (feeSimTxLoop h buf i n pld).2.pkt.hdr.kind = k ∧
      (feeSimTxLoop h buf i n pld).2.dataLenMax = pld.dataLenMax := by
  induction i, n, pld using feeSimTxLoop_induct buf with
  | zero => exact absurd hn (Nat.lt_irrefl 0)
  | more i n pld hlt ih =>
    have hc : (pld.copy (buf.read i pld.dataLenMax)).pkt.Carries k (buf.read i pld.dataLenMax) false :=
      ⟨hk, hl, by rw [length_read]; exact hd, read_write_same _ _ _⟩
    obtain ⟨hseg, hkind, hmax⟩ := ih (Nat.sub_pos_of_lt hlt) hk hl hd
    have hsplit : buf.read i n =
        buf.read i pld.dataLenMax ++ buf.read (i + pld.dataLenMax) (n - pld.dataLenMax) := by
      rw [← read_add, Nat.add_sub_cancel' hlt.le]
    rw [feeSimTxLoop_more h buf i hlt, hsplit]
    refine ⟨.more (length_read _ _ _) (List.ne_nil_of_length_pos (by simp; omega)) ?_ hseg, hkind, hmax⟩
    exact feeSimSendDataPayload_transports h hc
  | last i n pld _ hle =>
    -- the length is set to what is left, and the packet is marked
    have hc : (pld.finish (buf.read i n)).pkt.Carries k (buf.read i n) true := by
      refine ⟨(kind_setLastPkt _ _).trans hk, (lastPkt_setLastPkt _ _).trans (by decide), ?_, read_write_same _ _ _⟩
      have hlen : (buf.read i n).length < 2 ^ 16 := by
        rw [length_read]
        exact hle.trans_lt pld.lt
      exact (BitVec.toNat_ofNat _ 16).trans (Nat.mod_eq_of_lt hlen)
    rw [feeSimTxLoop_last h buf i hn hle]
    refine ⟨.last (List.ne_nil_of_length_pos (by simp; omega)) (by simp; omega) ?_, hc.kind, rfl⟩
    exact feeSimSendDataPayload_transports h hc

/-- **A transfer sends the buffer in segments**, of the kind that the header has. -/
theorem feeSimTxPayloadData_segmented (h : Host) (pld : FeeDataPayload) (buf : Mem) {n : Nat} (hn : 0 < n) {k : Kind}
    (hk : pld.pkt.hdr.kind = k) :
    Segmented (Transports k) pld.dataLenMax (buf.read 0 n) (feeSimTxPayloadData h pld buf n).1 ∧
      (feeSimTxPayloadData h pld buf n).2.pkt.hdr.kind = k ∧
      (feeSimTxPayloadData h pld buf n).2.dataLenMax = pld.dataLenMax := by
  have hlen : (BitVec.ofNat 16 pld.dataLenMax).toNat = pld.dataLenMax := by
    rw [BitVec.toNat_ofNat, Nat.mod_eq_of_lt pld.lt]
  have hlast : (feeSimHdrSetLastPkt pld.pkt.hdr 0).lastPkt = 0 := (lastPkt_setLastPkt _ _).trans (by decide)
  exact feeSimTxLoop_segmented h buf hn 0
    ((pld.updHdr (feeSimHdrSetLastPkt · 0)).updHdr (feeSimHdrSetDataLen · (BitVec.ofNat 16 pld.dataLenMax)))
    ((kind_setLastPkt _ _).trans hk) hlast hlen

/-- The kind of the housekeeping packets: side and CCD are left as `calloc` has cleared them, which
is what they are in a packet of node F2. -/
def hkKind : Kind := ⟨FEE_PKT_TYPE_HK, FEE_CCD_SIDE_F, FEE_CCD_ID_2⟩

/-- The housekeeping block goes first. -/
theorem hk_segmented (h : Host) {pld : FeeDataPayload} (hp : pld.pkt = {}) (frameCntr : U16) (hk : Mem) :
    let r := feeSimTxPayloadData h ((pld.updHdr (feeSimHdrInit frameCntr)).updHdr
      (feeSimHdrSetPktType · (u8 FEE_PKT_TYPE_HK))) hk FEE_HK_PACKET_DATA_LEN
    Segmented (Transports hkKind) pld.dataLenMax (hk.read 0 FEE_HK_PACKET_DATA_LEN) r.1 ∧
      r.2.pkt.hdr.kind = hkKind ∧ r.2.dataLenMax = pld.dataLenMax := by
  have hkind : ((pld.updHdr (feeSimHdrInit frameCntr)).updHdr
      (feeSimHdrSetPktType · (u8 FEE_PKT_TYPE_HK))).pkt.hdr.kind = hkKind := by
    rw [FeeDataPayload.updHdr, FeeDataPayload.updPkt, FeeDataPkt.updHdr, kind_setPktType]
    simp only [feeSimHdrInit, FeeDataPayload.updHdr, FeeDataPayload.updPkt, FeeDataPkt.updHdr, kind_setFrameCntr,
      kind_setProtocolId, kind_setLogicalAddr, hp]
    decide
  exact feeSimTxPayloadData_segmented h _ hk (by decide) hkind

/-- A full frame is sent as the housekeeping block and the bytes of the frame. -/
theorem feeSimExecFfMode_segmented (sim : Sim) (hps : 14 ≤ (sim.mir.smileFeeGetPacketSize sim.mem).toNat) (hk : Mem)
    (frame : Nat → U16) (feeMode : U8) : ∃ L k hkSent sent,
      feeSimExecFfMode sim hk frame feeMode = some (hkSent ++ sent) ∧ L % 4 = 0 ∧ k.pktType = FEE_PKT_TYPE_DATA ∧
      Segmented (Transports hkKind) L (hk.read 0 FEE_HK_PACKET_DATA_LEN) hkSent ∧
      Segmented (Transports k) L ((ofHalfwords sim.mir.host (sim.ffFrame frame)).read 0
        (2 * (FEE_CCD_IMG_SEC_ROWS * FEE_CCD_IMG_SEC_COLS))) sent := by
  obtain ⟨pld, hpld, hp, hmod⟩ := feeSimCreateDataPayload_some sim.mir sim.mem hps
  obtain ⟨hhk, hkind, hmax⟩ := hk_segmented sim.mir.host hp sim.frameCntr hk
  rcases htx : feeSimTxPayloadData sim.mir.host ((pld.updHdr (feeSimHdrInit sim.frameCntr)).updHdr
    (feeSimHdrSetPktType · (u8 FEE_PKT_TYPE_HK))) hk FEE_HK_PACKET_DATA_LEN with ⟨hkSent, pld'⟩
  rw [htx] at hhk hkind hmax
  obtain ⟨hdata, -, -⟩ := feeSimTxPayloadData_segmented sim.mir.host (((pld'.updHdr
    (feeSimHdrSetPktType · (u8 FEE_PKT_TYPE_DATA))).updHdr (feeSimHdrSetCcdId · (u8
      (if sim.mir.smileFeeGetCcdReadout 1 sim.mem ≠ 0 then FEE_CCD_ID_2 else FEE_CCD_ID_4)))).updHdr
    (feeSimHdrSetFeeMode · feeMode)) (ofHalfwords sim.mir.host (sim.ffFrame frame))
    (show 0 < 2 * (FEE_CCD_IMG_SEC_ROWS * FEE_CCD_IMG_SEC_COLS) by decide) rfl
  refine ⟨pld.dataLenMax, _, hkSent, _, ?_, hmod, ?_, hhk, hmax ▸ hdata⟩
  · rw [feeSimExecFfMode, hpld]
    simp only [htx]
  · simp only [FeeDataPayload.updHdr, FeeDataPayload.updPkt, FeeDataPkt.updHdr, kind_setFeeMode, kind_setCcdId,
      kind_setPktType]
    decide

/-- What is sent for the nodes listed: for each that has a buffer, its `n` bytes. -/
inductive NodesSent (L n : Nat) (buf : Node → Option Mem) : List Node → List (List U8) → Prop
  | nil : NodesSent L n buf [] []
  | skip {nd : Node} {nds : List Node} {sent : List (List U8)} :
      buf nd = none → NodesSent L n buf nds sent → NodesSent L n buf (nd :: nds) sent
  | send {nd : Node} {b : Mem} {nds : List Node} {sent rest : List (List U8)} : buf nd = some b →
      Segmented (Transports nd.kind) L (b.read 0 n) sent → NodesSent L n buf nds rest →
      NodesSent L n buf (nd :: nds) (sent ++ rest)

theorem feeSimTxNodes_sent (h : Host) (buf : Node → Option Mem) {n : Nat} (hn : 0 < n) (nds : List Node)
    (pld : FeeDataPayload) (hk : pld.pkt.hdr.kind.pktType = FEE_PKT_TYPE_DATA) :
    NodesSent pld.dataLenMax n buf nds (feeSimTxNodes h buf n nds pld).1 := by
  induction nds generalizing pld with
  | nil => exact .nil
  | cons nd nds ih =>
    cases hb : buf nd with
    | none =>
      simp only [feeSimTxNodes, hb]
      exact .skip hb (ih pld hk)
    | some b =>
      have hkind : ((pld.updHdr (feeSimHdrSetCcdSide · (u8 nd.ccdSide))).updHdr
          (feeSimHdrSetCcdId · (u8 nd.ccdId))).pkt.hdr.kind = nd.kind := by
        simp only [FeeDataPayload.updHdr, FeeDataPayload.updPkt, FeeDataPkt.updHdr, kind_setCcdId, kind_setCcdSide, hk]
        cases nd <;> decide
      obtain ⟨hseg, hkind', hmax⟩ := feeSimTxPayloadData_segmented h _ b hn hkind
      rcases htx : feeSimTxPayloadData h _ b n with ⟨sent, pld'⟩
      rw [htx] at hseg hkind' hmax
      have hrest := ih pld' (congrArg Kind.pktType hkind')
      rcases hrec : feeSimTxNodes h buf n nds pld' with ⟨rest, pld''⟩
      simp only [feeSimTxNodes, hb, htx, hrec]
      rw [hrec, show pld'.dataLenMax = pld.dataLenMax from hmax] at hrest
      exact .send hb hseg hrest

/-- A frame transfer is sent as the housekeeping block and the frames of the nodes. -/
theorem feeSimFrameTransfer_sent (sim : Sim) (hps : 14 ≤ (sim.mir.smileFeeGetPacketSize sim.mem).toNat) (hk : Mem)
    {feeMode : U8} (hmode : feeMode = FEE_MODE_ID_FTP ∨ feeMode = FEE_MODE_ID_FT) (buf : Node → Option Mem) {n : Nat}
    (hn : 0 < n) : ∃ L hkSent sent,
      feeSimFrameTransfer sim hk feeMode buf n = some (hkSent ++ sent, sim.frameCntr + 1) ∧ L % 4 = 0 ∧
      Segmented (Transports hkKind) L (hk.read 0 FEE_HK_PACKET_DATA_LEN) hkSent ∧
      NodesSent L n buf Node.order sent := by
  obtain ⟨pld, hpld, hp, hmod⟩ := feeSimCreateDataPayload_some sim.mir sim.mem hps
  obtain ⟨hhk, -, hmax⟩ := hk_segmented sim.mir.host hp (sim.frameCntr + 1) hk
  rcases htx : feeSimTxPayloadData sim.mir.host ((pld.updHdr (feeSimHdrInit (sim.frameCntr + 1))).updHdr
    (feeSimHdrSetPktType · (u8 FEE_PKT_TYPE_HK))) hk FEE_HK_PACKET_DATA_LEN with ⟨hkSent, pld'⟩
  rw [htx] at hhk hmax
  have hsent := feeSimTxNodes_sent sim.mir.host buf hn Node.order
    ((pld'.updHdr (feeSimHdrSetPktType · (u8 FEE_PKT_TYPE_DATA))).updHdr (feeSimHdrSetFeeMode · feeMode)) (by
      simp only [FeeDataPayload.updHdr, FeeDataPayload.updPkt, FeeDataPkt.updHdr, kind_setFeeMode, kind_setPktType]
      decide)
  refine ⟨pld.dataLenMax, hkSent, _, ?_, hmod, hhk, hmax ▸ hsent⟩
  simp only [feeSimFrameTransfer, if_pos hmode, hpld, htx]

end SmileFee
