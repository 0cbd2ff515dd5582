import SmileFee.Packetise

/-!
# The packet size register and what is sent under it (`SIM/fee_sim.c:1053-1395`)

The register is 16 bits wide and is set from outside. `fee_sim_create_data_payload` subtracts the
size of the header, clamps to a multiple of four and gives no payload when nothing is left; the size
is a `size_t`, and below ten the subtraction wraps around. No caller looks at what it returns.

**`packetSizeOk_iff`**: from 14 on all is well, and below it only a call that returns before it has a
payload created.
-/

namespace SmileFee

open Word Mem

/-! ## A packet and the size configured -/

/-- A packet as it is sent. The last one of a block is the one that has the marker (`Sent.numbered`),
which is bit 7 of byte 5. -/
structure PacketOk (packetSize : Nat) (p : List U8) : Prop where
  hdr : SIZEOF_HDR ≤ p.length
  size : p.length ≤ packetSize
  dataLen : (join16 (p.getD 2 0) (p.getD 3 0)).toNat = p.length - SIZEOF_HDR
  aligned : (p.getD 5 0).getLsbD 7 = false → (p.length - SIZEOF_HDR) % 4 = 0

theorem Sent.unmarked {L : Nat} {hdr hdr' : FeeDataHdr} {data : List U8} {ps : List (FeeDataHdr × List U8)}
    (h : Sent L hdr data ps hdr') : ∀ p ∈ ps, p.1.lastPkt = 0 → p.2.length = L := by
  induction h with
  | @last hdr c _ _ =>
    intro p hp hlast
    rw [List.mem_singleton] at hp
    subst hp
    have hone : (hdr.finish c.length).lastPkt = 1 := (lastPkt_setLastPkt _ _).trans (by decide)
    rw [hone] at hlast
    cases hlast
  | more hlen _ _ ih => exact List.forall_mem_cons.2 ⟨fun _ => hlen, ih⟩

/-- The marker in the byte of the packet type that goes second. -/
theorem lastPkt_of_bit {hdr : FeeDataHdr} (h : (u8 hdr.feePktType).getLsbD 7 = false) : hdr.lastPkt = 0 := by
  rw [getLsbD_u8] at h
  apply BitVec.eq_of_getLsbD_eq
  intro i _
  simp only [FeeDataHdr.lastPkt, getField, BitVec.getLsbD_and, BitVec.getLsbD_ushiftRight]
  cases i with
  | zero => simpa using h
  | succ i => simp

/-- The room of a payload is a multiple of four and with the header not more than the size configured. -/
structure FeeDataPayload.Room (packetSize : Nat) (pld : FeeDataPayload) : Prop where
  aligned : pld.dataLenMax % 4 = 0
  le : SIZEOF_HDR + pld.dataLenMax ≤ packetSize

theorem FeeDataPayload.Room.updHdr {packetSize : Nat} {pld : FeeDataPayload} (h : pld.Room packetSize)
    (f : FeeDataHdr → FeeDataHdr) : (pld.updHdr f).Room packetSize := ⟨h.aligned, h.le⟩

theorem packetOk_wire {packetSize : Nat} {pld : FeeDataPayload} (hroom : pld.Room packetSize)
    {p : FeeDataHdr × List U8} (hle : p.2.length ≤ pld.dataLenMax) (hlen : p.1.dataLen.toNat = p.2.length)
    (hfull : p.1.lastPkt = 0 → p.2.length = pld.dataLenMax) : PacketOk packetSize (wire p) where
  hdr := by rw [length_wire]; omega
  size := by have := hroom.le; rw [length_wire]; omega
  dataLen := by
    rw [length_wire, Nat.add_sub_cancel_left, ← hlen]
    exact congrArg BitVec.toNat (join16_split p.1.dataLen)
  aligned hbit := by
    rw [length_wire, Nat.add_sub_cancel_left, hfull (lastPkt_of_bit hbit)]
    exact hroom.aligned

theorem feeSimTxLoop_dataLenMax (h : Host) (buf : Mem) (n i : Nat) (pld : FeeDataPayload) :
    (feeSimTxLoop h buf i n pld).2.dataLenMax = pld.dataLenMax := by
  induction i, n, pld using feeSimTxLoop_induct buf with
  | zero i pld => rw [feeSimTxLoop_zero]
  | more i n pld hlt ih =>
    rw [feeSimTxLoop_more h buf i hlt]
    exact ih
  | last i n pld hn hle =>
    rw [feeSimTxLoop_last h buf i hn hle]
    rfl

/-- A block, of no bytes or of some. -/
theorem feeSimTxPayloadData_ok (h : Host) {packetSize : Nat} {pld : FeeDataPayload} (hroom : pld.Room packetSize)
    (buf : Mem) (n : Nat) : (∀ p ∈ (feeSimTxPayloadData h pld buf n).1, PacketOk packetSize p) ∧
      (feeSimTxPayloadData h pld buf n).2.Room packetSize := by
  have hmax : (feeSimTxPayloadData h pld buf n).2.dataLenMax = pld.dataLenMax := feeSimTxLoop_dataLenMax h buf n 0 _
  refine ⟨?_, by rw [hmax]; exact hroom.aligned, by rw [hmax]; exact hroom.le⟩
  cases n with
  | zero =>
    intro p hp
    rw [feeSimTxPayloadData, feeSimTxLoop_zero] at hp
    cases hp
  | succ n =>
    obtain ⟨ps, hps, hsent⟩ := feeSimTxPayloadData_sent h pld buf n.succ_pos
    rw [hps]
    intro q hq
    obtain ⟨p, hp, rfl⟩ := List.mem_map.1 hq
    obtain ⟨k, hk⟩ := List.mem_iff_getElem?.1 hp
    have hnum := hsent.numbered pld.lt (pld.pkt.hdr.start_full pld.lt) k p hk
    exact packetOk_wire hroom (hsent.bounds pld.pos p hp).2 hnum.dataLen (hsent.unmarked p hp)

theorem feeSimTxNodes_ok (h : Host) {packetSize : Nat} (buf : Node → Option Mem) (n : Nat) (nds : List Node)
    {pld : FeeDataPayload} (hroom : pld.Room packetSize) :
    ∀ p ∈ (feeSimTxNodes h buf n nds pld).1, PacketOk packetSize p := by
  induction nds generalizing pld with
  | nil =>
    intro p hp
    cases hp
  | cons nd nds ih =>
    unfold feeSimTxNodes
    cases hb : buf nd with
    | none => exact ih hroom
    | some b =>
      obtain ⟨hsent, hroom'⟩ := feeSimTxPayloadData_ok h ((hroom.updHdr
        (feeSimHdrSetCcdSide · (u8 nd.ccdSide))).updHdr (feeSimHdrSetCcdId · (u8 nd.ccdId))) b n
      exact List.forall_mem_append.2 ⟨hsent, ih hroom'⟩

/-! ## The payload of a packet size -/

theorem feeSimCreateDataPayload_room (sim : Mirror) (m : Mem) (h : 14 ≤ (sim.smileFeeGetPacketSize m).toNat) :
    ∃ pld, feeSimCreateDataPayload sim m = some pld ∧ pld.Room (sim.smileFeeGetPacketSize m).toNat := by
  obtain ⟨pld, hpld, -, hmod⟩ := feeSimCreateDataPayload_some sim m h
  refine ⟨pld, hpld, hmod, ?_⟩
  have htx := feeSimTxSize_eq (sim.smileFeeGetPacketSize m)
  have hlt := (sim.smileFeeGetPacketSize m).isLt
  have hmax : pld.dataLenMax = (feeSimTxSize (sim.smileFeeGetPacketSize m)).toNat := by
    simp only [feeSimCreateDataPayload] at hpld
    split at hpld
    · cases hpld
    · split at hpld <;> cases hpld
      rfl
  rw [hmax, htx]
  rw [SIZEOF_HDR] at *
  bv_omega

/-! ## The two transfers -/

/-- How a call ends. -/
inductive TxEnd where
  /-- It returns before it has a payload created. -/
  | idle
  /-- `calloc` fails, and `exit` is called. -/
  | exits
  /-- There is no payload, and `&pld->pkt->hdr` is evaluated all the same. -/
  | null
  | sends (sent : List (List U8))

/-- Without a payload: `NULL` is returned (`:1074`), or `calloc` is given a size that has wrapped around
(`:1088`). -/
def txNoPayload (packetSize : U16) : TxEnd :=
  if BitVec.ofNat 64 SIZEOF_HDR + feeSimTxSize packetSize < BitVec.ofNat 64 SIZEOF_HDR + 1 then .null else .exits

inductive TxCall where
  | ff (frame : Nat → U16) (feeMode : U8)
  | ft (feeMode : U8) (buf : Node → Option Mem) (n : Nat)

namespace TxCall

/-- `fee_sim_exec_ff_mode` (`:1232`) and `fee_sim_frame_transfer` (`:1328`). -/
def run (sim : Sim) (hk : Mem) : TxCall → TxEnd
  | ff frame feeMode =>
    match feeSimExecFfMode sim hk frame feeMode with
    | none => txNoPayload (sim.mir.smileFeeGetPacketSize sim.mem)
    | some sent => .sends sent
  | ft feeMode buf n =>
    if feeMode = FEE_MODE_ID_FTP ∨ feeMode = FEE_MODE_ID_FT then
      match feeSimFrameTransfer sim hk feeMode buf n with
      | none => txNoPayload (sim.mir.smileFeeGetPacketSize sim.mem)
      | some (sent, _) => .sends sent
    else .idle

/-- The call does not end at the test of the mode (`:1338`). -/
def Transfers : TxCall → Prop
  | ff _ _ => True
  | ft feeMode _ _ => feeMode = FEE_MODE_ID_FTP ∨ feeMode = FEE_MODE_ID_FT

variable (sim : Sim) (hk : Mem) (call : TxCall)

/-- The packet size is respected. -/
structure PacketSizeOk : Prop where
  noWrap : call.run sim hk ≠ .idle → SIZEOF_HDR ≤ (sim.mir.smileFeeGetPacketSize sim.mem).toNat
  notNull : call.run sim hk ≠ .null
  sent : ∀ sent, call.run sim hk = .sends sent →
    ∀ p ∈ sent, PacketOk (sim.mir.smileFeeGetPacketSize sim.mem).toNat p

theorem run_idle (h : ¬ call.Transfers) : call.run sim hk = .idle := by
  cases call with
  | ff _ _ => exact absurd trivial h
  | ft _ _ _ => exact if_neg h

theorem run_none (h : call.Transfers) (hnone : feeSimCreateDataPayload sim.mir sim.mem = none) :
    call.run sim hk = txNoPayload (sim.mir.smileFeeGetPacketSize sim.mem) := by
  cases call with
  | ff _ _ => simp only [run, feeSimExecFfMode, hnone]
  | ft _ _ _ =>
    rw [Transfers] at h
    simp only [run, feeSimFrameTransfer, if_pos h, hnone]

theorem run_sends (h : call.Transfers) (hps : 14 ≤ (sim.mir.smileFeeGetPacketSize sim.mem).toNat) :
    ∃ sent, call.run sim hk = .sends sent ∧
      ∀ p ∈ sent, PacketOk (sim.mir.smileFeeGetPacketSize sim.mem).toNat p := by
  obtain ⟨pld, hpld, hroom⟩ := feeSimCreateDataPayload_room sim.mir sim.mem hps
  cases call with
  | ff frame feeMode =>
    obtain ⟨hhk, hroom'⟩ := feeSimTxPayloadData_ok sim.mir.host ((hroom.updHdr (feeSimHdrInit sim.frameCntr)).updHdr
      (feeSimHdrSetPktType · (u8 FEE_PKT_TYPE_HK))) hk FEE_HK_PACKET_DATA_LEN
    obtain ⟨hdata, -⟩ := feeSimTxPayloadData_ok sim.mir.host (((hroom'.updHdr
      (feeSimHdrSetPktType · (u8 FEE_PKT_TYPE_DATA))).updHdr (feeSimHdrSetCcdId · (u8
        (if sim.mir.smileFeeGetCcdReadout 1 sim.mem ≠ 0 then FEE_CCD_ID_2 else FEE_CCD_ID_4)))).updHdr
      (feeSimHdrSetFeeMode · feeMode)) (ofHalfwords sim.mir.host (sim.ffFrame frame))
      (2 * (FEE_CCD_IMG_SEC_ROWS * FEE_CCD_IMG_SEC_COLS))
    exact ⟨_, by simp only [run, feeSimExecFfMode, hpld], List.forall_mem_append.2 ⟨hhk, hdata⟩⟩
  | ft feeMode buf n =>
    obtain ⟨hhk, hroom'⟩ := feeSimTxPayloadData_ok sim.mir.host ((hroom.updHdr
      (feeSimHdrInit (sim.frameCntr + 1))).updHdr (feeSimHdrSetPktType · (u8 FEE_PKT_TYPE_HK))) hk
      FEE_HK_PACKET_DATA_LEN
    have hdata := feeSimTxNodes_ok sim.mir.host buf n Node.order ((hroom'.updHdr
      (feeSimHdrSetPktType · (u8 FEE_PKT_TYPE_DATA))).updHdr (feeSimHdrSetFeeMode · feeMode))
    rw [Transfers] at h
    exact ⟨_, by simp only [run, feeSimFrameTransfer, if_pos h, hpld], List.forall_mem_append.2 ⟨hhk, hdata⟩⟩

/-- With ten to thirteen bytes the room is 0, and below the size wraps around. -/
theorem txNoPayload_null {packetSize : U16} (hge : SIZEOF_HDR ≤ packetSize.toNat) (hlt : packetSize.toNat < 14) :
    txNoPayload packetSize = .null := by
  have htx := feeSimTxSize_eq packetSize
  refine if_pos ?_
  rw [SIZEOF_HDR] at *
  bv_omega

theorem txNoPayload_ne_idle (packetSize : U16) : txNoPayload packetSize ≠ .idle := by
  rw [txNoPayload]
  split <;> exact TxEnd.noConfusion

/-- **The packet size is respected from 14 on**; below it, only where no payload is asked for. -/
theorem packetSizeOk_iff : call.PacketSizeOk sim hk ↔
    (call.Transfers → 14 ≤ (sim.mir.smileFeeGetPacketSize sim.mem).toNat) := by
  constructor
  · intro hok htr
    by_contra hps
    have hrun := run_none sim hk call htr (feeSimCreateDataPayload_none sim.mir sim.mem hps)
    have hge := hok.noWrap (by rw [hrun]; exact txNoPayload_ne_idle _)
    exact hok.notNull (hrun.trans (txNoPayload_null hge (Nat.lt_of_not_le hps)))
  · intro hps
    by_cases htr : call.Transfers
    · obtain ⟨sent, hrun, hsent⟩ := run_sends sim hk call htr (hps htr)
      refine ⟨fun _ => le_trans (by decide) (hps htr), by rw [hrun]; exact TxEnd.noConfusion, fun sent' hrun' => ?_⟩
      cases hrun.symm.trans hrun'
      exact hsent
    · have hrun := run_idle sim hk call htr
      refine ⟨fun hne => absurd hrun hne, by rw [hrun]; exact TxEnd.noConfusion, fun sent hrun' => ?_⟩
      cases hrun.symm.trans hrun'

/-- A packet size of 12 and a full frame: there is no payload, and its header is written. -/
theorem not_packetSizeOk_twelve :
    let sim : Sim := { mir := ⟨.little, 0, 0x1000⟩, mem := Mem.write (fun _ => 0) 16 [0, 0, 0, 12] }
    sim.mir.smileFeeGetPacketSize sim.mem = 12 ∧
      ¬ (ff (fun _ => 0) FEE_MODE_ID_FF).PacketSizeOk sim (fun _ => 0) := by
  intro sim
  have hsize : sim.mir.smileFeeGetPacketSize sim.mem = 12 := by decide
  refine ⟨hsize, fun hok => hok.notNull ?_⟩
  have hnone := feeSimCreateDataPayload_none sim.mir sim.mem (by rw [hsize]; decide)
  have hrun := run_none sim (fun _ => 0) (ff (fun _ => 0) FEE_MODE_ID_FF) trivial hnone
  rw [hrun, hsize]
  exact txNoPayload_null (by decide) (by decide)

end TxCall

end SmileFee
