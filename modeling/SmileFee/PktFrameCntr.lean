import SmileFee.SimExec

/-!
# The frame counter in the packets (`SIM/fee_sim.c`)

The counter is put into the header of a payload or of an event packet once, when the header is
prepared; nothing that is sent from there on changes it.

* **`feeSimFrameTransfer_carry`**: a frame transfer sends the next value of the counter.
* **`feeSimExecFfMode_carry`**: a full frame sends the value that the counter has.
* **`feeSimDetectNodes_carry`**: event packets, wandering masks and markers carry the value that the
  packet structure was prepared with. Without event detection, `feeSimDetectNodes_off` says when there
  are any.
-/

namespace SmileFee

open Word Mem

/-! ## Packets on the wire -/

/-- The frame counter of a packet as it is sent. -/
def pktFrameCntr (bytes : List U8) : U16 := join16 (bytes.getD 6 0) (bytes.getD 7 0)

/-- It is what a receiver finds in the header. -/
theorem Arrives.frameCntr {h : Host} {bytes : List U8} {pkt : FeeDataPkt} (harr : Arrives h bytes pkt)
    (hlen : SIZEOF_HDR ≤ bytes.length) : pkt.hdr.frameCntr = pktFrameCntr bytes := by
  obtain ⟨m, a, hm, rfl⟩ := harr
  unfold SIZEOF_HDR at hlen
  have hb (i : Nat) (hi : i < bytes.length) : bytes.getD i 0 = m (a + i) := by
    rw [List.getD_eq_getElem _ _ hi, ← getElem_read m a bytes.length i (by simpa using hi)]
    simp only [hm]
  rw [pktFrameCntr, hb 6 (by omega), hb 7 (by omega)]
  exact be16ToCpu_load16 h m (a + 6)

theorem pktFrameCntr_swap (h : Host) (hdr : FeeDataHdr) (rest : List U8) :
    pktFrameCntr ((hdr.swap h).bytes h ++ rest) = hdr.frameCntr := by
  rw [FeeDataHdr.bytes_swap]
  exact join16_split hdr.frameCntr

/-- All the packets carry the counter `f`. -/
def CarryCntr (f : U16) (sent : List (List U8)) : Prop := ∀ bytes ∈ sent, pktFrameCntr bytes = f

theorem CarryCntr.nil (f : U16) : CarryCntr f [] := by simp [CarryCntr]

theorem CarryCntr.singleton {f : U16} {bytes : List U8} (h : pktFrameCntr bytes = f) : CarryCntr f [bytes] := by
  simpa [CarryCntr] using h

theorem CarryCntr.append {f : U16} {sent sent' : List (List U8)} (h : CarryCntr f sent) (h' : CarryCntr f sent') :
    CarryCntr f (sent ++ sent') := by
  intro bytes hb
  rcases List.mem_append.1 hb with hb | hb
  · exact h bytes hb
  · exact h' bytes hb

theorem CarryCntr.cons {f : U16} {bytes : List U8} {sent : List (List U8)} (h : pktFrameCntr bytes = f)
    (h' : CarryCntr f sent) : CarryCntr f (bytes :: sent) := (CarryCntr.singleton h).append h'

/-! ## Data packets -/

theorem pktFrameCntr_sendDataPayload (h : Host) (pld : FeeDataPayload) :
    pktFrameCntr (feeSimSendDataPayload h pld).1 = pld.pkt.hdr.frameCntr :=
  pktFrameCntr_swap h pld.pkt.hdr _

theorem feeSimTxLoop_carry (h : Host) (buf : Mem) (n i : Nat) (pld : FeeDataPayload) :
    CarryCntr pld.pkt.hdr.frameCntr (feeSimTxLoop h buf i n pld).1 ∧
      (feeSimTxLoop h buf i n pld).2.pkt.hdr.frameCntr = pld.pkt.hdr.frameCntr ∧
      (0 < n → (feeSimTxLoop h buf i n pld).1 ≠ []) := by
  induction i, n, pld using feeSimTxLoop_induct buf with
  | zero i pld =>
    rw [feeSimTxLoop_zero]
    exact ⟨.nil _, rfl, fun hpos => absurd hpos (Nat.lt_irrefl 0)⟩
  | more i n pld hlt ih =>
    obtain ⟨hrest, hcntr, -⟩ := ih
    rw [feeSimTxLoop_more h buf i hlt]
    exact ⟨.cons (pktFrameCntr_sendDataPayload h _) hrest, hcntr, fun _ => List.cons_ne_nil _ _⟩
  | last i n pld hn hle =>
    rw [feeSimTxLoop_last h buf i hn hle]
    exact ⟨.singleton (pktFrameCntr_sendDataPayload h _), rfl, fun _ => List.cons_ne_nil _ _⟩

theorem feeSimTxPayloadData_carry (h : Host) (pld : FeeDataPayload) (buf : Mem) (n : Nat) :
    CarryCntr pld.pkt.hdr.frameCntr (feeSimTxPayloadData h pld buf n).1 ∧
      (feeSimTxPayloadData h pld buf n).2.pkt.hdr.frameCntr = pld.pkt.hdr.frameCntr ∧
      (0 < n → (feeSimTxPayloadData h pld buf n).1 ≠ []) :=
  feeSimTxLoop_carry h buf n 0 ((pld.updHdr (feeSimHdrSetLastPkt · 0)).updHdr
    (feeSimHdrSetDataLen · (BitVec.ofNat 16 pld.dataLenMax)))

theorem feeSimTxNodes_carry (h : Host) (buf : Node → Option Mem) (n : Nat) (nds : List Node) (pld : FeeDataPayload) :
    CarryCntr pld.pkt.hdr.frameCntr (feeSimTxNodes h buf n nds pld).1 := by
  induction nds generalizing pld with
  | nil => exact .nil _
  | cons nd nds ih =>
    unfold feeSimTxNodes
    cases hb : buf nd with
    | none => exact ih pld
    | some b =>
      obtain ⟨hsent, hcntr, -⟩ := feeSimTxPayloadData_carry h
        ((pld.updHdr (feeSimHdrSetCcdSide · (u8 nd.ccdSide))).updHdr (feeSimHdrSetCcdId · (u8 nd.ccdId))) b n
      have hrest := ih (feeSimTxPayloadData h ((pld.updHdr (feeSimHdrSetCcdSide · (u8 nd.ccdSide))).updHdr
        (feeSimHdrSetCcdId · (u8 nd.ccdId))) b n).2
      rw [hcntr] at hrest
      exact hsent.append hrest

/-- The housekeeping block is sent first, and there is always one. -/
theorem hk_carry (h : Host) (pld : FeeDataPayload) (frameCntr : U16) (hk : Mem) :
    let r := feeSimTxPayloadData h ((pld.updHdr (feeSimHdrInit frameCntr)).updHdr
      (feeSimHdrSetPktType · (u8 FEE_PKT_TYPE_HK))) hk FEE_HK_PACKET_DATA_LEN
    CarryCntr frameCntr r.1 ∧ r.2.pkt.hdr.frameCntr = frameCntr ∧ r.1 ≠ [] := by
  obtain ⟨hsent, hcntr, hne⟩ := feeSimTxPayloadData_carry h ((pld.updHdr (feeSimHdrInit frameCntr)).updHdr
    (feeSimHdrSetPktType · (u8 FEE_PKT_TYPE_HK))) hk FEE_HK_PACKET_DATA_LEN
  exact ⟨hsent, hcntr, hne (by decide)⟩

/-- A frame transfer sends the next value of the counter. -/
theorem feeSimFrameTransfer_carry (sim : Sim) (hps : 14 ≤ (sim.mir.smileFeeGetPacketSize sim.mem).toNat) (hk : Mem)
    (buf : Node → Option Mem) (n : Nat) : ∃ sent,
      feeSimFrameTransfer sim hk FEE_MODE_ID_FTP buf n = some (sent, sim.frameCntr + 1) ∧ sent ≠ [] ∧
      CarryCntr (sim.frameCntr + 1) sent := by
  obtain ⟨pld, hpld, -⟩ := feeSimCreateDataPayload_some sim.mir sim.mem hps
  obtain ⟨hhk, hcntr, hne⟩ := hk_carry sim.mir.host pld (sim.frameCntr + 1) hk
  rcases htx : feeSimTxPayloadData sim.mir.host ((pld.updHdr (feeSimHdrInit (sim.frameCntr + 1))).updHdr
    (feeSimHdrSetPktType · (u8 FEE_PKT_TYPE_HK))) hk FEE_HK_PACKET_DATA_LEN with ⟨hkSent, pld'⟩
  rw [htx] at hhk hcntr hne
  have hrest := feeSimTxNodes_carry sim.mir.host buf n Node.order ((pld'.updHdr
    (feeSimHdrSetPktType · (u8 FEE_PKT_TYPE_DATA))).updHdr (feeSimHdrSetFeeMode · FEE_MODE_ID_FTP))
  refine ⟨_, ?_, List.append_ne_nil_of_left_ne_nil hne _, hhk.append (hcntr ▸ hrest)⟩
  simp only [feeSimFrameTransfer, true_or, if_true, hpld, htx]

/-- A full frame sends the value that the counter has. -/
theorem feeSimExecFfMode_carry (sim : Sim) (hps : 14 ≤ (sim.mir.smileFeeGetPacketSize sim.mem).toNat) (hk : Mem)
    (frame : Nat → U16) (feeMode : U8) : ∃ sent,
      feeSimExecFfMode sim hk frame feeMode = some sent ∧ sent ≠ [] ∧ CarryCntr sim.frameCntr sent := by
  obtain ⟨pld, hpld, -⟩ := feeSimCreateDataPayload_some sim.mir sim.mem hps
  obtain ⟨hhk, hcntr, hne⟩ := hk_carry sim.mir.host pld sim.frameCntr hk
  rcases htx : feeSimTxPayloadData sim.mir.host ((pld.updHdr (feeSimHdrInit sim.frameCntr)).updHdr
    (feeSimHdrSetPktType · (u8 FEE_PKT_TYPE_HK))) hk FEE_HK_PACKET_DATA_LEN with ⟨hkSent, pld'⟩
  rw [htx] at hhk hcntr hne
  have hdata := (feeSimTxPayloadData_carry sim.mir.host (((pld'.updHdr
    (feeSimHdrSetPktType · (u8 FEE_PKT_TYPE_DATA))).updHdr (feeSimHdrSetCcdId · (u8
      (if sim.mir.smileFeeGetCcdReadout 1 sim.mem ≠ 0 then FEE_CCD_ID_2 else FEE_CCD_ID_4)))).updHdr
    (feeSimHdrSetFeeMode · feeMode)) (ofHalfwords sim.mir.host (sim.ffFrame frame))
    (2 * (FEE_CCD_IMG_SEC_ROWS * FEE_CCD_IMG_SEC_COLS))).1
  refine ⟨_, ?_, List.append_ne_nil_of_left_ne_nil hne _, hhk.append (hcntr ▸ hdata)⟩
  simp only [feeSimExecFfMode, hpld, htx]

/-! ## Event packets -/

theorem pktFrameCntr_event (h : Host) (pkt : FeeEventDetection) :
    pktFrameCntr ((pkt.updHdr (feeSimHdrCpuToTgt · h)).bytes h) = pkt.hdr.frameCntr := by
  unfold FeeEventDetection.bytes
  rw [List.append_assoc, List.append_assoc]
  exact pktFrameCntr_swap h pkt.hdr _

theorem feeSimSendEventPayload_carry (h : Host) (pkt : FeeEventDetection) :
    pktFrameCntr (feeSimSendEventPayload h pkt).1 = pkt.hdr.frameCntr ∧
      (feeSimSendEventPayload h pkt).2.hdr.frameCntr = pkt.hdr.frameCntr := by
  constructor
  · exact pktFrameCntr_event h _
  · exact be16ToCpu_be16ToCpu h _

theorem feeSimCheckEventPixel_carry (h : Host) (pkt : FeeEventDetection) (frame : Nat → U16) (idx cols : Nat)
    (threshold : U16) :
    (∀ sent ∈ (feeSimCheckEventPixel h pkt frame idx cols threshold).1, pktFrameCntr sent = pkt.hdr.frameCntr) ∧
      (feeSimCheckEventPixel h pkt frame idx cols threshold).2.hdr.frameCntr = pkt.hdr.frameCntr := by
  have hsent := feeSimSendEventPayload_carry h { pkt with pix := feeSimEventArea frame idx cols }
  unfold feeSimCheckEventPixel
  dsimp only
  split_ifs
  · exact ⟨nofun, rfl⟩
  · exact ⟨nofun, rfl⟩
  · exact ⟨by rintro _ ⟨⟩; exact hsent.1, hsent.2⟩

/-- The structure and the packets sent carry the counter `f`. -/
structure Detection.Carries (f : U16) (d : Detection) : Prop where
  hdr : d.pkt.hdr.frameCntr = f
  sent : CarryCntr f d.sent

section

variable {s : Mirror} {m : Mem} {f : U16} {d : Detection} (hd : d.Carries f)
include hd

theorem Detection.Carries.pixel (w : WMask) (frame : Nat → U16) (cols : Nat) (threshold : U16) (r c : Nat) :
    (feeSimDetectPixel s m w frame cols threshold r d c).Carries f := by
  obtain ⟨hhdr, hsent⟩ := hd
  unfold feeSimDetectPixel
  by_cases h0 : d.evMax = 0
  · rw [if_pos h0]
    exact ⟨hhdr, hsent⟩
  rw [if_neg h0]
  obtain ⟨hev, hpkt⟩ := feeSimCheckEventPixel_carry s.host (d.pkt.setPixel r c) frame (r * cols + c) cols threshold
  rcases hchk : feeSimCheckEventPixel s.host (d.pkt.setPixel r c) frame (r * cols + c) cols threshold with ⟨ev, pkt⟩
  rw [hchk] at hev hpkt
  have hcntr : pkt.hdr.frameCntr = f := hpkt.trans hhdr
  cases ev with
  | some sent => exact ⟨hcntr, hsent.append (.singleton ((hev sent rfl).trans hhdr))⟩
  | none =>
    obtain ⟨hw, hw'⟩ := feeSimSendEventPayload_carry s.host
      (pkt.updHdr (feeSimHdrSetPktType · (u8 FEE_PKT_TYPE_WMASK)))
    dsimp only
    split_ifs
    · exact ⟨hcntr, hsent⟩
    · exact ⟨hw'.trans hcntr, hsent.append (.singleton (hw.trans hcntr))⟩
    · exact ⟨hcntr, hsent⟩

theorem Detection.Carries.exit (h : Host) : (d.exit h).Carries f := by
  obtain ⟨hhdr, hsent⟩ := hd
  obtain ⟨hlast, hlast'⟩ := feeSimSendEventPayload_carry h (d.pkt.clear.updHdr (feeSimHdrSetLastPkt · 1))
  exact ⟨hlast'.trans hhdr, hsent.append (.singleton (hlast.trans hhdr))⟩

end

theorem feeSimDetectEvents_carry (s : Mirror) (m : Mem) (w : WMask) (rows cols : Nat) (threshold : U16)
    (pkt : FeeEventDetection) (evMax : Nat) (frame : Option (Nat → U16)) :
    (feeSimDetectEvents s m w rows cols threshold pkt evMax frame).Carries pkt.hdr.frameCntr := by
  have hinit (n : Nat) : ({ pkt, evMax := n } : Detection).Carries pkt.hdr.frameCntr := ⟨rfl, .nil _⟩
  unfold feeSimDetectEvents
  cases frame with
  | none => exact hinit 0
  | some frame =>
    dsimp only
    split_ifs
    · exact (hinit evMax).exit s.host
    · exact hinit 0
    · refine Detection.Carries.exit (feeSimDetectRows_keeps ?_ (hinit evMax)) s.host
      intro r c d _ _ hd
      exact hd.pixel w frame cols threshold r c

theorem feeSimDetectNodes_carry (s : Mirror) (m : Mem) (w : WMask) (frame : Node → Option (Nat → U16))
    (nds : List Node) (pkt : FeeEventDetection) (evCnt : U16 → Nat) :
    CarryCntr pkt.hdr.frameCntr (feeSimDetectNodes s m w frame nds pkt evCnt).1 ∧
      (feeSimDetectNodes s m w frame nds pkt evCnt).2.hdr.frameCntr = pkt.hdr.frameCntr := by
  induction nds generalizing pkt evCnt with
  | nil => exact ⟨.nil _, rfl⟩
  | cons nd nds ih =>
    unfold feeSimDetectNodes
    cases hf : frame nd with
    | none => exact ih pkt evCnt
    | some fr =>
      obtain ⟨hhdr, hsent⟩ := feeSimDetectEvents_carry s m w FEE_EDU_FRAME_6x6_ROWS FEE_EDU_FRAME_6x6_COLS
        (feeSimPixThreshold s m nd) ((pkt.updHdr (feeSimHdrSetCcdSide · (u8 nd.ccdSide))).updHdr
        (feeSimHdrSetCcdId · (u8 nd.ccdId))) (evCnt nd.ccdId) (some fr)
      obtain ⟨hrest, hpkt⟩ := ih _ (Function.update evCnt nd.ccdId (feeSimDetectEvents s m w FEE_EDU_FRAME_6x6_ROWS
        FEE_EDU_FRAME_6x6_COLS (feeSimPixThreshold s m nd) ((pkt.updHdr (feeSimHdrSetCcdSide · (u8 nd.ccdSide))).updHdr
        (feeSimHdrSetCcdId · (u8 nd.ccdId))) (evCnt nd.ccdId) (some fr)).evMax)
      rw [hhdr] at hrest hpkt
      exact ⟨hsent.append hrest, hpkt⟩

/-- Without event detection a frame uses up the event packets of its CCD. If there are none left, a
marker is sent. -/
theorem feeSimDetectEvents_off {s : Mirror} {m : Mem} (hed : s.smileFeeGetEventDetection m = 0) (w : WMask)
    (rows cols : Nat) (threshold : U16) (pkt : FeeEventDetection) (evMax : Nat) (frame : Nat → U16) :
    (feeSimDetectEvents s m w rows cols threshold pkt evMax (some frame)).evMax = 0 ∧
      ((feeSimDetectEvents s m w rows cols threshold pkt evMax (some frame)).sent = [] ↔ evMax ≠ 0) := by
  unfold feeSimDetectEvents
  by_cases h0 : evMax = 0
  · simp [h0, Detection.exit]
  · simp [h0, hed]

theorem feeSimDetectNodes_off {s : Mirror} {m : Mem} (hed : s.smileFeeGetEventDetection m = 0) (w : WMask)
    (frame : Node → Option (Nat → U16)) (nds : List Node) (pkt : FeeEventDetection) (evCnt : U16 → Nat) :
    (feeSimDetectNodes s m w frame nds pkt evCnt).1 = [] ↔
      (∀ nd ∈ nds.filter fun nd => (frame nd).isSome, evCnt nd.ccdId ≠ 0) ∧
        ((nds.filter fun nd => (frame nd).isSome).map Node.ccdId).Nodup := by
  induction nds generalizing pkt evCnt with
  | nil => simp [feeSimDetectNodes]
  | cons nd nds ih =>
    unfold feeSimDetectNodes
    cases hf : frame nd with
    | none => simpa [hf] using ih pkt evCnt
    | some fr =>
      obtain ⟨hmax, hsent⟩ := feeSimDetectEvents_off hed w FEE_EDU_FRAME_6x6_ROWS FEE_EDU_FRAME_6x6_COLS
        (feeSimPixThreshold s m nd) ((pkt.updHdr (feeSimHdrSetCcdSide · (u8 nd.ccdSide))).updHdr
        (feeSimHdrSetCcdId · (u8 nd.ccdId))) (evCnt nd.ccdId) fr
      dsimp only
      rw [List.append_eq_nil_iff, hsent, ih, hmax, List.filter_cons_of_pos (by simp [hf]), List.forall_mem_cons,
        List.map_cons, List.nodup_cons]
      -- a node of the same CCD finds no event packets left
      have hrest : (∀ nd' ∈ nds.filter fun nd => (frame nd).isSome,
          Function.update evCnt nd.ccdId 0 nd'.ccdId ≠ 0) ↔
          (∀ nd' ∈ nds.filter fun nd => (frame nd).isSome, evCnt nd'.ccdId ≠ 0) ∧
            nd.ccdId ∉ (nds.filter fun nd => (frame nd).isSome).map Node.ccdId := by
        rw [List.mem_map, not_exists]
        simp only [not_and]
        constructor
        · intro hall
          constructor
          · intro nd' hmem h0
            have := hall nd' hmem
            by_cases hid : nd'.ccdId = nd.ccdId <;> simp_all
          · intro nd' hmem hid
            exact hall nd' hmem (by simp [hid])
        · rintro ⟨hall, hnot⟩ nd' hmem
          rw [Function.update_of_ne (hnot nd' hmem)]
          exact hall nd' hmem
      rw [hrest]
      tauto

end SmileFee
