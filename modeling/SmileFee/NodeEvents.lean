import SmileFee.SimExec
import SmileFee.EventBudget

/-!
# The event packets of the nodes (`SIM/fee_sim.c:1714-1840, 1984-2090`)

| here | there |
| --- | --- |
| `EvMode`             | `fee_sim_exec_ft_mode` with event detection, and `fee_sim_exec_evsim_mode` |
| `FeeDataHdr.ofNode`  | the calls of `fee_sim_hdr_set_ccd_side` and `fee_sim_hdr_set_ccd_id` before a frame is looked at |
| `Scan.share`         | `CCD2_ev_cnt` and `CCD4_ev_cnt` |

The four nodes share the packet structure, the counter of its packets and, for each CCD, the number of event packets.
Without their sequence counters, the packets of a readout are those of **`EvMode.exec_events`**. While the limit is not
reached, the ones of a node are decided by its frame and one threshold (**`EvMode.nodeEvents_eq`**).
-/

namespace SmileFee

open Word Mem Scan Feed

/-! ## The header of a node -/

/-- The header with side and CCD of a node. -/
def FeeDataHdr.ofNode (hdr : FeeDataHdr) (nd : Node) : FeeDataHdr :=
  feeSimHdrSetCcdId (feeSimHdrSetCcdSide hdr (u8 nd.ccdSide)) (u8 nd.ccdId)

section

variable (hdr : FeeDataHdr) (nd : Node)

theorem kind_ofNode : (hdr.ofNode nd).kind = ⟨hdr.pktType, nd.ccdSide, nd.ccdId⟩ := by
  rw [FeeDataHdr.ofNode, kind_setCcdId, kind_setCcdSide]
  cases nd <;> rfl

theorem lastPkt_ofNode : (hdr.ofNode nd).lastPkt = hdr.lastPkt := by
  simp (disch := decide) only [FeeDataHdr.ofNode, FeeDataHdr.lastPkt, feeSimHdrSetCcdId, feeSimHdrSetCcdSide,
    FeeDataHdr.setType, getField_setField_disjoint]

variable {hdr} in
theorem FeeDataHdr.Prepared.ofNode (h : hdr.Prepared) : (hdr.ofNode nd).Prepared :=
  ⟨(congrArg Kind.pktType (kind_ofNode hdr nd)).trans h.1, (lastPkt_ofNode hdr nd).trans h.2⟩

/-- Side and CCD of the node before are overwritten. -/
theorem ofNode_ofNode (nd' : Node) : (hdr.ofNode nd).ofNode nd' = hdr.ofNode nd' := by
  have hdisj : (0x3 : U16) <<< 5 &&& (0x1 : U16) <<< 4 = 0 := by decide
  simp only [FeeDataHdr.ofNode, feeSimHdrSetCcdId, feeSimHdrSetCcdSide, FeeDataHdr.setType]
  rw [setField_comm hdisj, setField_setField, setField_setField]

end

/-! ## The frames, one after the other -/

section

variable (s : Mirror) (m : Mem) (frame : Node → Nat → U16)

/-- The pixels of a node for which event packets are sent, as long as there are some left. -/
def nodeList (nd : Node) : List (Nat × Nat) :=
  if nd.Selected (s.smileFeeGetReadoutNodeSel m) ∧ s.smileFeeGetEventDetection m ≠ 0 then
    eventList (frame nd) FEE_EDU_FRAME_6x6_ROWS FEE_EDU_FRAME_6x6_COLS (feeSimPixThreshold s m nd)
  else []

/-- The event packet for a pixel of a node, without its number. -/
def nodeEvent (hdr : FeeDataHdr) (p : Node × Nat × Nat) : FeeEventDetection :=
  (imagette (frame p.1) FEE_EDU_FRAME_6x6_COLS p.2.1 p.2.2 (hdr.ofNode p.1)).unnumbered

/-- The packets of the other nodes have no influence on it. -/
theorem nodeEvent_hdrAfter (hdr : FeeDataHdr) (nd : Node) (n : Nat) :
    nodeEvent frame (hdrAfter (hdr.ofNode nd) n) = nodeEvent frame hdr := by
  funext p
  have hhdr : (hdrAfter (hdr.ofNode nd) n).ofNode p.1 = hdrAfter (hdr.ofNode p.1) n :=
    congrArg (hdrAfter · n) (ofNode_ofNode hdr nd p.1)
  rw [nodeEvent, hhdr]
  rfl

end

section

variable {s : Mirror} {m : Mem} {rx : Host}

/-- A call of `fee_sim_detect_events`, with event detection or without. -/
theorem detectEvents_any (w : WMask) (frame : Nat → U16) (rows cols : Nat) (threshold : U16)
    {pkt : FeeEventDetection} (hprep : pkt.hdr.Prepared) (evMax : Nat) : ∃ es,
    let d := feeSimDetectEvents s m w rows cols threshold pkt evMax (some frame)
    Sending s.host frame cols pkt.hdr es d ∧
      es.filterMap Emission.event? = (if s.smileFeeGetEventDetection m ≠ 0 then
        (eventList frame rows cols threshold).take evMax else []) ∧
      (s.smileFeeGetEventDetection m ≠ 0 → d.evMax = evMax - (eventList frame rows cols threshold).length) := by
  by_cases hed : s.smileFeeGetEventDetection m = 0
  · have hinit := Sending.init s.host frame cols pkt
    unfold feeSimDetectEvents
    dsimp only
    by_cases h0 : evMax = 0
    · rw [if_pos h0]
      exact ⟨_, ((hinit evMax).exit hprep).1, (if_neg (not_not.2 hed)).symm, fun h => absurd hed h⟩
    · rw [if_neg h0, if_pos hed]
      exact ⟨_, hinit 0, (if_neg (not_not.2 hed)).symm, fun h => absurd hed h⟩
  · obtain ⟨hs, hmax⟩ := detectEvents_sends hed w frame rows cols threshold hprep evMax
    refine ⟨_, hs, ?_, fun _ => hmax⟩
    rw [if_pos hed, frameEmissions_events]

/-- What is received can be cut where what is sent is cut. -/
theorem receivedEvents_of_append {as bs : List (List U8)} {pkts : List FeeDataPkt}
    (h : List.Forall₂ (Arrives rx) (as ++ bs) pkts) : ∃ ps qs, List.Forall₂ (Arrives rx) as ps ∧
      List.Forall₂ (Arrives rx) bs qs ∧ receivedEvents rx pkts = receivedEvents rx ps ++ receivedEvents rx qs := by
  obtain ⟨h₁, h₂⟩ := forall₂_of_append h
  refine ⟨_, _, h₁, h₂, ?_⟩
  rw [receivedEvents, receivedEvents, receivedEvents, ← List.filter_append, ← List.map_append, List.take_append_drop]

/-- **The frame of a node**, with event detection or without. -/
theorem detectEvents_node (w : WMask) (frame : Node → Nat → U16) {nd : Node}
    (hsel : nd.Selected (s.smileFeeGetReadoutNodeSel m)) {pkt : FeeEventDetection} (hprep : pkt.hdr.Prepared)
    (evMax : Nat) :
    let d := feeSimDetectEvents s m w FEE_EDU_FRAME_6x6_ROWS FEE_EDU_FRAME_6x6_COLS (feeSimPixThreshold s m nd)
      (pkt.updHdr (·.ofNode nd)) evMax (some (frame nd))
    (∀ rx ps, List.Forall₂ (Arrives rx) d.sent ps → (receivedEvents rx ps).map FeeEventDetection.unnumbered =
        (((nodeList s m frame nd).take evMax).map (Prod.mk nd)).map (nodeEvent frame pkt.hdr)) ∧
      (∃ n, d.pkt.hdr = hdrAfter (pkt.hdr.ofNode nd) n) ∧
      (s.smileFeeGetEventDetection m ≠ 0 → d.evMax = evMax - (nodeList s m frame nd).length) := by
  have hprep' : (pkt.updHdr (·.ofNode nd)).hdr.Prepared := hprep.ofNode nd
  obtain ⟨es, hs, hevents, hmax⟩ := detectEvents_any w (frame nd) FEE_EDU_FRAME_6x6_ROWS FEE_EDU_FRAME_6x6_COLS
    (feeSimPixThreshold s m nd) hprep' evMax
  have hlist : es.filterMap Emission.event? = (nodeList s m frame nd).take evMax := by
    by_cases hed : s.smileFeeGetEventDetection m ≠ 0
    · rw [hevents, if_pos hed, nodeList, if_pos ⟨hsel, hed⟩]
    · rw [hevents, if_neg hed, nodeList, if_neg fun h => hed h.2, List.take_nil]
  refine ⟨fun rx ps hps => ?_, ⟨es.length, hs.hdr⟩, fun hed => ?_⟩
  · rw [hs.sent] at hps
    rw [receivedEvents, arrives_packets hprep' hps, packets_events hprep', hlist, List.map_map]
    rfl
  · rw [nodeList, if_pos ⟨hsel, hed⟩]
    exact hmax hed

/-- **The event packets of all nodes**, and the header after them. -/
theorem detectNodes_events (w : WMask) (frame : Node → Nat → U16) (nds : List Node) {pkt : FeeEventDetection}
    (hprep : pkt.hdr.Prepared) {left left' : U16 → Nat} (hleft : s.smileFeeGetEventDetection m ≠ 0 → left = left')
    {pkts : List FeeDataPkt} :
    let r := feeSimDetectNodes s m w (selectedFrames (s.smileFeeGetReadoutNodeSel m) frame) nds pkt left
    List.Forall₂ (Arrives rx) r.1 pkts →
      (receivedEvents rx pkts).map FeeEventDetection.unnumbered =
        (share Node.ccdId (nodeList s m frame) nds left').map (nodeEvent frame pkt.hdr) ∧ r.2.hdr.Prepared := by
  induction nds generalizing pkt left left' pkts with
  | nil =>
    intro r harr
    cases harr
    exact ⟨rfl, hprep⟩
  | cons nd nds ih =>
    unfold feeSimDetectNodes
    by_cases hsel : nd.Selected (s.smileFeeGetReadoutNodeSel m)
    · rw [selectedFrames, if_pos hsel]
      dsimp only
      have hset : (pkt.updHdr (feeSimHdrSetCcdSide · (u8 nd.ccdSide))).updHdr (feeSimHdrSetCcdId · (u8 nd.ccdId)) =
          pkt.updHdr (·.ofNode nd) := rfl
      rw [hset]
      intro harr
      obtain ⟨hhead, ⟨n, hhdr⟩, hmax⟩ := detectEvents_node w frame hsel hprep (left nd.ccdId)
      obtain ⟨ps, qs, hps, hqs, hrecv⟩ := receivedEvents_of_append harr
      have hnode := hhead rx ps hps
      -- without event detection the counter does not matter, as there is nothing to send
      have htake : (nodeList s m frame nd).take (left nd.ccdId) = (nodeList s m frame nd).take (left' nd.ccdId) := by
        by_cases hed : s.smileFeeGetEventDetection m ≠ 0
        · rw [hleft hed]
        · rw [nodeList, if_neg fun h => hed h.2, List.take_nil, List.take_nil]
      obtain ⟨hrest, hafter⟩ := @ih _ (hhdr ▸ (hprep.ofNode nd).after n) _
        (Function.update left' nd.ccdId (left' nd.ccdId - (nodeList s m frame nd).length))
        (fun hed => by rw [hmax hed, hleft hed]) _ hqs
      refine ⟨?_, hafter⟩
      rw [hhdr, nodeEvent_hdrAfter] at hrest
      rw [hrecv, List.map_append, hnode, hrest, share, List.map_append, htake]
    · have hnil : nodeList s m frame nd = [] := if_neg fun h => hsel h.1
      rw [selectedFrames, if_neg hsel, share_cons_nil hnil]
      exact ih hprep hleft

end

/-! ## The two modes -/

/-- The modes that send event packets; in the frame transfer mode, with event detection. -/
inductive EvMode where
  | ft
  | evsim
deriving DecidableEq, Repr

namespace EvMode

def exec (mode : EvMode) (s : Mirror) (st : SimStatics) (op : SimOp) : SimResult :=
  match mode with
  | ft => feeSimExecFtMode s st op
  | evsim => feeSimExecEvsimMode s st op

/-- The mode is one of frames of 6x6 binning, and events are looked for. -/
def Detects (mode : EvMode) (s : Mirror) (m : Mem) : Prop :=
  match mode with
  | ft => s.smileFeeGetCcdMode2Config m = FEE_MODE2_BIN6 ∧ s.smileFeeGetEventDetection m ≠ 0
  | evsim => True

/-- The frames that are looked at. -/
def frames (mode : EvMode) (s : Mirror) (op : SimOp) : Node → Nat → U16 :=
  match mode with
  | ft => op.ft
  | evsim => fun nd => feeSimGetSramData s op.mem (op.buf nd) (op.eBuf nd) (op.fBuf nd) nd.bit

/-- The header that is prepared. -/
def hdr (mode : EvMode) (st : SimStatics) : FeeDataHdr :=
  match mode with
  | ft => (feeSimEvPkt st.frameCntr).hdr
  | evsim => feeSimHdrSetFeeMode (feeSimEvPkt st.frameCntr).hdr FEE_MODE_ID_EVSIM

theorem prepared_hdr (mode : EvMode) (st : SimStatics) : (mode.hdr st).Prepared := by
  have h : (mode.hdr {}).Prepared := by cases mode <;> decide
  cases mode <;> exact h

end EvMode

section

variable {rx : Host} {pkts : List FeeDataPkt}

theorem feeEventReceive_hdr (pkt : FeeDataPkt) : (feeEventReceive rx pkt).hdr = pkt.hdr := by
  unfold feeEventReceive feePktWanderingMaskToCpu feePktEventToCpu
  split_ifs <;> rfl

/-- There are no events in the housekeeping data. -/
theorem receivedEvents_hk {k : Kind} (hk : k.pktType = FEE_PKT_TYPE_HK) {L : Nat} {data : List U8}
    {sent : List (List U8)} (hs : Segmented (Transports k) L data sent)
    (harr : List.Forall₂ (Arrives rx) sent pkts) : receivedEvents rx pkts = [] := by
  have hno {c : List U8} {last : Bool} {bytes : List U8} {pkt : FeeDataPkt} (ht : Transports k c last bytes)
      (ha : Arrives rx bytes pkt) : ¬ (feeEventReceive rx pkt).IsEvent := by
    intro hev
    have htype : pkt.hdr.pktType = FEE_PKT_TYPE_HK := (congrArg Kind.pktType (ht rx pkt ha).kind).trans hk
    rw [FeeEventDetection.IsEvent, feeEventReceive_hdr, htype] at hev
    exact absurd hev.1 (by decide)
  rw [receivedEvents, List.filter_eq_nil_iff, List.forall_mem_map]
  simp only [decide_eq_true_eq]
  induction hs generalizing pkts with
  | last _ _ ht =>
    obtain ⟨pkt, pkts, ha, hrest, rfl⟩ := List.forall₂_cons_left_iff.1 harr
    cases hrest
    exact List.forall_mem_singleton.2 (hno ht ha)
  | more _ _ ht _ ih =>
    obtain ⟨pkt, pkts, ha, hrest, rfl⟩ := List.forall₂_cons_left_iff.1 harr
    exact List.forall_mem_cons.2 ⟨hno ht ha, ih hrest⟩

/-- The marker at the end of the frame is sent as those at the end of a side. -/
theorem endOfFrame_eq (h : Host) (pkt : FeeEventDetection) :
    feeSimEndOfFrame h pkt = (feeSimSendEventPayload h (pkt.clear.updHdr (feeSimHdrSetLastPkt · 1))).1 := by
  have h0 : be16ToCpu h 0 = 0 := by cases h <;> decide
  simp only [feeSimEndOfFrame, feeSimSendEventPayload, FeeEventDetection.updHdr, FeeEventDetection.clear, h0]

theorem receivedEvents_endOfFrame {h : Host} {pkt : FeeEventDetection} (hprep : pkt.hdr.Prepared)
    (harr : List.Forall₂ (Arrives rx) [feeSimEndOfFrame h pkt] pkts) : receivedEvents rx pkts = [] := by
  have hmarker : [feeSimEndOfFrame h pkt] = sendAll h (packets (fun _ => 0) 0 pkt.hdr [.marker]) := by
    rw [endOfFrame_eq]
    rfl
  rw [hmarker] at harr
  rw [receivedEvents, arrives_packets hprep harr]
  exact List.map_eq_nil_iff.1 (packets_events hprep)

end

namespace EvMode

/-- The event packets of a readout, with the CCDs sharing the limit. -/
def shots (mode : EvMode) (s : Mirror) (op : SimOp) : List (Node × Nat × Nat) :=
  share Node.ccdId (nodeList s op.mem (mode.frames s op)) Node.order fun _ =>
    (s.smileFeeGetEventPktLimit op.mem).toNat

/-- What is sent for the nodes, and at the end of the frame. -/
theorem detection_events {s : Mirror} {op : SimOp} (mode : EvMode) (st : SimStatics) (w : WMask)
    {pkt : FeeEventDetection} (hpkt : pkt.hdr = mode.hdr st) {rx : Host} {pkts : List FeeDataPkt} :
    let r := feeSimDetectNodes s op.mem w (selectedFrames (s.smileFeeGetReadoutNodeSel op.mem) (mode.frames s op))
      Node.order pkt fun _ => (s.smileFeeGetEventPktLimit op.mem).toNat
    List.Forall₂ (Arrives rx) (r.1 ++ [feeSimEndOfFrame s.host r.2]) pkts →
      (receivedEvents rx pkts).map FeeEventDetection.unnumbered =
        (mode.shots s op).map (nodeEvent (mode.frames s op) (mode.hdr st)) := by
  intro r harr
  have hprep : pkt.hdr.Prepared := hpkt ▸ mode.prepared_hdr st
  obtain ⟨ps, qs, hps, hqs, hrecv⟩ := receivedEvents_of_append harr
  obtain ⟨hevents, hafter⟩ := detectNodes_events w (mode.frames s op) Node.order hprep (fun _ => rfl) hps
  rw [hrecv, receivedEvents_endOfFrame hafter hqs, List.append_nil, hevents, hpkt]
  rfl

/-- **The event packets of a readout.** In the event simulation mode the program may have ended before. -/
theorem exec_events {mode : EvMode} {s : Mirror} {op : SimOp} (hdet : mode.Detects s op.mem) (st : SimStatics)
    {rx : Host} {pkts : List FeeDataPkt} (harr : List.Forall₂ (Arrives rx) (mode.exec s st op).1 pkts) :
    (receivedEvents rx pkts).map FeeEventDetection.unnumbered =
      if mode = evsim ∧ feeSimCreateDataPayload s op.mem = none then []
      else (mode.shots s op).map (nodeEvent (mode.frames s op) (mode.hdr st)) := by
  cases mode with
  | ft =>
    obtain ⟨hbin, hed⟩ := hdet
    rw [if_neg (by simp)]
    unfold exec feeSimExecFtMode at harr
    simp only [hbin, if_neg hed] at harr
    exact detection_events ft st st.wMask rfl harr
  | evsim =>
    unfold exec feeSimExecEvsimMode at harr
    cases hpld : feeSimCreateDataPayload s op.mem with
    | none =>
      simp only [hpld] at harr
      cases harr
      rfl
    | some pld =>
      rw [if_neg (by simp)]
      simp only [hpld, List.append_assoc] at harr
      obtain ⟨ps, qs, hps, hqs, hrecv⟩ := receivedEvents_of_append harr
      -- the housekeeping data comes first
      have htype (hdr : FeeDataHdr) : (feeSimHdrSetPktType hdr (u8 FEE_PKT_TYPE_HK)).kind.pktType = FEE_PKT_TYPE_HK :=
        congrArg Kind.pktType (kind_setPktType hdr (u8 FEE_PKT_TYPE_HK))
      obtain ⟨hseg, -⟩ := feeSimTxPayloadData_segmented s.host ((((pld.updHdr (feeSimHdrInit st.frameCntr)).updHdr
        (feeSimHdrSetFeeMode · FEE_MODE_ID_EVSIM)).updHdr (feeSimHdrSetLastPkt · 1)).updHdr
        (feeSimHdrSetPktType · (u8 FEE_PKT_TYPE_HK))) op.hk (by decide : 0 < FEE_HK_PACKET_DATA_LEN) rfl
      rw [hrecv, receivedEvents_hk (htype _) hseg hps, List.nil_append]
      exact detection_events evsim st st.wMask rfl hqs

end EvMode

/-- The event packets of a node among those received, without their numbers. -/
def nodeEvents (rx : Host) (nd : Node) (pkts : List FeeDataPkt) : List FeeEventDetection :=
  ((receivedEvents rx pkts).map FeeEventDetection.unnumbered).filter fun ev => Node.ofHdr ev.hdr = some nd

/-- For neither CCD as many event packets as there may be have been received. -/
def BelowLimit (rx : Host) (pkts : List FeeDataPkt) (limit : Nat) : Prop :=
  ∀ nd : Node, (receivedEvents rx pkts).countP (fun ev => ev.hdr.ccdId = nd.ccdId) < limit

section

variable (frame : Node → Nat → U16) (hdr : FeeDataHdr) (p : Node × Nat × Nat)

theorem ofHdr_nodeEvent : Node.ofHdr (nodeEvent frame hdr p).hdr = some p.1 :=
  Node.ofHdr_of_kind p.1 (congrArg Kind.ccdSide (kind_ofNode hdr p.1)) (congrArg Kind.ccdId (kind_ofNode hdr p.1))

theorem ccdId_nodeEvent : (nodeEvent frame hdr p).hdr.ccdId = p.1.ccdId :=
  congrArg Kind.ccdId (kind_ofNode hdr p.1)

end

namespace EvMode

variable {mode : EvMode} {s : Mirror} {op : SimOp} {st : SimStatics} {rx : Host} {pkts : List FeeDataPkt}

/-- How many event packets there are of the CCD of a node. -/
theorem countP_ccd (hevents : (receivedEvents rx pkts).map FeeEventDetection.unnumbered =
    (mode.shots s op).map (nodeEvent (mode.frames s op) (mode.hdr st))) (nd : Node) :
    (receivedEvents rx pkts).countP (fun ev => ev.hdr.ccdId = nd.ccdId) =
      ((mode.shots s op).filter fun p => p.1.ccdId = nd.ccdId).length := by
  have hcount := congrArg (List.countP fun ev : FeeEventDetection => ev.hdr.ccdId = nd.ccdId) hevents
  rw [List.countP_map, List.countP_map] at hcount
  rw [← List.countP_eq_length_filter]
  refine hcount.trans (List.countP_congr fun p _ => ?_)
  simp only [Function.comp_apply, ccdId_nodeEvent]

/-- **The event packets of a node**, while the limit is not reached. -/
theorem nodeEvents_eq (hdet : mode.Detects s op.mem) (harr : List.Forall₂ (Arrives rx) (mode.exec s st op).1 pkts)
    (hlimit : BelowLimit rx pkts (s.smileFeeGetEventPktLimit op.mem).toNat) (nd : Node) :
    nodeEvents rx nd pkts = if mode = evsim ∧ feeSimCreateDataPayload s op.mem = none then []
      else (nodeList s op.mem (mode.frames s op) nd).map fun p =>
        nodeEvent (mode.frames s op) (mode.hdr st) (nd, p) := by
  have hevents := exec_events hdet st harr
  unfold nodeEvents
  split_ifs at hevents ⊢ with hend
  · rw [hevents]
    rfl
  · have hlt := hlimit nd
    rw [countP_ccd hevents] at hlt
    rw [hevents, List.filter_map]
    simp only [Function.comp_def, ofHdr_nodeEvent, Option.some_inj]
    rw [shots, share_of_lt (by decide) nd.mem_order hlt, List.map_map]
    rfl

/-- There are at most as many event packets as pixels that are looked at. -/
theorem length_shots_le (mode : EvMode) (s : Mirror) (op : SimOp) : (mode.shots s op).length ≤
    Node.order.length * ((FEE_EDU_FRAME_6x6_ROWS - 4) * (FEE_EDU_FRAME_6x6_COLS - 4)) := by
  refine length_share_le (fun nd => ?_) _ _
  rw [← length_raster]
  unfold nodeList
  split_ifs
  · exact List.length_filter_le ..
  · exact Nat.zero_le _

/-- A limit beyond that is not reached. -/
theorem belowLimit_of_pixels (hdet : mode.Detects s op.mem)
    (harr : List.Forall₂ (Arrives rx) (mode.exec s st op).1 pkts) {limit : Nat}
    (hlt : Node.order.length * ((FEE_EDU_FRAME_6x6_ROWS - 4) * (FEE_EDU_FRAME_6x6_COLS - 4)) < limit) :
    BelowLimit rx pkts limit := by
  have hevents := congrArg List.length (exec_events hdet st harr)
  have hlen : (receivedEvents rx pkts).length ≤ (mode.shots s op).length := by
    rw [List.length_map] at hevents
    rw [hevents]
    split_ifs
    · exact Nat.zero_le _
    · exact (List.length_map _).le
  intro nd
  exact List.countP_le_length.trans_lt ((hlen.trans (mode.length_shots_le s op)).trans_lt hlt)

end EvMode

end SmileFee
