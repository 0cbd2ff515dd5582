import SmileFee.Lib.Stamp
import SmileFee.PktFrameCntr

/-!
# The frame counter (`SIM/fee_sim.c:876-889`)

Every packet carries a frame counter, which "increments per-frame" (`smile_fee.h:134`). Only
`fee_sim_frame_transfer` increments it, once for each readout (`fee_sim.c:1348`). The full frame, the
event simulation and the frame transfer mode with event detection send the counter as the last frame
transfer has left it, and so do the last packet markers that `fee_sim_detect_events` sends without event
detection when there are no event packets left.

* `feeSimExec_stamps`: what the counter does to the packets of one operation, from its registers.
* **`frameCounter_law_iff`**: the runs in which each operation has one value, and the next operation
  the next.
-/

namespace SmileFee

open Word Mem Stamp

/-! ## What the registers say about an operation -/

namespace SimOp

variable (s : Mirror) (op : SimOp)

def mode : U8 := s.smileFeeGetCcdModeConfig op.mem
def KnownMode2 : Prop := (feeFtFrameSize (s.smileFeeGetCcdMode2Config op.mem)).isSome = true
def Detects : Prop := s.smileFeeGetEventDetection op.mem ≠ 0

/-- There is room for data in a packet. -/
def HasPayload : Prop := 14 ≤ (s.smileFeeGetPacketSize op.mem).toNat

/-- The operation gets to `fee_sim_frame_transfer`. -/
def CallsTransfer : Prop :=
  (op.mode s = FEE_MODE_ID_FTP ∨ op.mode s = FEE_MODE_ID_FT ∧ ¬ op.Detects s) ∧ op.KnownMode2 s ∧
    s.smileFeeGetDigitiseEn op.mem ≠ 0

/-- A frame transfer. -/
def Transfers : Prop := op.CallsTransfer s ∧ op.HasPayload s

/-- Last packet markers without event detection: a selected frame finds no event packets left, because
none are allowed or because there has been a frame of the same CCD. -/
def SendsMarkers : Prop :=
  op.mode s = FEE_MODE_ID_FT ∧ ¬ op.Detects s ∧ s.smileFeeGetCcdMode2Config op.mem = FEE_MODE2_BIN6 ∧
    ((s.smileFeeGetEventPktLimit op.mem = 0 ∧ ∃ nd, Node.Selected (s.smileFeeGetReadoutNodeSel op.mem) nd) ∨
      ∃ nd nd', Node.Selected (s.smileFeeGetReadoutNodeSel op.mem) nd ∧
        Node.Selected (s.smileFeeGetReadoutNodeSel op.mem) nd' ∧ nd.ccdId = nd'.ccdId ∧ nd ≠ nd')

/-- A full frame, an event simulation, or a frame transfer mode with event detection. -/
def SendsOther : Prop :=
  (op.mode s = FEE_MODE_ID_FF ∨ op.mode s = FEE_MODE_ID_EVSIM) ∧ op.HasPayload s ∨
    op.mode s = FEE_MODE_ID_FT ∧ op.KnownMode2 s ∧ op.Detects s

/-- The operation emits packets. -/
def Emits : Prop := op.Transfers s ∨ op.SendsMarkers s ∨ op.SendsOther s

/-- The program ends for want of a payload. -/
def EndsProgram : Prop :=
  (op.mode s = FEE_MODE_ID_FF ∨ op.mode s = FEE_MODE_ID_EVSIM ∨ op.CallsTransfer s) ∧ ¬ op.HasPayload s

instance : Decidable (op.KnownMode2 s) := inferInstanceAs (Decidable (_ = true))
instance : Decidable (op.Detects s) := inferInstanceAs (Decidable (_ ≠ _))
instance : Decidable (op.HasPayload s) := inferInstanceAs (Decidable (_ ≤ _))
instance : Decidable (op.CallsTransfer s) := inferInstanceAs (Decidable (_ ∧ _))
instance : Decidable (op.Transfers s) := inferInstanceAs (Decidable (_ ∧ _))
instance : Decidable (op.SendsMarkers s) := inferInstanceAs (Decidable (_ ∧ _))
instance : Decidable (op.SendsOther s) := inferInstanceAs (Decidable (_ ∨ _))
instance : Decidable (op.Emits s) := inferInstanceAs (Decidable (_ ∨ _))
instance : Decidable (op.EndsProgram s) := inferInstanceAs (Decidable (_ ∧ _))

/-- How the counter stamps the packets. -/
def stamping : Stamping :=
  if op.Transfers s then if op.SendsMarkers s then .mixed else .fresh
  else if op.SendsMarkers s ∨ op.SendsOther s then .stale
  else .silent

end SimOp

/-- What an operation does: `k` is the stamping of its packets, `ends` whether the program ends. -/
structure SimResult.Stamps (r : SimResult) (f : U16) (k : Stamping) (ends : Prop) : Prop where
  holds : ∃ f', k.Holds (· + 1) f (r.1.map pktFrameCntr) f' ∧ ∀ st ∈ r.2, st.frameCntr = f'
  ends : r.2 = none ↔ ends

section

variable {f : U16} {sent sent' : List (List U8)} {r : Option SimStatics} {ends : Prop}

theorem CarryCntr.mem_map (h : CarryCntr f sent) : ∀ c ∈ sent.map pktFrameCntr, c = f := by
  intro c hc
  obtain ⟨bytes, hb, rfl⟩ := List.mem_map.1 hc
  exact h bytes hb

theorem CarryCntr.self_mem_map (h : CarryCntr f sent) (hne : sent ≠ []) : f ∈ sent.map pktFrameCntr := by
  obtain ⟨bytes, hb⟩ := List.exists_mem_of_ne_nil sent hne
  exact List.mem_map.2 ⟨bytes, hb, h bytes hb⟩

/-- Packets with the value that the counter has and keeps. -/
theorem CarryCntr.stamps (hs : CarryCntr f sent) (hr : ∀ st ∈ r, st.frameCntr = f) (hends : r = none ↔ ends) :
    SimResult.Stamps (sent, r) f (if sent = [] then .silent else .stale) ends := by
  refine ⟨⟨f, ?_, hr⟩, hends⟩
  split_ifs with h
  · exact ⟨by rw [h]; rfl, rfl⟩
  · exact ⟨by simpa using h, hs.mem_map, rfl⟩

/-- A frame transfer, behind packets with the value that the counter has had. -/
theorem CarryCntr.stamps_transfer {st : SimStatics} (hs : CarryCntr f sent) (hs' : CarryCntr (f + 1) sent')
    (hne : sent' ≠ []) (hr : st.frameCntr = f + 1) :
    SimResult.Stamps (sent ++ sent', some st) f (if sent = [] then .fresh else .mixed) False := by
  refine ⟨⟨f + 1, ?_, by rintro _ ⟨⟩; exact hr⟩, by simp⟩
  rw [List.map_append]
  split_ifs with h
  · subst h
    exact ⟨by simpa using hne, hs'.mem_map, rfl⟩
  · exact ⟨List.mem_append_left _ (hs.self_mem_map h), List.mem_append_right _ (hs'.self_mem_map hne)⟩

end

section

variable {s : Mirror} {op : SimOp} (st : SimStatics)

theorem SimOp.transfer_of_payload (h : op.HasPayload s) (buf : Node → Option Mem) (n : Nat) : ∃ sent,
    op.transfer s st buf n = (sent, some { st with frameCntr := st.frameCntr + 1 }) ∧ sent ≠ [] ∧
      CarryCntr (st.frameCntr + 1) sent := by
  obtain ⟨sent, heq, hne, hs⟩ := feeSimFrameTransfer_carry (op.sim s st) h op.hk buf n
  refine ⟨sent, ?_, hne, hs⟩
  unfold SimOp.transfer
  rw [heq]
  rfl

theorem SimOp.transfer_of_no_payload (h : ¬ op.HasPayload s) (buf : Node → Option Mem) (n : Nat) :
    op.transfer s st buf n = ([], none) := by
  have hpld : feeSimCreateDataPayload (op.sim s st).mir (op.sim s st).mem = none :=
    feeSimCreateDataPayload_none s op.mem h
  unfold SimOp.transfer feeSimFrameTransfer
  rw [if_pos (Or.inl rfl), hpld]

/-- The markers that are sent without event detection. -/
theorem feeSimDetectNodes_order_off (hm : op.mode s = FEE_MODE_ID_FT) (hed : ¬ op.Detects s)
    (hbin : s.smileFeeGetCcdMode2Config op.mem = FEE_MODE2_BIN6) (w : WMask) (pkt : FeeEventDetection) :
    (feeSimDetectNodes s op.mem w (selectedFrames (s.smileFeeGetReadoutNodeSel op.mem) op.ft) Node.order pkt
      fun _ => (s.smileFeeGetEventPktLimit op.mem).toNat).1 = [] ↔ ¬ op.SendsMarkers s := by
  have hsel (nd : Node) : (selectedFrames (s.smileFeeGetReadoutNodeSel op.mem) op.ft nd).isSome = true ↔
      nd.Selected (s.smileFeeGetReadoutNodeSel op.mem) := by
    unfold selectedFrames
    split_ifs with h <;> simp [h]
  have hnodup : (Node.order.filter fun nd =>
      (selectedFrames (s.smileFeeGetReadoutNodeSel op.mem) op.ft nd).isSome).Nodup :=
    List.Nodup.filter _ (by decide)
  have hlimit : (s.smileFeeGetEventPktLimit op.mem).toNat = 0 ↔ s.smileFeeGetEventPktLimit op.mem = 0 := by
    simp [BitVec.toNat_eq]
  rw [feeSimDetectNodes_off (not_not.1 hed), List.nodup_map_iff_inj_on hnodup]
  simp only [List.mem_filter, Node.mem_order, true_and, hsel, SimOp.SendsMarkers, hm, hed, hbin, not_false_eq_true,
    ne_eq, hlimit, not_or, not_and, not_exists, not_not]
  constructor
  · rintro ⟨hl, hinj⟩
    exact ⟨fun h0 nd hnd => hl nd hnd h0, fun nd nd' hnd hnd' hid => hinj nd hnd nd' hnd' hid⟩
  · rintro ⟨hl, hinj⟩
    exact ⟨fun nd hnd h0 => hl h0 nd hnd, fun nd hnd nd' hnd' hid => hinj nd nd' hnd hnd' hid⟩

/-! ### One mode after the other -/

theorem SimOp.of_ftp (hm : op.mode s = FEE_MODE_ID_FTP) : ¬ op.SendsMarkers s ∧ ¬ op.SendsOther s ∧
    (op.CallsTransfer s ↔ op.KnownMode2 s ∧ s.smileFeeGetDigitiseEn op.mem ≠ 0) ∧
    (op.EndsProgram s ↔ op.CallsTransfer s ∧ ¬ op.HasPayload s) := by
  simp [SimOp.SendsMarkers, SimOp.SendsOther, SimOp.CallsTransfer, SimOp.EndsProgram, hm, FEE_MODE_ID_FTP,
    FEE_MODE_ID_FT, FEE_MODE_ID_FF, FEE_MODE_ID_EVSIM]

theorem SimOp.of_ft (hm : op.mode s = FEE_MODE_ID_FT) : (op.SendsOther s ↔ op.KnownMode2 s ∧ op.Detects s) ∧
    (op.CallsTransfer s ↔ ¬ op.Detects s ∧ op.KnownMode2 s ∧ s.smileFeeGetDigitiseEn op.mem ≠ 0) ∧
    (op.EndsProgram s ↔ op.CallsTransfer s ∧ ¬ op.HasPayload s) := by
  simp [SimOp.SendsOther, SimOp.CallsTransfer, SimOp.EndsProgram, hm, FEE_MODE_ID_FTP, FEE_MODE_ID_FT, FEE_MODE_ID_FF,
    FEE_MODE_ID_EVSIM]

theorem SimOp.of_ff_or_evsim (hm : op.mode s = FEE_MODE_ID_FF ∨ op.mode s = FEE_MODE_ID_EVSIM) :
    ¬ op.SendsMarkers s ∧ ¬ op.CallsTransfer s ∧ (op.SendsOther s ↔ op.HasPayload s) ∧
    (op.EndsProgram s ↔ ¬ op.HasPayload s) := by
  rcases hm with hm | hm <;>
    simp [SimOp.SendsMarkers, SimOp.SendsOther, SimOp.CallsTransfer, SimOp.EndsProgram, hm, FEE_MODE_ID_FTP,
      FEE_MODE_ID_FT, FEE_MODE_ID_FF, FEE_MODE_ID_EVSIM]

theorem SimOp.of_other (h1 : op.mode s ≠ FEE_MODE_ID_FTP) (h2 : op.mode s ≠ FEE_MODE_ID_FT)
    (h3 : op.mode s ≠ FEE_MODE_ID_FF) (h4 : op.mode s ≠ FEE_MODE_ID_EVSIM) :
    ¬ op.SendsMarkers s ∧ ¬ op.CallsTransfer s ∧ ¬ op.SendsOther s ∧ ¬ op.EndsProgram s := by
  simp [SimOp.SendsMarkers, SimOp.SendsOther, SimOp.CallsTransfer, SimOp.EndsProgram, h1, h2, h3, h4]

variable {st}

/-- An operation that does not get to the frame transfer. -/
theorem SimOp.stamps_of_not_calls (hcall : ¬ op.CallsTransfer s) (hends : ¬ op.EndsProgram s) {sent : List (List U8)}
    (hs : CarryCntr st.frameCntr sent) (hne : sent = [] ↔ ¬ (op.SendsMarkers s ∨ op.SendsOther s)) :
    SimResult.Stamps (sent, some st) st.frameCntr (op.stamping s) (op.EndsProgram s) := by
  have hstamp : op.stamping s = if sent = [] then .silent else .stale := by
    simp only [SimOp.stamping, SimOp.Transfers, hcall, false_and, if_false, hne, ite_not]
  rw [hstamp]
  exact hs.stamps (by rintro _ ⟨⟩; rfl) (by simpa using hends)

/-- An operation that does: `sent` has been sent before. -/
theorem SimOp.stamps_of_calls (hcall : op.CallsTransfer s) (hother : ¬ op.SendsOther s)
    (hends : op.EndsProgram s ↔ op.CallsTransfer s ∧ ¬ op.HasPayload s) {sent : List (List U8)}
    (hs : CarryCntr st.frameCntr sent) (hne : sent = [] ↔ ¬ op.SendsMarkers s) (buf : Node → Option Mem) (n : Nat) :
    SimResult.Stamps (sent ++ (op.transfer s st buf n).1, (op.transfer s st buf n).2) st.frameCntr (op.stamping s)
      (op.EndsProgram s) := by
  by_cases hpay : op.HasPayload s
  · obtain ⟨sent', heq, hne', hs'⟩ := SimOp.transfer_of_payload st hpay buf n
    have hstamp : op.stamping s = if sent = [] then .fresh else .mixed := by
      simp only [SimOp.stamping, SimOp.Transfers, hcall, hpay, and_true, if_true, hne, ite_not]
    have hgo : ¬ op.EndsProgram s := by simp [hends, hpay]
    rw [heq, hstamp, eq_false hgo]
    exact hs.stamps_transfer hs' hne' rfl
  · have hstamp : op.stamping s = if sent = [] then .silent else .stale := by
      simp only [SimOp.stamping, SimOp.Transfers, hpay, hother, and_false, or_false, if_false, hne, ite_not]
    have hend : op.EndsProgram s := hends.2 ⟨hcall, hpay⟩
    rw [SimOp.transfer_of_no_payload st hpay, hstamp, List.append_nil]
    exact hs.stamps nofun (by simpa using hend)

/-- A full frame or an event simulation for which there is no payload. -/
theorem SimOp.stamps_of_no_payload (hm : op.mode s = FEE_MODE_ID_FF ∨ op.mode s = FEE_MODE_ID_EVSIM)
    (hpay : ¬ op.HasPayload s) (f : U16) : SimResult.Stamps ([], none) f (op.stamping s) (op.EndsProgram s) := by
  obtain ⟨hmark, hno, hother, hends⟩ := SimOp.of_ff_or_evsim hm
  have hstamp : op.stamping s = .silent := by
    simp only [SimOp.stamping, SimOp.Transfers, hno, hmark, hother, hpay, false_and, or_false, if_false]
  rw [hstamp]
  exact (CarryCntr.nil f).stamps nofun (by simpa [hends] using hpay)

theorem feeSimExecFtPatMode_stamps (hm : op.mode s = FEE_MODE_ID_FTP) :
    (feeSimExecFtPatMode s st op).Stamps st.frameCntr (op.stamping s) (op.EndsProgram s) := by
  obtain ⟨hmark, hother, hcall, hends⟩ := SimOp.of_ftp hm
  have hne : ([] : List (List U8)) = [] ↔ ¬ (op.SendsMarkers s ∨ op.SendsOther s) := by simp [hmark, hother]
  unfold feeSimExecFtPatMode
  rcases hsize : feeFtFrameSize (s.smileFeeGetCcdMode2Config op.mem) with _ | ⟨rows, cols, bins⟩
  · have hno : ¬ op.CallsTransfer s := by simp [hcall, SimOp.KnownMode2, hsize]
    exact SimOp.stamps_of_not_calls hno (by simp [hends, hno]) (.nil _) hne
  · dsimp only
    by_cases hdig : s.smileFeeGetDigitiseEn op.mem = 0
    · have hno : ¬ op.CallsTransfer s := fun h => (hcall.1 h).2 hdig
      rw [if_pos hdig]
      exact @SimOp.stamps_of_not_calls s op { st with tc := _ } hno (by simp [hends, hno]) [] (.nil _) hne
    · have hyes : op.CallsTransfer s := hcall.2 ⟨by simp [SimOp.KnownMode2, hsize], hdig⟩
      rw [if_neg hdig]
      exact @SimOp.stamps_of_calls s op { st with tc := _ } hyes hother hends [] (.nil _) (by simp [hmark]) _ _

theorem feeSimExecFtMode_stamps (hm : op.mode s = FEE_MODE_ID_FT) :
    (feeSimExecFtMode s st op).Stamps st.frameCntr (op.stamping s) (op.EndsProgram s) := by
  obtain ⟨hother, hcall, hends⟩ := SimOp.of_ft hm
  unfold feeSimExecFtMode
  dsimp only
  rcases hsize : feeFtFrameSize (s.smileFeeGetCcdMode2Config op.mem) with _ | ⟨rows, cols, bins⟩
  · have hunknown : ¬ op.KnownMode2 s := by simp [SimOp.KnownMode2, hsize]
    have hno : ¬ op.CallsTransfer s := fun h => hunknown (hcall.1 h).2.1
    have hmark : ¬ op.SendsMarkers s := by
      rintro ⟨-, -, hbin, -⟩
      rw [hbin] at hsize
      exact absurd hsize (by decide)
    exact SimOp.stamps_of_not_calls hno (by simp [hends, hno]) (.nil _) (by simp [hmark, hother, hunknown])
  · have hknown : op.KnownMode2 s := by simp [SimOp.KnownMode2, hsize]
    dsimp only
    generalize hev : (if s.smileFeeGetCcdMode2Config op.mem = FEE_MODE2_BIN6 then feeSimDetectNodes s op.mem st.wMask
        (selectedFrames (s.smileFeeGetReadoutNodeSel op.mem) op.ft) Node.order (feeSimEvPkt st.frameCntr)
        fun _ => (s.smileFeeGetEventPktLimit op.mem).toNat
      else ([], feeSimEvPkt st.frameCntr)) = ev
    -- what has been sent for the nodes
    have hcarry : CarryCntr st.frameCntr ev.1 ∧ ev.2.hdr.frameCntr = st.frameCntr := by
      rw [← hev]
      split_ifs
      · exact feeSimDetectNodes_carry s op.mem st.wMask _ Node.order (feeSimEvPkt st.frameCntr) _
      · exact ⟨.nil _, rfl⟩
    by_cases hed : op.Detects s
    · have hno : ¬ op.CallsTransfer s := fun h => (hcall.1 h).1 hed
      rw [if_neg hed]
      refine SimOp.stamps_of_not_calls hno (by simp [hends, hno]) (hcarry.1.append (.singleton ?_)) ?_
      · exact (pktFrameCntr_event s.host (ev.2.clear.updHdr (feeSimHdrSetLastPkt · 1))).trans hcarry.2
      · simp [hother, hknown, hed]
    · have hoff : s.smileFeeGetEventDetection op.mem = 0 := not_not.1 hed
      have hmark : ev.1 = [] ↔ ¬ op.SendsMarkers s := by
        rw [← hev]
        split_ifs with hbin
        · exact feeSimDetectNodes_order_off hm hed hbin st.wMask _
        · simp [SimOp.SendsMarkers, hbin]
      have hnother : ¬ op.SendsOther s := fun h => hed (hother.1 h).2
      rw [if_pos hoff]
      by_cases hdig : s.smileFeeGetDigitiseEn op.mem = 0
      · have hno : ¬ op.CallsTransfer s := fun h => (hcall.1 h).2.2 hdig
        rw [if_pos hdig]
        exact SimOp.stamps_of_not_calls hno (by simp [hends, hno]) hcarry.1 (by simp [hmark, hnother])
      · rw [if_neg hdig]
        exact SimOp.stamps_of_calls (hcall.2 ⟨hed, hknown, hdig⟩) hnother hends hcarry.1 hmark _ _

theorem feeSimExecEvsimMode_stamps (hm : op.mode s = FEE_MODE_ID_EVSIM) :
    (feeSimExecEvsimMode s st op).Stamps st.frameCntr (op.stamping s) (op.EndsProgram s) := by
  obtain ⟨hmark, hno, hother, hends⟩ := SimOp.of_ff_or_evsim (Or.inr hm)
  unfold feeSimExecEvsimMode
  dsimp only
  by_cases hpay : op.HasPayload s
  · obtain ⟨pld, hpld, -⟩ := feeSimCreateDataPayload_some s op.mem hpay
    rw [hpld]
    dsimp only
    refine SimOp.stamps_of_not_calls hno (by simp [hends, hpay]) (.append (.append ?_ ?_) (.singleton ?_)) ?_
    · exact (feeSimTxPayloadData_carry s.host _ op.hk FEE_HK_PACKET_DATA_LEN).1
    · exact (feeSimDetectNodes_carry s op.mem st.wMask _ Node.order _ _).1
    · exact (pktFrameCntr_event s.host _).trans (feeSimDetectNodes_carry s op.mem st.wMask _ Node.order _ _).2
    · simp [hother, hpay]
  · rw [feeSimCreateDataPayload_none s op.mem hpay]
    exact SimOp.stamps_of_no_payload (Or.inr hm) hpay _

end

/-- **What the counter does to the packets of an operation.** -/
theorem feeSimExec_stamps (s : Mirror) (st : SimStatics) (op : SimOp) :
    (feeSimExec s st op).Stamps st.frameCntr (op.stamping s) (op.EndsProgram s) := by
  unfold feeSimExec
  dsimp only
  split_ifs with h1 h2 h3 h4
  · exact feeSimExecFtPatMode_stamps h1
  · exact feeSimExecFtMode_stamps h2
  · obtain ⟨hmark, hno, hother, hends⟩ := @SimOp.of_ff_or_evsim s op (Or.inl h3)
    by_cases hpay : op.HasPayload s
    · obtain ⟨sent, hsent, hne, hs⟩ := feeSimExecFfMode_carry (op.sim s st) hpay op.hk op.frame FEE_MODE_ID_FF
      rw [hsent]
      exact SimOp.stamps_of_not_calls hno (by simp [hends, hpay]) hs (by simp [hother, hpay, hne])
    · have hpld : feeSimCreateDataPayload (op.sim s st).mir (op.sim s st).mem = none :=
        feeSimCreateDataPayload_none s op.mem hpay
      have hsent : feeSimExecFfMode (op.sim s st) op.hk op.frame FEE_MODE_ID_FF = none := by
        simp only [feeSimExecFfMode, hpld]
      rw [hsent]
      exact SimOp.stamps_of_no_payload (Or.inl h3) hpay _
  · exact feeSimExecEvsimMode_stamps h4
  · obtain ⟨hmark, hno, hother, hends⟩ := SimOp.of_other h1 h2 h3 h4
    exact SimOp.stamps_of_not_calls hno hends (.nil _) (by simp [hmark, hother])

/-- The wandering mask does not matter. -/
theorem feeSimExecuteOp_stamps (s : Mirror) (st : SimStatics) (op : SimOp) :
    (feeSimExecuteOp s st op).Stamps st.frameCntr (op.stamping s) (op.EndsProgram s) := by
  obtain ⟨⟨f', hholds, hst⟩, hends⟩ := feeSimExec_stamps s st op
  refine ⟨⟨f', hholds, ?_⟩, ?_⟩
  · intro st' hst'
    obtain ⟨st₁, hst₁, rfl⟩ := Option.mem_map.1 hst'
    exact hst st₁ hst₁
  · simpa [feeSimExecuteOp] using hends

/-! ## Runs -/

/-- The operations that are executed: the one that ends the program is the last. -/
def executed (s : Mirror) : List SimOp → List SimOp
  | [] => []
  | op :: ops => if op.EndsProgram s then [op] else op :: executed s ops

/-- What every operation of a run does to its packets. -/
theorem feeSimRun_stamped (s : Mirror) (st : SimStatics) (ops : List SimOp) :
    Stamped (· + 1) st.frameCntr ((feeSimRun s st ops).map (·.map pktFrameCntr))
      ((executed s ops).map (·.stamping s)) := by
  induction ops generalizing st with
  | nil => exact .nil _
  | cons op ops ih =>
    obtain ⟨⟨f', hholds, hst⟩, hends⟩ := feeSimExecuteOp_stamps s st op
    unfold feeSimRun executed
    rcases hop : feeSimExecuteOp s st op with ⟨sent, st'⟩
    rw [hop] at hholds hst hends
    cases st' with
    | none =>
      rw [if_pos (hends.1 rfl)]
      exact .cons hholds (.nil f')
    | some st' =>
      have hgo : ¬ op.EndsProgram s := fun h => by simpa using hends.2 h
      rw [if_neg hgo]
      exact .cons hholds (hst st' rfl ▸ ih st')

/-- The law for the packets of the operations of a run: those of one operation have the same frame
counter, and it is the one of the operation with packets before it, plus 1 modulo 2^16. -/
def FrameCounterLaw (run : List (List (List U8))) : Prop :=
  Successive (· + 1) none (run.map (·.map pktFrameCntr))

theorem frameCntr_add_one_ne (f : U16) : f + 1 ≠ f := by
  intro h
  have := congrArg BitVec.toNat h
  bv_omega

section

variable (s : Mirror) (op : SimOp)

theorem SimOp.stamping_ne_mixed : op.stamping s ≠ .mixed ↔ ¬ (op.Transfers s ∧ op.SendsMarkers s) := by
  unfold SimOp.stamping
  split_ifs <;> simp_all

theorem SimOp.stamping_ne_silent : op.stamping s ≠ .silent ↔ op.Emits s := by
  unfold SimOp.stamping SimOp.Emits
  split_ifs <;> simp_all

theorem SimOp.stamping_eq_fresh : op.stamping s = .fresh ↔ op.Transfers s ∧ ¬ op.SendsMarkers s := by
  unfold SimOp.stamping
  split_ifs <;> simp_all

end

/-- **The runs in which the frame counter obeys the law.** -/
theorem frameCounter_law_iff (s : Mirror) (st : SimStatics) (ops : List SimOp) :
    FrameCounterLaw (feeSimRun s st ops) ↔
      (∀ op ∈ executed s ops, ¬ (op.Transfers s ∧ op.SendsMarkers s)) ∧
        ∀ op ∈ ((executed s ops).filter fun op => op.Emits s).tail, op.Transfers s := by
  have hfilter : ((executed s ops).map (·.stamping s)).filter (· ≠ .silent) =
      ((executed s ops).filter fun op => op.Emits s).map (·.stamping s) := by
    rw [List.filter_map]
    congr 1
    exact List.filter_congr fun op _ => by simp [← SimOp.stamping_ne_silent]
  unfold FrameCounterLaw
  rw [(feeSimRun_stamped s st ops).successive_iff frameCntr_add_one_ne, hfilter, ← List.map_tail, List.forall_mem_map,
    List.forall_mem_map]
  simp only [SimOp.stamping_ne_mixed, SimOp.stamping_eq_fresh]
  constructor
  · rintro ⟨hmixed, hfresh⟩
    exact ⟨hmixed, fun op hop => (hfresh op hop).1⟩
  · rintro ⟨hmixed, hfresh⟩
    refine ⟨hmixed, fun op hop => ⟨hfresh op hop, fun hmark => ?_⟩⟩
    exact hmixed op (List.mem_of_mem_filter (List.mem_of_mem_tail hop)) ⟨hfresh op hop, hmark⟩

/-- A full frame in packets of 64 bytes. -/
def fullFrameOp : SimOp where
  mem := Mirror.smileFeeSetCcdModeConfig ⟨.little, 0, 0x1000⟩ FEE_MODE_ID_FF
    (Mirror.smileFeeSetPacketSize ⟨.little, 0, 0x1000⟩ 64 fun _ => 0)

/-- The second full frame has the frame counter of the first. -/
theorem frameCounter_repeats :
    fullFrameOp.Emits ⟨.little, 0, 0x1000⟩ ∧
      ¬ FrameCounterLaw (feeSimRun ⟨.little, 0, 0x1000⟩ {} [fullFrameOp, fullFrameOp]) := by
  refine ⟨by decide, fun h => ?_⟩
  have hfresh := (((feeSimRun_stamped _ _ _).successive_iff frameCntr_add_one_ne).1 h).2
  exact absurd hfresh (by decide)

end SmileFee
