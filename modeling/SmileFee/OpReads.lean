import SmileFee.Setters
import SmileFee.SimExec

/-!
# What an operation reads (`SIM/fee_sim.c:1053-2274`)

`fee_sim_exec` and what it calls look at the registers again and again: the event detection is asked for with
every node, the wandering mask with every pixel. A `SimOp` has them as they were at the beginning.
**`feeSimExecuteOp_congr`** says when that makes no difference: as long as nobody changes the settings that are read, or
the SRAM, the operation is the one that began.
-/

namespace SmileFee

open Word Mem

/-- What `fee_sim_exec` reads is the same. -/
structure SameForOp (s : Mirror) (m m' : Mem) : Prop where
  ccdReadout : s.smileFeeGetCcdReadout 1 m = s.smileFeeGetCcdReadout 1 m'
  packetSize : s.smileFeeGetPacketSize m = s.smileFeeGetPacketSize m'
  readoutNodeSel : s.smileFeeGetReadoutNodeSel m = s.smileFeeGetReadoutNodeSel m'
  digitiseEn : s.smileFeeGetDigitiseEn m = s.smileFeeGetDigitiseEn m'
  eduWanderingMaskEn : s.smileFeeGetEduWanderingMaskEn m = s.smileFeeGetEduWanderingMaskEn m'
  ccdModeConfig : s.smileFeeGetCcdModeConfig m = s.smileFeeGetCcdModeConfig m'
  ccdMode2Config : s.smileFeeGetCcdMode2Config m = s.smileFeeGetCcdMode2Config m'
  eventDetection : s.smileFeeGetEventDetection m = s.smileFeeGetEventDetection m'
  pixThreshold : ∀ nd, feeSimPixThreshold s m nd = feeSimPixThreshold s m' nd
  eventPktLimit : s.smileFeeGetEventPktLimit m = s.smileFeeGetEventPktLimit m'
  sram : ∀ x < FEE_SRAM_SIZE.toNat, m (s.sram + x) = m' (s.sram + x)

namespace SameForOp

variable {s : Mirror} {m m' m'' : Mem}

theorem refl (s : Mirror) (m : Mem) : SameForOp s m m :=
  ⟨rfl, rfl, rfl, rfl, rfl, rfl, rfl, rfl, fun _ => rfl, rfl, fun _ _ => rfl⟩

theorem trans (h : SameForOp s m m') (h' : SameForOp s m' m'') : SameForOp s m m'' where
  ccdReadout := h.ccdReadout.trans h'.ccdReadout
  packetSize := h.packetSize.trans h'.packetSize
  readoutNodeSel := h.readoutNodeSel.trans h'.readoutNodeSel
  digitiseEn := h.digitiseEn.trans h'.digitiseEn
  eduWanderingMaskEn := h.eduWanderingMaskEn.trans h'.eduWanderingMaskEn
  ccdModeConfig := h.ccdModeConfig.trans h'.ccdModeConfig
  ccdMode2Config := h.ccdMode2Config.trans h'.ccdMode2Config
  eventDetection := h.eventDetection.trans h'.eventDetection
  pixThreshold nd := (h.pixThreshold nd).trans (h'.pixThreshold nd)
  eventPktLimit := h.eventPktLimit.trans h'.eventPktLimit
  sram x hx := (h.sram x hx).trans (h'.sram x hx)

/-- A write that leaves the registers of the settings and the SRAM as they are. -/
theorem of_regs (hreg : ∀ n ∈ [2, 4, 5, 21, 22, 23, 24], s.getReg n m = s.getReg n m')
    (hsram : ∀ x < FEE_SRAM_SIZE.toNat, m (s.sram + x) = m' (s.sram + x)) : SameForOp s m m' := by
  have h2 : s.getReg 2 m = s.getReg 2 m' := hreg 2 (by decide)
  have h4 : s.getReg 4 m = s.getReg 4 m' := hreg 4 (by decide)
  have h5 : s.getReg 5 m = s.getReg 5 m' := hreg 5 (by decide)
  have h21 : s.getReg 21 m = s.getReg 21 m' := hreg 21 (by decide)
  have h22 : s.getReg 22 m = s.getReg 22 m' := hreg 22 (by decide)
  have h23 : s.getReg 23 m = s.getReg 23 m' := hreg 23 (by decide)
  have h24 : s.getReg 24 m = s.getReg 24 m' := hreg 24 (by decide)
  refine ⟨?_, ?_, ?_, ?_, ?_, ?_, ?_, ?_, fun nd => ?_, ?_, hsram⟩
  · rw [Mirror.smileFeeGetCcdReadout, Mirror.smileFeeGetCcdReadout, h2]
  · exact congrArg (fun x => (getField 0xFFFF 0 x).setWidth 16) h4
  · exact congrArg (fun x => (getField 0xF 28 x).setWidth 16) h5
  · exact congrArg (getField 0x1 23) h5
  · exact congrArg (getField 0x1 27) h5
  · exact congrArg (fun x => (getField 0xF 24 x).setWidth 8) h21
  · exact congrArg (fun x => (getField 0x3 28 x).setWidth 8) h21
  · exact congrArg (getField 0x1 30) h21
  · cases nd with
    | E2 => exact congrArg (fun x => (getField 0xFFFF 0 x).setWidth 16) h22
    | F2 => exact congrArg (fun x => (getField 0xFFFF 0 x).setWidth 16) h23
    | E4 => exact congrArg (fun x => (getField 0xFFFF 16 x).setWidth 16) h22
    | F4 => exact congrArg (fun x => (getField 0xFFFF 16 x).setWidth 16) h23
  · exact congrArg (getField 0xFFFFFF 8) h24

/-! ## The functions that read -/

variable (h : SameForOp s m m')
include h

theorem createDataPayload : feeSimCreateDataPayload s m = feeSimCreateDataPayload s m' := by
  simp only [feeSimCreateDataPayload, h.packetSize]

theorem detectEvents : feeSimDetectEvents s m = feeSimDetectEvents s m' := by
  have hpixel : feeSimDetectPixel s m = feeSimDetectPixel s m' := by
    funext w frame cols threshold r d c
    rw [feeSimDetectPixel, h.eduWanderingMaskEn, feeSimDetectPixel]
  have hrow : feeSimDetectRow s m = feeSimDetectRow s m' := by
    funext w frame cols threshold d r
    rw [feeSimDetectRow, hpixel, feeSimDetectRow]
  have hrows : feeSimDetectRows s m = feeSimDetectRows s m' := by
    funext w frame rows cols threshold d
    rw [feeSimDetectRows, hrow, feeSimDetectRows]
  funext w rows cols threshold pkt evMax frame
  unfold feeSimDetectEvents
  rw [h.eventDetection, hrows]

theorem detectNodes (w : WMask) (frame : Node → Option (Nat → U16)) (nds : List Node) (pkt : FeeEventDetection)
    (evCnt : U16 → Nat) : feeSimDetectNodes s m w frame nds pkt evCnt = feeSimDetectNodes s m' w frame nds pkt evCnt := by
  induction nds generalizing pkt evCnt with
  | nil => rfl
  | cons nd nds ih =>
    rw [feeSimDetectNodes, feeSimDetectNodes]
    split
    · exact ih pkt evCnt
    · simp only [h.detectEvents, h.pixThreshold nd, ih]

/-- The bytes that a read of the SRAM copies. -/
theorem inRange {addr : U32} {n x : Nat} (hin : InSram addr n) (hle : sramPtr s addr ≤ x)
    (hlt : x < sramPtr s addr + 2 * n) : m x = m' x := by
  have hstart := hin.start_le
  have hend := hin.le_end
  rw [toNat_FEE_SRAM_END] at hend
  rw [toNat_FEE_SRAM_START] at hstart
  have haddr : (addr - FEE_SRAM_START).toNat = addr.toNat - FEE_SRAM_START.toNat := by
    rw [FEE_SRAM_START]
    bv_omega
  rw [sramPtr, haddr, toNat_FEE_SRAM_START] at hle hlt
  have hx := h.sram (x - s.sram) (by rw [toNat_FEE_SRAM_SIZE]; omega)
  rwa [Nat.add_sub_cancel' (by omega)] at hx

theorem readSram16 (buf : Nat → U16) {addr : U32} {nmemb : BitVec 64} (hin : InSram addr nmemb.toNat) :
    (smileFeeReadSram16 s m buf addr nmemb).2 = (smileFeeReadSram16 s m' buf addr nmemb).2 := by
  unfold smileFeeReadSram16
  dsimp only
  rw [if_neg hin.not_refused16, if_neg hin.not_refused16]
  cases s.host with
  | big =>
    have hread : m.read (sramPtr s addr) (2 * nmemb.toNat) = m'.read (sramPtr s addr) (2 * nmemb.toNat) :=
      Mem.read_congr fun x => h.inRange hin
    simp only [smileFeeReadSram]
    rw [if_neg hin.not_refused, if_neg hin.not_refused, hin.toNat_size32, hread]
  | little =>
    simp only [loadSamples_eq]
    funext i
    split
    · rw [Mem.load16, Mem.load16, h.inRange hin (by omega) (by omega), h.inRange hin (by omega) (by omega)]
    · rfl

theorem getSramData : feeSimGetSramData s m = feeSimGetSramData s m' := by
  funext buf eBuf fBuf node
  rw [feeSimGetSramData, feeSimGetSramData, h.readSram16 eBuf inSram_sideE, h.readSram16 fBuf inSram_sideF]

/-- The full frame mode. -/
theorem ffMode (st : SimStatics) (op : SimOp) (hk : Mem) (frame : Nat → U16) (mode : U8) :
    feeSimExecFfMode ({ op with mem := m }.sim s st) hk frame mode =
      feeSimExecFfMode ({ op with mem := m' }.sim s st) hk frame mode := by
  have hframe : Sim.ffFrame ⟨s, m, op.ccd, st.frameCntr⟩ frame = Sim.ffFrame ⟨s, m', op.ccd, st.frameCntr⟩ frame := by
    unfold Sim.ffFrame
    rw [h.ccdReadout]
  show feeSimExecFfMode ⟨s, m, op.ccd, st.frameCntr⟩ hk frame mode =
    feeSimExecFfMode ⟨s, m', op.ccd, st.frameCntr⟩ hk frame mode
  unfold feeSimExecFfMode
  rw [hframe, h.createDataPayload, h.ccdReadout]

theorem transfer (st : SimStatics) (op : SimOp) (buf : Node → Option Mem) (n : Nat) :
    { op with mem := m }.transfer s st buf n = { op with mem := m' }.transfer s st buf n := by
  simp only [SimOp.transfer, feeSimFrameTransfer, SimOp.sim, h.createDataPayload]

theorem ftMode (st : SimStatics) (op : SimOp) :
    feeSimExecFtMode s st { op with mem := m } = feeSimExecFtMode s st { op with mem := m' } := by
  unfold feeSimExecFtMode
  simp only [h.ccdMode2Config, h.readoutNodeSel, h.eventPktLimit, h.eventDetection, h.digitiseEn, h.detectNodes,
    h.transfer]

theorem evsimMode (st : SimStatics) (op : SimOp) :
    feeSimExecEvsimMode s st { op with mem := m } = feeSimExecEvsimMode s st { op with mem := m' } := by
  unfold feeSimExecEvsimMode
  simp only [h.createDataPayload, h.readoutNodeSel, h.eventPktLimit, h.getSramData, h.detectNodes]

theorem ftPatMode (st : SimStatics) (op : SimOp) :
    feeSimExecFtPatMode s st { op with mem := m } = feeSimExecFtPatMode s st { op with mem := m' } := by
  unfold feeSimExecFtPatMode
  simp only [h.ccdMode2Config, h.readoutNodeSel, h.digitiseEn, h.transfer]

end SameForOp

/-- **An operation that nobody disturbs**: it is the same, whenever it reads. -/
theorem feeSimExecuteOp_congr {s : Mirror} {m m' : Mem} (h : SameForOp s m m') (st : SimStatics) (op : SimOp) :
    feeSimExecuteOp s st { op with mem := m } = feeSimExecuteOp s st { op with mem := m' } := by
  have hexec : feeSimExec s st { op with mem := m } = feeSimExec s st { op with mem := m' } := by
    unfold feeSimExec
    simp only [h.ccdModeConfig, h.ftPatMode, h.ftMode, h.evsimMode, h.ffMode]
  rw [feeSimExecuteOp, hexec, feeSimExecuteOp]

end SmileFee
