import SmileFee.EventDetection
import SmileFee.SramImage

/-!
# The operations of the simulator (`SIM/fee_sim.c:1714-2360`)

| here | there |
| --- | --- |
| `SimStatics`            | the static variables `frame_cntr`, `sim_w_mask`, and `tc` in `fee_get_spw_time_code` |
| `feeSimExecFtMode`      | `fee_sim_exec_ft_mode` (`:1714`) |
| `feeSimExecEvsimMode`   | `fee_sim_exec_evsim_mode` (`:1984`) |
| `feeSimExecFtPatMode`   | `fee_sim_exec_ft_pat_mode` (`:2141`) |
| `feeSimExec`            | `fee_sim_exec` (`:2212`) |
| `feeSimRun`             | the operations that `fee_sim_main` (`:2280`) executes, one after the other |

A **`SimOp`** is what an operation finds: the registers and the SRAM as the commands received so far
have left them, the images of the CCDs, and the contents of what it allocates. The frames of the frame
transfer mode come with random noise, so they are an input too.

An operation that has to send data in packets which are too small for it calls `exit` or writes to
`NULL`: there is no next operation.
-/

namespace SmileFee

open Word Mem

structure SimStatics where
  frameCntr : U16 := 0
  tc : U8 := 0
  wMask : WMask := {}

/-- `ft` are the frames of `fee_sim_get_ft_data` with the noise added. What the allocated buffers hold
before they are written is `hk` and `frame` (`feeSimExecFfMode`), and `buf`, `eBuf`, `fBuf`
(`feeSimGetSramData`). -/
structure SimOp where
  mem : Mem
  ccd : Node → Nat → U16 := fun _ _ => 0
  ft : Node → Nat → U16 := fun _ _ => 0
  hk : Mem := fun _ => 0
  frame : Nat → U16 := fun _ => 0
  buf : Node → Nat → U16 := fun _ _ => 0
  eBuf : Node → Nat → U16 := fun _ _ => 0
  fBuf : Node → Nat → U16 := fun _ _ => 0

/-- The simulator as an operation finds it. -/
def SimOp.sim (s : Mirror) (st : SimStatics) (op : SimOp) : Sim :=
  { mir := s, mem := op.mem, ccd := op.ccd, frameCntr := st.frameCntr }

/-- The packets sent and the static variables afterwards; `none` if the program has ended. -/
abbrev SimResult : Type := List (List U8) × Option SimStatics

section

variable (s : Mirror) (st : SimStatics) (op : SimOp)

/-- A call of `fee_sim_frame_transfer` with the buffers `buf`. -/
def SimOp.transfer (buf : Node → Option Mem) (n : Nat) : SimResult :=
  match feeSimFrameTransfer (op.sim s st) op.hk FEE_MODE_ID_FTP buf n with
  | none => ([], none)
  | some (sent, frameCntr) => (sent, some { st with frameCntr })

/-! ## Event packets -/

/-- The packet structure as it is prepared (`:1760`, `:2029`). -/
def feeSimEvPkt (frameCntr : U16) : FeeEventDetection :=
  let pkt : FeeEventDetection := {}
  let pkt := pkt.updHdr (feeSimHdrSetLogicalAddr · DPU_LOGICAL_ADDRESS)
  let pkt := pkt.updHdr (feeSimHdrSetProtocolId · FEE_DATA_PROTOCOL)
  let pkt := pkt.updHdr (feeSimHdrSetPktType · (u8 FEE_PKT_TYPE_EV_DET))
  let pkt := pkt.updHdr (feeSimHdrSetFrameCntr · frameCntr)
  pkt.updHdr (feeSimHdrSetDataLen · FEE_EV_DATA_LEN)

/-- The empty event that marks the end of the frame (`:1831`, `:2076`). -/
def feeSimEndOfFrame (h : Host) (pkt : FeeEventDetection) : List U8 :=
  let pkt := pkt.clear.updHdr (feeSimHdrSetLastPkt · 1)
  (pkt.updHdr (feeSimHdrCpuToTgt · h)).bytes h

/-- The threshold that is passed for the frame of a node. F2 is given that of CCD 4, E4 that of CCD 2. -/
def feeSimPixThreshold (m : Mem) : Node → U16
  | .E2 => s.smileFeeGetCcd2EPixThreshold m
  | .F2 => s.smileFeeGetCcd4EPixThreshold m
  | .E4 => s.smileFeeGetCcd2FPixThreshold m
  | .F4 => s.smileFeeGetCcd4FPixThreshold m

/-- The detection in the frames of the nodes, which are of the size of 6x6 binning. `evCnt` of the id
of a CCD is `CCD2_ev_cnt` or `CCD4_ev_cnt`. -/
def feeSimDetectNodes (m : Mem) (w : WMask) (frame : Node → Option (Nat → U16)) :
    List Node → FeeEventDetection → (U16 → Nat) → List (List U8) × FeeEventDetection
  | [], pkt, _ => ([], pkt)
  | nd :: nds, pkt, evCnt =>
    match frame nd with
    | none => feeSimDetectNodes m w frame nds pkt evCnt
    | some fr =>
      let pkt := pkt.updHdr (feeSimHdrSetCcdSide · (u8 nd.ccdSide))
      let pkt := pkt.updHdr (feeSimHdrSetCcdId · (u8 nd.ccdId))
      let d := feeSimDetectEvents s m w FEE_EDU_FRAME_6x6_ROWS FEE_EDU_FRAME_6x6_COLS (feeSimPixThreshold s m nd) pkt
        (evCnt nd.ccdId) (some fr)
      let (rest, pkt) := feeSimDetectNodes m w frame nds d.pkt (Function.update evCnt nd.ccdId d.evMax)
      (d.sent ++ rest, pkt)

/-- The buffers of the selected nodes; the others are `NULL`. -/
def selectedFrames (readout : U16) (frame : Node → Nat → U16) (nd : Node) : Option (Nat → U16) :=
  if nd.Selected readout then some (frame nd) else none

/-! ## The modes -/

/-- `fee_sim_exec_ft_mode` (`:1714`). The sizes are those of `feeFtFrameSize`. -/
def feeSimExecFtMode : SimResult :=
  let h := s.host
  let mode2 := s.smileFeeGetCcdMode2Config op.mem
  match feeFtFrameSize mode2 with
  | none => ([], some st)
  | some (rows, cols, _) =>
    let evPkt := feeSimEvPkt st.frameCntr
    let frame := selectedFrames (s.smileFeeGetReadoutNodeSel op.mem) op.ft
    let (evSent, evPkt) :=
      -- event detection is only done for 6x binning
      if mode2 = FEE_MODE2_BIN6 then
        feeSimDetectNodes s op.mem st.wMask frame Node.order evPkt fun _ => (s.smileFeeGetEventPktLimit op.mem).toNat
      else ([], evPkt)
    if s.smileFeeGetEventDetection op.mem = 0 then
      if s.smileFeeGetDigitiseEn op.mem = 0 then (evSent, some st)
      else
        let (sent, st) := op.transfer s st (fun nd => (frame nd).map (ofHalfwords h)) (2 * rows * cols)
        (evSent ++ sent, st)
    else (evSent ++ [feeSimEndOfFrame h evPkt], some st)

/-- `fee_sim_exec_evsim_mode` (`:1984`). -/
def feeSimExecEvsimMode : SimResult :=
  let h := s.host
  match feeSimCreateDataPayload s op.mem with
  | none => ([], none)
  | some pld =>
    let pld := pld.updHdr (feeSimHdrInit st.frameCntr)
    let pld := pld.updHdr (feeSimHdrSetFeeMode · FEE_MODE_ID_EVSIM)
    let pld := pld.updHdr (feeSimHdrSetLastPkt · 1)
    let pld := pld.updHdr (feeSimHdrSetPktType · (u8 FEE_PKT_TYPE_HK))
    let (hkSent, _) := feeSimTxPayloadData h pld op.hk FEE_HK_PACKET_DATA_LEN
    let evPkt := (feeSimEvPkt st.frameCntr).updHdr (feeSimHdrSetFeeMode · FEE_MODE_ID_EVSIM)
    let frame := selectedFrames (s.smileFeeGetReadoutNodeSel op.mem) fun nd =>
      feeSimGetSramData s op.mem (op.buf nd) (op.eBuf nd) (op.fBuf nd) nd.bit
    let (evSent, evPkt) := feeSimDetectNodes s op.mem st.wMask frame Node.order evPkt
      fun _ => (s.smileFeeGetEventPktLimit op.mem).toNat
    (hkSent ++ evSent ++ [feeSimEndOfFrame h evPkt], some st)

/-- `fee_get_spw_time_code` (`:896`): the time code and `tc`. -/
def feeGetSpwTimeCode (tc : U8) : U8 × U8 := (tc &&& 0x3f, tc + 1)

/-- `field` of a `struct fee_pattern` (`smile_fee.h:266`), the same on either host. -/
def feePatternField (timeCode ccd side row col : U16) : U16 :=
  setField 0x7 13 timeCode (setField 0x1 12 ccd (setField 0x3 10 side (setField 0x1F 5 row (setField 0x1F 0 col 0))))

/-- `fee_sim_gen_ft_pat` (`:2101`) for a node: the pattern and `tc`. -/
def feeSimGenFtPat (nd : Node) (cols : Nat) (tc : U8) : (Nat → U16) × U8 :=
  let (code, tc) := feeGetSpwTimeCode tc
  let timeCode := (code &&& 0x7).setWidth 16
  (fun k => feePatternField timeCode nd.ccdId nd.ccdSide (BitVec.ofNat 16 (k / cols) &&& 0x1F)
    (BitVec.ofNat 16 (k % cols) &&& 0x1F), tc)

/-- The patterns of the selected nodes. -/
def feeSimGenFtPats (readout : U16) (cols : Nat) : List Node → U8 → (Node → Option (Nat → U16)) × U8
  | [], tc => (fun _ => none, tc)
  | nd :: nds, tc =>
    if nd.Selected readout then
      let (pat, tc) := feeSimGenFtPat nd cols tc
      let (pats, tc) := feeSimGenFtPats readout cols nds tc
      (Function.update pats nd (some pat), tc)
    else feeSimGenFtPats readout cols nds tc

/-- `fee_sim_exec_ft_pat_mode` (`:2141`). -/
def feeSimExecFtPatMode : SimResult :=
  match feeFtFrameSize (s.smileFeeGetCcdMode2Config op.mem) with
  | none => ([], some st)
  | some (rows, cols, _) =>
    let (pats, tc) := feeSimGenFtPats (s.smileFeeGetReadoutNodeSel op.mem) cols Node.order st.tc
    let st := { st with tc }
    -- transfer only when digitise is enabled
    if s.smileFeeGetDigitiseEn op.mem = 0 then ([], some st)
    else op.transfer s st (fun nd => (pats nd).map (ofHalfwords s.host)) (2 * rows * cols)

/-- `fee_sim_exec` (`:2212`). The other modes send nothing. -/
def feeSimExec : SimResult :=
  let mode := s.smileFeeGetCcdModeConfig op.mem
  if mode = FEE_MODE_ID_FTP then feeSimExecFtPatMode s st op
  else if mode = FEE_MODE_ID_FT then feeSimExecFtMode s st op
  else if mode = FEE_MODE_ID_FF then
    match feeSimExecFfMode (op.sim s st) op.hk op.frame FEE_MODE_ID_FF with
    | none => ([], none)
    | some sent => (sent, some st)
  else if mode = FEE_MODE_ID_EVSIM then feeSimExecEvsimMode s st op
  else ([], some st)

/-- An operation in `fee_sim_main` (`:2340-2352`): the wandering mask always moves. -/
def feeSimExecuteOp : SimResult :=
  let (sent, st) := feeSimExec s st op
  (sent, st.map fun st => { st with wMask := feeSimMoveWanderingMask st.wMask })

end

/-- The packets of the operations of a run, in order, up to the operation that ends the program. -/
def feeSimRun (s : Mirror) : SimStatics → List SimOp → List (List (List U8))
  | _, [] => []
  | st, op :: ops =>
    match feeSimExecuteOp s st op with
    | (sent, none) => [sent]
    | (sent, some st) => sent :: feeSimRun s st ops

end SmileFee
