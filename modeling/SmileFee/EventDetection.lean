import Mathlib.Data.List.Sort
import SmileFee.SimTransfer

/-!
# Event detection in the simulator (`SIM/fee_sim.c`)

| here | there |
| --- | --- |
| `FeeEventDetection`   | `struct fee_event_detection` (`smile_fee.h:147`) |
| `WMask`               | `sim_w_mask` (`fee_sim.c:62`), its move and its test (`:816-840`) |
| `feeSimSendEventPayload`, `feeSimSendWmaskPayload` | the packets of the detection (`:1126-1165`) |
| `median`, `feeSimGetLocalBackground` | `median`, `fee_sim_get_local_background` (`:1507-1553`) |
| `feeSimCheckEventPixel`, `feeSimDetectEvents` | `fee_sim_check_event_pixel`, `fee_sim_detect_events` (`:1573-1711`) |

A packet is sent as the bytes of the structure. The payload is swapped for that and stays swapped; the
header is swapped back. The loops of `fee_sim_detect_events` work on a **`Detection`**: the packet,
the number of event packets left, and what has been sent.
-/

namespace SmileFee

open Word Mem

def FEE_MODE_ID_EVSIM : U8 := 0xA

abbrev FEE_EV_DET_PIXELS : Nat := 25
def FEE_EV_DATA_LEN : U16 := 54

/-! ## The packet -/

structure FeeEventDetection where
  hdr : FeeDataHdr := {}
  col : U16 := 0
  row : U16 := 0
  pix : Fin FEE_EV_DET_PIXELS → U16 := fun _ => 0

namespace FeeEventDetection

variable (pkt : FeeEventDetection)

def updHdr (f : FeeDataHdr → FeeDataHdr) : FeeEventDetection := { pkt with hdr := f pkt.hdr }

/-- The structure as it lies in memory. -/
def bytes (h : Host) : List U8 :=
  pkt.hdr.bytes h ++ bytes16 h pkt.col ++ bytes16 h pkt.row ++ (List.ofFn pkt.pix).flatMap (bytes16 h)

/-- The pixel that is looked at (`fee_sim.c:1672`). -/
def setPixel (r c : Nat) : FeeEventDetection := { pkt with row := BitVec.ofNat 16 r, col := BitVec.ofNat 16 c }

/-- Row and column 0, and no pixels. -/
def clear : FeeEventDetection := { pkt with row := 0, col := 0, pix := fun _ => 0 }

end FeeEventDetection

/-- `fee_sim_send_event_payload` (`:1126`): the packet sent and the structure after it. -/
def feeSimSendEventPayload (h : Host) (pkt : FeeEventDetection) : List U8 × FeeEventDetection :=
  let pkt := { pkt with
    row := be16ToCpu h pkt.row
    col := be16ToCpu h pkt.col
    pix := fun i => be16ToCpu h (pkt.pix i) }
  let pkt := pkt.updHdr (feeSimHdrCpuToTgt · h)
  let sent := pkt.bytes h
  let pkt := pkt.updHdr (feeSimHdrTgtToCpu · h)
  (sent, pkt.updHdr feeSimHdrIncSeqCntr)

/-- `fee_sim_send_wmask_payload` (`:1154`). -/
def feeSimSendWmaskPayload (h : Host) (pkt : FeeEventDetection) : List U8 × FeeEventDetection :=
  let pkt := pkt.updHdr (feeSimHdrSetPktType · (u8 FEE_PKT_TYPE_WMASK))
  let (sent, pkt) := feeSimSendEventPayload h pkt
  (sent, pkt.updHdr (feeSimHdrSetPktType · (u8 FEE_PKT_TYPE_EV_DET)))

/-- The last packet marker of a side (`exit` in `fee_sim_detect_events`, `:1696`). -/
def feeSimSendLastPkt (h : Host) (pkt : FeeEventDetection) : List U8 × FeeEventDetection :=
  let pkt := pkt.clear.updHdr (feeSimHdrSetLastPkt · 1)
  let (sent, pkt) := feeSimSendEventPayload h pkt
  (sent, pkt.updHdr (feeSimHdrSetLastPkt · 0))

/-! ## The wandering mask -/

def SIM_WANDERING_MASK_COL_START : U16 := 2
def SIM_WANDERING_MASK_ROW_START : U16 := 2
def SIM_WANDERING_MASK_COL_END : U16 := BitVec.ofNat 16 (FEE_EDU_FRAME_6x6_COLS - 2)
def SIM_WANDERING_MASK_ROW_END : U16 := BitVec.ofNat 16 (FEE_EDU_FRAME_6x6_ROWS - 2)

structure WMask where
  col : U16 := SIM_WANDERING_MASK_COL_START
  row : U16 := SIM_WANDERING_MASK_ROW_START
deriving DecidableEq, Repr

/-- `fee_sim_move_wandering_mask` (`:816`). -/
def feeSimMoveWanderingMask (w : WMask) : WMask :=
  let w := { w with col := w.col + 5 }
  if w.col > SIM_WANDERING_MASK_COL_END then
    let w := { w with col := SIM_WANDERING_MASK_COL_START, row := w.row + 5 }
    if w.row > SIM_WANDERING_MASK_ROW_END then { w with row := SIM_WANDERING_MASK_ROW_START } else w
  else w

/-- `fee_sim_pix_is_wandering_mask` (`:833`). -/
def feeSimPixIsWanderingMask (w : WMask) (col row : U16) : Bool := col = w.col && row = w.row

/-! ## The test of a pixel -/

/-- `median` (`:1507`). The sum of two samples is one of `int`s. -/
def median (base : List U16) : U16 :=
  let nmemb := base.length
  let base := base.insertionSort (· ≤ ·)
  if nmemb % 2 ≠ 0 then base.getD (nmemb / 2) 0
  else BitVec.ofNat 16 (((base.getD (nmemb / 2) 0).toNat + (base.getD (nmemb / 2 + 1) 0).toNat) / 2)

/-- `fee_sim_get_local_background` (`:1531`). -/
def feeSimGetLocalBackground (pkt : FeeEventDetection) : U16 :=
  median [pkt.pix 0, pkt.pix 1, pkt.pix 2, pkt.pix 3, pkt.pix 4, pkt.pix 5, pkt.pix 9, pkt.pix 10, pkt.pix 15,
    pkt.pix 20, pkt.pix 21]

/-- The pixels collected by the loops of `fee_sim_check_event_pixel` (`:1589`): `i` goes from 2 down
to -2, and for each `i` does `j` from -2 up to 2. -/
def feeSimEventArea (frame : Nat → U16) (idx cols : Nat) (cnt : Fin FEE_EV_DET_PIXELS) : U16 :=
  let i : Int := 2 - (cnt / 5 : Nat)
  let j : Int := (cnt % 5 : Nat) - 2
  frame (idx + j * cols + i).toNat

/-- `fee_sim_check_event_pixel` (`:1573`): the packet sent if the pixel is an event, and the structure. -/
def feeSimCheckEventPixel (h : Host) (pkt : FeeEventDetection) (frame : Nat → U16) (idx cols : Nat) (threshold : U16) :
    Option (List U8) × FeeEventDetection :=
  let pix := frame idx
  let pkt := { pkt with pix := feeSimEventArea frame idx cols }
  if pix.toNat < threshold.toNat + (feeSimGetLocalBackground pkt).toNat then (none, pkt)
  else
    let ev := ([6, 7, 8, 11, 13, 16, 17, 18].filter fun i => pkt.pix i < pix).length
    if ev ≠ 8 then (none, pkt)
    else
      let (sent, pkt) := feeSimSendEventPayload h pkt
      (some sent, pkt)

/-! ## The detection -/

/-- `evMax` is the number of event packets left; it is what `fee_sim_detect_events` returns. -/
structure Detection where
  pkt : FeeEventDetection
  evMax : Nat
  sent : List (List U8) := []

section

variable (s : Mirror) (m : Mem) (w : WMask) (frame : Nat → U16) (rows cols : Nat) (threshold : U16)

/-- The body of the loop over the columns (`:1662`). Without event packets left, the loop is over:
what is left of it does nothing, and neither do the loops of the rows that follow. -/
def feeSimDetectPixel (r : Nat) (d : Detection) (c : Nat) : Detection :=
  if d.evMax = 0 then d
  else
    match feeSimCheckEventPixel s.host (d.pkt.setPixel r c) frame (r * cols + c) cols threshold with
    | (some sent, pkt) => { pkt, evMax := d.evMax - 1, sent := d.sent ++ [sent] }
    | (none, pkt) =>
      if s.smileFeeGetEduWanderingMaskEn m = 0 then { d with pkt }
      else if feeSimPixIsWanderingMask w (BitVec.ofNat 16 c) (BitVec.ofNat 16 r) then
        let (sent, pkt) := feeSimSendWmaskPayload s.host pkt
        { d with pkt, sent := d.sent ++ [sent] }
      else { d with pkt }

/-- The loop over the columns of row `r`. -/
def feeSimDetectRow (d : Detection) (r : Nat) : Detection :=
  (List.range' 2 (cols - 4)).foldl (feeSimDetectPixel s m w frame cols threshold r) d

/-- The loop over the rows (`:1658`). -/
def feeSimDetectRows (d : Detection) : Detection :=
  (List.range' 2 (rows - 4)).foldl (feeSimDetectRow s m w frame cols threshold) d

/-- What follows the label `exit`. -/
def Detection.exit (h : Host) (d : Detection) : Detection :=
  let (sent, pkt) := feeSimSendLastPkt h d.pkt
  { d with pkt, sent := d.sent ++ [sent] }

/-- `fee_sim_detect_events` (`:1627`). -/
def feeSimDetectEvents (pkt : FeeEventDetection) (evMax : Nat) (frame : Option (Nat → U16)) : Detection :=
  match frame with
  | none => { pkt, evMax := 0 }
  | some frame =>
    if evMax = 0 then ({ pkt, evMax } : Detection).exit s.host
    else if s.smileFeeGetEventDetection m = 0 then { pkt, evMax := 0 }
    else (feeSimDetectRows s m w frame rows cols threshold { pkt, evMax }).exit s.host

/-! ## What the loops keep -/

variable {s m w frame rows cols threshold} {P : Detection → Prop}

theorem feeSimDetectRow_keeps {r : Nat} (hr : 2 ≤ r ∧ r < rows - 2)
    (hpix : ∀ r c d, 2 ≤ r ∧ r < rows - 2 → 2 ≤ c ∧ c < cols - 2 → P d →
      P (feeSimDetectPixel s m w frame cols threshold r d c))
    {d : Detection} (hd : P d) : P (feeSimDetectRow s m w frame cols threshold d r) := by
  unfold feeSimDetectRow
  refine List.foldlRecOn _ _ hd fun d hd c hc => hpix r c d hr ?_ hd
  have := List.mem_range'_1.1 hc
  omega

/-- **What each pixel keeps, the detection keeps.** -/
theorem feeSimDetectRows_keeps
    (hpix : ∀ r c d, 2 ≤ r ∧ r < rows - 2 → 2 ≤ c ∧ c < cols - 2 → P d →
      P (feeSimDetectPixel s m w frame cols threshold r d c))
    {d : Detection} (hd : P d) : P (feeSimDetectRows s m w frame rows cols threshold d) := by
  unfold feeSimDetectRows
  refine List.foldlRecOn _ _ hd fun d hd r hr => feeSimDetectRow_keeps ?_ hpix hd
  have := List.mem_range'_1.1 hr
  omega

end

end SmileFee
