import SmileFee.EventPixel

/-!
# Event packets at both ends (`SIM/fee_sim.c:1126-1164, 1585-1593`, `FEE/smile_fee.c:60-205, 727-752`)

| here | there |
| --- | --- |
| `FeeDataPkt.event`           | the cast to `struct fee_event_detection` |
| `feePktEventToCpu`           | `fee_pkt_event_to_cpu` (`smile_fee.c:184`) |
| `feePktWanderingMaskToCpu`   | `fee_pkt_wandering_mask_to_cpu` (`:197`) |
| `feeDisplayEvent`            | `fee_display_event` (`:727`) |

A packet arrives as it was before it was swapped for the transfer (**`Arrives.event`**), so row and column are those
of the pixel. The imagette is another matter: `fee_sim_check_event_pixel` goes down the columns of the frame from
the right to the left, and `fee_display_event` shows the entries in lines from the bottom to the top. What is shown
is the surroundings turned by a right angle (**`imagetteLayout_iff`**).
-/

namespace SmileFee

open Word Mem

def FEE_EV_COLS : Nat := 5
def FEE_EV_ROWS : Nat := 5

/-! ## The receiver -/

/-- `(struct fee_event_detection *) pkt`. -/
def FeeDataPkt.event (h : Host) (pkt : FeeDataPkt) : FeeEventDetection where
  hdr := pkt.hdr
  col := load16 h pkt.data 0
  row := load16 h pkt.data 2
  pix i := load16 h pkt.data (4 + 2 * i)

/-- `fee_pkt_is_event` (`:120`). -/
def feePktIsEvent (pkt : FeeDataPkt) : Bool := pkt.hdr.pktType = FEE_PKT_TYPE_EV_DET

/-- `fee_pkt_is_wandering_mask` (`:137`). -/
def feePktIsWanderingMask (pkt : FeeDataPkt) : Bool := pkt.hdr.pktType = FEE_PKT_TYPE_WMASK

/-- `fee_pkt_event_to_cpu_internal` (`:60`). -/
def feePktEventToCpuInternal (h : Host) (ev : FeeEventDetection) : FeeEventDetection :=
  { ev with
    row := be16ToCpu h ev.row
    col := be16ToCpu h ev.col
    pix := fun i => be16ToCpu h (ev.pix i) }

/-- `fee_pkt_event_to_cpu`: the packet afterwards, as an event. -/
def feePktEventToCpu (h : Host) (pkt : FeeDataPkt) : FeeEventDetection :=
  if feePktIsEvent pkt then feePktEventToCpuInternal h (pkt.event h) else pkt.event h

def feePktWanderingMaskToCpu (h : Host) (pkt : FeeDataPkt) : FeeEventDetection :=
  if feePktIsWanderingMask pkt then feePktEventToCpuInternal h (pkt.event h) else pkt.event h

/-- What the receiver does with a packet, by its type (`sdpdev.c:1150-1171`). -/
def feeEventReceive (h : Host) (pkt : FeeDataPkt) : FeeEventDetection :=
  if feePktIsWanderingMask pkt then feePktWanderingMaskToCpu h pkt else feePktEventToCpu h pkt

/-- The entry in line `i` and column `j` of the imagette. -/
def evPix (i j : Fin 5) : Fin FEE_EV_DET_PIXELS := ⟨j + i * FEE_EV_COLS, by unfold FEE_EV_COLS FEE_EV_DET_PIXELS; omega⟩

/-- The lines that `fee_display_event` writes, from the top. -/
def feeDisplayEvent (ev : FeeEventDetection) : List (List U16) :=
  (List.finRange FEE_EV_ROWS).reverse.map fun i => (List.finRange FEE_EV_COLS).map fun j => ev.pix (evPix i j)

/-- Entry `j + i * FEE_EV_COLS` is shown `i` lines above the lowest one, in column `j`. -/
theorem feeDisplayEvent_shows (ev : FeeEventDetection) (i j : Fin 5) :
    ((feeDisplayEvent ev).getD (4 - i) []).getD j 0 = ev.pix (evPix i j) := by
  fin_cases i <;> fin_cases j <;> rfl

/-! ## What arrives -/

/-- The payload as it is sent, in half-words. -/
def FeeEventDetection.payload (pkt : FeeEventDetection) : List U16 := pkt.col :: pkt.row :: List.ofFn pkt.pix

@[simp] theorem FeeEventDetection.length_payload (pkt : FeeEventDetection) : pkt.payload.length = 27 := by
  simp [payload]

theorem bytes16_swapped (h : Host) (v : U16) : bytes16 h (be16ToCpu h v) = bytes16 .big v := bytes16_be16ToCpu h v

/-- The bytes of a packet that is sent: the header, and the payload most significant bytes first. -/
theorem sendEventPayload_bytes (h : Host) (pkt : FeeEventDetection) :
    (feeSimSendEventPayload h pkt).1 = (pkt.hdr.swap h).bytes h ++ pkt.payload.flatMap (bytes16 .big) := by
  have hpix : (List.ofFn fun i => be16ToCpu h (pkt.pix i)).flatMap (bytes16 h) =
      (List.ofFn pkt.pix).flatMap (bytes16 .big) := by
    rw [List.ofFn_comp' pkt.pix (be16ToCpu h), List.flatMap_map]
    exact List.flatMap_congr fun v _ => bytes16_swapped h v
  simp only [feeSimSendEventPayload, FeeEventDetection.updHdr, FeeEventDetection.bytes, feeSimHdrCpuToTgt, hpix,
    bytes16_swapped, FeeEventDetection.payload, List.flatMap_cons, List.append_assoc]

/-- **What is received is what was sent**, whatever the byte orders of the two hosts. -/
theorem Arrives.event {tx rx : Host} {pkt : FeeEventDetection} {pkt' : FeeDataPkt}
    (h : Arrives rx (feeSimSendEventPayload tx pkt).1 pkt') :
    pkt'.hdr = pkt.hdr ∧ feePktEventToCpuInternal rx (pkt'.event rx) = pkt := by
  have hlen : (pkt.payload.flatMap (bytes16 .big)).length = 54 := by
    simp [List.length_flatMap]
  -- the bytes are those of a data packet
  let data : Mem := Mem.write (fun _ => 0) 0 (pkt.payload.flatMap (bytes16 .big))
  have hread : data.read 0 54 = pkt.payload.flatMap (bytes16 .big) := read_write_same' _ _ _ _ hlen.symm
  have hbytes : (feeSimSendEventPayload tx pkt).1 = FeeDataPkt.bytes tx ⟨pkt.hdr.swap tx, data⟩ (54 + SIZEOF_HDR) := by
    rw [sendEventPayload_bytes, FeeDataPkt.bytes, Nat.add_sub_cancel, hread]
  rw [hbytes] at h
  obtain ⟨hhdr, hdata⟩ := @Arrives.of_swap tx rx ⟨pkt.hdr, data⟩ pkt' 54 h
  refine ⟨hhdr, ?_⟩
  have hwords : pkt'.data.read 0 (2 * pkt.payload.length) = pkt.payload.flatMap (bytes16 .big) := by
    rw [FeeEventDetection.length_payload]
    exact hdata.trans hread
  have hload (i : Nat) (hi : i < pkt.payload.length) :
      be16ToCpu rx (load16 rx pkt'.data (2 * i)) = pkt.payload[i] := by
    rw [← load16_of_read_flatMap hwords i hi, Nat.zero_add]
    exact be16ToCpu_load16 rx _ _
  have hcol : be16ToCpu rx (load16 rx pkt'.data 0) = pkt.col := hload 0 (by simp)
  have hrow : be16ToCpu rx (load16 rx pkt'.data 2) = pkt.row := hload 1 (by simp)
  have hpix (i : Fin FEE_EV_DET_PIXELS) : be16ToCpu rx (load16 rx pkt'.data (4 + 2 * i)) = pkt.pix i := by
    have hi : i.val + 2 < pkt.payload.length := by
      rw [FeeEventDetection.length_payload]
      exact Nat.add_lt_add_right i.isLt 2
    rw [show 4 + 2 * i.val = 2 * (i.val + 2) by omega, hload _ hi]
    exact List.getElem_ofFn _
  unfold feePktEventToCpuInternal FeeDataPkt.event
  simp only [hhdr, hcol, hrow, hpix]

/-- A packet of the two types is received as it was sent. -/
theorem Arrives.eventReceive {tx rx : Host} {pkt : FeeEventDetection} {pkt' : FeeDataPkt}
    (h : Arrives rx (feeSimSendEventPayload tx pkt).1 pkt')
    (htype : pkt.hdr.pktType = FEE_PKT_TYPE_EV_DET ∨ pkt.hdr.pktType = FEE_PKT_TYPE_WMASK) :
    feeEventReceive rx pkt' = pkt := by
  obtain ⟨hhdr, hev⟩ := h.event
  rw [← hhdr] at htype
  by_cases hw : feePktIsWanderingMask pkt' = true
  · rw [feeEventReceive, if_pos hw, feePktWanderingMaskToCpu, if_pos hw, hev]
  · have hisEv : feePktIsEvent pkt' = true := by
      simpa [feePktIsEvent, feePktIsWanderingMask] using htype.resolve_right (by simpa [feePktIsWanderingMask] using hw)
    rw [feeEventReceive, if_neg hw, feePktEventToCpu, if_pos hisEv, hev]

/-! ## The header -/

@[simp] theorem sendEventPayload_hdr (h : Host) (pkt : FeeEventDetection) :
    (feeSimSendEventPayload h pkt).2.hdr = feeSimHdrIncSeqCntr pkt.hdr := by
  simp [feeSimSendEventPayload, FeeEventDetection.updHdr, feeSimHdrCpuToTgt, feeSimHdrTgtToCpu]

@[simp] theorem pktType_setPktType_wmask (hdr : FeeDataHdr) :
    (feeSimHdrSetPktType hdr (u8 FEE_PKT_TYPE_WMASK)).pktType = FEE_PKT_TYPE_WMASK :=
  congrArg Kind.pktType (kind_setPktType hdr (u8 FEE_PKT_TYPE_WMASK))

/-- The type is set back to what it has been before a mask. -/
theorem sendWmaskPayload_hdr (h : Host) (pkt : FeeEventDetection) (htype : pkt.hdr.pktType = FEE_PKT_TYPE_EV_DET) :
    (feeSimSendWmaskPayload h pkt).2.hdr = feeSimHdrIncSeqCntr pkt.hdr := by
  have hrestore := setField_restore 0x3 0 ((u8 FEE_PKT_TYPE_EV_DET &&& 0x3).setWidth 16)
    ((u8 FEE_PKT_TYPE_WMASK &&& 0x3).setWidth 16) pkt.hdr.feePktType htype
  simp only [feeSimSendWmaskPayload, FeeEventDetection.updHdr, sendEventPayload_hdr, feeSimHdrSetPktType,
    FeeDataHdr.setType, feeSimHdrIncSeqCntr, hrestore]

/-! ## What is sent for a pixel -/

/-- The packet with the imagette around a pixel. -/
def imagette (frame : Nat → U16) (cols r c : Nat) (hdr : FeeDataHdr) : FeeEventDetection where
  hdr := hdr
  col := BitVec.ofNat 16 c
  row := BitVec.ofNat 16 r
  pix := feeSimEventArea frame (r * cols + c) cols

/-- A packet of the detection: for a pixel, or at the end of a side. -/
inductive Emission where
  | event (r c : Nat)
  | wmask (r c : Nat)
  | marker
deriving DecidableEq, Repr

/-- The packet, when the header of the structure is `hdr`. -/
def Emission.pkt (frame : Nat → U16) (cols : Nat) (hdr : FeeDataHdr) : Emission → FeeEventDetection
  | event r c => imagette frame cols r c hdr
  | wmask r c => imagette frame cols r c (feeSimHdrSetPktType hdr (u8 FEE_PKT_TYPE_WMASK))
  | marker => { hdr := feeSimHdrSetLastPkt hdr 1 }

theorem Emission.pktType_pkt {hdr : FeeDataHdr} (htype : hdr.pktType = FEE_PKT_TYPE_EV_DET) (frame : Nat → U16)
    (cols : Nat) (e : Emission) : (e.pkt frame cols hdr).hdr.pktType = FEE_PKT_TYPE_EV_DET ∨
      (e.pkt frame cols hdr).hdr.pktType = FEE_PKT_TYPE_WMASK := by
  cases e with
  | event r c => exact .inl htype
  | wmask r c => exact .inr (pktType_setPktType_wmask hdr)
  | marker => exact .inl ((congrArg Kind.pktType (kind_setLastPkt hdr 1)).trans htype)

section

variable (s : Mirror) (m : Mem) (w : WMask) (frame : Nat → U16) (cols : Nat) (threshold : U16) (r c : Nat)

/-- The mask is enabled, and at this pixel. -/
def MaskAt : Prop :=
  s.smileFeeGetEduWanderingMaskEn m ≠ 0 ∧ feeSimPixIsWanderingMask w (BitVec.ofNat 16 c) (BitVec.ofNat 16 r) = true

instance : Decidable (MaskAt s m w r c) := inferInstanceAs (Decidable (_ ∧ _))

def pixelEmission : Option Emission :=
  if EventAt frame cols r c threshold then some (.event r c)
  else if MaskAt s m w r c then some (.wmask r c)
  else none

/-- **A pixel**, while there are event packets left. -/
theorem detectPixel_step {d : Detection} (htype : d.pkt.hdr.pktType = FEE_PKT_TYPE_EV_DET) (hev : d.evMax ≠ 0) :
    let e := pixelEmission s m w frame cols threshold r c
    let d' := feeSimDetectPixel s m w frame cols threshold r d c
    d'.sent = d.sent ++ (e.map fun e => (feeSimSendEventPayload s.host (e.pkt frame cols d.pkt.hdr)).1).toList ∧
      d'.pkt.hdr = (if e.isSome then feeSimHdrIncSeqCntr d.pkt.hdr else d.pkt.hdr) ∧
      d'.evMax = if EventAt frame cols r c threshold then d.evMax - 1 else d.evMax := by
  dsimp only
  unfold feeSimDetectPixel pixelEmission
  rw [if_neg hev, checkEventPixel_eq]
  by_cases hat : EventAt frame cols r c threshold
  · simp only [if_pos hat]
    exact ⟨rfl, sendEventPayload_hdr _ _, trivial⟩
  · simp only [if_neg hat]
    by_cases hen : s.smileFeeGetEduWanderingMaskEn m = 0
    · have hno : ¬ MaskAt s m w r c := fun h => h.1 hen
      simp only [if_pos hen, if_neg hno]
      exact ⟨(List.append_nil _).symm, rfl, trivial⟩
    · by_cases hmask : feeSimPixIsWanderingMask w (BitVec.ofNat 16 c) (BitVec.ofNat 16 r) = true
      · have hat : MaskAt s m w r c := ⟨hen, hmask⟩
        simp only [if_neg hen, if_pos hmask, if_pos hat]
        exact ⟨rfl, sendWmaskPayload_hdr s.host _ htype, trivial⟩
      · have hno : ¬ MaskAt s m w r c := fun h => hmask h.2
        simp only [if_neg hen, if_neg hmask, if_neg hno]
        exact ⟨(List.append_nil _).symm, rfl, trivial⟩

end

/-! ## The imagette -/

/-- Row and column are those of the pixel, and line `i` and column `j` of the imagette are around it as they
are shown. -/
structure ImagetteLayout (frame : Nat → U16) (cols r c : Nat) (ev : FeeEventDetection) : Prop where
  row : ev.row = BitVec.ofNat 16 r
  col : ev.col = BitVec.ofNat 16 c
  pix : ∀ i j : Fin 5, ev.pix (evPix i j) = pixelAt frame cols r c ((i : Nat) - 2) ((j : Nat) - 2)

/-- Surroundings that are the same when they are turned by a right angle. -/
def QuarterTurn (frame : Nat → U16) (cols r c : Nat) : Prop := ∀ i j : Fin 5,
  pixelAt frame cols r c ((j : Nat) - 2) (2 - (i : Nat)) = pixelAt frame cols r c ((i : Nat) - 2) ((j : Nat) - 2)

instance (frame : Nat → U16) (cols r c : Nat) : Decidable (QuarterTurn frame cols r c) :=
  inferInstanceAs (Decidable (∀ _ _, _))

/-- Entry `j + i * FEE_EV_COLS` is the pixel `j - 2` rows and `2 - i` columns away. -/
theorem imagetteAt_evPix (i j : Fin 5) : imagetteAt (evPix i j) = (((j : Nat) : Int) - 2, 2 - ((i : Nat) : Int)) := by
  have hi := i.isLt
  have hj := j.isLt
  simp only [imagetteAt, evPix, FEE_EV_COLS, Prod.mk.injEq]
  omega

theorem layout_imagette_iff (frame : Nat → U16) (cols r c : Nat) (hdr : FeeDataHdr) :
    ImagetteLayout frame cols r c (imagette frame cols r c hdr) ↔ QuarterTurn frame cols r c := by
  have hpix (i j : Fin 5) : (imagette frame cols r c hdr).pix (evPix i j) =
      pixelAt frame cols r c ((j : Nat) - 2) (2 - (i : Nat)) := by
    refine (feeSimEventArea_eq frame cols r c (evPix i j)).trans ?_
    rw [imagetteAt_evPix]
  constructor
  · intro h i j
    rw [← hpix]
    exact h.pix i j
  · intro h
    refine ⟨rfl, rfl, fun i j => ?_⟩
    rw [hpix]
    exact h i j

/-- A packet that is sent for a pixel arrives with the imagette around it. -/
theorem detectPixel_arrives {s : Mirror} {m : Mem} {w : WMask} {frame : Nat → U16} {cols r c : Nat} {threshold : U16}
    {d : Detection} (htype : d.pkt.hdr.pktType = FEE_PKT_TYPE_EV_DET) {bytes : List U8}
    (hsent : (feeSimDetectPixel s m w frame cols threshold r d c).sent = d.sent ++ [bytes]) {rx : Host}
    {pkt : FeeDataPkt} (harr : Arrives rx bytes pkt) :
    ∃ hdr, feeEventReceive rx pkt = imagette frame cols r c hdr := by
  by_cases hev : d.evMax = 0
  · unfold feeSimDetectPixel at hsent
    rw [if_pos hev] at hsent
    exact absurd hsent (by simp)
  obtain ⟨hstep, -⟩ := detectPixel_step s m w frame cols threshold r c htype hev
  rw [hstep, List.append_cancel_left_eq] at hsent
  cases he : pixelEmission s m w frame cols threshold r c with
  | none =>
    rw [he] at hsent
    cases hsent
  | some e =>
    rw [he] at hsent
    obtain rfl : (feeSimSendEventPayload s.host (e.pkt frame cols d.pkt.hdr)).1 = bytes := by simpa using hsent
    rw [harr.eventReceive (e.pktType_pkt htype frame cols)]
    unfold pixelEmission at he
    split_ifs at he <;> cases he <;> exact ⟨_, rfl⟩

/-- **What is shown of the surroundings of a pixel**: they are as they should be if a turn by a right angle does not
change them. -/
theorem imagetteLayout_iff {s : Mirror} {m : Mem} {w : WMask} {frame : Nat → U16} {cols r c : Nat} {threshold : U16}
    {d : Detection} (htype : d.pkt.hdr.pktType = FEE_PKT_TYPE_EV_DET) {bytes : List U8}
    (hsent : (feeSimDetectPixel s m w frame cols threshold r d c).sent = d.sent ++ [bytes]) {rx : Host}
    {pkt : FeeDataPkt} (harr : Arrives rx bytes pkt) :
    ImagetteLayout frame cols r c (feeEventReceive rx pkt) ↔ QuarterTurn frame cols r c := by
  obtain ⟨hdr, hrecv⟩ := detectPixel_arrives htype hsent harr
  rw [hrecv]
  exact layout_imagette_iff frame cols r c hdr

/-- The packet structure before a pixel of a frame, with one event packet left. -/
def freshDetection : Detection where
  pkt := { hdr := feeSimHdrSetPktType {} (u8 FEE_PKT_TYPE_EV_DET) }
  evMax := 1

/-- An event is sent at once. -/
theorem freshDetection_sends (s : Mirror) (m : Mem) (w : WMask) {frame : Nat → U16} {cols r c : Nat} {threshold : U16}
    (hat : EventAt frame cols r c threshold) :
    (feeSimDetectPixel s m w frame cols threshold r freshDetection c).sent = freshDetection.sent ++
      [(feeSimSendEventPayload s.host (imagette frame cols r c freshDetection.pkt.hdr)).1] := by
  obtain ⟨hsent, -⟩ := detectPixel_step s m w frame cols threshold r c (d := freshDetection) (by decide) (by decide)
  rw [hsent, pixelEmission, if_pos hat]
  rfl

/-- A frame that is dark but for the pixel at row and column 2 and its neighbour to the right. -/
def twoPixels (v v' : U16) (k : Nat) : U16 :=
  if k = 2 * FEE_EDU_FRAME_6x6_COLS + 2 then v else if k = 2 * FEE_EDU_FRAME_6x6_COLS + 3 then v' else 0

theorem eventAt_twoPixels : EventAt (twoPixels 100 50) FEE_EDU_FRAME_6x6_COLS 2 2 10 := by decide

theorem imagetteLayout_onePixel : ImagetteLayout (twoPixels 100 0) FEE_EDU_FRAME_6x6_COLS 2 2 (feeEventReceive .big
    (feePktHdrToCpu .big (.load .big (Mem.write (fun _ => 0) 0 (feeSimSendEventPayload .little
      (imagette (twoPixels 100 0) FEE_EDU_FRAME_6x6_COLS 2 2 freshDetection.pkt.hdr)).1) 0))) := by
  have hat : EventAt (twoPixels 100 0) FEE_EDU_FRAME_6x6_COLS 2 2 10 := by decide
  have hsent := freshDetection_sends ⟨.little, 0x100, 0x1000⟩ (fun _ => 0) {} hat
  exact (imagetteLayout_iff (d := freshDetection) (by decide) hsent ⟨_, 0, read_write_same _ _ _, rfl⟩).2 (by decide)

/-- A second bright pixel, to the right of an event, is shown below it: its place in the line is dark. -/
theorem not_imagetteLayout_twoPixels :
    let frame := twoPixels 100 50
    let bytes := (feeSimSendEventPayload .little (imagette frame FEE_EDU_FRAME_6x6_COLS 2 2 freshDetection.pkt.hdr)).1
    (feeSimDetectPixel ⟨.little, 0x100, 0x1000⟩ (fun _ => 0) {} frame FEE_EDU_FRAME_6x6_COLS 10 2 freshDetection
        2).sent = freshDetection.sent ++ [bytes] ∧
      ∀ rx pkt, Arrives rx bytes pkt → (feeEventReceive rx pkt).pix (evPix 2 3) = 0 ∧
        (feeEventReceive rx pkt).pix (evPix 1 2) = 50 ∧ pixelAt frame FEE_EDU_FRAME_6x6_COLS 2 2 0 1 = 50 ∧
        ¬ ImagetteLayout frame FEE_EDU_FRAME_6x6_COLS 2 2 (feeEventReceive rx pkt) := by
  refine ⟨freshDetection_sends ⟨.little, 0x100, 0x1000⟩ (fun _ => 0) {} eventAt_twoPixels, fun rx pkt harr => ?_⟩
  rw [harr.eventReceive (.inl (by decide)), layout_imagette_iff]
  decide

end SmileFee
