import SmileFee.Lib.Scan
import SmileFee.EventPackets

/-!
# The packets of a detection (`SIM/fee_sim.c:1627-1712`)

| here | there |
| --- | --- |
| `raster`     | the positions in the two loops of `fee_sim_detect_events` |
| `Scan.scan`  | the `break` for want of event packets, which the loops over the other rows meet again |
| `packets`    | the packet structure, from one packet to the next: only the sequence counter goes on |

`Sending` is the invariant of the loops: the packets sent so far are those of a list of emissions. From it, what a
whole call does is `detectEvents_sends`, and what a receiver finds in it `Sends.events` and `Sends.masks`.

**`event_budget`** is about both sides of a CCD.
-/

namespace SmileFee

open Word Mem Scan

/-! ## The positions -/

/-- The pixels that are looked at, row by row. -/
def raster (rows cols : Nat) : List (Nat × Nat) := List.product (List.range' 2 (rows - 4)) (List.range' 2 (cols - 4))

theorem mem_raster {rows cols : Nat} {p : Nat × Nat} :
    p ∈ raster rows cols ↔ (2 ≤ p.1 ∧ p.1 + 2 < rows) ∧ 2 ≤ p.2 ∧ p.2 + 2 < cols := by
  obtain ⟨r, c⟩ := p
  rw [raster, List.pair_mem_product, List.mem_range'_1, List.mem_range'_1]
  dsimp only
  omega

theorem length_raster (rows cols : Nat) : (raster rows cols).length = (rows - 4) * (cols - 4) :=
  (List.length_product ..).trans (by rw [List.length_range', List.length_range'])

theorem nodup_raster (rows cols : Nat) : (raster rows cols).Nodup :=
  (List.nodup_range' 1).product (List.nodup_range' 1)

section

variable (s : Mirror) (m : Mem) (w : WMask) (frame : Nat → U16) (rows cols : Nat) (threshold : U16)

theorem detectRows_eq (d : Detection) : feeSimDetectRows s m w frame rows cols threshold d =
    (raster rows cols).foldl (fun d p => feeSimDetectPixel s m w frame cols threshold p.1 d p.2) d := by
  unfold feeSimDetectRows raster List.product
  rw [List.foldl_flatMap]
  congr 1
  funext d r
  rw [List.foldl_map]
  rfl

/-- The pixels that satisfy the test, in the order in which they are looked at. -/
def eventList : List (Nat × Nat) := (raster rows cols).filter fun p => EventAt frame cols p.1 p.2 threshold

/-- What the loops send for the positions `ps` with `n` event packets. -/
def pixelEmissions (n : Nat) (ps : List (Nat × Nat)) : List Emission :=
  scan (fun p => EventAt frame cols p.1 p.2 threshold) (fun p => pixelEmission s m w frame cols threshold p.1 p.2) n ps

end

namespace Emission

def event? : Emission → Option (Nat × Nat)
  | event r c => some (r, c)
  | wmask .. | marker => none

def wmask? : Emission → Option (Nat × Nat)
  | wmask r c => some (r, c)
  | event .. | marker => none

end Emission

section

variable {s : Mirror} {m : Mem} {w : WMask} {frame : Nat → U16} {rows cols : Nat} {threshold : U16}

theorem pixelEmissions_events (n : Nat) (ps : List (Nat × Nat)) :
    (pixelEmissions s m w frame cols threshold n ps).filterMap Emission.event? =
      (ps.filter fun p => EventAt frame cols p.1 p.2 threshold).take n := by
  refine (filterMap_scan (g := id) (fun p => ?_) n ps).trans (List.map_id _)
  unfold pixelEmission
  split_ifs <;> rfl

/-- The events in all that is sent for a frame. -/
theorem frameEmissions_events (n : Nat) :
    (pixelEmissions s m w frame cols threshold n (raster rows cols) ++ [Emission.marker]).filterMap Emission.event? =
      (eventList frame rows cols threshold).take n := by
  rw [List.filterMap_append, pixelEmissions_events]
  exact List.append_nil _

/-- With event packets left over, every mask has been found. -/
theorem pixelEmissions_masks {n : Nat} {ps : List (Nat × Nat)}
    (h : ps.countP (fun p => EventAt frame cols p.1 p.2 threshold) < n) :
    (pixelEmissions s m w frame cols threshold n ps).filterMap Emission.wmask? =
      ps.filter fun p => ¬ EventAt frame cols p.1 p.2 threshold ∧ MaskAt s m w p.1 p.2 := by
  rw [pixelEmissions, scan_of_lt h, List.filterMap_filterMap, ← List.filterMap_eq_filter]
  congr 1
  funext p
  unfold pixelEmission
  by_cases hev : EventAt frame cols p.1 p.2 threshold
  · simp [hev, Emission.wmask?, Option.guard]
  · by_cases hmask : MaskAt s m w p.1 p.2 <;> simp [hev, hmask, Emission.wmask?, Option.guard]

end

/-! ## The packets -/

/-- The header as it is before a packet is sent: of an event, and not of the last packet. -/
def FeeDataHdr.Prepared (hdr : FeeDataHdr) : Prop := hdr.pktType = FEE_PKT_TYPE_EV_DET ∧ hdr.lastPkt = 0

instance (hdr : FeeDataHdr) : Decidable hdr.Prepared := inferInstanceAs (Decidable (_ ∧ _))

/-- The packets of a list of emissions, the first one with the header `hdr`. -/
def packets (frame : Nat → U16) (cols : Nat) : FeeDataHdr → List Emission → List FeeEventDetection
  | _, [] => []
  | hdr, e :: es => e.pkt frame cols hdr :: packets frame cols (feeSimHdrIncSeqCntr hdr) es

/-- The header after `n` packets. -/
def hdrAfter (hdr : FeeDataHdr) (n : Nat) : FeeDataHdr := { hdr with seqCntr := hdr.seqCntr + BitVec.ofNat 16 n }

theorem hdrAfter_zero (hdr : FeeDataHdr) : hdrAfter hdr 0 = hdr := by simp [hdrAfter]

theorem hdrAfter_succ (hdr : FeeDataHdr) (n : Nat) : hdrAfter (feeSimHdrIncSeqCntr hdr) n = hdrAfter hdr (n + 1) := by
  simp only [hdrAfter, feeSimHdrIncSeqCntr, BitVec.ofNat_add]
  congr 1
  rw [BitVec.add_assoc, BitVec.add_comm 1]
  rfl

theorem incSeqCntr_hdrAfter (hdr : FeeDataHdr) (n : Nat) :
    feeSimHdrIncSeqCntr (hdrAfter hdr n) = hdrAfter hdr (n + 1) := by
  simp only [hdrAfter, feeSimHdrIncSeqCntr, BitVec.ofNat_add]
  congr 1
  exact BitVec.add_assoc ..

theorem packets_append (frame : Nat → U16) (cols : Nat) (hdr : FeeDataHdr) (es fs : List Emission) :
    packets frame cols hdr (es ++ fs) =
      packets frame cols hdr es ++ packets frame cols (hdrAfter hdr es.length) fs := by
  induction es generalizing hdr with
  | nil => rw [List.nil_append, List.length_nil, hdrAfter_zero]; rfl
  | cons e es ih => rw [List.cons_append, packets, ih, hdrAfter_succ]; rfl

/-- The bytes that are sent. -/
def sendAll (h : Host) (pkts : List FeeEventDetection) : List (List U8) :=
  pkts.map fun p => (feeSimSendEventPayload h p).1

/-- What has been sent are the packets of `es`, from the header `hdr` on. -/
structure Sending (h : Host) (frame : Nat → U16) (cols : Nat) (hdr : FeeDataHdr) (es : List Emission) (d : Detection) :
    Prop where
  sent : d.sent = sendAll h (packets frame cols hdr es)
  hdr : d.pkt.hdr = hdrAfter hdr es.length

/-- Before the first packet. -/
theorem Sending.init (h : Host) (frame : Nat → U16) (cols : Nat) (pkt : FeeEventDetection) (evMax : Nat) :
    Sending h frame cols pkt.hdr [] { pkt, evMax } :=
  ⟨rfl, (hdrAfter_zero pkt.hdr).symm⟩

/-! ## The loops -/

theorem FeeDataHdr.Prepared.after {hdr : FeeDataHdr} (h : hdr.Prepared) (n : Nat) : (hdrAfter hdr n).Prepared := h

section

variable {s : Mirror} {frame : Nat → U16} {cols : Nat} {hdr : FeeDataHdr} {es : List Emission} {d : Detection}

/-- One packet more. -/
theorem Sending.concat {h : Host} (hs : Sending h frame cols hdr es d) (e : Emission) {d' : Detection}
    (hsent : d'.sent = d.sent ++ [(feeSimSendEventPayload h (e.pkt frame cols d.pkt.hdr)).1])
    (hhdr : d'.pkt.hdr = feeSimHdrIncSeqCntr d.pkt.hdr) : Sending h frame cols hdr (es ++ [e]) d' := by
  constructor
  · rw [hsent, hs.sent, hs.hdr, packets_append, sendAll, sendAll, List.map_append]
    rfl
  · rw [hhdr, hs.hdr, incSeqCntr_hdrAfter, List.length_append]
    rfl

/-- **A pixel** keeps the invariant. -/
theorem Sending.pixel (m : Mem) (w : WMask) (threshold : U16) (hs : Sending s.host frame cols hdr es d)
    (hprep : hdr.Prepared) (hev : d.evMax ≠ 0) (r c : Nat) :
    Sending s.host frame cols hdr (es ++ (pixelEmission s m w frame cols threshold r c).toList)
      (feeSimDetectPixel s m w frame cols threshold r d c) := by
  have htype : d.pkt.hdr.pktType = FEE_PKT_TYPE_EV_DET := by
    rw [hs.hdr]
    exact (hprep.after es.length).1
  obtain ⟨hsent, hhdr, -⟩ := detectPixel_step s m w frame cols threshold r c htype hev
  cases he : pixelEmission s m w frame cols threshold r c with
  | none =>
    rw [he] at hsent hhdr
    rw [Option.toList_none, List.append_nil]
    exact ⟨hsent.trans ((List.append_nil _).trans hs.sent), hhdr.trans hs.hdr⟩
  | some e =>
    rw [he] at hsent hhdr
    exact hs.concat e hsent hhdr

/-- **The loops**: what is sent, and how many event packets are left. -/
theorem Sending.pixels (m : Mem) (w : WMask) (threshold : U16) (hs : Sending s.host frame cols hdr es d)
    (hprep : hdr.Prepared) (ps : List (Nat × Nat)) :
    let d' := ps.foldl (fun d p => feeSimDetectPixel s m w frame cols threshold p.1 d p.2) d
    Sending s.host frame cols hdr (es ++ pixelEmissions s m w frame cols threshold d.evMax ps) d' ∧
      d'.evMax = d.evMax - ps.countP fun p => EventAt frame cols p.1 p.2 threshold := by
  induction ps generalizing es d with
  | nil => exact ⟨by rw [pixelEmissions, scan, List.append_nil]; exact hs, rfl⟩
  | cons p ps ih =>
    dsimp only [List.foldl_cons] at ih ⊢
    by_cases hev : d.evMax = 0
    · -- nothing is looked at any more
      have hskip : feeSimDetectPixel s m w frame cols threshold p.1 d p.2 = d := by
        unfold feeSimDetectPixel
        exact if_pos hev
      obtain ⟨hrest, hmax⟩ := ih hs
      rw [hskip]
      rw [hev, pixelEmissions, scan_zero] at hrest
      rw [hev] at hmax
      rw [hev, pixelEmissions, scan_zero]
      exact ⟨hrest, by omega⟩
    · have htype : d.pkt.hdr.pktType = FEE_PKT_TYPE_EV_DET := by
        rw [hs.hdr]
        exact (hprep.after es.length).1
      obtain ⟨-, -, hmax⟩ := detectPixel_step s m w frame cols threshold p.1 p.2 htype hev
      obtain ⟨hrest, hmax'⟩ := ih (hs.pixel m w threshold hprep hev p.1 p.2)
      rw [hmax] at hrest hmax'
      refine ⟨?_, ?_⟩
      · rw [pixelEmissions, scan_cons _ _ hev, ← List.append_assoc]
        exact hrest
      · rw [hmax', List.countP_cons]
        by_cases hat : EventAt frame cols p.1 p.2 threshold
        · simp only [hat, if_true, decide_true]
          omega
        · simp only [hat, if_false, decide_false, Bool.false_eq_true, Nat.add_zero]

/-- The marker at the end of a side. -/
theorem Sending.exit {h : Host} (hs : Sending h frame cols hdr es d) (hprep : hdr.Prepared) :
    Sending h frame cols hdr (es ++ [.marker]) (d.exit h) ∧ (d.exit h).evMax = d.evMax := by
  have hlast : d.pkt.hdr.lastPkt = 0 := by
    rw [hs.hdr]
    exact (hprep.after es.length).2
  have hrestore := setField_restore 0x1 7 (((0 : U8) &&& 0x1).setWidth 16) (((1 : U8) &&& 0x1).setWidth 16)
    d.pkt.hdr.feePktType hlast
  refine ⟨hs.concat .marker rfl ?_, rfl⟩
  unfold Detection.exit feeSimSendLastPkt
  simp only [FeeEventDetection.updHdr, sendEventPayload_hdr, feeSimHdrSetLastPkt, FeeDataHdr.setType,
    feeSimHdrIncSeqCntr, FeeEventDetection.clear, hrestore]

/-- **A call of `fee_sim_detect_events`**, with event detection enabled. -/
theorem detectEvents_sends {m : Mem} (hed : s.smileFeeGetEventDetection m ≠ 0) (w : WMask) (frame : Nat → U16)
    (rows cols : Nat) (threshold : U16) {pkt : FeeEventDetection} (hprep : pkt.hdr.Prepared) (evMax : Nat) :
    let d := feeSimDetectEvents s m w rows cols threshold pkt evMax (some frame)
    Sending s.host frame cols pkt.hdr
        (pixelEmissions s m w frame cols threshold evMax (raster rows cols) ++ [.marker]) d ∧
      d.evMax = evMax - (eventList frame rows cols threshold).length := by
  have hinit := Sending.init s.host frame cols pkt evMax
  dsimp only
  unfold feeSimDetectEvents eventList
  rw [← List.countP_eq_length_filter]
  dsimp only
  by_cases h0 : evMax = 0
  · rw [if_pos h0]
    obtain ⟨hs, hmax⟩ := hinit.exit hprep
    rw [hmax, h0, pixelEmissions, scan_zero]
    rw [h0] at hs
    exact ⟨hs, (Nat.zero_sub _).symm⟩
  · rw [if_neg h0, if_neg hed, detectRows_eq]
    obtain ⟨hs, hmax⟩ := hinit.pixels m w threshold hprep (raster rows cols)
    obtain ⟨hs', hmax'⟩ := hs.exit hprep
    exact ⟨hs', hmax'.trans hmax⟩

end

/-! ## What is received -/

namespace FeeEventDetection

variable (ev : FeeEventDetection)

/-- An event, and not a marker. -/
def IsEvent : Prop := ev.hdr.pktType = FEE_PKT_TYPE_EV_DET ∧ ev.hdr.lastPkt = 0

def IsMask : Prop := ev.hdr.pktType = FEE_PKT_TYPE_WMASK

instance : Decidable ev.IsEvent := inferInstanceAs (Decidable (_ ∧ _))
instance : Decidable ev.IsMask := inferInstanceAs (Decidable (_ = _))

/-- Row and column. -/
def position : Nat × Nat := (ev.row.toNat, ev.col.toNat)

/-- The packet without its sequence counter, which numbers all packets of a readout. -/
def unnumbered : FeeEventDetection := ev.updHdr fun hdr => { hdr with seqCntr := 0 }

end FeeEventDetection

/-- The event packets among those received. -/
def receivedEvents (rx : Host) (pkts : List FeeDataPkt) : List FeeEventDetection :=
  (pkts.map (feeEventReceive rx)).filter fun ev => ev.IsEvent

/-- The mask packets among those received. -/
def receivedMasks (rx : Host) (pkts : List FeeDataPkt) : List FeeEventDetection :=
  (pkts.map (feeEventReceive rx)).filter fun ev => ev.IsMask

section

variable {frame : Nat → U16} {cols : Nat} {hdr : FeeDataHdr} {es : List Emission}

/-- What has been sent arrives. -/
theorem arrives_packets {tx rx : Host} (hprep : hdr.Prepared) {pkts : List FeeDataPkt}
    (h : List.Forall₂ (Arrives rx) (sendAll tx (packets frame cols hdr es)) pkts) :
    pkts.map (feeEventReceive rx) = packets frame cols hdr es := by
  induction es generalizing hdr pkts with
  | nil =>
    cases h
    rfl
  | cons e es ih =>
    obtain ⟨pkt, pkts, harr, hrest, rfl⟩ := List.forall₂_cons_left_iff.1 h
    rw [List.map_cons, ih (hprep.after 1) hrest, harr.eventReceive (e.pktType_pkt hprep.1 frame cols)]
    rfl

theorem isEvent_pkt (hprep : hdr.Prepared) (e : Emission) : (e.pkt frame cols hdr).IsEvent ↔ e.event?.isSome := by
  cases e with
  | event r c => exact iff_of_true hprep rfl
  | wmask r c =>
    refine iff_of_false (fun h => ?_) nofun
    exact absurd ((pktType_setPktType_wmask hdr).symm.trans h.1) (by decide)
  | marker =>
    refine iff_of_false (fun h => ?_) nofun
    exact absurd ((lastPkt_setLastPkt hdr 1).symm.trans h.2) (by decide)

theorem isMask_pkt (hprep : hdr.Prepared) (e : Emission) : (e.pkt frame cols hdr).IsMask ↔ e.wmask?.isSome := by
  cases e with
  | event r c =>
    refine iff_of_false (fun h => ?_) nofun
    exact absurd (hprep.1.symm.trans h) (by decide)
  | wmask r c => exact iff_of_true (pktType_setPktType_wmask hdr) rfl
  | marker =>
    refine iff_of_false (fun h => ?_) nofun
    have htype : (feeSimHdrSetLastPkt hdr 1).pktType = FEE_PKT_TYPE_EV_DET :=
      (congrArg Kind.pktType (kind_setLastPkt hdr 1)).trans hprep.1
    exact absurd (htype.symm.trans h) (by decide)

/-- The packets of one sort are those of the emissions of this sort, each with what it has at any time. -/
theorem packets_filter {γ : Type} {P : FeeEventDetection → Prop} [DecidablePred P]
    {pick : Emission → Option (Nat × Nat)} {g : FeeEventDetection → γ} {f : Nat × Nat → γ}
    (hP : ∀ n e, P (e.pkt frame cols (hdrAfter hdr n)) ↔ (pick e).isSome)
    (hg : ∀ n e p, pick e = some p → g (e.pkt frame cols (hdrAfter hdr n)) = f p) :
    ((packets frame cols hdr es).filter fun ev => P ev).map g = (es.filterMap pick).map f := by
  induction es generalizing hdr with
  | nil => rfl
  | cons e es ih =>
    have hrest := @ih (feeSimHdrIncSeqCntr hdr) (fun n e => hdrAfter_succ hdr n ▸ hP (n + 1) e)
      (fun n e p hp => hdrAfter_succ hdr n ▸ hg (n + 1) e p hp)
    have hP0 := hP 0 e
    rw [hdrAfter_zero] at hP0
    cases hpick : pick e with
    | none =>
      rw [hpick] at hP0
      rw [packets, List.filter_cons_of_neg (by simpa using hP0), hrest, List.filterMap_cons_none hpick]
    | some p =>
      rw [hpick] at hP0
      have hg0 := hg 0 e p hpick
      rw [hdrAfter_zero] at hg0
      rw [packets, List.filter_cons_of_pos (by simpa using hP0), List.map_cons, hrest, hg0,
        List.filterMap_cons_some hpick, List.map_cons]

/-- The events among the packets, without their numbers. -/
theorem packets_events (hprep : hdr.Prepared) :
    ((packets frame cols hdr es).filter fun ev => ev.IsEvent).map FeeEventDetection.unnumbered =
      (es.filterMap Emission.event?).map fun p => (imagette frame cols p.1 p.2 hdr).unnumbered := by
  refine packets_filter (fun n e => isEvent_pkt (hprep.after n) e) fun n e p hp => ?_
  cases e <;> cases hp
  rfl

/-- The masks among the packets. -/
theorem packets_masks (hprep : hdr.Prepared) :
    ((packets frame cols hdr es).filter fun ev => ev.IsMask).map FeeEventDetection.position =
      (es.filterMap Emission.wmask?).map fun p => (p.1 % 2 ^ 16, p.2 % 2 ^ 16) := by
  refine packets_filter (fun n e => isMask_pkt (hprep.after n) e) fun n e p hp => ?_
  cases e <;> cases hp
  exact Prod.ext (BitVec.toNat_ofNat ..) (BitVec.toNat_ofNat ..)

end

section

variable {s : Mirror} {m : Mem} {w : WMask} {frame : Nat → U16} {rows cols : Nat} {threshold : U16}
  {pkt : FeeEventDetection} {evMax : Nat} {rx : Host} {pkts : List FeeDataPkt}

/-- **The events of a side**: the first `evMax` pixels that satisfy the test. -/
theorem detectEvents_events (hed : s.smileFeeGetEventDetection m ≠ 0) (hprep : pkt.hdr.Prepared)
    (harr : List.Forall₂ (Arrives rx)
      (feeSimDetectEvents s m w rows cols threshold pkt evMax (some frame)).sent pkts) :
    (receivedEvents rx pkts).map FeeEventDetection.unnumbered =
      ((eventList frame rows cols threshold).take evMax).map fun p =>
        (imagette frame cols p.1 p.2 pkt.hdr).unnumbered := by
  obtain ⟨hs, -⟩ := detectEvents_sends hed w frame rows cols threshold hprep evMax
  rw [hs.sent] at harr
  rw [receivedEvents, arrives_packets hprep harr, packets_events hprep, frameEmissions_events]

end

/-! ## Frames of 6x6 binning -/

/-- A different pixel, in the same row or column or in the next ones. -/
def Adjacent (p q : Nat × Nat) : Prop :=
  p ≠ q ∧ (p.1 ≤ q.1 + 1 ∧ q.1 ≤ p.1 + 1) ∧ p.2 ≤ q.2 + 1 ∧ q.2 ≤ p.2 + 1

/-- Of two neighbours one is not greater than the other. -/
theorem EventAt.not_adjacent {frame : Nat → U16} {cols : Nat} {threshold : U16} {p q : Nat × Nat}
    (hp : EventAt frame cols p.1 p.2 threshold) (hq : EventAt frame cols q.1 q.2 threshold) : ¬ Adjacent p q := by
  rintro ⟨hne, ⟨h1, h2⟩, h3, h4⟩
  have hne' : ¬ (p.1 = q.1 ∧ p.2 = q.2) := fun h => hne (Prod.ext h.1 h.2)
  have key (a b : Nat × Nat) (ha : EventAt frame cols a.1 a.2 threshold)
      (hab : (((b.1 : Int) - a.1), ((b.2 : Int) - a.2)) ∈ neighbours) :
      frame (b.1 * cols + b.2) < frame (a.1 * cols + a.2) := by
    have hlt := ha.2 _ hab
    rwa [pixelAt_sub] at hlt
  have hpq := key p q hp (by rw [mem_neighbours]; omega)
  have hqp := key q p hq (by rw [mem_neighbours]; omega)
  exact absurd (BitVec.lt_trans hpq hqp) (BitVec.lt_irrefl _)

theorem eventList_apart (frame : Nat → U16) (rows cols : Nat) (threshold : U16) :
    (eventList frame rows cols threshold).Pairwise fun p q => ¬ Adjacent p q := by
  refine ((nodup_raster rows cols).filter _).pairwise_of_forall_ne fun p hp q hq _ => ?_
  have hp' := (List.mem_filter.1 hp).2
  have hq' := (List.mem_filter.1 hq).2
  exact EventAt.not_adjacent (of_decide_eq_true hp') (of_decide_eq_true hq')

/-- Rows and columns fit into 16 bits. -/
theorem toNat_position {p : Nat × Nat} (hp : p ∈ raster FEE_EDU_FRAME_6x6_ROWS FEE_EDU_FRAME_6x6_COLS) :
    (BitVec.ofNat 16 p.1).toNat = p.1 ∧ (BitVec.ofNat 16 p.2).toNat = p.2 := by
  have hmem := mem_raster.1 hp
  simp only [FEE_EDU_FRAME_6x6_ROWS, FEE_EDU_FRAME_6x6_COLS] at hmem
  rw [BitVec.toNat_ofNat, BitVec.toNat_ofNat]
  omega

theorem imagette_position (frame : Nat → U16) (hdr : FeeDataHdr) {p : Nat × Nat}
    (hp : p ∈ raster FEE_EDU_FRAME_6x6_ROWS FEE_EDU_FRAME_6x6_COLS) :
    (imagette frame FEE_EDU_FRAME_6x6_COLS p.1 p.2 hdr).position = p :=
  Prod.ext (toNat_position hp).1 (toNat_position hp).2

section

variable {s : Mirror} {m : Mem} {w : WMask} {frame : Nat → U16} {threshold : U16} {pkt : FeeEventDetection}
  {evMax : Nat} {rx : Host} {pkts : List FeeDataPkt}

/-- The positions that the event packets of a side carry. -/
theorem detectEvents_positions (hed : s.smileFeeGetEventDetection m ≠ 0) (hprep : pkt.hdr.Prepared)
    (harr : List.Forall₂ (Arrives rx) (feeSimDetectEvents s m w FEE_EDU_FRAME_6x6_ROWS FEE_EDU_FRAME_6x6_COLS threshold
      pkt evMax (some frame)).sent pkts) :
    (receivedEvents rx pkts).map FeeEventDetection.position =
      (eventList frame FEE_EDU_FRAME_6x6_ROWS FEE_EDU_FRAME_6x6_COLS threshold).take evMax := by
  have hevents := congrArg (List.map FeeEventDetection.position) (detectEvents_events hed hprep harr)
  rw [List.map_map, List.map_map] at hevents
  refine hevents.trans ((List.map_congr_left fun p hp => ?_).trans (List.map_id _))
  exact imagette_position frame pkt.hdr (List.mem_of_mem_filter (List.mem_of_mem_take hp))

end

/-- **The event packets of a CCD**: those of both sides together are for the first `limit` of the pixels that satisfy
the test, those of the E side before those of the F side, and no two of a side are neighbours. -/
theorem event_budget (s : Mirror) (m : Mem) (w : WMask) (hed : s.smileFeeGetEventDetection m ≠ 0)
    (frameE frameF : Nat → U16) (thresholdE thresholdF : U16) (pktE pktF : FeeEventDetection)
    (hE : pktE.hdr.Prepared) (hF : pktF.hdr.Prepared) (limit : Nat) (rx : Host) (pktsE pktsF : List FeeDataPkt) :
    let dE := feeSimDetectEvents s m w FEE_EDU_FRAME_6x6_ROWS FEE_EDU_FRAME_6x6_COLS thresholdE pktE limit (some frameE)
    let dF := feeSimDetectEvents s m w FEE_EDU_FRAME_6x6_ROWS FEE_EDU_FRAME_6x6_COLS thresholdF pktF dE.evMax
      (some frameF)
    List.Forall₂ (Arrives rx) dE.sent pktsE → List.Forall₂ (Arrives rx) dF.sent pktsF →
      let sentE := (receivedEvents rx pktsE).map FeeEventDetection.position
      let sentF := (receivedEvents rx pktsF).map FeeEventDetection.position
      let listE := eventList frameE FEE_EDU_FRAME_6x6_ROWS FEE_EDU_FRAME_6x6_COLS thresholdE
      let listF := eventList frameF FEE_EDU_FRAME_6x6_ROWS FEE_EDU_FRAME_6x6_COLS thresholdF
      sentE.map (Prod.mk FEE_CCD_SIDE_E) ++ sentF.map (Prod.mk FEE_CCD_SIDE_F) =
          (listE.map (Prod.mk FEE_CCD_SIDE_E) ++ listF.map (Prod.mk FEE_CCD_SIDE_F)).take limit ∧
        sentE.length + sentF.length ≤ limit ∧
        (sentE.Pairwise fun p q => ¬ Adjacent p q) ∧ (sentF.Pairwise fun p q => ¬ Adjacent p q) := by
  dsimp only
  intro harrE harrF
  have hmax := (detectEvents_sends hed w frameE FEE_EDU_FRAME_6x6_ROWS FEE_EDU_FRAME_6x6_COLS thresholdE hE limit).2
  rw [detectEvents_positions hed hE harrE, detectEvents_positions hed hF harrF, hmax]
  refine ⟨?_, ?_, (eventList_apart ..).sublist (List.take_sublist ..),
    (eventList_apart ..).sublist (List.take_sublist ..)⟩
  · rw [List.take_append, List.length_map, List.map_take, List.map_take]
  · rw [List.length_take, List.length_take]
    omega

/-- Registers with event detection and the wandering mask enabled, and no other bit set. -/
def detectionMem (x : Nat) : U8 := if x = 0x100 + 4 * 21 then 0x40 else if x = 0x100 + 4 * 5 then 0x08 else 0

theorem event_budget_one :
    let s : Mirror := ⟨.little, 0x100, 0x1000⟩
    let pkt := freshDetection.pkt
    let dE := feeSimDetectEvents s detectionMem {} FEE_EDU_FRAME_6x6_ROWS FEE_EDU_FRAME_6x6_COLS 10 pkt 1
      (some (twoPixels 100 50))
    let dF := feeSimDetectEvents s detectionMem {} FEE_EDU_FRAME_6x6_ROWS FEE_EDU_FRAME_6x6_COLS 10 pkt dE.evMax
      (some (twoPixels 50 100))
    ((receivedEvents .big (receiveAll .big (fun _ => 0) 0 dE.sent)).map FeeEventDetection.position).length +
      ((receivedEvents .big (receiveAll .big (fun _ => 0) 0 dF.sent)).map FeeEventDetection.position).length ≤ 1 :=
  (event_budget ⟨.little, 0x100, 0x1000⟩ detectionMem {} (by decide) (twoPixels 100 50) (twoPixels 50 100) 10 10
    freshDetection.pkt freshDetection.pkt (by decide) (by decide) 1 .big _ _ (receiveAll_arrives ..)
    (receiveAll_arrives ..)).2.1

end SmileFee
