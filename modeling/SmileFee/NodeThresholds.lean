import SmileFee.NodeEvents

/-!
# Whose threshold decides (`SIM/fee_sim.c:1769-1819, 2039-2073`, `FEE/smile_fee_ctrl.c:1565-1679`)

| here | there |
| --- | --- |
| `Node.ownThreshold`  | `smile_fee_get_ccd2_e_pix_threshold` and its siblings, by the node they are named after |
| `Node.thresholdOf`   | the node after which the threshold is named that `fee_sim_detect_events` is called with |

`TwinRuns` are two runs of a mode on the same frames, with registers that differ in thresholds only. The event packets
of a node are the same if the threshold that is passed is the same (**`TwinRuns.nodeEvents_eq`**). For F2 and E4 it is
that of the other one, and there is a frame for which this is seen: **`thresholdsOwned_iff`**.
-/

namespace SmileFee

open Word Mem

/-! ## The thresholds -/

/-- The threshold that is named after a node. -/
def Node.ownThreshold (s : Mirror) (m : Mem) : Node → U16
  | E2 => s.smileFeeGetCcd2EPixThreshold m
  | F2 => s.smileFeeGetCcd2FPixThreshold m
  | E4 => s.smileFeeGetCcd4EPixThreshold m
  | F4 => s.smileFeeGetCcd4FPixThreshold m

/-- The node whose threshold is passed. -/
def Node.thresholdOf : Node → Node
  | E2 => E2
  | F2 => E4
  | E4 => F2
  | F4 => F4

theorem feeSimPixThreshold_eq (s : Mirror) (m : Mem) (nd : Node) :
    feeSimPixThreshold s m nd = nd.thresholdOf.ownThreshold s m := by
  cases nd <;> rfl

/-! ## Frames that are the same -/

section

variable {frame frame' : Nat → U16} {rows cols : Nat} (h : ∀ k, k < rows * cols → frame' k = frame k) {p : Nat × Nat}
  (hp : p ∈ raster rows cols)
include h hp

/-- The surroundings of a pixel that is looked at are in the frame. -/
theorem eventArea_congr :
    feeSimEventArea frame' (p.1 * cols + p.2) cols = feeSimEventArea frame (p.1 * cols + p.2) cols := by
  obtain ⟨⟨-, hr⟩, -, hc⟩ := mem_raster.1 hp
  funext k
  have hk : k.val < 25 := k.isLt
  rw [feeSimEventArea_eq, feeSimEventArea_eq, pixelAt, pixelAt]
  refine h _ ?_
  have hdr : (imagetteAt k).1 ≤ 2 := by simp only [imagetteAt]; omega
  have hdc : (imagetteAt k).2 ≤ 2 := by simp only [imagetteAt]; omega
  have hrow : ((p.1 : Int) + (imagetteAt k).1) * cols ≤ (rows - 1) * cols :=
    mul_le_mul_of_nonneg_right (by omega) (by omega)
  have hsize : ((rows : Int) - 1) * cols = (rows * cols : Nat) - cols := by push_cast; ring
  have hpos : 0 < rows * cols := Nat.mul_pos (by omega) (by omega)
  omega

theorem pixel_congr : frame' (p.1 * cols + p.2) = frame (p.1 * cols + p.2) := by
  obtain ⟨⟨-, hr⟩, -, hc⟩ := mem_raster.1 hp
  have hrow : (p.1 + 1) * cols ≤ rows * cols := Nat.mul_le_mul_right cols (by omega)
  rw [Nat.add_one_mul] at hrow
  exact h _ (by omega)

theorem eventAt_congr (threshold : U16) :
    EventAt frame' cols p.1 p.2 threshold ↔ EventAt frame cols p.1 p.2 threshold := by
  rw [EventAt, EventAt, localBackground, localBackground, ← localMax_iff, ← localMax_iff, eventArea_congr h hp,
    pixel_congr h hp]

theorem imagette_congr (hdr : FeeDataHdr) : imagette frame' cols p.1 p.2 hdr = imagette frame cols p.1 p.2 hdr := by
  rw [imagette, eventArea_congr h hp]
  rfl

end

theorem eventList_congr {frame frame' : Nat → U16} {rows cols : Nat} (h : ∀ k, k < rows * cols → frame' k = frame k)
    (threshold : U16) : eventList frame' rows cols threshold = eventList frame rows cols threshold :=
  List.filter_congr fun _ hp => decide_eq_decide.2 (eventAt_congr h hp threshold)

/-! ## Two runs -/

/-- The registers are the same, but for the thresholds of the nodes in `D`. -/
structure SameBut (s : Mirror) (D : Set Node) (m m' : Mem) : Prop where
  cfg : ∀ n, n ≤ 25 → n ≠ 22 → n ≠ 23 → s.getReg n m' = s.getReg n m
  own : ∀ nd, nd ∉ D → nd.ownThreshold s m' = nd.ownThreshold s m

/-- Two runs of a mode on the same frames with registers that are the same but for the thresholds of the nodes in `D`,
and what is received of them. -/
structure TwinRuns (mode : EvMode) (D : Set Node) (s : Mirror) (st : SimStatics) (op op' : SimOp) (rx : Host)
    (pkts pkts' : List FeeDataPkt) : Prop where
  detects : mode.Detects s op.mem
  regs : SameBut s D op.mem op'.mem
  frames : ∀ nd k, k < FEE_EDU_FRAME_6x6_ROWS * FEE_EDU_FRAME_6x6_COLS →
    mode.frames s op' nd k = mode.frames s op nd k
  arrives : List.Forall₂ (Arrives rx) (mode.exec s st op).1 pkts
  arrives' : List.Forall₂ (Arrives rx) (mode.exec s st op').1 pkts'
  below : BelowLimit rx pkts (s.smileFeeGetEventPktLimit op.mem).toNat
  below' : BelowLimit rx pkts' (s.smileFeeGetEventPktLimit op'.mem).toNat

/-- The thresholds of the nodes in `D` have no influence on the event packets of the node `nd`. -/
def ThresholdsOwned (mode : EvMode) (D : Set Node) (nd : Node) : Prop :=
  ∀ s st op op' rx pkts pkts', TwinRuns mode D s st op op' rx pkts pkts' →
    nodeEvents rx nd pkts' = nodeEvents rx nd pkts

namespace SameBut

variable {s : Mirror} {D : Set Node} {m m' : Mem} (h : SameBut s D m m')
include h

theorem getBits {n : Nat} (hn : n ≤ 25) (h22 : n ≠ 22) (h23 : n ≠ 23) (mask : U32) (sh : Nat) :
    s.getBits n mask sh m' = s.getBits n mask sh m := by
  rw [Mirror.getBits, Mirror.getBits, h.cfg n hn h22 h23]

theorem createDataPayload : feeSimCreateDataPayload s m' = feeSimCreateDataPayload s m := by
  have hsize : s.smileFeeGetPacketSize m' = s.smileFeeGetPacketSize m :=
    congrArg (BitVec.setWidth 16) (h.getBits (by simp) (by simp) (by simp) ..)
  simp only [feeSimCreateDataPayload, hsize]

/-- The pixels for which event packets are sent, if the threshold that is passed is the same. -/
theorem nodeList_eq {frame frame' : Node → Nat → U16} (hframe : ∀ nd k,
      k < FEE_EDU_FRAME_6x6_ROWS * FEE_EDU_FRAME_6x6_COLS → frame' nd k = frame nd k)
    {nd : Node} (hnd : nd.thresholdOf ∉ D) : nodeList s m' frame' nd = nodeList s m frame nd := by
  have hreadout : s.smileFeeGetReadoutNodeSel m' = s.smileFeeGetReadoutNodeSel m :=
    congrArg (BitVec.setWidth 16) (h.getBits (by simp) (by simp) (by simp) ..)
  have hed : s.smileFeeGetEventDetection m' = s.smileFeeGetEventDetection m :=
    h.getBits (by simp) (by simp) (by simp) ..
  rw [nodeList, nodeList, hreadout, hed, feeSimPixThreshold_eq, feeSimPixThreshold_eq, h.own _ hnd,
    eventList_congr (hframe nd)]

theorem detects {mode : EvMode} (hdet : mode.Detects s m) : mode.Detects s m' := by
  cases mode with
  | ft =>
    have hmode : s.smileFeeGetCcdMode2Config m' = s.smileFeeGetCcdMode2Config m :=
      congrArg (BitVec.setWidth 8) (h.getBits (by simp) (by simp) (by simp) ..)
    have hed : s.smileFeeGetEventDetection m' = s.smileFeeGetEventDetection m :=
      h.getBits (by simp) (by simp) (by simp) ..
    rw [EvMode.Detects, hmode, hed]
    exact hdet
  | evsim => exact trivial

end SameBut

theorem mem_raster_of_nodeList {s : Mirror} {m : Mem} {frame : Node → Nat → U16} {nd : Node} {p : Nat × Nat}
    (hp : p ∈ nodeList s m frame nd) : p ∈ raster FEE_EDU_FRAME_6x6_ROWS FEE_EDU_FRAME_6x6_COLS := by
  unfold nodeList at hp
  split_ifs at hp
  · exact List.mem_of_mem_filter hp
  · cases hp

/-- If the threshold that is passed is the same in both runs, so are the event packets. -/
theorem TwinRuns.nodeEvents_eq {mode : EvMode} {D : Set Node} {s : Mirror} {st : SimStatics} {op op' : SimOp}
    {rx : Host} {pkts pkts' : List FeeDataPkt} (h : TwinRuns mode D s st op op' rx pkts pkts') {nd : Node}
    (hnd : nd.thresholdOf ∉ D) : nodeEvents rx nd pkts' = nodeEvents rx nd pkts := by
  rw [EvMode.nodeEvents_eq h.detects h.arrives h.below, EvMode.nodeEvents_eq (h.regs.detects h.detects) h.arrives'
    h.below', h.regs.createDataPayload, h.regs.nodeList_eq h.frames hnd]
  congr 1
  refine List.map_congr_left fun p hp => ?_
  rw [nodeEvent, nodeEvent, imagette_congr (h.frames nd) (mem_raster_of_nodeList hp)]

/-! ## A readout of one node -/

/-- Where the threshold of a node is, with the registers at `0x100`. -/
def thresholdAddr : Node → Nat
  | .E2 => 0x100 + 4 * 22 + 2
  | .F2 => 0x100 + 4 * 22
  | .E4 => 0x100 + 4 * 23 + 2
  | .F4 => 0x100 + 4 * 23

def oneNodeMirror : Mirror := ⟨.little, 0x100, 0x1000⟩

/-- The less significant byte of the sample at row and column 2 of a node. -/
def brightAddr (nd : Node) : Nat :=
  sramPtr oneNodeMirror nd.sideStart + 2 * nd.sample (2 * FEE_EDU_FRAME_6x6_COLS + 2) + 1

/-- The registers, with both bytes of one threshold `v`, and an image in the SRAM that is dark but for one pixel. -/
def oneNodeMem (nd : Node) (v : U8) (x : Nat) : U8 :=
  if x = 0x100 + 4 * 4 + 2 then 0x01
  else if x = 0x100 + 4 * 5 then u8 nd.bit <<< 4
  else if x = 0x100 + 4 * 21 then 0x60
  else if x = 0x100 + 4 * 24 ∨ x = 0x100 + 4 * 24 + 1 ∨ x = 0x100 + 4 * 24 + 2 then 0xFF
  else if x = thresholdAddr nd.thresholdOf ∨ x = thresholdAddr nd.thresholdOf + 1 then v
  else if x = brightAddr nd then 100
  else 0

def oneNodeOp (nd : Node) (v : U8) : SimOp where
  mem := oneNodeMem nd v
  ft := fun _ => twoPixels 100 0

section

variable (mode : EvMode) (nd : Node)

/-- What is set, apart from the threshold. -/
theorem oneNode_regs {v : U8} (hv : v = 0 ∨ v = 0xFF) :
    let m := oneNodeMem nd v
    mode.Detects oneNodeMirror m ∧ oneNodeMirror.smileFeeGetEventDetection m ≠ 0 ∧
      nd.Selected (oneNodeMirror.smileFeeGetReadoutNodeSel m) ∧
      (oneNodeMirror.smileFeeGetEventPktLimit m).toNat = 0xFFFFFF ∧
      14 ≤ (oneNodeMirror.smileFeeGetPacketSize m).toNat ∧
      feeSimPixThreshold oneNodeMirror m nd = join16 v v := by
  refine ⟨?_, ?_⟩
  · cases mode
    · show _ ∧ _
      rcases hv with rfl | rfl <;> cases nd <;> decide
    · exact trivial
  · rcases hv with rfl | rfl <;> cases nd <;> decide

theorem oneNode_sameBut {D : Set Node} (hD : nd.thresholdOf ∈ D) :
    SameBut oneNodeMirror D (oneNodeMem nd 0) (oneNodeMem nd 0xFF) := by
  have hown : ∀ nd nd' : Node, nd' ≠ nd.thresholdOf →
      nd'.ownThreshold oneNodeMirror (oneNodeMem nd 0xFF) = nd'.ownThreshold oneNodeMirror (oneNodeMem nd 0) := by
    decide
  refine ⟨?_, fun nd' hnd' => hown nd nd' fun h => hnd' (h ▸ hD)⟩
  cases nd <;> decide

/-- The registers are below the SRAM. -/
theorem oneNodeMem_sram (v : U8) {x : Nat} (hx : 0x1000 ≤ x) :
    oneNodeMem nd v x = if x = brightAddr nd then 100 else 0 := by
  have hthr : thresholdAddr nd.thresholdOf + 1 < 0x1000 := by cases nd <;> decide
  unfold oneNodeMem
  rw [if_neg (by omega), if_neg (by omega), if_neg (by omega), if_neg (by omega), if_neg (by omega)]

theorem oneNode_sram_le (nd' : Node) (k : Nat) : 0x1000 ≤ sramPtr oneNodeMirror nd'.sideStart + 2 * nd'.sample k := by
  have hle : 0x1000 ≤ sramPtr oneNodeMirror nd'.sideStart := Nat.le_add_right ..
  omega

/-- The frames are the same whatever the threshold. -/
theorem oneNode_frames_congr (v v' : U8) (nd' : Node) {k : Nat}
    (hk : k < FEE_EDU_FRAME_6x6_ROWS * FEE_EDU_FRAME_6x6_COLS) :
    mode.frames oneNodeMirror (oneNodeOp nd v') nd' k = mode.frames oneNodeMirror (oneNodeOp nd v) nd' k := by
  cases mode with
  | ft => rfl
  | evsim =>
    have hle := oneNode_sram_le nd' k
    refine (getSramData_eq _ _ _ _ _ nd' hk).trans (Eq.trans ?_ (getSramData_eq _ _ _ _ _ nd' hk).symm)
    simp only [oneNodeOp, load16, oneNodeMem_sram nd _ hle, oneNodeMem_sram nd _ (Nat.le_succ_of_le hle)]

/-- One pixel is bright. -/
theorem oneNode_frame (v : U8) {k : Nat} (hk : k < FEE_EDU_FRAME_6x6_ROWS * FEE_EDU_FRAME_6x6_COLS) :
    mode.frames oneNodeMirror (oneNodeOp nd v) nd k = twoPixels 100 0 k := by
  cases mode with
  | ft => rfl
  | evsim =>
    have hle := oneNode_sram_le nd k
    refine (getSramData_eq _ _ _ _ _ nd hk).trans ?_
    have heven : sramPtr oneNodeMirror nd.sideStart + 2 * nd.sample k ≠ brightAddr nd := by
      unfold brightAddr
      omega
    have hodd : sramPtr oneNodeMirror nd.sideStart + 2 * nd.sample k + 1 = brightAddr nd ↔
        k = 2 * FEE_EDU_FRAME_6x6_COLS + 2 := by
      unfold brightAddr
      cases nd <;> simp only [Node.sample] <;> omega
    simp only [oneNodeOp, load16, oneNodeMem_sram nd _ hle, oneNodeMem_sram nd _ (Nat.le_succ_of_le hle), heven, hodd,
      if_false, twoPixels, ite_self]
    split <;> decide

/-- The events of the frame with one bright pixel. -/
theorem oneNode_list {v : U8} (hv : v = 0 ∨ v = 0xFF) :
    nodeList oneNodeMirror (oneNodeMem nd v) (mode.frames oneNodeMirror (oneNodeOp nd v)) nd =
      eventList (twoPixels 100 0) FEE_EDU_FRAME_6x6_ROWS FEE_EDU_FRAME_6x6_COLS (join16 v v) := by
  obtain ⟨-, hed, hsel, -, -, hthr⟩ := oneNode_regs mode nd hv
  rw [nodeList, if_pos ⟨hsel, hed⟩, hthr, eventList_congr fun k => oneNode_frame mode nd v]

/-- What is received of a readout. -/
def oneNodePkts (v : U8) : List FeeDataPkt :=
  receiveAll .big (fun _ => 0) 0 (mode.exec oneNodeMirror {} (oneNodeOp nd v)).1

theorem oneNode_arrives (v : U8) :
    List.Forall₂ (Arrives .big) (mode.exec oneNodeMirror {} (oneNodeOp nd v)).1 (oneNodePkts mode nd v) :=
  receiveAll_arrives ..

theorem oneNode_below {v : U8} (hv : v = 0 ∨ v = 0xFF) : BelowLimit .big (oneNodePkts mode nd v)
    (oneNodeMirror.smileFeeGetEventPktLimit (oneNodeMem nd v)).toNat := by
  obtain ⟨hdet, -, -, hlimit, -⟩ := oneNode_regs mode nd hv
  have hdet : mode.Detects oneNodeMirror (oneNodeOp nd v).mem := hdet
  refine EvMode.belowLimit_of_pixels hdet (oneNode_arrives mode nd v) ?_
  rw [hlimit]
  norm_num [Node.order, FEE_EDU_FRAME_6x6_ROWS, FEE_EDU_FRAME_6x6_COLS]

/-- **Two runs that differ in one threshold only.** -/
theorem oneNode_twin {D : Set Node} (hD : nd.thresholdOf ∈ D) : TwinRuns mode D oneNodeMirror {} (oneNodeOp nd 0)
    (oneNodeOp nd 0xFF) .big (oneNodePkts mode nd 0) (oneNodePkts mode nd 0xFF) where
  detects := (oneNode_regs mode nd (.inl rfl)).1
  regs := oneNode_sameBut nd hD
  frames nd' _ hk := oneNode_frames_congr mode nd 0 0xFF nd' hk
  arrives := oneNode_arrives mode nd 0
  arrives' := oneNode_arrives mode nd 0xFF
  below := oneNode_below mode nd (.inl rfl)
  below' := oneNode_below mode nd (.inr rfl)

/-- The positions in the event packets of the node. -/
theorem oneNode_positions {v : U8} (hv : v = 0 ∨ v = 0xFF) :
    (nodeEvents .big nd (oneNodePkts mode nd v)).map FeeEventDetection.position =
      eventList (twoPixels 100 0) FEE_EDU_FRAME_6x6_ROWS FEE_EDU_FRAME_6x6_COLS (join16 v v) := by
  obtain ⟨hdet, -, -, -, hsize, -⟩ := oneNode_regs mode nd hv
  have hdet : mode.Detects oneNodeMirror (oneNodeOp nd v).mem := hdet
  have hpld : feeSimCreateDataPayload oneNodeMirror (oneNodeOp nd v).mem ≠ none := by
    obtain ⟨pld, hpld, -⟩ := feeSimCreateDataPayload_some oneNodeMirror (oneNodeOp nd v).mem hsize
    rw [hpld]
    exact Option.some_ne_none pld
  rw [EvMode.nodeEvents_eq hdet (oneNode_arrives mode nd v) (oneNode_below mode nd hv), if_neg fun h => hpld h.2]
  rw [show (oneNodeOp nd v).mem = oneNodeMem nd v from rfl, oneNode_list mode nd hv, List.map_map]
  refine (List.map_congr_left fun p hp => ?_).trans (List.map_id _)
  exact imagette_position (mode.frames oneNodeMirror (oneNodeOp nd v) nd) ((mode.hdr {}).ofNode nd)
    (List.mem_of_mem_filter hp)

theorem oneNode_differ :
    nodeEvents .big nd (oneNodePkts mode nd 0xFF) ≠ nodeEvents .big nd (oneNodePkts mode nd 0) := by
  intro h
  have hpos := congrArg (List.map FeeEventDetection.position) h
  rw [oneNode_positions mode nd (.inr rfl), oneNode_positions mode nd (.inl rfl)] at hpos
  have hbright : (2, 2) ∈ eventList (twoPixels 100 0) FEE_EDU_FRAME_6x6_ROWS FEE_EDU_FRAME_6x6_COLS (join16 0 0) :=
    List.mem_filter.2 ⟨mem_raster.2 (by decide), by decide⟩
  rw [← hpos] at hbright
  exact absurd (of_decide_eq_true (List.mem_filter.1 hbright).2) (by decide)

end

/-- **Whose thresholds decide**: those of F2 and E4 are interchanged. -/
theorem thresholdsOwned_iff (mode : EvMode) {D : Set Node} {nd : Node} (hnd : nd ∉ D) :
    ThresholdsOwned mode D nd ↔ (nd = .F2 → Node.E4 ∉ D) ∧ (nd = .E4 → Node.F2 ∉ D) := by
  have hpassed : nd.thresholdOf ∉ D ↔ (nd = .F2 → Node.E4 ∉ D) ∧ (nd = .E4 → Node.F2 ∉ D) := by
    cases nd <;> simp [Node.thresholdOf, hnd]
  rw [← hpassed]
  constructor
  · intro h hD
    exact oneNode_differ mode nd (h _ _ _ _ _ _ _ (oneNode_twin mode nd hD))
  · intro hD s st op op' rx pkts pkts' h
    exact h.nodeEvents_eq hD

theorem thresholdsOwned_E2 : ThresholdsOwned .ft {nd | nd ≠ .E2} .E2 :=
  (thresholdsOwned_iff .ft (by simp)).2 ⟨nofun, nofun⟩

/-- With nothing else changed than the threshold of E4, an event of F2 is gone. -/
theorem not_thresholdsOwned_F2 :
    TwinRuns .ft {nd | nd ≠ .F2} oneNodeMirror {} (oneNodeOp .F2 0) (oneNodeOp .F2 0xFF) .big (oneNodePkts .ft .F2 0)
        (oneNodePkts .ft .F2 0xFF) ∧
      nodeEvents .big .F2 (oneNodePkts .ft .F2 0xFF) ≠ nodeEvents .big .F2 (oneNodePkts .ft .F2 0) ∧
      ¬ ThresholdsOwned .ft {nd | nd ≠ .F2} .F2 := by
  have htwin : TwinRuns .ft {nd | nd ≠ .F2} oneNodeMirror {} (oneNodeOp .F2 0) (oneNodeOp .F2 0xFF) .big
      (oneNodePkts .ft .F2 0) (oneNodePkts .ft .F2 0xFF) := oneNode_twin .ft .F2 (by decide)
  exact ⟨htwin, oneNode_differ .ft .F2, fun h => oneNode_differ .ft .F2 (h _ _ _ _ _ _ _ htwin)⟩

end SmileFee
