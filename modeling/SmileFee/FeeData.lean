import SmileFee.Cfg
import SmileFee.Lib.Feed

/-!
# Data packets and their aggregation (`FEE/smile_fee.{h,c}`)

| here | there |
| --- | --- |
| `FeeDataHdr`, `FeeDataPkt` | the packed structures and the bit fields of the packet type (`smile_fee.h:94-136`, `:259`) |
| `feePktHdrToCpu`           | `fee_pkt_hdr_to_cpu` (`smile_fee.c:106`) |
| `FeeFfData`, `feeFf…`      | the full-frame container, its constructor and aggregator (`smile_fee.h:341`, `smile_fee.c:357-462`) |
| `FeeFtData`, `feeFt…`      | the same for frame transfer (`smile_fee.h:311`, `smile_fee.c:489-717`) |

The element buffers are in the memory of the DPU, which the aggregators take and give back; a
pointer is an address and `NULL` is 0. What `malloc` and `calloc` return is a parameter. The four
readout nodes have the same members in `struct fee_ft_data`; here they are one function of `Node`.

`FeeDataPkt.Carries` is what an aggregator can see of a packet that has arrived.
-/

namespace SmileFee

open Word Mem

/-! ## Packets -/

def FEE_PKT_TYPE_DATA : U16 := 0x0
def FEE_PKT_TYPE_EV_DET : U16 := 0x1
def FEE_PKT_TYPE_HK : U16 := 0x2
def FEE_PKT_TYPE_WMASK : U16 := 0x3

def FEE_CCD_SIDE_F : U16 := 0x0
def FEE_CCD_SIDE_E : U16 := 0x1

def FEE_CCD_ID_2 : U16 := 0x0
def FEE_CCD_ID_4 : U16 := 0x1

def FEE_HK_PACKET_DATA_LEN : Nat := 152

/-- `sizeof(struct fee_data_hdr)`, and `sizeof(struct fee_data_pkt)`. -/
def SIZEOF_HDR : Nat := 10

structure FeeDataHdr where
  logicalAddr : U8 := 0
  protoId : U8 := 0
  dataLen : U16 := 0
  feePktType : U16 := 0
  frameCntr : U16 := 0
  seqCntr : U16 := 0
deriving DecidableEq, Repr

namespace FeeDataHdr

variable (hdr : FeeDataHdr)

/-! The bit fields of `type` lie in `feePktType` in the same places on either host. -/

def pktType : U16 := getField 0x3 0 hdr.feePktType
def ccdId : U16 := getField 0x1 4 hdr.feePktType
def ccdSide : U16 := getField 0x3 5 hdr.feePktType
def lastPkt : U16 := getField 0x1 7 hdr.feePktType
def feeMode : U16 := getField 0xF 8 hdr.feePktType

/-- The header as it lies in memory. -/
def bytes (h : Host) : List U8 :=
  [hdr.logicalAddr, hdr.protoId] ++ bytes16 h hdr.dataLen ++ bytes16 h hdr.feePktType ++
    bytes16 h hdr.frameCntr ++ bytes16 h hdr.seqCntr

@[simp] theorem length_bytes (h : Host) : (hdr.bytes h).length = SIZEOF_HDR := by simp [bytes, SIZEOF_HDR]

/-- The swap of the fields of two bytes. -/
def swap (h : Host) : FeeDataHdr :=
  { hdr with
    dataLen := be16ToCpu h hdr.dataLen
    feePktType := be16ToCpu h hdr.feePktType
    frameCntr := be16ToCpu h hdr.frameCntr
    seqCntr := be16ToCpu h hdr.seqCntr }

@[simp] theorem swap_swap (h : Host) : (hdr.swap h).swap h = hdr := by simp [swap]

/-- A swapped header is in memory in network order. -/
theorem bytes_swap (h : Host) : (hdr.swap h).bytes h = [hdr.logicalAddr, hdr.protoId,
    u8 (hdr.dataLen >>> 8), u8 hdr.dataLen, u8 (hdr.feePktType >>> 8), u8 hdr.feePktType,
    u8 (hdr.frameCntr >>> 8), u8 hdr.frameCntr, u8 (hdr.seqCntr >>> 8), u8 hdr.seqCntr] := by
  simp [bytes, swap, bytes16_be16ToCpu]

end FeeDataHdr

/-- `data` is the flexible array behind the header. -/
structure FeeDataPkt where
  hdr : FeeDataHdr := {}
  data : Mem := fun _ => 0

/-- The first `n` bytes of the packet as it lies in memory. -/
def FeeDataPkt.bytes (h : Host) (pkt : FeeDataPkt) (n : Nat) : List U8 :=
  pkt.hdr.bytes h ++ pkt.data.read 0 (n - SIZEOF_HDR)

/-- `*(struct fee_data_pkt *) a`. -/
def FeeDataPkt.load (h : Host) (m : Mem) (a : Nat) : FeeDataPkt where
  hdr :=
    { logicalAddr := m a
      protoId := m (a + 1)
      dataLen := load16 h m (a + 2)
      feePktType := load16 h m (a + 4)
      frameCntr := load16 h m (a + 6)
      seqCntr := load16 h m (a + 8) }
  data i := m (a + SIZEOF_HDR + i)

/-- `fee_pkt_hdr_to_cpu` (`smile_fee.c:106`). -/
def feePktHdrToCpu (h : Host) (pkt : FeeDataPkt) : FeeDataPkt := { pkt with hdr := pkt.hdr.swap h }

/-- What becomes of a packet: its bytes are somewhere in the memory of the receiver, with anything
around them, and the header is swapped. -/
def Arrives (h : Host) (bytes : List U8) (pkt : FeeDataPkt) : Prop :=
  ∃ (m : Mem) (a : Nat), m.read a bytes.length = bytes ∧ pkt = feePktHdrToCpu h (.load h m a)

/-- The packets received one after the other at address `a`. -/
def receiveAll (h : Host) (m : Mem) (a : Nat) (sent : List (List U8)) : List FeeDataPkt :=
  sent.map fun bytes => feePktHdrToCpu h (.load h (m.write a bytes) a)

theorem receiveAll_arrives (h : Host) (m : Mem) (a : Nat) (sent : List (List U8)) :
    List.Forall₂ (Arrives h) sent (receiveAll h m a sent) :=
  List.forall₂_map_right_iff.2 (List.forall₂_same.2 fun bytes _ => ⟨_, a, read_write_same m a bytes, rfl⟩)

/-- Whatever the byte orders of sender and receiver, header and data arrive as they were. -/
theorem Arrives.of_swap {tx rx : Host} {pkt pkt' : FeeDataPkt} {n : Nat}
    (h : Arrives rx (FeeDataPkt.bytes tx { pkt with hdr := pkt.hdr.swap tx } (n + SIZEOF_HDR)) pkt') :
    pkt'.hdr = pkt.hdr ∧ pkt'.data.read 0 n = pkt.data.read 0 n := by
  obtain ⟨m, a, hm, rfl⟩ := h
  rw [FeeDataPkt.bytes, Nat.add_sub_cancel, List.length_append, FeeDataHdr.length_bytes, length_read, read_add] at hm
  obtain ⟨hhdr, hdata⟩ := List.append_inj hm (by simp)
  constructor
  · simp only [SIZEOF_HDR, read_succ, read_zero, Nat.add_assoc, FeeDataHdr.bytes_swap, List.cons.injEq] at hhdr
    obtain ⟨h0, h1, h2, h3, h4, h5, h6, h7, h8, h9, -⟩ := hhdr
    simp only [feePktHdrToCpu, FeeDataPkt.load, FeeDataHdr.swap, be16ToCpu_load16, Nat.add_assoc, Nat.reduceAdd,
      h0, h1, h2, h3, h4, h5, h6, h7, h8, h9, join16_split]
  · rw [← hdata]
    simp [feePktHdrToCpu, FeeDataPkt.load, Mem.read]

/-- The packet type, the side and the CCD that a header names. -/
structure Kind where
  pktType : U16
  ccdSide : U16
  ccdId : U16
deriving DecidableEq, Repr

def FeeDataHdr.kind (hdr : FeeDataHdr) : Kind := ⟨hdr.pktType, hdr.ccdSide, hdr.ccdId⟩

/-- A packet of kind `k` with the data `c`, marked if it is the last. -/
structure FeeDataPkt.Carries (pkt : FeeDataPkt) (k : Kind) (c : List U8) (last : Bool) : Prop where
  kind : pkt.hdr.kind = k
  lastPkt : pkt.hdr.lastPkt = if last then 1 else 0
  dataLen : pkt.hdr.dataLen.toNat = c.length
  data : pkt.data.read 0 c.length = c

/-! ## Full frame -/

def FEE_CCD_IMG_SEC_ROWS : Nat := 3791
def FEE_CCD_IMG_SEC_COLS : Nat := 2255

structure FeeFfData where
  hk : Mem := fun _ => 0
  ccdId : U16 := 0
  data : Nat := 0
  nElem : Nat := 0
  n : Nat := 0

/-- `fee_ff_aggregator_create` (`smile_fee.c:367`); `ff` and `data` are what `calloc` and `malloc` return. -/
def feeFfAggregatorCreate (s : Mirror) (m : Mem) (ff data : Nat) : Option FeeFfData :=
  if ff = 0 then none
  else if data = 0 then none
  else some
    { nElem := FEE_CCD_IMG_SEC_ROWS * FEE_CCD_IMG_SEC_COLS
      data
      ccdId := if s.smileFeeGetCcdReadout 1 m ≠ 0 then FEE_CCD_ID_2 else FEE_CCD_ID_4 }

/-- `fee_ff_aggregate` (`smile_fee.c:412`). The two tests of the packet type exclude each other. -/
def feeFfAggregate (s : FeeFfData × Mem) (pkt : FeeDataPkt) : Int × (FeeFfData × Mem) :=
  let (ff, m) := s
  let dataLen := pkt.hdr.dataLen.toNat
  if pkt.hdr.pktType = FEE_PKT_TYPE_HK then
    if dataLen ≤ FEE_HK_PACKET_DATA_LEN then (0, { ff with hk := ff.hk.write 0 (pkt.data.read 0 dataLen) }, m)
    else (-1, s)
  else if pkt.hdr.pktType = FEE_PKT_TYPE_DATA then
    let nElem := dataLen / 2
    if (ff.n : Int) - nElem < ff.nElem then
      (if pkt.hdr.lastPkt ≠ 0 then 1 else 0,
        { ff with n := ff.n + nElem }, m.write (ff.data + 2 * ff.n) (pkt.data.read 0 dataLen))
    else (-1, s)
  else (0, s)

section

variable {k : Kind} {c : List U8} {last : Bool} {pkt : FeeDataPkt} (h : pkt.Carries k c last) (ff : FeeFfData) (m : Mem)
include h

theorem feeFfAggregate_hk (hk : k.pktType = FEE_PKT_TYPE_HK) (hlen : c.length ≤ FEE_HK_PACKET_DATA_LEN) :
    feeFfAggregate (ff, m) pkt = (0, { ff with hk := ff.hk.write 0 c }, m) := by
  have ht : pkt.hdr.pktType = FEE_PKT_TYPE_HK := by rw [← hk, ← h.kind]; rfl
  simp only [feeFfAggregate, ht, h.dataLen, h.data]
  rw [if_pos trivial, if_pos hlen]

theorem feeFfAggregate_data (hk : k.pktType = FEE_PKT_TYPE_DATA) (hcap : ff.n < ff.nElem + c.length / 2) :
    feeFfAggregate (ff, m) pkt = (if last then 1 else 0,
      { ff with n := ff.n + c.length / 2 }, m.write (ff.data + 2 * ff.n) c) := by
  have ht : pkt.hdr.pktType = FEE_PKT_TYPE_DATA := by rw [← hk, ← h.kind]; rfl
  have hl : pkt.hdr.lastPkt ≠ 0 ↔ last = true := by rw [h.lastPkt]; cases last <;> decide
  simp only [feeFfAggregate, ht, h.dataLen, h.data, hl]
  rw [if_neg (by decide), if_pos trivial, if_pos (by omega)]

end

/-! ## Frame transfer -/

def FEE_MODE2_NOBIN : U8 := 0x1
def FEE_MODE2_BIN6 : U8 := 0x2
def FEE_MODE2_BIN24 : U8 := 0x3

def FEE_EDU_FRAME_6x6_ROWS : Nat := 639
def FEE_EDU_FRAME_6x6_COLS : Nat := 384
def FEE_EDU_FRAME_24x24_ROWS : Nat := 160
def FEE_EDU_FRAME_24x24_COLS : Nat := 99

/-- The readout nodes. -/
inductive Node where
  | E2 | F2 | E4 | F4
deriving DecidableEq, Repr

namespace Node

/-- The bits `FEE_READOUT_NODE_…` (`smile_fee.h:71`). -/
def bit : Node → U16
  | E2 => 0x2
  | F2 => 0x1
  | E4 => 0x8
  | F4 => 0x4

def ccdSide : Node → U16
  | E2 | E4 => FEE_CCD_SIDE_E
  | F2 | F4 => FEE_CCD_SIDE_F

def ccdId : Node → U16
  | E2 | F2 => FEE_CCD_ID_2
  | E4 | F4 => FEE_CCD_ID_4

/-- The order in which the source goes through the nodes. -/
def order : List Node := [E2, F2, E4, F4]

@[simp] theorem mem_order (nd : Node) : nd ∈ order := by cases nd <;> decide

instance : Fintype Node where
  elems := order.toFinset
  complete := by simp

/-- The node that the tests of side and CCD in a header lead to. -/
def ofHdr (hdr : FeeDataHdr) : Option Node :=
  if hdr.ccdSide = FEE_CCD_SIDE_E then
    if hdr.ccdId = FEE_CCD_ID_2 then some E2 else if hdr.ccdId = FEE_CCD_ID_4 then some E4 else none
  else if hdr.ccdSide = FEE_CCD_SIDE_F then
    if hdr.ccdId = FEE_CCD_ID_2 then some F2 else if hdr.ccdId = FEE_CCD_ID_4 then some F4 else none
  else none

/-- The kind of the packets of a node. -/
def kind (nd : Node) : Kind := ⟨FEE_PKT_TYPE_DATA, nd.ccdSide, nd.ccdId⟩

theorem ofHdr_of_kind {hdr : FeeDataHdr} (nd : Node) (hs : hdr.kind.ccdSide = nd.ccdSide)
    (hi : hdr.kind.ccdId = nd.ccdId) : ofHdr hdr = some nd := by
  have hs' : hdr.ccdSide = nd.ccdSide := hs
  have hi' : hdr.ccdId = nd.ccdId := hi
  rw [ofHdr, hs', hi']
  cases nd <;> rfl

/-- The node is selected in a readout register. -/
def Selected (readout : U16) (nd : Node) : Prop := readout &&& nd.bit ≠ 0

instance (readout : U16) (nd : Node) : Decidable (Selected readout nd) := inferInstanceAs (Decidable (_ ≠ _))

/-- Clearing the bit of a node takes it out of the selection and leaves the others in. -/
theorem selected_clear (readout : U16) (nd nd' : Node) :
    nd'.Selected (readout &&& ~~~nd.bit) ↔ nd'.Selected readout ∧ nd' ≠ nd := by
  have hb : ~~~nd.bit &&& nd'.bit = if nd' = nd then 0 else nd'.bit := by revert nd nd'; decide
  rw [Selected, Selected, BitVec.and_assoc, hb]
  split <;> simp [*]

theorem clear_bits {readout : U16} (hr : readout &&& 0xFFF0 = 0) (nd : Node) :
    readout &&& ~~~nd.bit &&& 0xFFF0 = 0 := by
  rw [BitVec.and_assoc, BitVec.and_comm (~~~nd.bit), ← BitVec.and_assoc, hr]
  exact BitVec.zero_and

theorem Selected.ne_zero {readout : U16} {nd : Node} (h : nd.Selected readout) : readout ≠ 0 := by
  rintro rfl
  exact h BitVec.zero_and

/-- A register that has no bits but those of the nodes is zero if no node is selected. -/
theorem eq_zero_of_unselected {readout : U16} (hr : readout &&& 0xFFF0 = 0) (h : ∀ nd, ¬ Selected readout nd) :
    readout = 0 := by
  have hz : ∀ nd : Node, readout &&& nd.bit = 0 := fun nd => not_not.1 (h nd)
  have hall : 0xFFF0 ||| E2.bit ||| F2.bit ||| E4.bit ||| F4.bit = BitVec.allOnes 16 := by decide
  calc readout = readout &&& (0xFFF0 ||| E2.bit ||| F2.bit ||| E4.bit ||| F4.bit) := by rw [hall, BitVec.and_allOnes]
    _ = 0 := by simpa [BitVec.and_or_distrib_left, hz] using hr

theorem toNat_lt_of_bits {readout : U16} (hr : readout &&& 0xFFF0 = 0) : readout.toNat < 16 := by
  have hall : (0xF ||| 0xFFF0 : U16) = BitVec.allOnes 16 := by decide
  have hlow : readout = readout &&& 0xF := by
    calc readout = readout &&& (0xF ||| 0xFFF0) := by rw [hall, BitVec.and_allOnes]
      _ = readout &&& 0xF := by
        rw [BitVec.and_or_distrib_left, hr]
        exact BitVec.or_zero
  rw [hlow, BitVec.toNat_and]
  exact Nat.lt_succ_of_le Nat.and_le_right

/-- Such a register is determined by the nodes selected in it. -/
theorem eq_of_selected_iff {readout readout' : U16} (hr : readout &&& 0xFFF0 = 0) (hr' : readout' &&& 0xFFF0 = 0)
    (h : ∀ nd, Selected readout nd ↔ Selected readout' nd) : readout = readout' := by
  have key : ∀ r r' : Fin 16, (∀ nd, Selected (BitVec.ofNat 16 r) nd ↔ Selected (BitVec.ofNat 16 r') nd) → r = r' := by
    decide
  have hr₁ := toNat_lt_of_bits hr
  have hr₂ := toNat_lt_of_bits hr'
  have := key ⟨readout.toNat, hr₁⟩ ⟨readout'.toNat, hr₂⟩ (by simpa using h)
  exact BitVec.eq_of_toNat_eq (by simpa using this)

theorem selected_of_ne_zero {readout : U16} (hr : readout &&& 0xFFF0 = 0) (hne : readout ≠ 0) :
    ∃ nd, Selected readout nd := by
  by_contra hno
  exact hne (eq_zero_of_unselected hr fun nd hnd => hno ⟨nd, hnd⟩)

end Node

/-- `ptr` are the members `E2`, `F2`, `E4`, `F4`, `cnt` the members `n_E2`, `n_F2`, `n_E4`, `n_F4`. -/
structure FeeFtData where
  hk : Mem := fun _ => 0
  ptr : Node → Nat := fun _ => 0
  data : Nat := 0
  rows : Nat := 0
  cols : Nat := 0
  bins : Nat := 0
  nElem : Nat := 0
  cnt : Node → Nat := fun _ => 0
  readout : U16 := 0

/-- The rows, columns and bins of a mode (`smile_fee.c:500-523`). -/
def feeFtFrameSize (mode2 : U8) : Option (Nat × Nat × Nat) :=
  if mode2 = FEE_MODE2_NOBIN then some (FEE_CCD_IMG_SEC_ROWS, FEE_CCD_IMG_SEC_COLS, 1)
  else if mode2 = FEE_MODE2_BIN6 then some (FEE_EDU_FRAME_6x6_ROWS, FEE_EDU_FRAME_6x6_COLS, 6)
  else if mode2 = FEE_MODE2_BIN24 then some (FEE_EDU_FRAME_24x24_ROWS, FEE_EDU_FRAME_24x24_COLS, 24)
  else none

/-- The pointers of the nodes from `off` on (`smile_fee.c:548-568`). -/
def feeFtSetPointers (readout : U16) (data nElem : Nat) : List Node → Nat → Node → Nat
  | [], _ => fun _ => 0
  | nd :: nds, off =>
    if nd.Selected readout then
      Function.update (feeFtSetPointers readout data nElem nds (off + nElem)) nd (data + 2 * off)
    else feeFtSetPointers readout data nElem nds off

/-- `fee_ft_aggregator_create` (`smile_fee.c:489`); `ft` and `data` are what `calloc` and `malloc` return. -/
def feeFtAggregatorCreate (s : Mirror) (m : Mem) (ft data : Nat) : Option FeeFtData :=
  match feeFtFrameSize (s.smileFeeGetCcdMode2Config m) with
  | none => none
  | some (rows, cols, bins) =>
    if ft = 0 then none
    else if data = 0 then none
    else
      let readout := s.smileFeeGetReadoutNodeSel m
      some { rows, cols, bins, nElem := rows * cols, readout, data,
             ptr := feeFtSetPointers readout data (rows * cols) Node.order 0 }

/-- `fee_ft_aggregate_assign_data` (`smile_fee.c:575`). -/
def feeFtAggregateAssignData (s : FeeFtData × Mem) (pkt : FeeDataPkt) : Int × (FeeFtData × Mem) :=
  let (ft, m) := s
  let dataLen := pkt.hdr.dataLen.toNat
  let nElem := dataLen / 2
  match Node.ofHdr pkt.hdr with
  | none => (0, s)
  | some nd =>
    if (ft.cnt nd : Int) - nElem < ft.nElem then
      (0, { ft with cnt := Function.update ft.cnt nd (ft.cnt nd + nElem) },
        m.write (ft.ptr nd + 2 * ft.cnt nd) (pkt.data.read 0 dataLen))
    else (-1, s)

/-- `fee_ft_frame_complete` (`smile_fee.c:636`). -/
def feeFtFrameComplete (ft : FeeFtData) (pkt : FeeDataPkt) : Int × FeeFtData :=
  let readout :=
    if pkt.hdr.lastPkt ≠ 0 then
      match Node.ofHdr pkt.hdr with
      | none => ft.readout
      | some nd => ft.readout &&& ~~~nd.bit
    else ft.readout
  (if readout ≠ 0 then 0 else 1, { ft with readout })

/-- `fee_ft_aggregate` (`smile_fee.c:676`). The two bits of the packet type leave no unknown type. -/
def feeFtAggregate (s : FeeFtData × Mem) (pkt : FeeDataPkt) : Int × (FeeFtData × Mem) :=
  let (ft, m) := s
  let dataLen := pkt.hdr.dataLen.toNat
  let (ret, ft, m) :=
    if pkt.hdr.pktType = FEE_PKT_TYPE_DATA then feeFtAggregateAssignData (ft, m) pkt
    else if pkt.hdr.pktType = FEE_PKT_TYPE_HK then
      if dataLen ≤ FEE_HK_PACKET_DATA_LEN then (0, { ft with hk := ft.hk.write 0 (pkt.data.read 0 dataLen) }, m)
      else (-1, ft, m)
    else if pkt.hdr.pktType = FEE_PKT_TYPE_EV_DET then (0, ft, m)
    else if pkt.hdr.pktType = FEE_PKT_TYPE_WMASK then (0, ft, m)
    else (-1, ft, m)
  if ret = 0 then
    let (ret, ft) := feeFtFrameComplete ft pkt
    (ret, ft, m)
  else (ret, ft, m)

/-! ### What an aggregator for frame transfer does with a packet -/

section

variable {k : Kind} {c : List U8} {last : Bool} {pkt : FeeDataPkt} (h : pkt.Carries k c last) (ft : FeeFtData) (m : Mem)
include h

/-- Whatever its type, a last packet clears the bit of the node that its side and CCD name. -/
theorem feeFtFrameComplete_eq (nd : Node) (hs : k.ccdSide = nd.ccdSide) (hi : k.ccdId = nd.ccdId) :
    feeFtFrameComplete ft pkt =
      let readout := if last then ft.readout &&& ~~~nd.bit else ft.readout
      (if readout ≠ 0 then 0 else 1, { ft with readout }) := by
  have hn : Node.ofHdr pkt.hdr = some nd := Node.ofHdr_of_kind nd (by rw [h.kind, hs]) (by rw [h.kind, hi])
  have hl : pkt.hdr.lastPkt ≠ 0 ↔ last = true := by rw [h.lastPkt]; cases last <;> decide
  simp only [feeFtFrameComplete, hn, hl]

theorem feeFtAggregate_hk (nd : Node) (ht : k.pktType = FEE_PKT_TYPE_HK) (hs : k.ccdSide = nd.ccdSide)
    (hi : k.ccdId = nd.ccdId) (hlen : c.length ≤ FEE_HK_PACKET_DATA_LEN) :
    feeFtAggregate (ft, m) pkt =
      let readout := if last then ft.readout &&& ~~~nd.bit else ft.readout
      (if readout ≠ 0 then 0 else 1, { ft with hk := ft.hk.write 0 c, readout }, m) := by
  have ht' : pkt.hdr.pktType = FEE_PKT_TYPE_HK := by rw [← ht, ← h.kind]; rfl
  have hne : FEE_PKT_TYPE_HK ≠ FEE_PKT_TYPE_DATA := by decide
  simp only [feeFtAggregate, ht', h.dataLen, h.data, if_neg hne, if_pos hlen, if_true,
    feeFtFrameComplete_eq h _ nd hs hi]

theorem feeFtAggregateAssignData_eq (nd : Node) (hk : k = nd.kind) (hcap : ft.cnt nd < ft.nElem + c.length / 2) :
    feeFtAggregateAssignData (ft, m) pkt = (0, { ft with cnt := Function.update ft.cnt nd (ft.cnt nd + c.length / 2) },
      m.write (ft.ptr nd + 2 * ft.cnt nd) c) := by
  subst hk
  have hn : Node.ofHdr pkt.hdr = some nd := Node.ofHdr_of_kind nd (by rw [h.kind]; rfl) (by rw [h.kind]; rfl)
  simp only [feeFtAggregateAssignData, hn, h.dataLen, h.data]
  rw [if_pos (by omega)]

theorem feeFtAggregate_data (nd : Node) (hk : k = nd.kind) (hcap : ft.cnt nd < ft.nElem + c.length / 2) :
    feeFtAggregate (ft, m) pkt =
      let readout := if last then ft.readout &&& ~~~nd.bit else ft.readout
      (if readout ≠ 0 then 0 else 1,
        { ft with cnt := Function.update ft.cnt nd (ft.cnt nd + c.length / 2), readout },
        m.write (ft.ptr nd + 2 * ft.cnt nd) c) := by
  have hassign := feeFtAggregateAssignData_eq h ft m nd hk hcap
  subst hk
  have ht : pkt.hdr.pktType = FEE_PKT_TYPE_DATA := congrArg Kind.pktType h.kind
  simp only [feeFtAggregate, ht, hassign, if_true, feeFtFrameComplete_eq h _ nd rfl rfl]

end

/-! ### The buffers of the nodes -/

theorem feeFtSetPointers_ge {readout : U16} (data nElem : Nat) {nd : Node} (hsel : nd.Selected readout) :
    ∀ {nds : List Node} (off : Nat), nd ∈ nds → data + 2 * off ≤ feeFtSetPointers readout data nElem nds off nd
  | nd' :: nds, off, hmem => by
    rw [feeFtSetPointers]
    split
    · by_cases hnd : nd = nd'
      · rw [hnd, Function.update_self]
      · rw [Function.update_of_ne hnd]
        have := feeFtSetPointers_ge data nElem hsel (off + nElem) (List.mem_of_ne_of_mem hnd hmem)
        omega
    · rename_i hns
      have hnd : nd ≠ nd' := by rintro rfl; exact hns hsel
      exact feeFtSetPointers_ge data nElem hsel off (List.mem_of_ne_of_mem hnd hmem)

/-- The buffers of two selected nodes do not overlap. -/
theorem feeFtSetPointers_disjoint {readout : U16} {data nElem : Nat} {nd nd' : Node} (hne : nd ≠ nd')
    (hsel : nd.Selected readout) (hsel' : nd'.Selected readout) :
    ∀ {nds : List Node} {off : Nat}, nd ∈ nds → nd' ∈ nds →
      feeFtSetPointers readout data nElem nds off nd + 2 * nElem ≤ feeFtSetPointers readout data nElem nds off nd' ∨
      feeFtSetPointers readout data nElem nds off nd' + 2 * nElem ≤ feeFtSetPointers readout data nElem nds off nd
  | x :: nds, off, hmem, hmem' => by
    rw [feeFtSetPointers]
    by_cases hx : x.Selected readout
    · rw [if_pos hx]
      by_cases h : nd = x
      · subst h
        have := feeFtSetPointers_ge data nElem hsel' (off + nElem) (List.mem_of_ne_of_mem hne.symm hmem')
        rw [Function.update_self, Function.update_of_ne hne.symm]
        left; omega
      · by_cases h' : nd' = x
        · subst h'
          have := feeFtSetPointers_ge data nElem hsel (off + nElem) (List.mem_of_ne_of_mem hne hmem)
          rw [Function.update_self, Function.update_of_ne hne]
          right; omega
        · rw [Function.update_of_ne h, Function.update_of_ne h']
          exact feeFtSetPointers_disjoint hne hsel hsel' (List.mem_of_ne_of_mem h hmem) (List.mem_of_ne_of_mem h' hmem')
    · have h : nd ≠ x := by rintro rfl; exact hx hsel
      have h' : nd' ≠ x := by rintro rfl; exact hx hsel'
      rw [if_neg hx]
      exact feeFtSetPointers_disjoint hne hsel hsel' (List.mem_of_ne_of_mem h hmem) (List.mem_of_ne_of_mem h' hmem')

/-- A new aggregator: no other bits than those of the nodes are set, nothing has arrived, and the
buffers of the nodes selected are apart. -/
structure FeeFtData.Fresh (ft : FeeFtData) : Prop where
  bits : ft.readout &&& 0xFFF0 = 0
  cnt : ∀ nd, ft.cnt nd = 0
  pos : 0 < ft.nElem
  disjoint : ∀ nd nd' : Node, nd ≠ nd' → nd.Selected ft.readout → nd'.Selected ft.readout →
    ft.ptr nd + 2 * ft.nElem ≤ ft.ptr nd' ∨ ft.ptr nd' + 2 * ft.nElem ≤ ft.ptr nd

theorem smileFeeGetReadoutNodeSel_bits (s : Mirror) (m : Mem) : s.smileFeeGetReadoutNodeSel m &&& 0xFFF0 = 0 := by
  have hmask : ((0xF : U32).setWidth 16 &&& 0xFFF0 : U16) = 0 := by decide
  rw [Mirror.smileFeeGetReadoutNodeSel, Mirror.getBits, getField, BitVec.setWidth_and, BitVec.and_assoc, hmask]
  exact BitVec.and_zero

theorem feeFtFrameSize_pos {mode2 : U8} {rows cols bins : Nat} (h : feeFtFrameSize mode2 = some (rows, cols, bins)) :
    0 < rows * cols := by
  simp only [feeFtFrameSize] at h
  split at h
  · cases h; decide
  · split at h
    · cases h; decide
    · split at h
      · cases h; decide
      · cases h

theorem feeFtAggregatorCreate_spec {s : Mirror} {m : Mem} {ptr data : Nat} {ft : FeeFtData}
    (h : feeFtAggregatorCreate s m ptr data = some ft) : ft.readout = s.smileFeeGetReadoutNodeSel m ∧ ft.Fresh := by
  rw [feeFtAggregatorCreate] at h
  split at h
  · cases h
  · rename_i rows cols bins hsize
    split at h
    · cases h
    · split at h
      · cases h
      · cases h
        exact ⟨rfl, smileFeeGetReadoutNodeSel_bits s m, fun _ => rfl, feeFtFrameSize_pos hsize,
          fun nd nd' hne hsel hsel' => feeFtSetPointers_disjoint hne hsel hsel' nd.mem_order nd'.mem_order⟩

end SmileFee
