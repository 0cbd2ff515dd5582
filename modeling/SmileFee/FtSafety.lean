import SmileFee.FeeData

/-!
# Where frame transfer data is written (`FEE/smile_fee.c:489-717`)

The four buffers of `struct fee_ft_data` lie in one allocation, one after the other for the nodes
selected, and the pointers of the other nodes stay `NULL`. `fee_ft_aggregate_assign_data` should refuse
what does not fit behind the elements stored so far, but it compares `n_E2 - n_elem`, where `n_elem` is
the number of elements of the packet, instead of `n_E2 + n_elem`, and it looks at neither the pointer nor
at a side that is none of the two. Housekeeping data has a block of its own, and its length is checked.

**`aggregate_safe_iff`** says which packets are handled safely all the same, along any run from
`fee_ft_aggregator_create`.
-/

namespace SmileFee

open Word Mem Feed

/-! ## The buffers and the allocation -/

/-- `__builtin_popcount` (`:541`). -/
def popcount (x : U16) : Nat := (List.range 16).countP fun i => x.getLsbD i

/-- The bits of a readout register are those of its nodes. -/
theorem popcount_eq {readout : U16} (h : readout &&& 0xFFF0 = 0) :
    popcount readout = Node.order.countP fun nd => nd.Selected readout := by
  have key : ∀ r : Fin 16, popcount (BitVec.ofNat 16 r) =
    Node.order.countP fun nd => nd.Selected (BitVec.ofNat 16 r) := by decide
  have hlt := Node.toNat_lt_of_bits h
  have hkey := key ⟨readout.toNat, hlt⟩
  rwa [BitVec.ofNat_toNat, BitVec.setWidth_eq] at hkey

/-- The buffers from `off` on end where all nodes have got theirs. -/
theorem feeFtSetPointers_le {readout : U16} (data nElem : Nat) {nd : Node} (hsel : nd.Selected readout) :
    ∀ {nds : List Node} (off : Nat), nd ∈ nds → feeFtSetPointers readout data nElem nds off nd + 2 * nElem ≤
      data + 2 * (off + nElem * nds.countP fun nd => nd.Selected readout)
  | nd' :: nds, off, hmem => by
    rw [feeFtSetPointers, List.countP_cons]
    by_cases hs : nd'.Selected readout
    · rw [if_pos hs, if_pos (by simpa using hs), Nat.mul_add nElem _ 1, Nat.mul_one]
      by_cases hnd : nd = nd'
      · rw [hnd, Function.update_self]
        omega
      · rw [Function.update_of_ne hnd]
        have := feeFtSetPointers_le data nElem hsel (off + nElem) (List.mem_of_ne_of_mem hnd hmem)
        omega
    · have hnd : nd ≠ nd' := by rintro rfl; exact hs hsel
      rw [if_neg hs, if_neg (by simpa using hs)]
      exact feeFtSetPointers_le data nElem hsel off (List.mem_of_ne_of_mem hnd hmem)

theorem feeFtSetPointers_null {readout : U16} (data nElem : Nat) {nd : Node} (hsel : ¬ nd.Selected readout) :
    ∀ (nds : List Node) (off : Nat), feeFtSetPointers readout data nElem nds off nd = 0
  | [], _ => rfl
  | nd' :: nds, off => by
    rw [feeFtSetPointers]
    split
    · rename_i hs
      have hnd : nd ≠ nd' := by rintro rfl; exact hsel hs
      rw [Function.update_of_ne hnd]
      exact feeFtSetPointers_null data nElem hsel nds (off + nElem)
    · exact feeFtSetPointers_null data nElem hsel nds off

/-- The buffers of a new aggregator: those of the nodes selected are inside the allocation of `n_elem`
elements for each, and do not overlap; the others are `NULL`. -/
structure FeeFtData.Regions (ft : FeeFtData) : Prop where
  null : ∀ nd : Node, ¬ nd.Selected ft.readout → ft.ptr nd = 0
  ne_null : ∀ nd : Node, nd.Selected ft.readout → ft.ptr nd ≠ 0
  ge : ∀ nd : Node, nd.Selected ft.readout → ft.data ≤ ft.ptr nd
  le : ∀ nd : Node, nd.Selected ft.readout → ft.ptr nd + 2 * ft.nElem ≤ ft.data + 2 * ft.nElem * popcount ft.readout
  disjoint : ∀ nd nd' : Node, nd ≠ nd' → nd.Selected ft.readout → nd'.Selected ft.readout →
    ft.ptr nd + 2 * ft.nElem ≤ ft.ptr nd' ∨ ft.ptr nd' + 2 * ft.nElem ≤ ft.ptr nd

theorem feeFtAggregatorCreate_regions {s : Mirror} {m : Mem} {ptr data : Nat} {ft : FeeFtData}
    (h : feeFtAggregatorCreate s m ptr data = some ft) : ft.Regions := by
  have hdisj := (feeFtAggregatorCreate_spec h).2.disjoint
  rw [feeFtAggregatorCreate] at h
  split at h
  · cases h
  · rename_i rows cols bins _
    split at h
    · cases h
    · split at h
      · cases h
      · rename_i hdata
        cases h
        generalize rows * cols = nElem at *
        have hpop := popcount_eq (smileFeeGetReadoutNodeSel_bits s m)
        constructor
        · intro nd hns
          exact feeFtSetPointers_null data nElem hns Node.order 0
        · intro nd hs
          have hge := feeFtSetPointers_ge data nElem hs 0 nd.mem_order
          dsimp only at hge ⊢
          omega
        · intro nd hs
          have hge := feeFtSetPointers_ge data nElem hs 0 nd.mem_order
          simpa using hge
        · intro nd hs
          have hle := feeFtSetPointers_le data nElem hs 0 nd.mem_order
          dsimp only at hle ⊢
          rwa [Nat.zero_add, ← hpop, ← Nat.mul_assoc] at hle
        · exact hdisj

/-! ## What the aggregator does with any packet -/

/-- A `memcpy` of `fee_ft_aggregate` or `fee_ft_aggregate_assign_data`, by its destination and length. -/
inductive FtCopy where
  | hk (len : Nat)
  | data (nd : Node) (a len : Nat)

/-- The copy made for a packet. Nothing is copied of event packets and masks: "don't care" (`:700-703`). -/
def FeeFtData.copies (ft : FeeFtData) (pkt : FeeDataPkt) : Option FtCopy :=
  let dataLen := pkt.hdr.dataLen.toNat
  if pkt.hdr.pktType = FEE_PKT_TYPE_DATA then
    match Node.ofHdr pkt.hdr with
    | none => none
    | some nd =>
      if (ft.cnt nd : Int) - (dataLen / 2 : Nat) < ft.nElem then some (.data nd (ft.ptr nd + 2 * ft.cnt nd) dataLen)
      else none
  else if pkt.hdr.pktType = FEE_PKT_TYPE_HK then
    if dataLen ≤ FEE_HK_PACKET_DATA_LEN then some (.hk dataLen) else none
  else none

/-- What a copy does to the aggregator and to the memory. -/
def FtCopy.apply (pkt : FeeDataPkt) (s : FeeFtData × Mem) : FtCopy → FeeFtData × Mem
  | hk len => ({ s.1 with hk := s.1.hk.write 0 (pkt.data.read 0 len) }, s.2)
  | data nd a len =>
    ({ s.1 with cnt := Function.update s.1.cnt nd (s.1.cnt nd + len / 2) }, s.2.write a (pkt.data.read 0 len))

/-- The destination is inside the housekeeping block, or inside the buffer of the node addressed, which was
selected. -/
def FtCopy.Inside (ft₀ : FeeFtData) (hdr : FeeDataHdr) : FtCopy → Prop
  | hk len => len ≤ FEE_HK_PACKET_DATA_LEN
  | data nd a len => Node.ofHdr hdr = some nd ∧ nd.Selected ft₀.readout ∧
      ft₀.ptr nd ≤ a ∧ a + len ≤ ft₀.ptr nd + 2 * ft₀.nElem

theorem frameComplete_cases (ft : FeeFtData) (pkt : FeeDataPkt) :
    ∃ ret readout, feeFtFrameComplete ft pkt = (ret, { ft with readout := readout }) ∧ (ret = 0 ∨ ret = 1) := by
  unfold feeFtFrameComplete
  exact ⟨_, _, rfl, ite_eq_or_eq _ _ _⟩

/-- What becomes of a data packet. -/
theorem aggregate_data_cases (s : FeeFtData × Mem) {pkt : FeeDataPkt} (ht : pkt.hdr.pktType = FEE_PKT_TYPE_DATA) :
    (Node.ofHdr pkt.hdr = none ∧ s.1.copies pkt = none ∧ ∃ ret readout, (ret = 0 ∨ ret = 1) ∧
      feeFtAggregate s pkt = (ret, { s.1 with readout := readout }, s.2)) ∨
    ∃ nd, Node.ofHdr pkt.hdr = some nd ∧
      ((s.1.cnt nd < s.1.nElem + pkt.hdr.dataLen.toNat / 2 ∧
        s.1.copies pkt = some (.data nd (s.1.ptr nd + 2 * s.1.cnt nd) pkt.hdr.dataLen.toNat) ∧
        ∃ ret readout, (ret = 0 ∨ ret = 1) ∧ feeFtAggregate s pkt = (ret,
          { s.1 with cnt := Function.update s.1.cnt nd (s.1.cnt nd + pkt.hdr.dataLen.toNat / 2), readout := readout },
          s.2.write (s.1.ptr nd + 2 * s.1.cnt nd) (pkt.data.read 0 pkt.hdr.dataLen.toNat))) ∨
       (s.1.nElem + pkt.hdr.dataLen.toNat / 2 ≤ s.1.cnt nd ∧ s.1.copies pkt = none ∧
        feeFtAggregate s pkt = (-1, s))) := by
  obtain ⟨ft, m⟩ := s
  unfold feeFtAggregate feeFtAggregateAssignData FeeFtData.copies
  simp only [ht, if_true]
  cases hn : Node.ofHdr pkt.hdr with
  | none =>
    obtain ⟨ret, readout, hfc, hret⟩ := frameComplete_cases ft pkt
    exact Or.inl ⟨rfl, rfl, ret, readout, hret, by simp [hfc]⟩
  | some nd =>
    refine Or.inr ⟨nd, rfl, ?_⟩
    by_cases hcap : ft.cnt nd < ft.nElem + pkt.hdr.dataLen.toNat / 2
    · obtain ⟨ret, readout, hfc, hret⟩ := frameComplete_cases
        { ft with cnt := Function.update ft.cnt nd (ft.cnt nd + pkt.hdr.dataLen.toNat / 2) } pkt
      have hlt : (ft.cnt nd : Int) - (pkt.hdr.dataLen.toNat / 2 : Nat) < ft.nElem := by omega
      simp only [hlt, if_true]
      exact Or.inl ⟨hcap, trivial, ret, readout, hret, by simp [hfc]⟩
    · have hnlt : ¬ (ft.cnt nd : Int) - (pkt.hdr.dataLen.toNat / 2 : Nat) < ft.nElem := by omega
      simp only [hnlt, if_false]
      exact Or.inr ⟨by omega, trivial, by simp⟩

/-- What becomes of a packet of housekeeping data. -/
theorem aggregate_hk_cases (s : FeeFtData × Mem) {pkt : FeeDataPkt} (ht : pkt.hdr.pktType = FEE_PKT_TYPE_HK) :
    (pkt.hdr.dataLen.toNat ≤ FEE_HK_PACKET_DATA_LEN ∧ s.1.copies pkt = some (.hk pkt.hdr.dataLen.toNat) ∧
      ∃ ret readout, (ret = 0 ∨ ret = 1) ∧ feeFtAggregate s pkt = (ret,
        { s.1 with hk := s.1.hk.write 0 (pkt.data.read 0 pkt.hdr.dataLen.toNat), readout := readout }, s.2)) ∨
    (¬ pkt.hdr.dataLen.toNat ≤ FEE_HK_PACKET_DATA_LEN ∧ s.1.copies pkt = none ∧ feeFtAggregate s pkt = (-1, s)) := by
  have hne : FEE_PKT_TYPE_HK ≠ FEE_PKT_TYPE_DATA := by decide
  obtain ⟨ft, m⟩ := s
  unfold feeFtAggregate FeeFtData.copies
  simp only [ht, if_neg hne, if_true]
  by_cases hlen : pkt.hdr.dataLen.toNat ≤ FEE_HK_PACKET_DATA_LEN
  · obtain ⟨ret, readout, hfc, hret⟩ := frameComplete_cases
      { ft with hk := ft.hk.write 0 (pkt.data.read 0 pkt.hdr.dataLen.toNat) } pkt
    simp only [hlen, if_true]
    exact Or.inl ⟨trivial, trivial, ret, readout, hret, by simp [hfc]⟩
  · simp only [hlen, if_false]
    exact Or.inr ⟨not_false, trivial, by simp⟩

/-- Event packets and masks are passed over. The two bits of the packet type leave no other packets. -/
theorem aggregate_passed (s : FeeFtData × Mem) {pkt : FeeDataPkt} (hdata : pkt.hdr.pktType ≠ FEE_PKT_TYPE_DATA)
    (hhk : pkt.hdr.pktType ≠ FEE_PKT_TYPE_HK) : s.1.copies pkt = none ∧ ∃ ret readout, (ret = 0 ∨ ret = 1) ∧
      feeFtAggregate s pkt = (ret, { s.1 with readout := readout }, s.2) := by
  have htype : pkt.hdr.pktType = FEE_PKT_TYPE_EV_DET ∨ pkt.hdr.pktType = FEE_PKT_TYPE_WMASK := by
    have hlt : pkt.hdr.pktType.toNat < 4 := by
      rw [FeeDataHdr.pktType, getField, BitVec.toNat_and]
      exact Nat.lt_succ_of_le Nat.and_le_right
    simp only [FEE_PKT_TYPE_DATA, FEE_PKT_TYPE_HK, FEE_PKT_TYPE_EV_DET, FEE_PKT_TYPE_WMASK] at *
    bv_omega
  obtain ⟨ft, m⟩ := s
  refine ⟨by rw [FeeFtData.copies, if_neg hdata, if_neg hhk], ?_⟩
  obtain ⟨ret, readout, hfc, hret⟩ := frameComplete_cases ft pkt
  refine ⟨ret, readout, hret, ?_⟩
  simp only [feeFtAggregate, if_neg hdata, if_neg hhk]
  rcases htype with ht | ht
  · simp [ht, hfc]
  · simp [ht, hfc]

/-- An aggregation changes what it copies, and the bits of the nodes that are still awaited. -/
theorem aggregate_snd (s : FeeFtData × Mem) (pkt : FeeDataPkt) : ∃ readout, (feeFtAggregate s pkt).2 =
    match s.1.copies pkt with
    | some c => ({ (c.apply pkt s).1 with readout := readout }, (c.apply pkt s).2)
    | none => ({ s.1 with readout := readout }, s.2) := by
  by_cases hdata : pkt.hdr.pktType = FEE_PKT_TYPE_DATA
  · rcases aggregate_data_cases s hdata with ⟨-, hcopy, ret, readout, -, h⟩ |
      ⟨nd, -, ⟨-, hcopy, ret, readout, -, h⟩ | ⟨-, hcopy, h⟩⟩
    · exact ⟨readout, by rw [hcopy, h]⟩
    · exact ⟨readout, by rw [hcopy, h]; rfl⟩
    · exact ⟨s.1.readout, by rw [hcopy, h]⟩
  · by_cases hhk : pkt.hdr.pktType = FEE_PKT_TYPE_HK
    · rcases aggregate_hk_cases s hhk with ⟨-, hcopy, ret, readout, -, h⟩ | ⟨-, hcopy, h⟩
      · exact ⟨readout, by rw [hcopy, h]; rfl⟩
      · exact ⟨s.1.readout, by rw [hcopy, h]⟩
    · obtain ⟨hcopy, ret, readout, -, h⟩ := aggregate_passed s hdata hhk
      exact ⟨readout, by rw [hcopy, h]⟩

/-! ## Safe steps -/

/-- A data packet can be stored: its node was selected in `readout`, and the data fits behind what its
buffer holds. -/
def Storable (readout : U16) (ft : FeeFtData) (pkt : FeeDataPkt) : Prop :=
  ∃ nd, Node.ofHdr pkt.hdr = some nd ∧ nd.Selected readout ∧ 2 * ft.cnt nd + pkt.hdr.dataLen.toNat ≤ 2 * ft.nElem

/-- The data of a packet fits: in the housekeeping block, or behind what has arrived of the node. Event packets
and masks have nothing that an aggregator is to store. -/
def FeeFtData.Fits (readout : U16) (ft : FeeFtData) (pkt : FeeDataPkt) : Prop :=
  (pkt.hdr.pktType = FEE_PKT_TYPE_HK → pkt.hdr.dataLen.toNat ≤ FEE_HK_PACKET_DATA_LEN) ∧
  (pkt.hdr.pktType = FEE_PKT_TYPE_DATA → Storable readout ft pkt)

/-- The aggregator created as `ft₀` handles a packet safely: no counter exceeds the number of elements of a buffer;
a copy goes to the housekeeping block, or to the buffer of the node addressed, which was selected; a packet whose data
does not fit is answered with −1 and changes nothing; and one that is passed over changes the bits of the nodes that
are still awaited and nothing else. -/
structure SafeStep (ft₀ : FeeFtData) (s : FeeFtData × Mem) (pkt : FeeDataPkt) : Prop where
  counters : ∀ nd, (feeFtAggregate s pkt).2.1.cnt nd ≤ ft₀.nElem
  copy : ∀ c, s.1.copies pkt = some c → c.Inside ft₀ pkt.hdr
  refused : ¬ s.1.Fits ft₀.readout pkt → feeFtAggregate s pkt = (-1, s)
  passed : pkt.hdr.pktType ≠ FEE_PKT_TYPE_DATA → pkt.hdr.pktType ≠ FEE_PKT_TYPE_HK → ∃ ret readout,
    (ret = 0 ∨ ret = 1) ∧ feeFtAggregate s pkt = (ret, { s.1 with readout := readout }, s.2)

/-- The packets handled safely: all that are no data packets, those that can be stored, and
those that do not even pass the check of the source. -/
def FitsOrRefused (ft₀ : FeeFtData) (s : FeeFtData × Mem) (pkt : FeeDataPkt) : Prop :=
  pkt.hdr.pktType = FEE_PKT_TYPE_DATA → Storable ft₀.readout s.1 pkt ∨
    ∃ nd, Node.ofHdr pkt.hdr = some nd ∧ ft₀.nElem + pkt.hdr.dataLen.toNat / 2 ≤ s.1.cnt nd

/-- What the steps of a run keep. -/
structure Bounded (ft₀ : FeeFtData) (s : FeeFtData × Mem) : Prop where
  ptr : s.1.ptr = ft₀.ptr
  nElem : s.1.nElem = ft₀.nElem
  cnt : ∀ nd, s.1.cnt nd ≤ ft₀.nElem

section

variable {ft₀ : FeeFtData} {s : FeeFtData × Mem}

/-- A packet that is answered with −1 and changes nothing. -/
theorem safeStep_of_refused (h : Bounded ft₀ s) {pkt : FeeDataPkt}
    (ht : pkt.hdr.pktType = FEE_PKT_TYPE_DATA ∨ pkt.hdr.pktType = FEE_PKT_TYPE_HK) (hcopy : s.1.copies pkt = none)
    (heq : feeFtAggregate s pkt = (-1, s)) : SafeStep ft₀ s pkt := by
  refine ⟨?_, fun c hc => ?_, fun _ => heq, fun hdata hhk => absurd ht (not_or.2 ⟨hdata, hhk⟩)⟩
  · rw [heq]
    exact h.cnt
  · rw [hcopy] at hc
    cases hc

/-- An answer of 0 or 1 is no refusal. -/
theorem Storable.of_safeStep {pkt : FeeDataPkt} (hsafe : SafeStep ft₀ s pkt) (ht : pkt.hdr.pktType = FEE_PKT_TYPE_DATA)
    {ret : Int} {s' : FeeFtData × Mem} (hret : ret = 0 ∨ ret = 1) (heq : feeFtAggregate s pkt = (ret, s')) :
    Storable ft₀.readout s.1 pkt := by
  by_contra hno
  have hr := hsafe.refused fun hf => hno (hf.2 ht)
  rw [heq, Prod.mk.injEq] at hr
  omega

/-- Packets without image data are safe: the length of housekeeping is checked as it should be. -/
theorem safeStep_other (h : Bounded ft₀ s) {pkt : FeeDataPkt} (ht : pkt.hdr.pktType ≠ FEE_PKT_TYPE_DATA) :
    SafeStep ft₀ s pkt := by
  by_cases hhk : pkt.hdr.pktType = FEE_PKT_TYPE_HK
  · rcases aggregate_hk_cases s hhk with ⟨hlen, hcopy, ret, readout, -, heq⟩ | ⟨-, hcopy, heq⟩
    · refine ⟨?_, fun c hc => ?_, fun hno => absurd ⟨fun _ => hlen, fun hd => absurd hd ht⟩ hno,
        fun _ h' => absurd hhk h'⟩
      · rw [heq]
        exact h.cnt
      · rw [hcopy, Option.some.injEq] at hc
        rw [← hc]
        exact hlen
    · exact safeStep_of_refused h (Or.inr hhk) hcopy heq
  · obtain ⟨hcopy, ret, readout, hret, heq⟩ := aggregate_passed s ht hhk
    refine ⟨?_, fun c hc => ?_, fun hno => absurd ⟨fun h' => absurd h' hhk, fun hd => absurd hd ht⟩ hno,
      fun _ _ => ⟨ret, readout, hret, heq⟩⟩
    · rw [heq]
      exact h.cnt
    · rw [hcopy] at hc
      cases hc

/-- A data packet that can be stored, and is. -/
theorem safeStep_of_stored (h : Bounded ft₀ s) {pkt : FeeDataPkt} (ht : pkt.hdr.pktType = FEE_PKT_TYPE_DATA) {nd : Node}
    (hn : Node.ofHdr pkt.hdr = some nd) (hsel : nd.Selected ft₀.readout)
    (hfit : 2 * s.1.cnt nd + pkt.hdr.dataLen.toNat ≤ 2 * ft₀.nElem)
    (hcopy : s.1.copies pkt = some (.data nd (s.1.ptr nd + 2 * s.1.cnt nd) pkt.hdr.dataLen.toNat))
    (hcnt : (feeFtAggregate s pkt).2.1.cnt = Function.update s.1.cnt nd (s.1.cnt nd + pkt.hdr.dataLen.toNat / 2)) :
    SafeStep ft₀ s pkt := by
  have hfits : s.1.Fits ft₀.readout pkt := by
    refine ⟨fun hhk => ?_, fun _ => ⟨nd, hn, hsel, h.nElem ▸ hfit⟩⟩
    rw [ht] at hhk
    exact absurd hhk (by decide)
  refine ⟨fun nd' => ?_, fun c hc => ?_, fun hno => absurd hfits hno, fun h' => absurd ht h'⟩
  · rw [hcnt]
    by_cases hnd : nd' = nd
    · rw [hnd, Function.update_self]
      omega
    · rw [Function.update_of_ne hnd]
      exact h.cnt nd'
  · rw [hcopy, h.ptr, Option.some.injEq] at hc
    rw [← hc]
    exact ⟨hn, hsel, by omega, by omega⟩

theorem safeStep_iff (h : Bounded ft₀ s) (pkt : FeeDataPkt) : SafeStep ft₀ s pkt ↔ FitsOrRefused ft₀ s pkt := by
  by_cases ht : pkt.hdr.pktType = FEE_PKT_TYPE_DATA
  swap
  · exact iff_of_true (safeStep_other h ht) fun hd => absurd hd ht
  rcases aggregate_data_cases s ht with ⟨hn, hcopy, ret, readout, hret, heq⟩ |
      ⟨nd, hn, ⟨hcap, hcopy, ret, readout, hret, heq⟩ | ⟨hcap, hcopy, heq⟩⟩
  · -- a side that is none of the two: nothing is stored, but the answer is not −1
    have hnode (nd : Node) : Node.ofHdr pkt.hdr ≠ some nd := by simp [hn]
    refine iff_of_false (fun hsafe => ?_) fun hor => ?_
    · obtain ⟨nd, hn', -⟩ := Storable.of_safeStep hsafe ht hret heq
      exact hnode nd hn'
    · rcases hor ht with ⟨nd, hn', -⟩ | ⟨nd, hn', -⟩
      · exact hnode nd hn'
      · exact hnode nd hn'
  · -- the packet is stored
    rw [h.nElem] at hcap
    refine ⟨fun hsafe _ => Or.inl (Storable.of_safeStep hsafe ht hret heq), fun hor => ?_⟩
    rcases hor ht with ⟨nd', hn', hsel, hfit⟩ | ⟨nd', hn', hfull⟩
    · obtain rfl : nd = nd' := Option.some.inj (hn.symm.trans hn')
      exact safeStep_of_stored h ht hn hsel (h.nElem ▸ hfit) hcopy (by rw [heq])
    · obtain rfl : nd = nd' := Option.some.inj (hn.symm.trans hn')
      omega
  · -- the check of the source refuses the packet
    rw [h.nElem] at hcap
    exact iff_of_true (safeStep_of_refused h (Or.inl ht) hcopy heq) fun _ => Or.inr ⟨nd, hn, hcap⟩

theorem aggregate_const (s : FeeFtData × Mem) (pkt : FeeDataPkt) :
    (feeFtAggregate s pkt).2.1.ptr = s.1.ptr ∧ (feeFtAggregate s pkt).2.1.nElem = s.1.nElem := by
  obtain ⟨readout, heq⟩ := aggregate_snd s pkt
  rw [heq]
  cases s.1.copies pkt with
  | none => exact ⟨rfl, rfl⟩
  | some c => cases c <;> exact ⟨rfl, rfl⟩

theorem Bounded.step (h : Bounded ft₀ s) {pkt : FeeDataPkt} (hfits : FitsOrRefused ft₀ s pkt) :
    Bounded ft₀ (feeFtAggregate s pkt).2 := by
  obtain ⟨hptr, hn⟩ := aggregate_const s pkt
  exact ⟨hptr.trans h.ptr, hn.trans h.nElem, ((safeStep_iff h pkt).2 hfits).counters⟩

end

/-- **When frame transfer data stays in its buffers**: an aggregator has its buffers apart from each
other in the allocation; an aggregation changes what it copies, and the bits of the nodes that are still awaited;
and along any run every packet is handled safely exactly if every packet is `FitsOrRefused` in the state it
arrives in. -/
theorem aggregate_safe_iff (s : Mirror) (regs m : Mem) (ptr data : Nat) (ft₀ : FeeFtData)
    (hft : feeFtAggregatorCreate s regs ptr data = some ft₀) (pkts : List FeeDataPkt) :
    ft₀.Regions ∧
    (∀ (st : FeeFtData × Mem) (pkt : FeeDataPkt), ∃ readout, (feeFtAggregate st pkt).2 =
      match st.1.copies pkt with
      | some c => ({ (c.apply pkt st).1 with readout := readout }, (c.apply pkt st).2)
      | none => ({ st.1 with readout := readout }, st.2)) ∧
    (Along feeFtAggregate (SafeStep ft₀) (ft₀, m) pkts ↔ Along feeFtAggregate (FitsOrRefused ft₀) (ft₀, m) pkts) := by
  have hfresh := (feeFtAggregatorCreate_spec hft).2
  refine ⟨feeFtAggregatorCreate_regions hft, aggregate_snd, ?_⟩
  refine along_congr (fun st pkt h => safeStep_iff h pkt) (fun st pkt h hfits => h.step hfits) ?_ pkts
  exact ⟨rfl, rfl, fun nd => by rw [hfresh.cnt nd]; exact Nat.zero_le _⟩

/-- The configuration for frames of F2 in 24x24 binning. -/
def f2Regs : Mem := Mem.write (Mem.write (fun _ => 0) 20 [0x10, 0, 0, 0]) 84 [0x30, 0, 0, 0]

/-- A data packet of F2 with a whole frame. -/
def f2FramePkt : FeeDataPkt := { hdr := { dataLen := 31680 }, data := fun _ => 0 }

/-- … and one with an element more. -/
def longPkt : FeeDataPkt := { hdr := { dataLen := 31682 }, data := fun _ => 0 }

/-- Housekeeping with a byte more than its block has. -/
def longHkPkt : FeeDataPkt := { hdr := { dataLen := 153, feePktType := FEE_PKT_TYPE_HK }, data := fun _ => 0 }

theorem aggregatorCreate_f2 :
    ∃ ft₀, feeFtAggregatorCreate ⟨.little, 0, 0x1000⟩ f2Regs 0x2000 0x3000 = some ft₀ ∧ ft₀.nElem = 15840 ∧
      Node.F2.Selected ft₀.readout ∧ ft₀.cnt .F2 = 0 := by
  refine ⟨(feeFtAggregatorCreate ⟨.little, 0, 0x1000⟩ f2Regs 0x2000 0x3000).get (by decide), ?_, by decide, by decide,
    by decide⟩
  rw [Option.some_get]

/-- The housekeeping is refused, and the frame is stored after that. -/
theorem aggregate_safe_iff_f2 :
    ∃ ft₀, feeFtAggregatorCreate ⟨.little, 0, 0x1000⟩ f2Regs 0x2000 0x3000 = some ft₀ ∧
      Along feeFtAggregate (SafeStep ft₀) (ft₀, fun _ => 0) [longHkPkt, f2FramePkt] ∧
      ¬ Along feeFtAggregate (SafeStep ft₀) (ft₀, fun _ => 0) [longPkt] := by
  obtain ⟨ft₀, hft, hn, hsel, hcnt⟩ := aggregatorCreate_f2
  have hsafe := fun pkts =>
    (aggregate_safe_iff ⟨.little, 0, 0x1000⟩ f2Regs (fun _ => 0) 0x2000 0x3000 ft₀ hft pkts).2.2
  have hnode : Node.ofHdr f2FramePkt.hdr = some .F2 := by decide
  have hnode' : Node.ofHdr longPkt.hdr = some .F2 := by decide
  refine ⟨ft₀, hft, (hsafe _).2 ⟨fun h => absurd h (by decide), ?_, trivial⟩, fun h => ?_⟩
  · have htype : longHkPkt.hdr.pktType = FEE_PKT_TYPE_HK := by decide
    rcases aggregate_hk_cases (ft₀, fun _ => 0) htype with ⟨hlen, -⟩ | ⟨-, -, heq⟩
    · exact absurd hlen (by decide)
    · rw [heq]
      exact fun _ => Or.inl ⟨.F2, hnode, hsel, by rw [hcnt, hn]; decide⟩
  · rcases ((hsafe _).1 h).1 (by decide) with ⟨nd, hnd, -, hfit⟩ | ⟨nd, hnd, hfull⟩
    · obtain rfl := Option.some.inj (hnode'.symm.trans hnd)
      rw [hcnt, hn] at hfit
      exact absurd hfit (by decide)
    · obtain rfl := Option.some.inj (hnode'.symm.trans hnd)
      rw [hcnt, hn] at hfull
      exact absurd hfull (by decide)

/-- The first packet may already be too long: it is stored, and the counter is beyond the end of the frame. -/
theorem aggregate_overruns :
    ∃ ft₀, feeFtAggregatorCreate ⟨.little, 0, 0x1000⟩ f2Regs 0x2000 0x3000 = some ft₀ ∧
      (feeFtAggregate (ft₀, fun _ => 0) longPkt).1 = 0 ∧ ¬ SafeStep ft₀ (ft₀, fun _ => 0) longPkt := by
  refine ⟨(feeFtAggregatorCreate ⟨.little, 0, 0x1000⟩ f2Regs 0x2000 0x3000).get (by decide), ?_, by decide, ?_⟩
  · rw [Option.some_get]
  · intro h
    exact absurd (h.counters .F2) (by decide)

end SmileFee
