import SmileFee.FtSafety

/-!
# The streams of the readout nodes (`FEE/smile_fee.c:575-717`)

In frame transfer the packets of the nodes arrive in any order. `NodeStreams` is the state after the
packets `pkts`, whatever their order: each buffer holds what its node has sent, the counters are the
lengths, and awaited are the nodes selected that have not sent a last packet. A packet extends the stream
of its node and no other (**`NodeStreams.step`**), and the state is determined by the streams
(**`NodeStreams.unique`**), so that it does not depend on how they are interleaved.
-/

namespace SmileFee

open Word Mem Feed

/-! ## Streams -/

/-- The data of a packet. -/
def FeeDataPkt.payload (pkt : FeeDataPkt) : List U8 := pkt.data.read 0 pkt.hdr.dataLen.toNat

@[simp] theorem FeeDataPkt.length_payload (pkt : FeeDataPkt) : pkt.payload.length = pkt.hdr.dataLen.toNat := by
  simp [payload]

/-- The packets of a node, in the order in which they arrived. -/
def nodePkts (nd : Node) (pkts : List FeeDataPkt) : List FeeDataPkt :=
  pkts.filter fun pkt => Node.ofHdr pkt.hdr = some nd

/-- What a node has sent. -/
def nodeStream (nd : Node) (pkts : List FeeDataPkt) : List U8 := (nodePkts nd pkts).flatMap FeeDataPkt.payload

/-- A node has sent a last packet. -/
def Finished (nd : Node) (pkts : List FeeDataPkt) : Prop := ∃ pkt ∈ nodePkts nd pkts, pkt.hdr.lastPkt ≠ 0

/-- All nodes selected have. -/
def Complete (readout : U16) (pkts : List FeeDataPkt) : Prop := ∀ nd : Node, nd.Selected readout → Finished nd pkts

instance (nd : Node) (pkts : List FeeDataPkt) : Decidable (Finished nd pkts) :=
  inferInstanceAs (Decidable (∃ pkt ∈ nodePkts nd pkts, pkt.hdr.lastPkt ≠ 0))

instance (readout : U16) (pkts : List FeeDataPkt) : Decidable (Complete readout pkts) :=
  inferInstanceAs (Decidable (∀ nd : Node, nd.Selected readout → Finished nd pkts))

/-- A data packet of one of the nodes selected, with whole elements. -/
structure NodeData (readout : U16) (pkt : FeeDataPkt) : Prop where
  pktType : pkt.hdr.pktType = FEE_PKT_TYPE_DATA
  node : ∃ nd, Node.ofHdr pkt.hdr = some nd ∧ nd.Selected readout
  pos : 0 < pkt.hdr.dataLen.toNat
  even : 2 ∣ pkt.hdr.dataLen.toNat

section

variable {nd : Node} {pkts : List FeeDataPkt} {pkt : FeeDataPkt}

theorem nodePkts_concat (hn : Node.ofHdr pkt.hdr = some nd) : nodePkts nd (pkts ++ [pkt]) = nodePkts nd pkts ++ [pkt] := by
  simp [nodePkts, hn]

theorem nodePkts_concat_of_ne {nd' : Node} (hn : Node.ofHdr pkt.hdr = some nd) (hne : nd' ≠ nd) :
    nodePkts nd' (pkts ++ [pkt]) = nodePkts nd' pkts := by
  simp [nodePkts, hn, hne.symm]

theorem nodeStream_concat (hn : Node.ofHdr pkt.hdr = some nd) :
    nodeStream nd (pkts ++ [pkt]) = nodeStream nd pkts ++ pkt.payload := by
  simp [nodeStream, nodePkts_concat hn]

theorem nodeStream_concat_of_ne {nd' : Node} (hn : Node.ofHdr pkt.hdr = some nd) (hne : nd' ≠ nd) :
    nodeStream nd' (pkts ++ [pkt]) = nodeStream nd' pkts := by
  rw [nodeStream, nodePkts_concat_of_ne hn hne, nodeStream]

theorem finished_concat_iff (hn : Node.ofHdr pkt.hdr = some nd) (nd' : Node) :
    Finished nd' (pkts ++ [pkt]) ↔ Finished nd' pkts ∨ nd' = nd ∧ pkt.hdr.lastPkt ≠ 0 := by
  by_cases hne : nd' = nd
  · subst hne
    simp only [Finished, nodePkts_concat hn, List.mem_append, List.mem_singleton, true_and]
    constructor
    · rintro ⟨p, hp | rfl, hl⟩
      · exact .inl ⟨p, hp, hl⟩
      · exact .inr hl
    · rintro (⟨p, hp, hl⟩ | hl)
      · exact ⟨p, .inl hp, hl⟩
      · exact ⟨pkt, .inr rfl, hl⟩
  · simp [Finished, nodePkts_concat_of_ne hn hne, hne]

/-- Streams are made of whole elements. -/
theorem two_dvd_nodeStream {readout : U16} (h : ∀ pkt ∈ pkts, NodeData readout pkt) (nd : Node) :
    2 ∣ (nodeStream nd pkts).length := by
  rw [nodeStream, List.length_flatMap]
  refine List.dvd_sum fun x hx => ?_
  obtain ⟨pkt, hpkt, rfl⟩ := List.mem_map.1 hx
  rw [FeeDataPkt.length_payload]
  exact (h pkt (List.mem_of_mem_filter hpkt)).even

/-- A node that is not selected has sent nothing. -/
theorem nodeStream_eq_nil {readout : U16} (h : ∀ pkt ∈ pkts, NodeData readout pkt) (hns : ¬ nd.Selected readout) :
    nodeStream nd pkts = [] := by
  have hnil : nodePkts nd pkts = [] := by
    refine List.filter_eq_nil_iff.2 fun pkt hpkt hn => hns ?_
    obtain ⟨nd', hn', hsel⟩ := (h pkt hpkt).node
    rw [decide_eq_true_eq, hn', Option.some.injEq] at hn
    exact hn ▸ hsel
  rw [nodeStream, hnil, List.flatMap_nil]

theorem kind_of_ofHdr {hdr : FeeDataHdr} (hn : Node.ofHdr hdr = some nd) : hdr.ccdSide = nd.ccdSide ∧ hdr.ccdId = nd.ccdId := by
  rw [Node.ofHdr] at hn
  split_ifs at hn with h1 h2 h3 h4 h5 h6 <;> (cases hn; exact ⟨‹_›, ‹_›⟩)

theorem lastPkt_eq (hdr : FeeDataHdr) : hdr.lastPkt = if hdr.lastPkt ≠ 0 then 1 else 0 := by
  have h : hdr.lastPkt = 0 ∨ hdr.lastPkt = 1 := by
    rw [FeeDataHdr.lastPkt, getField, show (0x1 : U16) = 1#16 from rfl, BitVec.and_one_eq_setWidth_ofBool_getLsbD]
    cases (hdr.feePktType >>> 7).getLsbD 0 <;> decide
  rcases h with h | h <;> rw [h] <;> decide

theorem NodeData.carries {readout : U16} (h : NodeData readout pkt) (hn : Node.ofHdr pkt.hdr = some nd) :
    pkt.Carries nd.kind pkt.payload (decide (pkt.hdr.lastPkt ≠ 0)) where
  kind := by
    obtain ⟨hs, hi⟩ := kind_of_ofHdr hn
    rw [FeeDataHdr.kind, Node.kind, h.pktType, hs, hi]
  lastPkt := by simpa using lastPkt_eq pkt.hdr
  dataLen := by simp
  data := by simp [FeeDataPkt.payload]

end

/-! ## The state after any packets -/

/-- The state of an aggregator, created as `ft₀` with the memory `m₀`, after the packets `pkts`. -/
structure NodeStreams (ft₀ : FeeFtData) (m₀ : Mem) (pkts : List FeeDataPkt) (s : FeeFtData × Mem) : Prop where
  const : ∃ cnt readout, s.1 = { ft₀ with cnt, readout }
  cnt : ∀ nd, s.1.cnt nd = (nodeStream nd pkts).length / 2
  bits : s.1.readout &&& 0xFFF0 = 0
  awaited : ∀ nd : Node, nd.Selected s.1.readout ↔ nd.Selected ft₀.readout ∧ ¬ Finished nd pkts
  buffer : ∀ nd : Node, nd.Selected ft₀.readout →
    s.2.read (ft₀.ptr nd) (nodeStream nd pkts).length = nodeStream nd pkts
  rest : ∀ a, (∀ nd : Node, nd.Selected ft₀.readout →
    a < ft₀.ptr nd ∨ ft₀.ptr nd + (nodeStream nd pkts).length ≤ a) → s.2 a = m₀ a

section

variable {ft₀ : FeeFtData} {m₀ : Mem} {pkts : List FeeDataPkt} {s : FeeFtData × Mem}

theorem NodeStreams.ptr (h : NodeStreams ft₀ m₀ pkts s) : s.1.ptr = ft₀.ptr := by
  obtain ⟨cnt, readout, hs⟩ := h.const
  rw [hs]

theorem NodeStreams.nElem (h : NodeStreams ft₀ m₀ pkts s) : s.1.nElem = ft₀.nElem := by
  obtain ⟨cnt, readout, hs⟩ := h.const
  rw [hs]

theorem NodeStreams.nil (hfresh : ft₀.Fresh) : NodeStreams ft₀ m₀ [] (ft₀, m₀) where
  const := ⟨_, _, rfl⟩
  cnt nd := by simp [hfresh.cnt, nodeStream, nodePkts]
  bits := hfresh.bits
  awaited nd := by simp [Finished, nodePkts]
  buffer nd _ := rfl
  rest a _ := rfl

/-- Nothing is awaited once all nodes selected have sent a last packet. -/
theorem NodeStreams.readout_eq_zero_iff (h : NodeStreams ft₀ m₀ pkts s) :
    s.1.readout = 0 ↔ Complete ft₀.readout pkts := by
  constructor
  · intro h0 nd hsel
    by_contra hno
    exact ((h.awaited nd).2 ⟨hsel, hno⟩).ne_zero h0
  · intro hc
    refine Node.eq_zero_of_unselected h.bits fun nd hsel => ?_
    obtain ⟨hsel₀, hno⟩ := (h.awaited nd).1 hsel
    exact hno (hc nd hsel₀)

/-- **One packet more**: it is stored behind what its node has sent, and answered with 1 if no node is
awaited any longer. -/
theorem NodeStreams.step (hfresh : ft₀.Fresh) (h : NodeStreams ft₀ m₀ pkts s) {pkt : FeeDataPkt}
    (hpkts : ∀ pkt' ∈ pkts ++ [pkt], NodeData ft₀.readout pkt')
    (hfit : ∀ nd, (nodeStream nd (pkts ++ [pkt])).length ≤ 2 * ft₀.nElem) :
    (feeFtAggregate s pkt).1 = (if Complete ft₀.readout (pkts ++ [pkt]) then 1 else 0) ∧
      NodeStreams ft₀ m₀ (pkts ++ [pkt]) (feeFtAggregate s pkt).2 := by
  have hpkt := hpkts pkt (by simp)
  obtain ⟨nd, hn, hsel⟩ := hpkt.node
  have hpos := hpkt.pos
  have heven := two_dvd_nodeStream (fun p hp => hpkts p (List.mem_append_left _ hp)) nd
  have hlen := hfit nd
  rw [nodeStream_concat hn, List.length_append, FeeDataPkt.length_payload] at hlen
  have hcnt : 2 * s.1.cnt nd = (nodeStream nd pkts).length := by rw [h.cnt, Nat.mul_div_cancel' heven]
  have hstep := feeFtAggregate_data (hpkt.carries hn) s.1 s.2 nd rfl
    (by rw [h.nElem, FeeDataPkt.length_payload]; omega)
  rw [h.ptr, hcnt] at hstep
  have hnew : NodeStreams ft₀ m₀ (pkts ++ [pkt]) (feeFtAggregate s pkt).2 := by
    rw [hstep]
    constructor
    · obtain ⟨cnt, readout, hs⟩ := h.const
      exact ⟨_, _, by rw [hs]⟩
    · intro nd'
      by_cases hne : nd' = nd
      · subst hne
        rw [nodeStream_concat hn, List.length_append]
        simp only [Function.update_self, FeeDataPkt.length_payload]
        omega
      · simp only [Function.update_of_ne hne, nodeStream_concat_of_ne hn hne, h.cnt]
    · dsimp only
      split
      · exact Node.clear_bits h.bits nd
      · exact h.bits
    · intro nd'
      rw [finished_concat_iff hn]
      by_cases hl : pkt.hdr.lastPkt = 0
      · simpa [hl] using h.awaited nd'
      · simp only [hl, ne_eq, not_false_eq_true, decide_true, if_true, Node.selected_clear, h.awaited nd']
        tauto
    · intro nd' hsel'
      by_cases hne : nd' = nd
      · subst hne
        rw [nodeStream_concat hn, List.length_append, read_add, read_write_disjoint _ _ _ _ _ (.inl le_rfl),
          h.buffer nd' hsel, read_write_same]
      · have hd := hfresh.disjoint nd nd' (Ne.symm hne) hsel hsel'
        have hlen' := hfit nd'
        rw [nodeStream_concat_of_ne hn hne] at hlen' ⊢
        rw [read_write_disjoint _ _ _ _ _ (by rw [FeeDataPkt.length_payload]; omega), h.buffer nd' hsel']
    · intro a ha
      have hnd := ha nd hsel
      rw [nodeStream_concat hn, List.length_append] at hnd
      dsimp only
      rw [write_outside _ _ _ _ (by omega)]
      refine h.rest a fun nd' hsel' => ?_
      have hnd' := ha nd' hsel'
      by_cases hne : nd' = nd
      · subst hne
        omega
      · rwa [nodeStream_concat_of_ne hn hne] at hnd'
  refine ⟨?_, hnew⟩
  have hz := hnew.readout_eq_zero_iff
  rw [hstep] at hz ⊢
  simp only at hz ⊢
  by_cases hc : Complete ft₀.readout (pkts ++ [pkt])
  · rw [if_pos hc, if_neg (by simpa using hz.2 hc)]
  · rw [if_neg hc, if_pos fun h0 => hc (hz.1 h0)]

/-- **The streams determine the state.** -/
theorem NodeStreams.unique {pkts' : List FeeDataPkt} {s' : FeeFtData × Mem} (h : NodeStreams ft₀ m₀ pkts s)
    (h' : NodeStreams ft₀ m₀ pkts' s') (heq : ∀ nd, nodePkts nd pkts' = nodePkts nd pkts) : s' = s := by
  have hstream (nd : Node) : nodeStream nd pkts' = nodeStream nd pkts := by rw [nodeStream, heq, nodeStream]
  have hcnt : s'.1.cnt = s.1.cnt := by
    funext nd
    rw [h'.cnt, h.cnt, hstream]
  have hreadout : s'.1.readout = s.1.readout := by
    refine Node.eq_of_selected_iff h'.bits h.bits fun nd => ?_
    rw [h'.awaited, h.awaited, Finished, Finished, heq]
  have hft : s'.1 = s.1 := by
    obtain ⟨cnt, readout, hs⟩ := h.const
    obtain ⟨cnt', readout', hs'⟩ := h'.const
    rw [hs, hs'] at hcnt hreadout ⊢
    obtain rfl : cnt' = cnt := hcnt
    obtain rfl : readout' = readout := hreadout
    rfl
  refine Prod.ext hft (funext fun a => ?_)
  by_cases ha : ∃ nd : Node, nd.Selected ft₀.readout ∧ ft₀.ptr nd ≤ a ∧ a < ft₀.ptr nd + (nodeStream nd pkts).length
  · obtain ⟨nd, hsel, h1, h2⟩ := ha
    have hb := h'.buffer nd hsel
    rw [hstream] at hb
    exact eq_of_read_eq (hb.trans (h.buffer nd hsel).symm) h1 h2
  · have hout (nd : Node) (hsel : nd.Selected ft₀.readout) :
        a < ft₀.ptr nd ∨ ft₀.ptr nd + (nodeStream nd pkts).length ≤ a := by
      by_contra hin
      exact ha ⟨nd, hsel, by omega, by omega⟩
    rw [h.rest a hout, h'.rest a fun nd hsel => by rw [hstream]; exact hout nd hsel]

end

/-! ## Any interleaving -/

/-- Every prefix of what fits in the buffers fits. -/
theorem length_nodeStream_mono {done pkts : List FeeDataPkt} (h : done <+: pkts) (nd : Node) :
    (nodeStream nd done).length ≤ (nodeStream nd pkts).length := by
  obtain ⟨rest, rfl⟩ := h
  simp [nodeStream, nodePkts]

/-- A run over packets of the nodes selected that fit in their buffers. -/
theorem nodeStreams_feed {ft₀ : FeeFtData} (hfresh : ft₀.Fresh) (m₀ : Mem) {pkts : List FeeDataPkt}
    (hpkts : ∀ pkt ∈ pkts, NodeData ft₀.readout pkt) (hfit : ∀ nd, (nodeStream nd pkts).length ≤ 2 * ft₀.nElem) :
    NodeStreams ft₀ m₀ pkts (feed feeFtAggregate (ft₀, m₀) pkts).2 ∧
      ∀ k r, (feed feeFtAggregate (ft₀, m₀) pkts).1[k]? = some r →
        r = if Complete ft₀.readout (pkts.take (k + 1)) then 1 else 0 := by
  refine @feed_history _ _ _ feeFtAggregate (NodeStreams ft₀ m₀)
    (fun done r => r = if Complete ft₀.readout done then 1 else 0) pkts (fun done pkt s hpre h => ?_) _
    (NodeStreams.nil hfresh)
  exact h.step hfresh (fun p hp => hpkts p (hpre.mem hp))
    fun nd => (length_nodeStream_mono hpre nd).trans (hfit nd)

/-- **The streams of the nodes are independent.** Whatever the order of the packets of the nodes selected, if
they fit: each is answered with 0, or with 1 if by then every node has sent a last packet; every buffer
starts with what its node has sent, its counter is the number of elements, and nothing else is touched;
and another interleaving of the same packets leads to the same state. -/
theorem aggregate_streams (s : Mirror) (regs m : Mem) (ptr data : Nat) (ft₀ : FeeFtData)
    (hft : feeFtAggregatorCreate s regs ptr data = some ft₀) (pkts : List FeeDataPkt)
    (hpkts : ∀ pkt ∈ pkts, NodeData ft₀.readout pkt) (hfit : ∀ nd, (nodeStream nd pkts).length ≤ 2 * ft₀.nElem) :
    let r := feed feeFtAggregate (ft₀, m) pkts
    (∀ k < pkts.length, r.1[k]? = some (if Complete ft₀.readout (pkts.take (k + 1)) then 1 else 0)) ∧
    (∀ nd : Node, nd.Selected ft₀.readout →
      r.2.2.read (r.2.1.ptr nd) (nodeStream nd pkts).length = nodeStream nd pkts ∧
      2 * r.2.1.cnt nd = (nodeStream nd pkts).length) ∧
    (∀ nd : Node, ¬ nd.Selected ft₀.readout → r.2.1.ptr nd = 0 ∧ r.2.1.cnt nd = 0) ∧
    (∀ a, (∀ nd : Node, nd.Selected ft₀.readout →
      a < ft₀.ptr nd ∨ ft₀.ptr nd + (nodeStream nd pkts).length ≤ a) → r.2.2 a = m a) ∧
    ∀ pkts', (∀ pkt ∈ pkts', NodeData ft₀.readout pkt) → (∀ nd, nodePkts nd pkts' = nodePkts nd pkts) →
      (feed feeFtAggregate (ft₀, m) pkts').2 = r.2 := by
  intro r
  have hfresh := (feeFtAggregatorCreate_spec hft).2
  have hregions := feeFtAggregatorCreate_regions hft
  obtain ⟨hstate, hans⟩ := nodeStreams_feed hfresh m hpkts hfit
  refine ⟨fun k hk => ?_, fun nd hsel => ⟨?_, ?_⟩, fun nd hns => ⟨?_, ?_⟩, hstate.rest, fun pkts' hpkts' heq => ?_⟩
  · have hlen : k < r.1.length := by simpa [r] using hk
    have hget : r.1[k]? = some r.1[k] := List.getElem?_eq_getElem hlen
    rw [hget, hans k _ hget]
  · rw [hstate.ptr]
    exact hstate.buffer nd hsel
  · rw [hstate.cnt, Nat.mul_div_cancel' (two_dvd_nodeStream hpkts nd)]
  · rw [hstate.ptr]
    exact hregions.null nd hns
  · rw [hstate.cnt, nodeStream_eq_nil hpkts hns]
    rfl
  · have hfit' (nd : Node) : (nodeStream nd pkts').length ≤ 2 * ft₀.nElem := by
      rw [nodeStream, heq]
      exact hfit nd
    exact hstate.unique (nodeStreams_feed hfresh m hpkts' hfit').1 heq

/-- The configuration for frames of E2 and F2 in 24x24 binning. -/
def e2f2Regs : Mem := Mem.write (Mem.write (fun _ => 0) 20 [0x30, 0, 0, 0]) 84 [0x30, 0, 0, 0]

/-- A last packet of E2 and one of F2, with an element each. -/
def e2Pkt : FeeDataPkt := { hdr := { dataLen := 2, feePktType := 0xa0 }, data := fun _ => 0xe2 }
def f2Pkt : FeeDataPkt := { hdr := { dataLen := 2, feePktType := 0x80 }, data := fun _ => 0xf2 }

theorem aggregate_streams_two :
    ∃ ft₀, feeFtAggregatorCreate ⟨.little, 0, 0x1000⟩ e2f2Regs 0x2000 0x3000 = some ft₀ ∧
      (feed feeFtAggregate (ft₀, fun _ => 0) [e2Pkt, f2Pkt]).1[1]? = some 1 ∧
      (feed feeFtAggregate (ft₀, fun _ => 0) [f2Pkt, e2Pkt]).2 = (feed feeFtAggregate (ft₀, fun _ => 0) [e2Pkt, f2Pkt]).2 := by
  obtain ⟨ft₀, hft, hreadout, hn⟩ : ∃ ft₀, feeFtAggregatorCreate ⟨.little, 0, 0x1000⟩ e2f2Regs 0x2000 0x3000 = some ft₀ ∧
      ft₀.readout = 0x3 ∧ ft₀.nElem = 15840 :=
    ⟨(feeFtAggregatorCreate ⟨.little, 0, 0x1000⟩ e2f2Regs 0x2000 0x3000).get (by decide), by rw [Option.some_get],
      by decide, by decide⟩
  have he2 : NodeData ft₀.readout e2Pkt := by
    rw [hreadout]
    exact ⟨by decide, ⟨.E2, by decide, by decide⟩, by decide, by decide⟩
  have hf2 : NodeData ft₀.readout f2Pkt := by
    rw [hreadout]
    exact ⟨by decide, ⟨.F2, by decide, by decide⟩, by decide, by decide⟩
  have hpkts : ∀ pkt ∈ [e2Pkt, f2Pkt], NodeData ft₀.readout pkt := by
    intro pkt hpkt
    rcases List.mem_pair.1 hpkt with rfl | rfl
    · exact he2
    · exact hf2
  have hlen : ∀ nd, (nodeStream nd [e2Pkt, f2Pkt]).length ≤ 2 := by decide
  obtain ⟨hans, -, -, -, hsame⟩ := aggregate_streams ⟨.little, 0, 0x1000⟩ e2f2Regs (fun _ => 0) 0x2000 0x3000 ft₀ hft
    [e2Pkt, f2Pkt] hpkts (fun nd => (hlen nd).trans (by omega))
  have hall : Complete 0x3 [e2Pkt, f2Pkt] := by decide
  refine ⟨ft₀, hft, ?_, hsame [f2Pkt, e2Pkt] (fun pkt hpkt => hpkts pkt (List.mem_pair.2 (List.mem_pair.1 hpkt).symm)) ?_⟩
  · rw [hans 1 (by decide), hreadout]
    exact congrArg some (if_pos hall)
  · intro nd
    cases nd <;> rfl

end SmileFee
