import SmileFee.SimTransfer

/-!
# A frame transfer from the simulator to the aggregator

The packets of `fee_sim_frame_transfer` go to `fee_ft_aggregate`, each through `fee_pkt_hdr_to_cpu`.

A node whose frame has arrived is cleared in the readout field by the marker of its last packet, and
the transfer is complete when the field is zero. But `fee_ft_frame_complete` looks at the marker of
every packet, also of the last housekeeping packet, whose header names node F2 (`hkKind`): F2 is
cleared before any of its data has arrived. This goes unnoticed as long as another node is
transferred after F2, and **`frameTransfer_iff`** says that it does not otherwise.
-/

namespace SmileFee

open Word Mem Feed

/-- A state of the aggregator, whatever the housekeeping block. -/
def FtAt (ft : FeeFtData) (m : Mem) (s : FeeFtData × Mem) : Prop := ∃ hk, s = ({ ft with hk }, m)

/-- What `fee_ft_frame_complete` returns. -/
def completion (readout : U16) : Int := if readout ≠ 0 then 0 else 1

section

variable (rx : Host) {L : Nat} {data : List U8} {sent : List (List U8)} (ft : FeeFtData) (m : Mem)

/-- The last housekeeping packet clears F2. -/
theorem feeFtAggregate_hk_yields (hs : Segmented (Transports hkKind) L data sent)
    (hlen : data.length ≤ FEE_HK_PACKET_DATA_LEN) (hne : ft.readout ≠ 0) :
    Yields (Arrives rx) feeFtAggregate (FtAt ft m) sent (answers sent 0 (completion (ft.readout &&& ~~~Node.F2.bit)))
      (FtAt { ft with readout := ft.readout &&& ~~~Node.F2.bit } m) := by
  refine hs.yields (I := fun _ => FtAt ft m) 1 (one_dvd L) ?_ ?_
  · rintro done c x pkt _ _ hlt hx hpkt ⟨hk, rfl⟩
    rw [feeFtAggregate_hk (hx rx pkt hpkt) _ _ .F2 rfl rfl rfl (by omega)]
    exact ⟨if_pos hne, _, rfl⟩
  · rintro done c x pkt _ _ _ hd hx hpkt ⟨hk, rfl⟩
    have hc : c.length ≤ data.length := by simp [← hd]
    rw [feeFtAggregate_hk (hx rx pkt hpkt) _ _ .F2 rfl rfl rfl (by omega)]
    exact ⟨rfl, _, rfl⟩

/-- After the bytes `done` of the frame of a node. -/
def FtReceived (nd : Node) (done : List U8) : FeeFtData × Mem → Prop :=
  FtAt { ft with cnt := Function.update ft.cnt nd (done.length / 2) } (m.write (ft.ptr nd) done)

/-- A data packet is appended to what has been received of its node. -/
theorem FtReceived.append {nd : Node} {done c : List U8} (heven : 2 ∣ done.length)
    (hcap : done.length / 2 < ft.nElem + c.length / 2) {last : Bool} {pkt : FeeDataPkt}
    (hpkt : pkt.Carries nd.kind c last) {s : FeeFtData × Mem} (hs : FtReceived ft m nd done s) :
    let readout := if last then ft.readout &&& ~~~nd.bit else ft.readout
    (feeFtAggregate s pkt).1 = completion readout ∧
      FtReceived { ft with readout } m nd (done ++ c) (feeFtAggregate s pkt).2 := by
  obtain ⟨hk, rfl⟩ := hs
  have hadd : done.length / 2 + c.length / 2 = (done ++ c).length / 2 := by
    rw [List.length_append, Nat.add_div_of_dvd_right heven]
  have hback : 2 * (done.length / 2) = done.length := Nat.mul_div_cancel' heven
  rw [feeFtAggregate_data hpkt _ _ nd rfl (by simpa using hcap)]
  refine ⟨rfl, hk, ?_⟩
  simp only [Function.update_self, Function.update_idem, hadd, hback, write_write_append]

/-- The last data packet of a node clears the node, and its frame is stored. -/
theorem feeFtAggregate_node_yields {nd : Node} (hs : Segmented (Transports nd.kind) L data sent) (hL : 2 ∣ L)
    (hlen : data.length = 2 * ft.nElem) (hcnt : ft.cnt nd = 0) (hne : ft.readout ≠ 0) :
    Yields (Arrives rx) feeFtAggregate (FtAt ft m) sent (answers sent 0 (completion (ft.readout &&& ~~~nd.bit)))
      (FtReceived { ft with readout := ft.readout &&& ~~~nd.bit } m nd data) := by
  have h0 : FtReceived ft m nd [] = FtAt ft m := by
    rw [FtReceived, write_nil, List.length_nil, Nat.zero_div, ← hcnt, Function.update_eq_self]
  rw [← h0]
  refine hs.yields (I := FtReceived ft m nd) 2 hL ?_ ?_
  · intro done c x pkt s heven hlt hx hpkt hI
    obtain ⟨hret, hI'⟩ := hI.append ft m heven (by omega) (hx rx pkt hpkt)
    exact ⟨hret.trans (if_pos hne), hI'⟩
  · intro done c x pkt s heven hlt hd hx hpkt hI
    rw [← hd]
    exact hI.append ft m heven (by omega) (hx rx pkt hpkt)

end

/-! ## The nodes one after the other -/

section

variable {buf : Node → Option Mem} {nds : List Node}

/-- The last node for which something is sent. -/
def lastSent (buf : Node → Option Mem) : List Node → Option Node
  | [] => none
  | nd :: nds => (lastSent buf nds).or (if (buf nd).isSome then some nd else none)

theorem lastSent_eq_none : lastSent buf nds = none ↔ ∀ nd ∈ nds, buf nd = none := by
  induction nds with
  | nil => simp [lastSent]
  | cons nd nds ih => simp [lastSent, ih, and_comm]

theorem lastSent_ne_none {nd : Node} (hmem : nd ∈ nds) (hb : (buf nd).isSome) : lastSent buf nds ≠ none := by
  intro hl
  rw [lastSent_eq_none.1 hl nd hmem] at hb
  cases hb

theorem mem_of_lastSent {z : Node} (h : lastSent buf nds = some z) : z ∈ nds ∧ (buf z).isSome := by
  induction nds with
  | nil => cases h
  | cons nd nds ih =>
    rw [lastSent, Option.or_eq_some_iff] at h
    rcases h with h | ⟨-, h⟩
    · exact ⟨List.mem_cons_of_mem nd (ih h).1, (ih h).2⟩
    · split at h
      · cases h
        exact ⟨List.mem_cons_self, ‹_›⟩
      · cases h

theorem lastSent_cons_none {nd : Node} (hb : buf nd = none) : lastSent buf (nd :: nds) = lastSent buf nds := by
  simp [lastSent, hb]

theorem NodesSent.eq_nil_iff {L n : Nat} {sent : List (List U8)} (h : NodesSent L n buf nds sent) :
    sent = [] ↔ lastSent buf nds = none := by
  induction h with
  | nil => exact ⟨fun _ => rfl, fun _ => rfl⟩
  | skip hb _ ih => rw [ih, lastSent_cons_none hb]
  | send hb hseg _ _ => simp [lastSent, hb, hseg.ne_nil]

/-- What is still to be cleared in the readout field when the nodes `nds` are to be sent: nothing but
nodes that are sent, and the last of these. -/
structure Awaits (buf : Node → Option Mem) (nds : List Node) (readout : U16) : Prop where
  bits : readout &&& 0xFFF0 = 0
  sent : ∀ nd : Node, nd.Selected readout → nd ∈ nds ∧ (buf nd).isSome
  last : ∃ z, lastSent buf nds = some z ∧ z.Selected readout

theorem Awaits.ne_zero {readout : U16} (h : Awaits buf nds readout) : readout ≠ 0 := by
  obtain ⟨z, -, hz⟩ := h.last
  exact hz.ne_zero

/-- The memory after the frames of the nodes have been stored. -/
def stored (ptr : Node → Nat) (buf : Node → Option Mem) (n : Nat) : List Node → Mem → Mem
  | [], m => m
  | nd :: nds, m => stored ptr buf n nds (match buf nd with
    | none => m
    | some b => m.write (ptr nd) (b.read 0 n))

theorem stored_of_none (ptr : Node → Nat) (n : Nat) (m : Mem) (h : ∀ nd ∈ nds, buf nd = none) :
    stored ptr buf n nds m = m := by
  induction nds with
  | nil => rfl
  | cons nd nds ih =>
    rw [stored, h nd List.mem_cons_self]
    exact ih fun nd' hnd => h nd' (List.mem_cons_of_mem nd hnd)

/-- What is awaited after a node without a buffer. -/
theorem Awaits.skip {nd : Node} {readout : U16} (h : Awaits buf (nd :: nds) readout) (hb : buf nd = none) :
    Awaits buf nds readout where
  bits := h.bits
  sent nd' hsel := by
    obtain ⟨hmem, hsome⟩ := h.sent nd' hsel
    refine ⟨List.mem_of_ne_of_mem ?_ hmem, hsome⟩
    rintro rfl
    rw [hb] at hsome
    cases hsome
  last := by
    obtain ⟨z, hz, hsel⟩ := h.last
    exact ⟨z, lastSent_cons_none hb ▸ hz, hsel⟩

/-- What is awaited after a node whose frame has arrived, if there is another one. -/
theorem Awaits.send {nd z : Node} {readout : U16} (h : Awaits buf (nd :: nds) readout) (hnd : nd ∉ nds)
    (hz : lastSent buf nds = some z) : Awaits buf nds (readout &&& ~~~nd.bit) where
  bits := Node.clear_bits h.bits nd
  sent nd' hsel := by
    obtain ⟨hsel, hne⟩ := (Node.selected_clear _ _ _).1 hsel
    obtain ⟨hmem, hsome⟩ := h.sent nd' hsel
    exact ⟨List.mem_of_ne_of_mem hne hmem, hsome⟩
  last := by
    obtain ⟨z', hz', hsel⟩ := h.last
    rw [lastSent, hz, Option.some_or] at hz'
    cases hz'
    refine ⟨z, hz, (Node.selected_clear _ _ _).2 ⟨hsel, ?_⟩⟩
    rintro rfl
    exact hnd (mem_of_lastSent hz).1

/-- Nothing is awaited after the last node. -/
theorem Awaits.done {nd : Node} {readout : U16} (h : Awaits buf (nd :: nds) readout) (hz : lastSent buf nds = none) :
    readout &&& ~~~nd.bit = 0 := by
  refine Node.eq_zero_of_unselected (Node.clear_bits h.bits nd) fun x hx => ?_
  obtain ⟨hsel, hxne⟩ := (Node.selected_clear _ _ _).1 hx
  obtain ⟨hmem, hsome⟩ := h.sent x hsel
  rw [lastSent_eq_none.1 hz x (List.mem_of_ne_of_mem hxne hmem)] at hsome
  cases hsome

/-- **Frames in sequence**: as long as the last node sent is awaited, the last packet ends the transfer. -/
theorem nodes_yield (rx : Host) {L n : Nat} {sent : List (List U8)} (hs : NodesSent L n buf nds sent) (hL : 2 ∣ L)
    (hnodup : nds.Nodup) (ft : FeeFtData) (m : Mem) (hn : n = 2 * ft.nElem) (hcnt : ∀ nd ∈ nds, ft.cnt nd = 0)
    (hw : Awaits buf nds ft.readout) :
    Yields (Arrives rx) feeFtAggregate (FtAt ft m) sent (answers sent 0 1)
      (fun s => s.1.ptr = ft.ptr ∧ s.2 = stored ft.ptr buf n nds m) := by
  induction hs generalizing ft m with
  | nil =>
    obtain ⟨z, hz, -⟩ := hw.last
    cases hz
  | @skip nd nds sent hb _ ih =>
    rw [stored, hb]
    exact ih hnodup.of_cons ft m hn (fun nd' h => hcnt nd' (List.mem_cons_of_mem nd h)) (hw.skip hb)
  | @send nd b nds sent rest hb hseg hrest ih =>
    have hnd := (List.nodup_cons.1 hnodup).1
    have hnode := feeFtAggregate_node_yields rx ft m hseg hL (by rw [length_read, hn])
      (hcnt nd List.mem_cons_self) hw.ne_zero
    cases hz : lastSent buf nds with
    | none =>
      rw [hw.done hz] at hnode
      rw [hrest.eq_nil_iff.2 hz, List.append_nil, stored, hb]
      intro received hr s hst
      obtain ⟨hret, hk, hs⟩ := hnode received hr s hst
      rw [hs, stored_of_none _ _ _ (lastSent_eq_none.1 hz)]
      exact ⟨hret, rfl, rfl⟩
    | some z =>
      have hw' := hw.send hnd hz
      have hne : rest ≠ [] := by
        rw [Ne, hrest.eq_nil_iff, hz]
        exact Option.some_ne_none z
      rw [completion, if_pos hw'.ne_zero] at hnode
      have hcnt' : ∀ nd' ∈ nds, Function.update ft.cnt nd ((b.read 0 n).length / 2) nd' = 0 := by
        intro nd' hmem
        rw [Function.update_of_ne (ne_of_mem_of_not_mem hmem hnd)]
        exact hcnt nd' (List.mem_cons_of_mem nd hmem)
      have hall := hnode.append (ih hnodup.of_cons
        { ft with readout := ft.readout &&& ~~~nd.bit, cnt := Function.update ft.cnt nd ((b.read 0 n).length / 2) }
        (m.write (ft.ptr nd) (b.read 0 n)) hn hcnt' hw')
      rw [answers_append hseg.ne_nil hne] at hall
      rw [stored, hb]
      exact hall

theorem read_stored_disjoint {ptr : Node → Nat} {n a : Nat}
    (hdis : ∀ nd ∈ nds, (buf nd).isSome → a + n ≤ ptr nd ∨ ptr nd + n ≤ a) (m : Mem) :
    (stored ptr buf n nds m).read a n = m.read a n := by
  induction nds generalizing m with
  | nil => rfl
  | cons nd nds ih =>
    rw [stored, ih fun nd' hmem => hdis nd' (List.mem_cons_of_mem nd hmem)]
    cases hb : buf nd with
    | none => rfl
    | some b =>
      have := hdis nd List.mem_cons_self (by rw [hb]; rfl)
      exact read_write_disjoint m _ _ _ _ (by rw [length_read]; exact this)

/-- Every frame is where it was stored. -/
theorem read_stored {ptr : Node → Nat} {n : Nat} (hnodup : nds.Nodup)
    (hdis : ∀ nd nd', nd ≠ nd' → (buf nd).isSome → (buf nd').isSome →
      ptr nd + n ≤ ptr nd' ∨ ptr nd' + n ≤ ptr nd)
    {nd : Node} {b : Mem} (hmem : nd ∈ nds) (hb : buf nd = some b) (m : Mem) :
    (stored ptr buf n nds m).read (ptr nd) n = b.read 0 n := by
  induction nds generalizing m with
  | nil => cases hmem
  | cons x nds ih =>
    obtain ⟨hx, hnodup'⟩ := List.nodup_cons.1 hnodup
    rcases eq_or_ne nd x with rfl | hne
    · rw [stored, hb, read_stored_disjoint fun nd' hmem' hsome =>
        hdis nd nd' (ne_of_mem_of_not_mem hmem' hx).symm (by rw [hb]; rfl) hsome]
      exact read_write_same' m _ _ _ (length_read _ _ _).symm
    · exact ih hnodup' (List.mem_of_ne_of_mem hne hmem) _

end

/-! ## End to end -/

/-- The aggregator and the transfer agree on the nodes, and there is one. -/
structure SameSelection (buf : Node → Option Mem) (ft : FeeFtData) : Prop where
  iff : ∀ nd, (buf nd).isSome ↔ nd.Selected ft.readout
  nonempty : ∃ nd, (buf nd).isSome

/-- When F2 is the last node sent, no node but E2 is left in the readout field without it. -/
theorem SameSelection.only_E2 {buf : Node → Option Mem} {ft : FeeFtData} (h : SameSelection buf ft)
    (h4 : buf .E4 = none) (h4' : buf .F4 = none) (x : Node) (hx : x.Selected (ft.readout &&& ~~~Node.F2.bit)) :
    x = .E2 ∧ (buf .E2).isSome := by
  obtain ⟨hx, hne⟩ := (Node.selected_clear _ _ _).1 hx
  have hsome := (h.iff x).2 hx
  cases x with
  | E2 => exact ⟨rfl, hsome⟩
  | F2 => exact absurd rfl hne
  | E4 => rw [h4] at hsome; cases hsome
  | F4 => rw [h4'] at hsome; cases hsome

/-- A transfer to a new aggregator as it should be: however the packets lie in the memory of the
receiver, all are answered with 0 but the last one with 1, and every node has its frame. -/
def TransfersFrames (sim : Sim) (hk : Mem) (feeMode : U8) (buf : Node → Option Mem) (rx : Host) (ft : FeeFtData)
    (m : Mem) : Prop :=
  ∃ sent cntr, feeSimFrameTransfer sim hk feeMode buf (2 * ft.nElem) = some (sent, cntr) ∧
    ∀ received, List.Forall₂ (Arrives rx) sent received →
      let r := feed feeFtAggregate (ft, m) received
      r.1 = List.replicate (sent.length - 1) 0 ++ [1] ∧
      ∀ nd b, buf nd = some b → r.2.2.read (r.2.1.ptr nd) (2 * ft.nElem) = b.read 0 (2 * ft.nElem)

section

variable {sim : Sim} (hps : 14 ≤ (sim.mir.smileFeeGetPacketSize sim.mem).toNat) (hk : Mem) {feeMode : U8}
  (hmode : feeMode = FEE_MODE_ID_FTP ∨ feeMode = FEE_MODE_ID_FT) {buf : Node → Option Mem} (rx : Host) {ft : FeeFtData}
  (hfresh : ft.Fresh) (hsel : SameSelection buf ft) (m : Mem)
include hps hmode hfresh hsel

/-- After the housekeeping block all nodes but F2 are awaited. -/
theorem transfersFrames_of_lastSent {z : Node} (hz : lastSent buf Node.order = some z) (hne : z ≠ .F2) :
    TransfersFrames sim hk feeMode buf rx ft m := by
  have hpos : 0 < 2 * ft.nElem := Nat.mul_pos two_pos hfresh.pos
  obtain ⟨L, hkSent, sent, hexec, hL, hhk, hsent⟩ := feeSimFrameTransfer_sent sim hps hk hmode buf hpos
  have hzsel := (hsel.iff z).1 (mem_of_lastSent hz).2
  have hw : Awaits buf Node.order (ft.readout &&& ~~~Node.F2.bit) :=
    ⟨Node.clear_bits hfresh.bits .F2,
      fun nd hnd => ⟨nd.mem_order, (hsel.iff nd).2 ((Node.selected_clear _ _ _).1 hnd).1⟩,
      z, hz, (Node.selected_clear _ _ _).2 ⟨hzsel, hne⟩⟩
  have hsome : sent ≠ [] := by
    rw [Ne, hsent.eq_nil_iff, hz]
    exact Option.some_ne_none z
  have hfirst := feeFtAggregate_hk_yields rx ft m hhk (length_read _ _ _).le hzsel.ne_zero
  rw [completion, if_pos hw.ne_zero] at hfirst
  have hall := hfirst.append (nodes_yield rx hsent (by omega) (by decide)
    { ft with readout := ft.readout &&& ~~~Node.F2.bit } m rfl (fun nd _ => hfresh.cnt nd) hw)
  rw [answers_append hhk.ne_nil hsome] at hall
  refine ⟨_, _, hexec, fun received hr => ?_⟩
  obtain ⟨hans, hptr, hmem⟩ := hall received hr (ft, m) ⟨ft.hk, rfl⟩
  refine ⟨hans, fun nd b hb => ?_⟩
  rw [hptr, hmem]
  refine read_stored (by decide) (fun nd nd' hne h h' => ?_) nd.mem_order hb m
  exact hfresh.disjoint nd nd' hne ((hsel.iff nd).1 h) ((hsel.iff nd').1 h')

/-- When nothing is sent after F2, the transfer is complete before its frame has arrived: with the
housekeeping block, or with the frame of E2. -/
theorem not_transfersFrames (h2 : (buf .F2).isSome) (h4 : buf .E4 = none) (h4' : buf .F4 = none) :
    ¬ TransfersFrames sim hk feeMode buf rx ft m := by
  rintro ⟨sent', cntr, hexec', hall⟩
  have hpos : 0 < 2 * ft.nElem := Nat.mul_pos two_pos hfresh.pos
  obtain ⟨L, hkSent, sent, hexec, hL, hhk, hsent⟩ := feeSimFrameTransfer_sent sim hps hk hmode buf hpos
  rw [hexec] at hexec'
  cases hexec'
  have hr := receiveAll_arrives rx m 0 (hkSent ++ sent)
  have hans := (hall _ hr).1
  have hfirst := feeFtAggregate_hk_yields rx ft m hhk (length_read _ _ _).le ((hsel.iff .F2).1 h2).ne_zero
  have honly := hsel.only_E2 h4 h4'
  cases hb : buf .E2 with
  | none =>
    have hdone : ft.readout &&& ~~~Node.F2.bit = 0 := by
      refine Node.eq_zero_of_unselected (Node.clear_bits hfresh.bits .F2) fun x hx => ?_
      have hE2 := (honly x hx).2
      rw [hb] at hE2
      cases hE2
    have hsome : sent ≠ [] := by
      rw [Ne, hsent.eq_nil_iff]
      exact lastSent_ne_none (Node.mem_order .F2) h2
    rw [hdone] at hfirst
    exact hfirst.ne_answers hsome one_ne_zero hr ⟨ft.hk, rfl⟩ hans
  | some b =>
    have hE2 : Node.E2.Selected (ft.readout &&& ~~~Node.F2.bit) :=
      (Node.selected_clear _ _ _).2 ⟨(hsel.iff .E2).1 (by rw [hb]; rfl), by decide⟩
    have hdone : ft.readout &&& ~~~Node.F2.bit &&& ~~~Node.E2.bit = 0 := by
      refine Node.eq_zero_of_unselected (Node.clear_bits (Node.clear_bits hfresh.bits .F2) .E2) fun x hx => ?_
      obtain ⟨hx, hxne⟩ := (Node.selected_clear _ _ _).1 hx
      exact hxne (honly x hx).1
    rw [completion, if_pos hE2.ne_zero] at hfirst
    cases hsent with
    | skip hb' => rw [hb] at hb'; cases hb'
    | @send _ b' _ e2Sent rest hb' hseg hrest =>
      have hsome : rest ≠ [] := by
        rw [Ne, hrest.eq_nil_iff]
        exact lastSent_ne_none List.mem_cons_self h2
      have hsecond := feeFtAggregate_node_yields rx { ft with readout := ft.readout &&& ~~~Node.F2.bit } m hseg
        (by omega) (length_read _ _ _) (hfresh.cnt .E2) hE2.ne_zero
      rw [hdone] at hsecond
      have hboth := hfirst.append hsecond
      rw [answers_append hhk.ne_nil hseg.ne_nil] at hboth
      rw [← List.append_assoc] at hr hans
      exact hboth.ne_answers hsome one_ne_zero hr ⟨ft.hk, rfl⟩ hans

end

/-- A transfer that sends the frame of F2 only, with a packet size of 1024: the housekeeping packet is
answered with 1. -/
theorem frameTransfer_F2_fails :
    let sim : Sim := { mir := ⟨.little, 0, 0x1000⟩, mem := Mem.write (fun _ => 0) 16 [0, 0, 4, 0] }
    let dpu : Mirror := ⟨.little, 0, 0x1000⟩
    let m : Mem := Mem.write (Mem.write (fun _ => 0) 20 [0x10, 0, 0, 0]) 84 [0x30, 0, 0, 0]
    let buf : Node → Option Mem := fun nd => if nd = .F2 then some (fun x => BitVec.ofNat 8 x) else none
    ∃ ft, feeFtAggregatorCreate dpu m 0x2000 0x3000 = some ft ∧ 14 ≤ (sim.mir.smileFeeGetPacketSize sim.mem).toNat ∧
      (∀ nd, (buf nd).isSome ↔ nd.Selected (dpu.smileFeeGetReadoutNodeSel m)) ∧ dpu.smileFeeGetReadoutNodeSel m ≠ 0 ∧
      ¬ TransfersFrames sim (fun _ => 0) FEE_MODE_ID_FTP buf dpu.host ft m := by
  intro sim dpu m buf
  obtain ⟨ft, hft⟩ : ∃ ft, feeFtAggregatorCreate dpu m 0x2000 0x3000 = some ft := Option.isSome_iff_exists.1 (by decide)
  obtain ⟨hreadout, hfresh⟩ := feeFtAggregatorCreate_spec hft
  have hsel : ∀ nd, (buf nd).isSome ↔ nd.Selected (dpu.smileFeeGetReadoutNodeSel m) := by decide
  exact ⟨ft, hft, by decide, hsel, by decide, not_transfersFrames (by decide) _ (.inl rfl) _ hfresh
    ⟨hreadout ▸ hsel, .F2, rfl⟩ m rfl rfl rfl⟩

/-- **Frame transfer, end to end**: it is as it should be exactly when F2 is not the last node selected. -/
theorem frameTransfer_iff (sim : Sim) (hps : 14 ≤ (sim.mir.smileFeeGetPacketSize sim.mem).toNat) (hk : Mem)
    {feeMode : U8} (hmode : feeMode = FEE_MODE_ID_FTP ∨ feeMode = FEE_MODE_ID_FT) (buf : Node → Option Mem) (dpu : Mirror) (m : Mem)
    (hsel : ∀ nd, (buf nd).isSome ↔ nd.Selected (dpu.smileFeeGetReadoutNodeSel m))
    (hne : dpu.smileFeeGetReadoutNodeSel m ≠ 0) {ptr data : Nat} {ft : FeeFtData}
    (hft : feeFtAggregatorCreate dpu m ptr data = some ft) :
    TransfersFrames sim hk feeMode buf dpu.host ft m ↔
      ¬ (Node.F2.Selected (dpu.smileFeeGetReadoutNodeSel m) ∧ ¬ Node.E4.Selected (dpu.smileFeeGetReadoutNodeSel m) ∧
        ¬ Node.F4.Selected (dpu.smileFeeGetReadoutNodeSel m)) := by
  obtain ⟨hreadout, hfresh⟩ := feeFtAggregatorCreate_spec hft
  obtain ⟨nd, hnd⟩ := Node.selected_of_ne_zero (smileFeeGetReadoutNodeSel_bits dpu m) hne
  have hsame : SameSelection buf ft := ⟨hreadout ▸ hsel, nd, (hsel nd).2 hnd⟩
  simp only [← hsel]
  constructor
  · rintro htrans ⟨h2, h4, h4'⟩
    rw [Bool.not_eq_true, Option.isSome_eq_false_iff, Option.isNone_iff_eq_none] at h4 h4'
    exact not_transfersFrames hps hk hmode dpu.host hfresh hsame m h2 h4 h4' htrans
  · intro hnot
    cases hz : lastSent buf Node.order with
    | none => exact absurd hz (lastSent_ne_none nd.mem_order ((hsel nd).2 hnd))
    | some z =>
      refine transfersFrames_of_lastSent hps hk hmode dpu.host hfresh hsame m hz ?_
      rintro rfl
      refine hnot ⟨(mem_of_lastSent hz).2, fun h4 => ?_, fun h4' => ?_⟩
      · cases h4' : (buf .F4).isSome <;> simp [Node.order, lastSent, h4, h4'] at hz
      · simp [Node.order, lastSent, h4'] at hz

/-- The E sides of both CCDs are selected. -/
theorem frameTransfer_iff_E2_E4 :
    let sim : Sim := { mir := ⟨.little, 0, 0x1000⟩, mem := Mem.write (fun _ => 0) 16 [0, 0, 4, 0] }
    let dpu : Mirror := ⟨.little, 0, 0x1000⟩
    let m : Mem := Mem.write (Mem.write (fun _ => 0) 20 [0xA0, 0, 0, 0]) 84 [0x30, 0, 0, 0]
    let buf : Node → Option Mem := fun nd => if nd = .E2 ∨ nd = .E4 then some (fun x => BitVec.ofNat 8 x) else none
    ∃ ft, feeFtAggregatorCreate dpu m 0x2000 0x3000 = some ft ∧
      TransfersFrames sim (fun _ => 0) FEE_MODE_ID_FTP buf dpu.host ft m := by
  intro sim dpu m buf
  obtain ⟨ft, hft⟩ : ∃ ft, feeFtAggregatorCreate dpu m 0x2000 0x3000 = some ft := Option.isSome_iff_exists.1 (by decide)
  exact ⟨ft, hft, (frameTransfer_iff sim (by decide) (fun _ => 0) (.inl rfl) buf dpu m (by decide) (by decide) hft).2
    (by decide)⟩

end SmileFee
