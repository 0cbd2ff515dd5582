import SmileFee.SimTransfer

/-!
# A full frame from the simulator to the aggregator

The packets of `fee_sim_exec_ff_mode` go to `fee_ff_aggregate`, each through `fee_pkt_hdr_to_cpu`.
Sender and receiver may have different byte orders.

The housekeeping block comes first. Its last packet is marked as last too, but the marker counts in
data packets only (`feeFfAggregate_hk`): all its packets are answered with 0. **`fullFrame_transfer`**
puts the two parts together.
-/

namespace SmileFee

open Word Mem Feed

/-! ## The frame -/

theorem feeSimFfFrame_apply (E F frame : Nat → U16) (n i : Nat) :
    feeSimFfFrame E F frame n i = if i / 2 < n then if i % 2 = 0 then F (i / 2) else E (i / 2) else frame i := by
  induction n with
  | zero => simp [feeSimFfFrame]
  | succ n ih =>
    unfold feeSimFfFrame
    by_cases h1 : i = 2 * n + 1
    · subst h1
      rw [Function.update_self, if_pos (by omega), if_neg (by omega)]
      congr 1; omega
    · rw [Function.update_of_ne h1]
      by_cases h0 : i = 2 * n
      · subst h0
        rw [Function.update_self, if_pos (by omega), if_pos (by omega)]
        congr 1; omega
      · rw [Function.update_of_ne h0, ih]
        have hiff : i / 2 < n + 1 ↔ i / 2 < n := by omega
        simp only [hiff]

/-- Every frame can be what is transmitted, for the right images of the two sides. -/
theorem ffFrame_surjective (sim : Sim) (frame : Nat → U16) :
    ∃ ccd, Sim.ffFrame { sim with ccd } frame = frame := by
  refine ⟨fun nd i => if nd = .F2 ∨ nd = .F4 then frame (2 * i) else frame (2 * i + 1), funext fun i => ?_⟩
  have hpix : ∀ i, (if i % 2 = 0 then frame (2 * (i / 2)) else frame (2 * (i / 2) + 1)) = frame i := by
    intro i
    split <;> (congr 1; omega)
  unfold Sim.ffFrame
  split <;> simp [feeSimFfFrame_apply, hpix]

/-! ## The aggregator -/

/-- A state of the aggregator, whatever the housekeeping block. -/
def FfAt (ff : FeeFfData) (m : Mem) (s : FeeFfData × Mem) : Prop := ∃ hk, s = ({ ff with hk }, m)

section

variable (rx : Host) {L : Nat} {data : List U8} {sent : List (List U8)} (ff : FeeFfData) (m : Mem)

/-- The housekeeping packets change nothing but the block, and none of them ends the frame. -/
theorem feeFfAggregate_hk_yields (hs : Segmented (Transports hkKind) L data sent)
    (hlen : data.length ≤ FEE_HK_PACKET_DATA_LEN) :
    Yields (Arrives rx) feeFfAggregate (FfAt ff m) sent (answers sent 0 0) (FfAt ff m) := by
  have hstep : ∀ c last x pkt s, c.length ≤ data.length → Transports hkKind c last x → Arrives rx x pkt →
      FfAt ff m s → (feeFfAggregate s pkt).1 = 0 ∧ FfAt ff m (feeFfAggregate s pkt).2 := by
    rintro c last x pkt _ hc hx hpkt ⟨hk, rfl⟩
    rw [feeFfAggregate_hk (hx rx pkt hpkt) _ _ rfl (by omega)]
    exact ⟨rfl, _, rfl⟩
  refine hs.yields (I := fun _ => FfAt ff m) 1 (one_dvd L) ?_ ?_
  · intro done c x pkt s _ hlt hx hpkt hI
    exact hstep c false x pkt s (by omega) hx hpkt hI
  · intro done c x pkt s _ _ hd hx hpkt hI
    exact hstep c true x pkt s (by rw [← hd]; simp) hx hpkt hI

/-- After the bytes `done` of the frame. -/
def FfReceived (done : List U8) : FeeFfData × Mem → Prop :=
  FfAt { ff with n := done.length / 2 } (m.write ff.data done)

/-- A data packet is appended to what has been received. -/
theorem FfReceived.append {k : Kind} (hk : k.pktType = FEE_PKT_TYPE_DATA) {done c : List U8} (heven : 2 ∣ done.length)
    (hcap : done.length / 2 < ff.nElem + c.length / 2) {last : Bool} {pkt : FeeDataPkt} (hpkt : pkt.Carries k c last)
    {s : FeeFfData × Mem} (hs : FfReceived ff m done s) :
    (feeFfAggregate s pkt).1 = (if last then 1 else 0) ∧ FfReceived ff m (done ++ c) (feeFfAggregate s pkt).2 := by
  obtain ⟨hkb, rfl⟩ := hs
  have hadd : done.length / 2 + c.length / 2 = (done ++ c).length / 2 := by
    rw [List.length_append, Nat.add_div_of_dvd_right heven]
  have hback : 2 * (done.length / 2) = done.length := Nat.mul_div_cancel' heven
  rw [feeFfAggregate_data hpkt _ _ hk hcap]
  refine ⟨rfl, hkb, ?_⟩
  simp only [hadd, hback, write_write_append]

/-- The data packets are answered with 0 until the last one, and the frame is stored. -/
theorem feeFfAggregate_data_yields {k : Kind} (hk : k.pktType = FEE_PKT_TYPE_DATA)
    (hs : Segmented (Transports k) L data sent) (hL : 2 ∣ L) (hlen : data.length = 2 * ff.nElem) (hn : ff.n = 0) :
    Yields (Arrives rx) feeFfAggregate (FfAt ff m) sent (answers sent 0 1) (FfReceived ff m data) := by
  have h0 : FfReceived ff m [] = FfAt ff m := by
    rw [FfReceived, write_nil, List.length_nil, Nat.zero_div, ← hn]
  rw [← h0]
  refine hs.yields (I := FfReceived ff m) 2 hL ?_ ?_
  · intro done c x pkt s heven hlt hx hpkt hI
    exact hI.append ff m hk heven (by omega) (hx rx pkt hpkt)
  · intro done c x pkt s heven hlt hd hx hpkt hI
    rw [← hd]
    exact hI.append ff m hk heven (by omega) (hx rx pkt hpkt)

end

/-! ## End to end -/

theorem feeFfAggregatorCreate_some (s : Mirror) (m : Mem) {ptr buf : Nat} (hptr : ptr ≠ 0) (hbuf : buf ≠ 0) :
    ∃ ff, feeFfAggregatorCreate s m ptr buf = some ff ∧ ff.n = 0 ∧
      ff.nElem = FEE_CCD_IMG_SEC_ROWS * FEE_CCD_IMG_SEC_COLS := by
  rw [feeFfAggregatorCreate, if_neg hptr, if_neg hbuf]
  exact ⟨_, rfl, rfl, rfl⟩

/-- **Full frame, end to end**: however the packets of a full frame lie in the memory of the receiver,
all are answered with 0 but the last one with 1, and the buffer holds the frame, byte by byte and so
element by element in the byte order of the sender. -/
theorem fullFrame_transfer (sim : Sim) (hps : 14 ≤ (sim.mir.smileFeeGetPacketSize sim.mem).toNat) (hk : Mem)
    (frame : Nat → U16) (feeMode : U8) (dpu : Mirror) (m : Mem) {ptr buf : Nat} (hptr : ptr ≠ 0) (hbuf : buf ≠ 0) :
    ∃ sent ff, feeSimExecFfMode sim hk frame feeMode = some sent ∧ feeFfAggregatorCreate dpu m ptr buf = some ff ∧
      ∀ received, List.Forall₂ (Arrives dpu.host) sent received →
        let r := feed feeFfAggregate (ff, m) received
        r.1 = List.replicate (sent.length - 1) 0 ++ [1] ∧ r.2.1.n = r.2.1.nElem ∧
        r.2.1.nElem = FEE_CCD_IMG_SEC_ROWS * FEE_CCD_IMG_SEC_COLS ∧
        r.2.2.read r.2.1.data (2 * r.2.1.nElem) =
          (ofHalfwords sim.mir.host (sim.ffFrame frame)).read 0 (2 * r.2.1.nElem) ∧
        ∀ i < r.2.1.nElem, load16 sim.mir.host r.2.2 (r.2.1.data + 2 * i) = sim.ffFrame frame i := by
  obtain ⟨L, k, hkSent, dataSent, hexec, hL, hkind, hhk, hdata⟩ := feeSimExecFfMode_segmented sim hps hk frame feeMode
  obtain ⟨ff, hff, hn, hnElem⟩ := feeFfAggregatorCreate_some dpu m hptr hbuf
  refine ⟨_, ff, hexec, hff, fun received hr => ?_⟩
  rw [← hnElem] at hdata
  have hlen := length_read (ofHalfwords sim.mir.host (sim.ffFrame frame)) 0 (2 * ff.nElem)
  -- the housekeeping block leaves the frame as it is, and the data packets fill it
  have hall := (feeFfAggregate_hk_yields dpu.host ff m hhk (length_read _ _ _).le).append
    (feeFfAggregate_data_yields dpu.host ff m hkind hdata (by omega) hlen hn)
  rw [answers_append hhk.ne_nil hdata.ne_nil] at hall
  obtain ⟨hans, hkb, hst⟩ := hall received hr (ff, m) ⟨ff.hk, rfl⟩
  have hread : (m.write ff.data _).read ff.data (2 * ff.nElem) = _ := read_write_same' m ff.data _ _ hlen.symm
  simp only [hst, hlen, Nat.mul_div_cancel_left _ two_pos]
  exact ⟨hans, trivial, hnElem, hread, fun i hi => load16_of_read_eq hread hi⟩

/-- A packet size of 1024, a little-endian sender and a big-endian receiver. -/
theorem fullFrame_transfer_1024 :
    let sim : Sim := { mir := ⟨.little, 0, 0x1000⟩, mem := Mem.write (fun _ => 0) 16 [0, 0, 4, 0] }
    ∃ sent ff, feeSimExecFfMode sim (fun _ => 0xEE) (fun _ => 0xEEEE) FEE_MODE_ID_FF = some sent ∧
      feeFfAggregatorCreate ⟨.big, 0, 0x1000⟩ (fun _ => 0) 0x2000 0x3000 = some ff ∧
      (feed feeFfAggregate (ff, fun _ => 0) (receiveAll .big (fun _ => 0) 0x100 sent)).1 =
        List.replicate (sent.length - 1) 0 ++ [1] := by
  intro sim
  obtain ⟨sent, ff, hsent, hff, hrecv⟩ := fullFrame_transfer sim (by decide) (fun _ => 0xEE) (fun _ => 0xEEEE)
    FEE_MODE_ID_FF ⟨.big, 0, 0x1000⟩ (fun _ => 0) (show 0x2000 ≠ 0 by decide) (show 0x3000 ≠ 0 by decide)
  exact ⟨sent, ff, hsent, hff, (hrecv _ (receiveAll_arrives .big (fun _ => 0) 0x100 sent)).1⟩

end SmileFee
