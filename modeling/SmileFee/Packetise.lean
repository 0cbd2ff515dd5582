import SmileFee.SimTransfer

/-!
# What a transfer of the simulator puts on the wire (`SIM/fee_sim.c:1105-1229`)

One packet is filled, swapped, sent and swapped back for every segment. `Sent` is the loop without
the swaps: from the header with which the loop is entered to the packets, each a header and its
payload, and to the header left behind.

**`feeSimTxPayloadData_packetises`**: the buffer in packets, numbered and marked.
-/

namespace SmileFee

open Word Mem

/-! ## Packets on the wire -/

/-- The header in network order, then the payload. -/
def wire (p : FeeDataHdr × List U8) : List U8 :=
  [p.1.logicalAddr, p.1.protoId,
    u8 (p.1.dataLen >>> 8), u8 p.1.dataLen, u8 (p.1.feePktType >>> 8), u8 p.1.feePktType,
    u8 (p.1.frameCntr >>> 8), u8 p.1.frameCntr, u8 (p.1.seqCntr >>> 8), u8 p.1.seqCntr] ++ p.2

@[simp] theorem length_wire (p : FeeDataHdr × List U8) : (wire p).length = SIZEOF_HDR + p.2.length := by
  simp +arith [wire, SIZEOF_HDR]

theorem feeSimSendDataPayload_wire (h : Host) {pld : FeeDataPayload} {c : List U8}
    (hlen : pld.pkt.hdr.dataLen.toNat = c.length) (hdata : pld.pkt.data.read 0 c.length = c) :
    (feeSimSendDataPayload h pld).1 = wire (pld.pkt.hdr, c) := by
  simp only [feeSimSendDataPayload, FeeDataPayload.updHdr, FeeDataPayload.updPkt, FeeDataPkt.updHdr, feeSimHdrCpuToTgt,
    FeeDataPkt.bytes, FeeDataHdr.bytes_swap, Nat.add_sub_cancel, hlen, hdata, wire]

/-! ## The loop -/

/-- The header of the last packet. -/
def FeeDataHdr.finish (hdr : FeeDataHdr) (len : Nat) : FeeDataHdr :=
  feeSimHdrSetLastPkt (feeSimHdrSetDataLen hdr (BitVec.ofNat 16 len)) 1

/-- What is sent for the data from a header on, and the header after it. -/
inductive Sent (L : Nat) : FeeDataHdr → List U8 → List (FeeDataHdr × List U8) → FeeDataHdr → Prop
  | last {hdr : FeeDataHdr} {c : List U8} : c ≠ [] → c.length ≤ L →
      Sent L hdr c [(hdr.finish c.length, c)] (feeSimHdrIncSeqCntr (hdr.finish c.length))
  | more {hdr hdr' : FeeDataHdr} {c data : List U8} {ps : List (FeeDataHdr × List U8)} : c.length = L → data ≠ [] →
      Sent L (feeSimHdrIncSeqCntr hdr) data ps hdr' → Sent L hdr (c ++ data) ((hdr, c) :: ps) hdr'

/-- The header of a packet with a full payload that is not the last. -/
structure FeeDataHdr.Full (L : Nat) (hdr : FeeDataHdr) : Prop where
  lastPkt : hdr.lastPkt = 0
  dataLen : hdr.dataLen.toNat = L

theorem feeSimTxLoop_sent (h : Host) (buf : Mem) {n : Nat} (hn : 0 < n) (i : Nat) (pld : FeeDataPayload)
    (hfull : pld.pkt.hdr.Full pld.dataLenMax) : ∃ ps,
      (feeSimTxLoop h buf i n pld).1 = ps.map wire ∧
      Sent pld.dataLenMax pld.pkt.hdr (buf.read i n) ps (feeSimTxLoop h buf i n pld).2.pkt.hdr := by
  induction i, n, pld using feeSimTxLoop_induct buf with
  | zero => exact absurd hn (Nat.lt_irrefl 0)
  | more i n pld hlt ih =>
    -- the header is as it was but for the counter
    obtain ⟨ps, hps, hsent⟩ := ih (Nat.sub_pos_of_lt hlt) ⟨hfull.lastPkt, hfull.dataLen⟩
    have hsplit : buf.read i n =
        buf.read i pld.dataLenMax ++ buf.read (i + pld.dataLenMax) (n - pld.dataLenMax) := by
      rw [← read_add, Nat.add_sub_cancel' hlt.le]
    have hlen : (pld.copy (buf.read i pld.dataLenMax)).pkt.hdr.dataLen.toNat =
        (buf.read i pld.dataLenMax).length := by rw [length_read]; exact hfull.dataLen
    have hwire := feeSimSendDataPayload_wire h hlen (read_write_same _ _ _)
    rw [feeSimTxLoop_more h buf i hlt, hsplit]
    refine ⟨_ :: ps, congrArg₂ List.cons hwire hps, .more (length_read _ _ _) ?_ hsent⟩
    exact List.ne_nil_of_length_pos (by simp; omega)
  | last i n pld _ hle =>
    have hlen : (pld.finish (buf.read i n)).pkt.hdr.dataLen.toNat = (buf.read i n).length := by
      refine (BitVec.toNat_ofNat (buf.read i n).length 16).trans (Nat.mod_eq_of_lt ?_)
      rw [length_read]
      exact hle.trans_lt pld.lt
    have hwire := feeSimSendDataPayload_wire h hlen (read_write_same _ _ _)
    rw [feeSimTxLoop_last h buf i hn hle]
    refine ⟨[_], congrArg (· :: []) hwire, .last ?_ (by simpa using hle)⟩
    exact List.ne_nil_of_length_pos (by simpa using hn)

/-- The header with which the loop is entered. -/
def FeeDataHdr.start (hdr : FeeDataHdr) (L : Nat) : FeeDataHdr :=
  feeSimHdrSetDataLen (feeSimHdrSetLastPkt hdr 0) (BitVec.ofNat 16 L)

theorem FeeDataHdr.start_full (hdr : FeeDataHdr) {L : Nat} (hL : L < 2 ^ 16) : (hdr.start L).Full L where
  lastPkt := (lastPkt_setLastPkt hdr 0).trans (by decide)
  dataLen := (BitVec.toNat_ofNat L 16).trans (Nat.mod_eq_of_lt hL)

theorem feeSimTxPayloadData_sent (h : Host) (pld : FeeDataPayload) (buf : Mem) {n : Nat} (hn : 0 < n) : ∃ ps,
    (feeSimTxPayloadData h pld buf n).1 = ps.map wire ∧
    Sent pld.dataLenMax (pld.pkt.hdr.start pld.dataLenMax) (buf.read 0 n) ps
      (feeSimTxPayloadData h pld buf n).2.pkt.hdr :=
  feeSimTxLoop_sent h buf hn 0
    ((pld.updHdr (feeSimHdrSetLastPkt · 0)).updHdr (feeSimHdrSetDataLen · (BitVec.ofNat 16 pld.dataLenMax)))
    (pld.pkt.hdr.start_full pld.lt)

/-! ## The headers and the payloads -/

/-- The fields that the transfer leaves as they are: of the packet type all bits but the marker of the
last packet. -/
structure FeeDataHdr.Keeps (hdr hdr' : FeeDataHdr) : Prop where
  logicalAddr : hdr'.logicalAddr = hdr.logicalAddr
  protoId : hdr'.protoId = hdr.protoId
  frameCntr : hdr'.frameCntr = hdr.frameCntr
  feePktType : ∀ i, i ≠ 7 → hdr'.feePktType.getLsbD i = hdr.feePktType.getLsbD i

theorem FeeDataHdr.Keeps.refl (hdr : FeeDataHdr) : hdr.Keeps hdr := ⟨rfl, rfl, rfl, fun _ _ => rfl⟩

theorem FeeDataHdr.Keeps.trans {hdr hdr' hdr'' : FeeDataHdr} (h : hdr.Keeps hdr') (h' : hdr'.Keeps hdr'') :
    hdr.Keeps hdr'' where
  logicalAddr := h'.logicalAddr.trans h.logicalAddr
  protoId := h'.protoId.trans h.protoId
  frameCntr := h'.frameCntr.trans h.frameCntr
  feePktType i hi := (h'.feePktType i hi).trans (h.feePktType i hi)

theorem FeeDataHdr.keeps_setLastPkt (hdr : FeeDataHdr) (last : U8) : hdr.Keeps (feeSimHdrSetLastPkt hdr last) where
  logicalAddr := rfl
  protoId := rfl
  frameCntr := rfl
  feePktType i hi := by
    have hbit : ((0x1 : U16) <<< 7).getLsbD i = false := by
      simp only [BitVec.getLsbD_shiftLeft]
      grind
    simp only [feeSimHdrSetLastPkt, FeeDataHdr.setType, getLsbD_setField, hbit, Bool.false_eq_true, if_false]

theorem FeeDataHdr.keeps_incSeqCntr (hdr : FeeDataHdr) : hdr.Keeps (feeSimHdrIncSeqCntr hdr) :=
  ⟨rfl, rfl, rfl, fun _ _ => rfl⟩

theorem FeeDataHdr.keeps_setDataLen (hdr : FeeDataHdr) (len : U16) : hdr.Keeps (feeSimHdrSetDataLen hdr len) :=
  ⟨rfl, rfl, rfl, fun _ _ => rfl⟩

theorem FeeDataHdr.keeps_finish (hdr : FeeDataHdr) (len : Nat) : hdr.Keeps (hdr.finish len) :=
  (hdr.keeps_setDataLen _).trans (FeeDataHdr.keeps_setLastPkt _ 1)

theorem FeeDataHdr.keeps_start (hdr : FeeDataHdr) (L : Nat) : hdr.Keeps (hdr.start L) :=
  (hdr.keeps_setLastPkt 0).trans (FeeDataHdr.keeps_setDataLen _ _)

/-- The counter wraps around at `2 ^ 16`. -/
theorem incSeqCntr_add (hdr : FeeDataHdr) (k : Nat) :
    (feeSimHdrIncSeqCntr hdr).seqCntr + BitVec.ofNat 16 k = hdr.seqCntr + BitVec.ofNat 16 (k + 1) := by
  simp only [feeSimHdrIncSeqCntr]
  bv_omega

/-- Packet `k` of `count`, sent with `len` bytes of payload by a transfer that finds the header `hdr`. -/
structure FeeDataHdr.Numbered (hdr hdr' : FeeDataHdr) (k count len : Nat) : Prop extends hdr.Keeps hdr' where
  dataLen : hdr'.dataLen.toNat = len
  lastPkt : hdr'.lastPkt = if k + 1 = count then 1 else 0
  seqCntr : hdr'.seqCntr = hdr.seqCntr + BitVec.ofNat 16 k

/-! ## The whole transfer -/

section

variable {L : Nat} {hdr hdr' : FeeDataHdr} {data : List U8} {ps : List (FeeDataHdr × List U8)}

/-- Every payload but the last is full. -/
theorem Sent.count (hL : 0 < L) (h : Sent L hdr data ps hdr') : ps.length = (data.length + L - 1) / L := by
  induction h with
  | @last _ c hne hle =>
    have hpos := List.length_pos_of_ne_nil hne
    have hone : (c.length + L - 1) / L = 1 := Nat.div_eq_of_lt_le (by omega) (by omega)
    rw [hone, List.length_singleton]
  | more hlen _ _ ih =>
    rw [List.length_cons, ih, List.length_append, hlen, ← Nat.add_div_right _ hL]
    congr 1
    omega

theorem Sent.payload (h : Sent L hdr data ps hdr') : ps.flatMap Prod.snd = data := by
  induction h with
  | last _ _ => exact List.append_nil _
  | more _ _ _ ih => rw [List.flatMap_cons, ih]

theorem Sent.bounds (hL : 0 < L) (h : Sent L hdr data ps hdr') : ∀ p ∈ ps, 0 < p.2.length ∧ p.2.length ≤ L := by
  induction h with
  | last hne hle => simpa using ⟨List.length_pos_of_ne_nil hne, hle⟩
  | more hlen _ _ ih => exact List.forall_mem_cons.2 ⟨by simp only [hlen]; omega, ih⟩

theorem Sent.ne_nil (h : Sent L hdr data ps hdr') : ps ≠ [] := by
  cases h <;> exact List.cons_ne_nil _ _

theorem Sent.numbered (hL : L < 2 ^ 16) (h : Sent L hdr data ps hdr') (hfull : hdr.Full L) :
    ∀ k p, ps[k]? = some p → hdr.Numbered p.1 k ps.length p.2.length := by
  induction h with
  | @last hdr c hne hle =>
    intro k p hp
    cases k with
    | succ k => cases hp
    | zero =>
      cases hp
      have hdataLen : (BitVec.ofNat 16 c.length).toNat = c.length := by
        rw [BitVec.toNat_ofNat, Nat.mod_eq_of_lt (by omega)]
      have hlast : (hdr.finish c.length).lastPkt = 1 := (lastPkt_setLastPkt _ _).trans (by decide)
      exact { hdr.keeps_finish c.length with
        dataLen := hdataLen
        lastPkt := hlast
        seqCntr := (BitVec.add_zero hdr.seqCntr).symm }
  | @more hdr _ c _ ps hlen hne hrest ih =>
    intro k p hp
    cases k with
    | zero =>
      cases hp
      have hmore : 0 < ps.length := List.length_pos_iff.2 hrest.ne_nil
      exact { FeeDataHdr.Keeps.refl hdr with
        dataLen := hfull.dataLen.trans hlen.symm
        lastPkt := by rw [hfull.lastPkt, if_neg (by rw [List.length_cons]; omega)]
        seqCntr := (BitVec.add_zero hdr.seqCntr).symm }
    | succ k =>
      have hnum := ih ⟨hfull.lastPkt, hfull.dataLen⟩ k p hp
      exact { hdr.keeps_incSeqCntr.trans hnum.toKeeps with
        dataLen := hnum.dataLen
        lastPkt := by simp only [hnum.lastPkt, List.length_cons, Nat.add_right_cancel_iff]
        seqCntr := by rw [hnum.seqCntr, incSeqCntr_add] }

theorem Sent.keeps (h : Sent L hdr data ps hdr') : hdr.Keeps hdr' := by
  induction h with
  | last _ _ => exact (FeeDataHdr.keeps_finish _ _).trans (FeeDataHdr.keeps_incSeqCntr _)
  | more _ _ _ ih => exact (FeeDataHdr.keeps_incSeqCntr _).trans ih

theorem Sent.seqCntr (h : Sent L hdr data ps hdr') : hdr'.seqCntr = hdr.seqCntr + BitVec.ofNat 16 ps.length := by
  induction h with
  | last _ _ => rfl
  | more _ _ _ ih => rw [ih, incSeqCntr_add, List.length_cons]

end

/-- What a transfer of `data` in payloads of at most `L` bytes does, from the header `hdr` to `hdr'`. -/
structure Packetised (L : Nat) (hdr : FeeDataHdr) (data : List U8) (sent : List (List U8)) (hdr' : FeeDataHdr) :
    Prop where
  /-- The number of packets is `⌈n / L⌉`. -/
  count : sent.length = (data.length + L - 1) / L
  pkts : ∃ ps : List (FeeDataHdr × List U8), sent = ps.map wire ∧ ps.flatMap Prod.snd = data ∧
    (∀ p ∈ ps, 1 ≤ p.2.length ∧ p.2.length ≤ L) ∧
    ∀ k p, ps[k]? = some p → hdr.Numbered p.1 k ps.length p.2.length
  keeps : hdr.Keeps hdr'
  seqCntr : hdr'.seqCntr = hdr.seqCntr + BitVec.ofNat 16 sent.length

/-- **The buffer goes out in packets**: full ones and a last one, marked, that has what is left; the
counter goes up with every packet, and the header is left in the byte order of the host. -/
theorem feeSimTxPayloadData_packetises (h : Host) (pld : FeeDataPayload) (buf : Mem) {n : Nat} (hn : 0 < n) :
    Packetised pld.dataLenMax pld.pkt.hdr (buf.read 0 n) (feeSimTxPayloadData h pld buf n).1
      (feeSimTxPayloadData h pld buf n).2.pkt.hdr := by
  obtain ⟨ps, hps, hsent⟩ := feeSimTxPayloadData_sent h pld buf hn
  have hstart := pld.pkt.hdr.keeps_start pld.dataLenMax
  have hnum := hsent.numbered pld.lt (pld.pkt.hdr.start_full pld.lt)
  have hlen : (feeSimTxPayloadData h pld buf n).1.length = ps.length := by rw [hps, List.length_map]
  refine ⟨hlen.trans (hsent.count pld.pos), ⟨ps, hps, hsent.payload, hsent.bounds pld.pos, fun k p hp => ?_⟩,
    hstart.trans hsent.keeps, by rw [hlen]; exact hsent.seqCntr⟩
  exact { hnum k p hp with toKeeps := hstart.trans (hnum k p hp).toKeeps }

/-- Five bytes in payloads of two, with the counter about to wrap around. -/
theorem feeSimTxPayloadData_five :
    let pld : FeeDataPayload := ⟨{ hdr := { seqCntr := 0xFFFF } }, 2, by decide, by decide⟩
    0 < 5 ∧ Packetised 2 pld.pkt.hdr [0, 1, 2, 3, 4] (feeSimTxPayloadData .little pld (BitVec.ofNat 8) 5).1
      (feeSimTxPayloadData .little pld (BitVec.ofNat 8) 5).2.pkt.hdr :=
  ⟨by decide, feeSimTxPayloadData_packetises .little ⟨{ hdr := { seqCntr := 0xFFFF } }, 2, by decide, by decide⟩
    (BitVec.ofNat 8) (n := 5) (by decide)⟩

end SmileFee
