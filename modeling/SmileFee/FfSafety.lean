import SmileFee.FeeData

/-!
# Where full-frame data is written (`FEE/smile_fee.c:364-462`)

`fee_ff_aggregate` copies housekeeping to a block of its own and image data behind what has arrived of the
frame. As for frame transfer, its check of the image data compares `n - n_elem`, where `n_elem` is the number
of elements of the packet, instead of `n + n_elem`: up to the end of the buffer every packet is accepted.

A frame fills the buffer exactly. **`ffAggregate_safe_iff`** says which packets are handled safely, along
any run from `fee_ff_aggregator_create`.
-/

namespace SmileFee

open Word Mem Feed

/-- A `memcpy` of `fee_ff_aggregate`, by its destination and length. -/
inductive FfCopy where
  | hk (len : Nat)
  | data (a len : Nat)

/-- The copy made for a packet. -/
def FeeFfData.copies (ff : FeeFfData) (pkt : FeeDataPkt) : Option FfCopy :=
  let dataLen := pkt.hdr.dataLen.toNat
  if pkt.hdr.pktType = FEE_PKT_TYPE_HK then
    if dataLen ≤ FEE_HK_PACKET_DATA_LEN then some (.hk dataLen) else none
  else if pkt.hdr.pktType = FEE_PKT_TYPE_DATA then
    if (ff.n : Int) - (dataLen / 2 : Nat) < ff.nElem then some (.data (ff.data + 2 * ff.n) dataLen) else none
  else none

/-- What a copy does to the aggregator and to the memory. -/
def FfCopy.apply (pkt : FeeDataPkt) (s : FeeFfData × Mem) : FfCopy → FeeFfData × Mem
  | hk len => ({ s.1 with hk := s.1.hk.write 0 (pkt.data.read 0 len) }, s.2)
  | data a len => ({ s.1 with n := s.1.n + len / 2 }, s.2.write a (pkt.data.read 0 len))

/-- The destination is inside the housekeeping block, or inside `data[0..n_elem)`. -/
def FfCopy.Inside (ff : FeeFfData) : FfCopy → Prop
  | hk len => len ≤ FEE_HK_PACKET_DATA_LEN
  | data a len => ff.data ≤ a ∧ a + len ≤ ff.data + 2 * ff.nElem

/-- The aggregator and the memory change by the copy that is made, if any, and nothing else. -/
theorem ffAggregate_snd (s : FeeFfData × Mem) (pkt : FeeDataPkt) : (feeFfAggregate s pkt).2 =
    match s.1.copies pkt with
    | some c => c.apply pkt s
    | none => s := by
  obtain ⟨ff, m⟩ := s
  simp only [feeFfAggregate, FeeFfData.copies]
  split_ifs <;> rfl

/-- A packet of data is refused where nothing is copied. -/
theorem ffAggregate_fst (s : FeeFfData × Mem) {pkt : FeeDataPkt}
    (ht : pkt.hdr.pktType = FEE_PKT_TYPE_HK ∨ pkt.hdr.pktType = FEE_PKT_TYPE_DATA) :
    (feeFfAggregate s pkt).1 = -1 ↔ s.1.copies pkt = none := by
  have hne : FEE_PKT_TYPE_DATA ≠ FEE_PKT_TYPE_HK := by decide
  obtain ⟨ff, m⟩ := s
  rcases ht with ht | ht
  · simp only [feeFfAggregate, FeeFfData.copies, ht, if_true]
    split_ifs <;> simp
  · simp only [feeFfAggregate, FeeFfData.copies, ht, if_neg hne, if_true]
    split_ifs <;> simp

/-! ## Safe steps -/

/-- The data of a packet fits: in the housekeeping block, or behind what has arrived of the frame. -/
def FeeFfData.Fits (ff : FeeFfData) (pkt : FeeDataPkt) : Prop :=
  (pkt.hdr.pktType = FEE_PKT_TYPE_HK → pkt.hdr.dataLen.toNat ≤ FEE_HK_PACKET_DATA_LEN) ∧
  (pkt.hdr.pktType = FEE_PKT_TYPE_DATA → 2 * ff.n + pkt.hdr.dataLen.toNat ≤ 2 * ff.nElem)

/-- The aggregator created as `ff₀` handles a packet safely: the counter does not exceed the number of
elements, a copy stays inside its block, and a packet that does not fit is answered with −1 and changes
nothing. -/
structure FfSafeStep (ff₀ : FeeFfData) (s : FeeFfData × Mem) (pkt : FeeDataPkt) : Prop where
  counter : (feeFfAggregate s pkt).2.1.n ≤ ff₀.nElem
  copy : ∀ c, s.1.copies pkt = some c → c.Inside ff₀
  refused : ¬ s.1.Fits pkt → feeFfAggregate s pkt = (-1, s)

/-- The packets handled safely: all that are no image data, image data that fits, and image data that not
even passes the check of the source. -/
def FfFitsOrRefused (ff₀ : FeeFfData) (s : FeeFfData × Mem) (pkt : FeeDataPkt) : Prop :=
  pkt.hdr.pktType = FEE_PKT_TYPE_DATA →
    2 * s.1.n + pkt.hdr.dataLen.toNat ≤ 2 * ff₀.nElem ∨ ff₀.nElem + pkt.hdr.dataLen.toNat / 2 ≤ s.1.n

/-- What the steps of a run keep. -/
structure FfBounded (ff₀ : FeeFfData) (s : FeeFfData × Mem) : Prop where
  data : s.1.data = ff₀.data
  nElem : s.1.nElem = ff₀.nElem
  n : s.1.n ≤ ff₀.nElem

section

variable {ff₀ : FeeFfData} {s : FeeFfData × Mem}

/-- Packets without image data are safe: the length of housekeeping is checked as it should be. -/
theorem ffSafeStep_other (h : FfBounded ff₀ s) {pkt : FeeDataPkt} (ht : pkt.hdr.pktType ≠ FEE_PKT_TYPE_DATA) :
    FfSafeStep ff₀ s pkt := by
  have hsnd := ffAggregate_snd s pkt
  by_cases hhk : pkt.hdr.pktType = FEE_PKT_TYPE_HK
  · by_cases hl : pkt.hdr.dataLen.toNat ≤ FEE_HK_PACKET_DATA_LEN
    · have hc : s.1.copies pkt = some (.hk pkt.hdr.dataLen.toNat) := by simp [FeeFfData.copies, hhk, hl]
      rw [hc] at hsnd
      refine ⟨by rw [hsnd]; exact h.n, fun c hc' => ?_, fun hno => absurd ⟨fun _ => hl, fun hd => absurd hd ht⟩ hno⟩
      rw [hc, Option.some.injEq] at hc'
      rw [← hc']
      exact hl
    · have hc : s.1.copies pkt = none := by simp [FeeFfData.copies, hhk, hl]
      have hfst := (ffAggregate_fst s (.inl hhk)).2 hc
      rw [hc] at hsnd
      exact ⟨by rw [hsnd]; exact h.n, fun c hc' => (by rw [hc] at hc'; cases hc'), fun _ => Prod.ext hfst hsnd⟩
  · have hc : s.1.copies pkt = none := by simp [FeeFfData.copies, hhk, ht]
    rw [hc] at hsnd
    exact ⟨by rw [hsnd]; exact h.n, fun c hc' => (by rw [hc] at hc'; cases hc'),
      fun hno => absurd ⟨fun hd => absurd hd hhk, fun hd => absurd hd ht⟩ hno⟩

theorem ffSafeStep_iff (h : FfBounded ff₀ s) (pkt : FeeDataPkt) : FfSafeStep ff₀ s pkt ↔ FfFitsOrRefused ff₀ s pkt := by
  by_cases ht : pkt.hdr.pktType = FEE_PKT_TYPE_DATA
  swap
  · exact iff_of_true (ffSafeStep_other h ht) fun hd => absurd hd ht
  have hhk : pkt.hdr.pktType ≠ FEE_PKT_TYPE_HK := by rw [ht]; decide
  have hfits : s.1.Fits pkt ↔ 2 * s.1.n + pkt.hdr.dataLen.toNat ≤ 2 * ff₀.nElem := by
    simp [FeeFfData.Fits, ht, h.nElem, show FEE_PKT_TYPE_DATA ≠ FEE_PKT_TYPE_HK by decide]
  have hiff : FfFitsOrRefused ff₀ s pkt ↔ 2 * s.1.n + pkt.hdr.dataLen.toNat ≤ 2 * ff₀.nElem ∨
      ff₀.nElem + pkt.hdr.dataLen.toNat / 2 ≤ s.1.n := ⟨fun h' => h' ht, fun h' _ => h'⟩
  have hsnd := ffAggregate_snd s pkt
  have hfst := ffAggregate_fst s (.inr ht)
  rw [hiff]
  by_cases hcap : s.1.n < ff₀.nElem + pkt.hdr.dataLen.toNat / 2
  · -- the packet is stored, whether it fits or not
    have hc : s.1.copies pkt = some (.data (ff₀.data + 2 * s.1.n) pkt.hdr.dataLen.toNat) := by
      rw [FeeFfData.copies, if_neg hhk, if_pos ht, if_pos (by rw [h.nElem]; omega), h.data]
    rw [hc] at hsnd hfst
    constructor
    · intro hsafe
      have hin := hsafe.copy _ hc
      simp only [FfCopy.Inside] at hin
      omega
    · intro hor
      have hfit : 2 * s.1.n + pkt.hdr.dataLen.toNat ≤ 2 * ff₀.nElem := by omega
      refine ⟨?_, fun c hc' => ?_, fun hno => absurd (hfits.2 hfit) hno⟩
      · rw [hsnd]
        simp only [FfCopy.apply]
        omega
      · rw [hc, Option.some.injEq] at hc'
        rw [← hc']
        exact ⟨by omega, by omega⟩
  · have hc : s.1.copies pkt = none := by
      rw [FeeFfData.copies, if_neg hhk, if_pos ht, if_neg (by rw [h.nElem]; omega)]
    rw [hc] at hsnd
    exact iff_of_true ⟨by rw [hsnd]; exact h.n, fun c hc' => (by rw [hc] at hc'; cases hc'),
      fun _ => Prod.ext (hfst.2 hc) hsnd⟩ (.inr (by omega))

theorem ffAggregate_const (s : FeeFfData × Mem) (pkt : FeeDataPkt) :
    (feeFfAggregate s pkt).2.1.data = s.1.data ∧ (feeFfAggregate s pkt).2.1.nElem = s.1.nElem := by
  rw [ffAggregate_snd]
  cases s.1.copies pkt with
  | none => exact ⟨rfl, rfl⟩
  | some c => cases c <;> exact ⟨rfl, rfl⟩

theorem FfBounded.step (h : FfBounded ff₀ s) {pkt : FeeDataPkt} (hfits : FfFitsOrRefused ff₀ s pkt) :
    FfBounded ff₀ (feeFfAggregate s pkt).2 := by
  obtain ⟨hdata, hn⟩ := ffAggregate_const s pkt
  exact ⟨hdata.trans h.data, hn.trans h.nElem, ((ffSafeStep_iff h pkt).2 hfits).counter⟩

end

theorem ffAggregatorCreate_spec {s : Mirror} {m : Mem} {ptr data : Nat} {ff : FeeFfData}
    (h : feeFfAggregatorCreate s m ptr data = some ff) :
    ff.data ≠ 0 ∧ ff.nElem = FEE_CCD_IMG_SEC_ROWS * FEE_CCD_IMG_SEC_COLS ∧ ff.n = 0 := by
  rw [feeFfAggregatorCreate] at h
  split_ifs at h with h1 h2 <;> (cases h; exact ⟨h2, rfl, rfl⟩)

/-- **When full-frame data stays in its blocks**: an aggregation changes what it copies and nothing else;
and along any run every packet is handled safely exactly if every packet is `FfFitsOrRefused` in the state
it arrives in. -/
theorem ffAggregate_safe_iff (s : Mirror) (regs m : Mem) (ptr data : Nat) (ff₀ : FeeFfData)
    (hff : feeFfAggregatorCreate s regs ptr data = some ff₀) (pkts : List FeeDataPkt) :
    (∀ (st : FeeFfData × Mem) (pkt : FeeDataPkt), (feeFfAggregate st pkt).2 =
      match st.1.copies pkt with
      | some c => c.apply pkt st
      | none => st) ∧
    (Along feeFfAggregate (FfSafeStep ff₀) (ff₀, m) pkts ↔ Along feeFfAggregate (FfFitsOrRefused ff₀) (ff₀, m) pkts) := by
  obtain ⟨-, -, hn⟩ := ffAggregatorCreate_spec hff
  refine ⟨ffAggregate_snd, ?_⟩
  refine along_congr (fun st pkt h => ffSafeStep_iff h pkt) (fun st pkt h hfits => h.step hfits) ?_ pkts
  exact ⟨rfl, rfl, by rw [hn]; exact Nat.zero_le _⟩

/-- A packet with 32767 elements of image data. -/
def fullPkt : FeeDataPkt := { hdr := { dataLen := 65534 }, data := fun _ => 0 }

theorem ffAggregatorCreate_zero :
    ∃ ff₀, feeFfAggregatorCreate ⟨.little, 0, 0x1000⟩ (fun _ => 0) 0x2000 0x3000 = some ff₀ ∧ ff₀.nElem = 8548705 ∧
      ff₀.n = 0 :=
  ⟨_, rfl, rfl, rfl⟩

theorem ffAggregate_safe_iff_full :
    ∃ ff₀, feeFfAggregatorCreate ⟨.little, 0, 0x1000⟩ (fun _ => 0) 0x2000 0x3000 = some ff₀ ∧
      (Along feeFfAggregate (FfSafeStep ff₀) (ff₀, fun _ => 0) [fullPkt] ↔
        Along feeFfAggregate (FfFitsOrRefused ff₀) (ff₀, fun _ => 0) [fullPkt]) := by
  obtain ⟨ff₀, hff, -⟩ := ffAggregatorCreate_zero
  exact ⟨ff₀, hff, (ffAggregate_safe_iff ⟨.little, 0, 0x1000⟩ (fun _ => 0) (fun _ => 0) 0x2000 0x3000 ff₀ hff [fullPkt]).2⟩

/-- Such packets are accepted as long as the buffer is not more than full. -/
theorem feed_fullPkt (k : Nat) (s : FeeFfData × Mem) (hfit : s.1.n + k * 32767 ≤ s.1.nElem + 32767) :
    (feed feeFfAggregate s (List.replicate k fullPkt)).2.1.n = s.1.n + k * 32767 := by
  induction k generalizing s with
  | zero => simp [feed]
  | succ k ih =>
    have hc : s.1.copies fullPkt = some (.data (s.1.data + 2 * s.1.n) 65534) := by
      have hhk : ¬ fullPkt.hdr.pktType = FEE_PKT_TYPE_HK := by decide
      have hdata : fullPkt.hdr.pktType = FEE_PKT_TYPE_DATA := by decide
      have hlen : fullPkt.hdr.dataLen.toNat = 65534 := rfl
      rw [FeeFfData.copies, if_neg hhk, if_pos hdata, hlen, if_pos (by omega)]
    have hn : (feeFfAggregate s fullPkt).2.1.n = s.1.n + 32767 := by
      rw [ffAggregate_snd, hc]
      rfl
    have hnElem := (ffAggregate_const s fullPkt).2
    rw [List.replicate_succ, feed, ih _ (by rw [hn, hnElem]; omega), hn]
    omega

/-- The 261st packet goes beyond the end of the frame. -/
theorem ffAggregate_overruns :
    ∃ ff₀, feeFfAggregatorCreate ⟨.little, 0, 0x1000⟩ (fun _ => 0) 0x2000 0x3000 = some ff₀ ∧ ff₀.nElem = 8548705 ∧
      (feed feeFfAggregate (ff₀, fun _ => 0) (List.replicate 261 fullPkt)).2.1.n = 8552187 ∧
      ¬ Along feeFfAggregate (FfSafeStep ff₀) (ff₀, fun _ => 0) (List.replicate 261 fullPkt) := by
  obtain ⟨ff₀, hff, hnElem, hn⟩ := ffAggregatorCreate_zero
  have hrun := feed_fullPkt 261 (ff₀, fun _ => 0) (by simp only [hn, hnElem]; omega)
  have hsplit : List.replicate 261 fullPkt = List.replicate 260 fullPkt ++ [fullPkt] := List.replicate_succ'
  rw [hn] at hrun
  refine ⟨ff₀, hff, hnElem, by omega, fun h => ?_⟩
  rw [hsplit, feed_append] at hrun
  rw [hsplit, along_append] at h
  have hcounter := h.2.1.counter
  rw [hnElem] at hcounter
  simp only [feed] at hrun
  omega

end SmileFee
