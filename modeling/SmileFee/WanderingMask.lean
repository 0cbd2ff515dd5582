import SmileFee.EventBudget

/-!
# Where the wandering mask is sent (`SIM/fee_sim.c:57-65, 816-840, 1653-1694`)

The mask moves in steps of 5 from 2 on, up to `SIM_WANDERING_MASK_COL_END` and `SIM_WANDERING_MASK_ROW_END`. Both
are 2 less than the size of the frame and positions of the mask (`WMask.OnGrid`), whereas the loops of
`fee_sim_detect_events` end with the position before. So the mask is never sent from the last column or the last
row of its way, where there is no room for an imagette either.

**`maskDelivered_iff`** is about all positions that the mask gets to.
-/

namespace SmileFee

open Word Mem

namespace WMask

/-- After some number of moves. -/
def Reachable (w : WMask) : Prop := ∃ n, feeSimMoveWanderingMask^[n] {} = w

/-- The positions of the mask: every fifth column, every fifth row. -/
structure OnGrid (w : WMask) : Prop where
  col : w.col.toNat % 5 = 2
  col_le : w.col.toNat ≤ FEE_EDU_FRAME_6x6_COLS - 2
  row : w.row.toNat % 5 = 2
  row_le : w.row.toNat ≤ FEE_EDU_FRAME_6x6_ROWS - 2

def position (w : WMask) : Nat × Nat := (w.row.toNat, w.col.toNat)

theorem toNat_COL_END : SIM_WANDERING_MASK_COL_END.toNat = FEE_EDU_FRAME_6x6_COLS - 2 := rfl
theorem toNat_ROW_END : SIM_WANDERING_MASK_ROW_END.toNat = FEE_EDU_FRAME_6x6_ROWS - 2 := rfl

/-- **A move** stays on the grid. -/
theorem OnGrid.move {w : WMask} (h : w.OnGrid) : (feeSimMoveWanderingMask w).OnGrid := by
  obtain ⟨hcol, hcol_le, hrow, hrow_le⟩ := h
  have hcol' : (w.col + 5).toNat = w.col.toNat + 5 :=
    BitVec.toNat_add_of_lt (by simp only [FEE_EDU_FRAME_6x6_COLS] at hcol_le; simp; omega)
  have hrow' : (w.row + 5).toNat = w.row.toNat + 5 :=
    BitVec.toNat_add_of_lt (by simp only [FEE_EDU_FRAME_6x6_ROWS] at hrow_le; simp; omega)
  unfold feeSimMoveWanderingMask
  dsimp only
  split_ifs with hc hr
  · exact ⟨by decide, by decide, by decide, by decide⟩
  · have hle := BitVec.not_lt.1 hr
    rw [BitVec.le_def, toNat_ROW_END] at hle
    exact ⟨rfl, (by decide : SIM_WANDERING_MASK_COL_START.toNat ≤ _), by dsimp only; omega, hle⟩
  · have hle := BitVec.not_lt.1 hc
    rw [BitVec.le_def, toNat_COL_END] at hle
    exact ⟨by dsimp only; omega, hle, hrow, hrow_le⟩

theorem Reachable.onGrid {w : WMask} (h : w.Reachable) : w.OnGrid := by
  obtain ⟨n, rfl⟩ := h
  induction n with
  | zero => exact ⟨by decide, by decide, by decide, by decide⟩
  | succ n ih =>
    rw [Function.iterate_succ_apply']
    exact ih.move

/-- The first line of the way. -/
theorem move_first_row {n : Nat} (hn : n ≤ 76) : feeSimMoveWanderingMask^[n] {} = ⟨BitVec.ofNat 16 (2 + 5 * n), 2⟩ := by
  induction n with
  | zero => rfl
  | succ n ih =>
    have hadd : BitVec.ofNat 16 (2 + 5 * n) + 5 = BitVec.ofNat 16 (2 + 5 * (n + 1)) := (BitVec.ofNat_add ..).symm
    have hle : ¬ BitVec.ofNat 16 (2 + 5 * (n + 1)) > SIM_WANDERING_MASK_COL_END := by
      rw [gt_iff_lt, BitVec.lt_def, toNat_COL_END, BitVec.toNat_ofNat, Nat.mod_eq_of_lt (by omega)]
      simp only [FEE_EDU_FRAME_6x6_COLS]
      omega
    rw [Function.iterate_succ_apply', ih (by omega), feeSimMoveWanderingMask]
    simp only [hadd]
    rw [if_neg hle]

/-- The mask is in the window of the detection unless it is in the last column or row of the grid. -/
theorem OnGrid.mem_raster_iff {w : WMask} (h : w.OnGrid) :
    w.position ∈ raster FEE_EDU_FRAME_6x6_ROWS FEE_EDU_FRAME_6x6_COLS ↔
      w.col.toNat ≠ FEE_EDU_FRAME_6x6_COLS - 2 ∧ w.row.toNat ≠ FEE_EDU_FRAME_6x6_ROWS - 2 := by
  obtain ⟨hcol, hcol_le, hrow, hrow_le⟩ := h
  rw [mem_raster, position]
  simp only [FEE_EDU_FRAME_6x6_COLS, FEE_EDU_FRAME_6x6_ROWS] at *
  omega

end WMask

/-! ## The masks that are sent -/

section

variable {s : Mirror} {m : Mem} {w : WMask} {frame : Nat → U16} {threshold : U16} {pkt : FeeEventDetection}
  {evMax : Nat} {rx : Host} {pkts : List FeeDataPkt}

theorem maskAt_iff (hen : s.smileFeeGetEduWanderingMaskEn m ≠ 0) {p : Nat × Nat}
    (hp : p ∈ raster FEE_EDU_FRAME_6x6_ROWS FEE_EDU_FRAME_6x6_COLS) : MaskAt s m w p.1 p.2 ↔ p = w.position := by
  obtain ⟨h1, h2⟩ := toNat_position hp
  rw [MaskAt, and_iff_right hen, feeSimPixIsWanderingMask, Bool.and_eq_true, decide_eq_true_eq, decide_eq_true_eq,
    ← BitVec.toNat_inj, ← BitVec.toNat_inj, h1, h2, WMask.position, Prod.ext_iff]
  exact and_comm

/-- The pixels of a list without repetition that are one given pixel, and have a property. -/
theorem filter_and_eq {l : List (Nat × Nat)} (hl : l.Nodup) (P : Nat × Nat → Prop) [DecidablePred P] (q : Nat × Nat) :
    (l.filter fun p => P p ∧ p = q) = if q ∈ l ∧ P q then [q] else [] := by
  by_cases hP : P q
  · have hiff : ∀ p ∈ l, decide (P p ∧ p = q) = decide (p = q) := fun p _ =>
      decide_eq_decide.2 ⟨And.right, fun h => ⟨h ▸ hP, h⟩⟩
    rw [List.filter_congr hiff, List.filter_eq, hl.count]
    by_cases hq : q ∈ l <;> simp [hq, hP]
  · rw [if_neg fun h => hP h.2, List.filter_eq_nil_iff]
    intro p _ hp
    obtain ⟨hPp, rfl⟩ := of_decide_eq_true hp
    exact hP hPp

/-- **The masks of a side**, with event packets left over. -/
theorem detectEvents_masks (hed : s.smileFeeGetEventDetection m ≠ 0) (hen : s.smileFeeGetEduWanderingMaskEn m ≠ 0)
    (hprep : pkt.hdr.Prepared)
    (hleft : (feeSimDetectEvents s m w FEE_EDU_FRAME_6x6_ROWS FEE_EDU_FRAME_6x6_COLS threshold pkt evMax
      (some frame)).evMax ≠ 0)
    (harr : List.Forall₂ (Arrives rx) (feeSimDetectEvents s m w FEE_EDU_FRAME_6x6_ROWS FEE_EDU_FRAME_6x6_COLS threshold
      pkt evMax (some frame)).sent pkts) :
    (receivedMasks rx pkts).map FeeEventDetection.position =
      if w.position ∈ raster FEE_EDU_FRAME_6x6_ROWS FEE_EDU_FRAME_6x6_COLS ∧
        ¬ EventAt frame FEE_EDU_FRAME_6x6_COLS w.position.1 w.position.2 threshold then [w.position] else [] := by
  obtain ⟨hs, hmax⟩ := detectEvents_sends hed w frame FEE_EDU_FRAME_6x6_ROWS FEE_EDU_FRAME_6x6_COLS threshold hprep
    evMax
  have hlt : (raster FEE_EDU_FRAME_6x6_ROWS FEE_EDU_FRAME_6x6_COLS).countP
      (fun p => EventAt frame FEE_EDU_FRAME_6x6_COLS p.1 p.2 threshold) < evMax := by
    rw [hmax, eventList, ← List.countP_eq_length_filter] at hleft
    omega
  rw [hs.sent] at harr
  have hmasks : (raster FEE_EDU_FRAME_6x6_ROWS FEE_EDU_FRAME_6x6_COLS).filter
      (fun p => ¬ EventAt frame FEE_EDU_FRAME_6x6_COLS p.1 p.2 threshold ∧ MaskAt s m w p.1 p.2) =
      (raster FEE_EDU_FRAME_6x6_ROWS FEE_EDU_FRAME_6x6_COLS).filter
        (fun p => ¬ EventAt frame FEE_EDU_FRAME_6x6_COLS p.1 p.2 threshold ∧ p = w.position) :=
    List.filter_congr fun p hp => by simp only [maskAt_iff hen hp]
  rw [receivedMasks, arrives_packets hprep harr, packets_masks hprep, List.filterMap_append, pixelEmissions_masks hlt,
    hmasks, filter_and_eq (nodup_raster _ _)]
  by_cases hin : w.position ∈ raster FEE_EDU_FRAME_6x6_ROWS FEE_EDU_FRAME_6x6_COLS ∧
      ¬ EventAt frame FEE_EDU_FRAME_6x6_COLS w.position.1 w.position.2 threshold
  · rw [if_pos hin]
    have hrow := Nat.mod_eq_of_lt w.row.isLt
    have hcol := Nat.mod_eq_of_lt w.col.isLt
    simp only [List.filterMap_cons, List.filterMap_nil, Emission.wmask?, List.append_nil, List.map_cons, List.map_nil,
      WMask.position, hrow, hcol]
  · rw [if_neg hin]
    rfl

end

/-- What the mask should do, with event detection and the mask enabled and event packets left over: it leaves room for
its imagette, and it is sent once, unless it is on an event. -/
structure MaskDelivered (w : WMask) : Prop where
  room : (2 ≤ w.row.toNat ∧ w.row.toNat + 2 < FEE_EDU_FRAME_6x6_ROWS) ∧
    2 ≤ w.col.toNat ∧ w.col.toNat + 2 < FEE_EDU_FRAME_6x6_COLS
  sent : ∀ (s : Mirror) (m : Mem) (frame : Nat → U16) (threshold : U16) (pkt : FeeEventDetection) (limit : Nat)
    (rx : Host) (pkts : List FeeDataPkt), s.smileFeeGetEventDetection m ≠ 0 → s.smileFeeGetEduWanderingMaskEn m ≠ 0 →
    pkt.hdr.Prepared →
    let d := feeSimDetectEvents s m w FEE_EDU_FRAME_6x6_ROWS FEE_EDU_FRAME_6x6_COLS threshold pkt limit (some frame)
    d.evMax ≠ 0 → List.Forall₂ (Arrives rx) d.sent pkts →
      (receivedMasks rx pkts).map FeeEventDetection.position =
        if EventAt frame FEE_EDU_FRAME_6x6_COLS w.row.toNat w.col.toNat threshold then [] else [w.position]

/-- **The positions from which the mask is sent**: all that it gets to, but for the last column and the last row. -/
theorem maskDelivered_iff (w : WMask) (hw : w.Reachable) :
    MaskDelivered w ↔ w.col.toNat ≠ FEE_EDU_FRAME_6x6_COLS - 2 ∧ w.row.toNat ≠ FEE_EDU_FRAME_6x6_ROWS - 2 := by
  rw [← hw.onGrid.mem_raster_iff]
  constructor
  · intro h
    exact mem_raster.2 h.room
  · intro hin
    refine ⟨mem_raster.1 hin, fun s m frame threshold pkt limit rx pkts hed hen hprep hleft harr => ?_⟩
    rw [detectEvents_masks hed hen hprep hleft harr]
    simp only [hin, true_and, ite_not]
    rfl

theorem maskDelivered_start : MaskDelivered {} :=
  (maskDelivered_iff {} ⟨0, rfl⟩).2 (by decide)

/-- After 76 moves the mask is in the last column: no packet is sent, whatever the frame. -/
theorem not_maskDelivered_last :
    feeSimMoveWanderingMask^[76] {} = ⟨382, 2⟩ ∧ ¬ MaskDelivered ⟨382, 2⟩ ∧
      ∀ (s : Mirror) (m : Mem) (frame : Nat → U16) (threshold : U16) (pkt : FeeEventDetection) (limit : Nat) (rx : Host)
        (pkts : List FeeDataPkt), s.smileFeeGetEventDetection m ≠ 0 → s.smileFeeGetEduWanderingMaskEn m ≠ 0 →
        pkt.hdr.Prepared →
        let d := feeSimDetectEvents s m ⟨382, 2⟩ FEE_EDU_FRAME_6x6_ROWS FEE_EDU_FRAME_6x6_COLS threshold pkt limit
          (some frame)
        d.evMax ≠ 0 → List.Forall₂ (Arrives rx) d.sent pkts → receivedMasks rx pkts = [] := by
  have hout : ¬ WMask.position ⟨382, 2⟩ ∈ raster FEE_EDU_FRAME_6x6_ROWS FEE_EDU_FRAME_6x6_COLS := by
    rw [mem_raster]
    decide
  refine ⟨WMask.move_first_row le_rfl, fun h => hout (mem_raster.2 h.room), ?_⟩
  intro s m frame threshold pkt limit rx pkts hed hen hprep d hleft harr
  have hmasks := detectEvents_masks hed hen hprep hleft harr
  rwa [if_neg fun h => hout h.1, List.map_eq_nil_iff] at hmasks

end SmileFee
