import SmileFee.Lib.Rank
import SmileFee.EventDetection

/-!
# The test of a pixel (`SIM/fee_sim.c:1498-1620`)

`fee_sim_check_event_pixel` copies the surroundings of a pixel into the packet and looks at them there. Here
they are in the frame: `pixelAt` is the pixel at an offset in rows and columns, and `imagetteAt` says which
one an entry of the packet is.

* **`checkEventPixel_eq`**: the function sends the packet for the pixels with `EventAt`, and only for these;
* **`checkEventPixel_iff`**: the quoted criterion wants more than the threshold above the background, but
  equality is enough for the code.
-/

namespace SmileFee

open Word Rank

variable (frame : Nat → U16) (cols r c : Nat)

/-- The pixel `dr` rows and `dc` columns from the one at row `r` and column `c`. -/
def pixelAt (dr dc : Int) : U16 := frame ((r + dr) * cols + (c + dc)).toNat

theorem pixelAt_sub (r' c' : Nat) :
    pixelAt frame cols r c ((r' : Int) - r) ((c' : Int) - c) = frame (r' * cols + c') := by
  have hidx : ((r : Int) + (r' - r)) * cols + (c + (c' - c)) = ((r' * cols + c' : Nat) : Int) := by push_cast; ring
  rw [pixelAt, hidx, Int.toNat_natCast]

/-- The offsets of entry `k` of the packet. -/
def imagetteAt (k : Nat) : Int × Int := ((k % 5 : Nat) - 2, 2 - (k / 5 : Nat))

theorem feeSimEventArea_eq (k : Fin FEE_EV_DET_PIXELS) : feeSimEventArea frame (r * cols + c) cols k =
    pixelAt frame cols r c (imagetteAt k).1 (imagetteAt k).2 := by
  unfold feeSimEventArea pixelAt imagetteAt
  refine congrArg (fun x : Int => frame x.toNat) ?_
  push_cast
  ring

/-- The eleven pixels that the background is taken from. -/
def backgroundPixels : List Nat :=
  [0, 1, 2, 3, 4, 5, 9, 10, 15, 20, 21].map fun k =>
    (pixelAt frame cols r c (imagetteAt k).1 (imagetteAt k).2).toNat

/-- The offsets of the eight neighbours, as the packet has them. -/
def neighbours : List (Int × Int) := [6, 7, 8, 11, 13, 16, 17, 18].map imagetteAt

theorem mem_neighbours (dr dc : Int) :
    (dr, dc) ∈ neighbours ↔ (-1 ≤ dr ∧ dr ≤ 1) ∧ (-1 ≤ dc ∧ dc ≤ 1) ∧ ¬ (dr = 0 ∧ dc = 0) := by
  simp only [neighbours, imagetteAt, List.map_cons, List.map_nil, List.mem_cons, List.not_mem_nil, or_false,
    Prod.mk.injEq]
  omega

/-- Greater than each of the eight neighbours. -/
def LocalMax : Prop := ∀ d ∈ neighbours, pixelAt frame cols r c d.1 d.2 < frame (r * cols + c)

instance : Decidable (LocalMax frame cols r c) := inferInstanceAs (Decidable (∀ d ∈ _, _))

/-- The background, as the function computes it. -/
def localBackground : Nat := (feeSimGetLocalBackground { pix := feeSimEventArea frame (r * cols + c) cols }).toNat

/-- The test: not below the threshold, and a local maximum. -/
def EventAt (threshold : U16) : Prop :=
  threshold.toNat + localBackground frame cols r c ≤ (frame (r * cols + c)).toNat ∧ LocalMax frame cols r c

instance (threshold : U16) : Decidable (EventAt frame cols r c threshold) := inferInstanceAs (Decidable (_ ∧ _))

/-! ## The background -/

/-- The median of an odd number of samples is the one in the middle. -/
theorem isNth_median {l : List U16} (hodd : l.length % 2 = 1) :
    IsNth (l.map BitVec.toNat) (l.length / 2) (median l).toNat := by
  have hmap : (l.insertionSort (· ≤ ·)).map BitVec.toNat = (l.map BitVec.toNat).insertionSort (· ≤ ·) :=
    List.map_insertionSort _ _ BitVec.toNat l fun a _ b _ => Iff.rfl
  have hnth := isNth_insertionSort (l := l.map BitVec.toNat) (k := l.length / 2) (by rw [List.length_map]; omega) 0
  rw [← hmap, show (0 : Nat) = (0 : U16).toNat from rfl, List.getD_map] at hnth
  unfold median
  dsimp only
  rwa [if_pos (by omega)]

/-- **The background is the sixth smallest of the eleven pixels.** -/
theorem isNth_localBackground : IsNth (backgroundPixels frame cols r c) 5 (localBackground frame cols r c) := by
  let samples := ([0, 1, 2, 3, 4, 5, 9, 10, 15, 20, 21] : List (Fin FEE_EV_DET_PIXELS)).map
    (feeSimEventArea frame (r * cols + c) cols)
  have hpixels : backgroundPixels frame cols r c = samples.map BitVec.toNat := by
    simp only [samples, backgroundPixels, List.map_cons, List.map_nil, feeSimEventArea_eq]
    rfl
  have hlen : samples.length = 11 := rfl
  have hmid := isNth_median (l := samples) (by rw [hlen])
  rw [hlen] at hmid
  rw [hpixels]
  exact hmid

/-! ## The test -/

theorem localMax_iff : (∀ k ∈ ([6, 7, 8, 11, 13, 16, 17, 18] : List (Fin FEE_EV_DET_PIXELS)),
    feeSimEventArea frame (r * cols + c) cols k < frame (r * cols + c)) ↔ LocalMax frame cols r c := by
  unfold LocalMax neighbours
  simp only [feeSimEventArea_eq, List.forall_mem_map, List.forall_mem_cons, List.not_mem_nil, IsEmpty.forall_iff,
    implies_true, and_true]
  rfl

/-- **The function**: the imagette is in the packet afterwards, swapped if it has been sent. -/
theorem checkEventPixel_eq (h : Host) (pkt : FeeEventDetection) (threshold : U16) :
    feeSimCheckEventPixel h pkt frame (r * cols + c) cols threshold =
      let pkt := { pkt with pix := feeSimEventArea frame (r * cols + c) cols }
      if EventAt frame cols r c threshold then
        (some (feeSimSendEventPayload h pkt).1, (feeSimSendEventPayload h pkt).2)
      else (none, pkt) := by
  unfold feeSimCheckEventPixel
  dsimp only
  by_cases hthr : (frame (r * cols + c)).toNat < threshold.toNat + localBackground frame cols r c
  · have hno : ¬ EventAt frame cols r c threshold := fun h => absurd h.1 (not_le.2 hthr)
    rw [if_neg hno]
    exact if_pos hthr
  · refine (if_neg hthr).trans ?_
    have hlen : (([6, 7, 8, 11, 13, 16, 17, 18] : List (Fin FEE_EV_DET_PIXELS)).filter fun k =>
        feeSimEventArea frame (r * cols + c) cols k < frame (r * cols + c)).length = 8 ↔ LocalMax frame cols r c := by
      rw [← localMax_iff]
      exact List.length_filter_eq_length_iff.trans (by simp only [decide_eq_true_eq])
    by_cases hmax : LocalMax frame cols r c
    · rw [if_neg (not_not.2 (hlen.2 hmax)), if_pos ⟨not_lt.1 hthr, hmax⟩]
    · rw [if_pos (mt hlen.1 hmax), if_neg fun h => hmax h.2]

theorem isSome_checkEventPixel (h : Host) (pkt : FeeEventDetection) (threshold : U16) :
    (feeSimCheckEventPixel h pkt frame (r * cols + c) cols threshold).1.isSome ↔ EventAt frame cols r c threshold := by
  rw [checkEventPixel_eq]
  dsimp only
  split_ifs with hev
  · exact iff_of_true rfl hev
  · exact iff_of_false nofun hev

/-! ## The criterion -/

/-- The criterion of the specification, with "more than" as it is written. -/
def EventCriterion (threshold : U16) : Prop :=
  (∃ bg, IsNth (backgroundPixels frame cols r c) 5 bg ∧ threshold.toNat + bg < (frame (r * cols + c)).toNat) ∧
    ∀ dr dc : Int, -1 ≤ dr ∧ dr ≤ 1 → -1 ≤ dc ∧ dc ≤ 1 → ¬ (dr = 0 ∧ dc = 0) →
      pixelAt frame cols r c dr dc < frame (r * cols + c)

/-- There is one background, and the neighbours are the eight pixels around. -/
theorem eventCriterion_iff (threshold : U16) : EventCriterion frame cols r c threshold ↔
    threshold.toNat + localBackground frame cols r c < (frame (r * cols + c)).toNat ∧ LocalMax frame cols r c := by
  unfold EventCriterion
  refine and_congr ⟨?_, fun h => ⟨_, isNth_localBackground frame cols r c, h⟩⟩ ⟨?_, ?_⟩
  · rintro ⟨bg, hbg, hlt⟩
    rwa [← hbg.unique (isNth_localBackground frame cols r c)]
  · rintro h ⟨dr, dc⟩ hd
    obtain ⟨hdr, hdc, hne⟩ := (mem_neighbours dr dc).1 hd
    exact h dr dc hdr hdc hne
  · intro h dr dc hdr hdc hne
    exact h (dr, dc) ((mem_neighbours dr dc).2 ⟨hdr, hdc, hne⟩)

/-- **When the criterion is met**: except for the local maxima that are exactly the threshold above the
background. -/
theorem checkEventPixel_iff (h : Host) (pkt : FeeEventDetection) (threshold : U16) :
    ((feeSimCheckEventPixel h pkt frame (r * cols + c) cols threshold).1.isSome ↔
        EventCriterion frame cols r c threshold) ↔
      ¬ ((∃ bg, IsNth (backgroundPixels frame cols r c) 5 bg ∧
        (frame (r * cols + c)).toNat = threshold.toNat + bg) ∧ LocalMax frame cols r c) := by
  have hbg : (∃ bg, IsNth (backgroundPixels frame cols r c) 5 bg ∧
      (frame (r * cols + c)).toNat = threshold.toNat + bg) ↔
      (frame (r * cols + c)).toNat = threshold.toNat + localBackground frame cols r c := by
    constructor
    · rintro ⟨bg, hbg, heq⟩
      rwa [← hbg.unique (isNth_localBackground frame cols r c)]
    · intro heq
      exact ⟨_, isNth_localBackground frame cols r c, heq⟩
  rw [isSome_checkEventPixel, eventCriterion_iff, EventAt, hbg]
  by_cases hmax : LocalMax frame cols r c
  · simp only [hmax, and_true]
    omega
  · simp only [hmax, and_false, not_false_eq_true]

/-- A dark frame with one pixel at the threshold. -/
theorem not_eventCriterion_equal :
    let frame := fun k => if k = 2 * FEE_EDU_FRAME_6x6_COLS + 2 then (100 : U16) else 0
    (feeSimCheckEventPixel .little {} frame (2 * FEE_EDU_FRAME_6x6_COLS + 2) FEE_EDU_FRAME_6x6_COLS 100).1.isSome ∧
      ¬ EventCriterion frame FEE_EDU_FRAME_6x6_COLS 2 2 100 := by
  refine ⟨(isSome_checkEventPixel _ _ 2 2 .little {} 100).2 (by decide), ?_⟩
  rw [eventCriterion_iff]
  decide

end SmileFee
