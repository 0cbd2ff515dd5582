import SmileFee.SramChunks

/-!
# The documented areas of the SRAM (`FEE/smile_fee.h:213-256`)

The areas are given by the addresses of their first and their last word, so the last area ends with the word at
`FEE_SRAM_SIDE_F_STOP`. `FEE_SRAM_END` is one more than this address, and the checks take it for the end: of that
word, one byte is inside.

**`wordReachable_iff`**: it is the only word of the areas that cannot be accessed.
-/

namespace SmileFee

open Word Mem

def FEE_SRAM_ROW_CORR_START : U32 := 0x00800000
def FEE_SRAM_ROW_CORR_STOP : U32 := 0x00800FFC
def FEE_SRAM_COL_CORR_START : U32 := 0x00801000
def FEE_SRAM_COL_CORR_STOP : U32 := 0x008017FC
def FEE_SRAM_SIDE_E_STOP : U32 := 0x00900BFC

/-- The first and the last word of each area. -/
def sramAreas : List (U32 × U32) :=
  [(FEE_SRAM_ROW_CORR_START, FEE_SRAM_ROW_CORR_STOP), (FEE_SRAM_COL_CORR_START, FEE_SRAM_COL_CORR_STOP),
    (FEE_SRAM_SIDE_E_START, FEE_SRAM_SIDE_E_STOP), (FEE_SRAM_SIDE_F_START, FEE_SRAM_SIDE_F_STOP)]

/-- A 32-bit word of a documented area. -/
def SramWord (a : U32) : Prop := a &&& 3 = 0 ∧ ∃ area ∈ sramAreas, area.1 ≤ a ∧ a ≤ area.2

theorem sramAreas_bounds : ∀ area ∈ sramAreas,
    FEE_SRAM_START.toNat ≤ area.1.toNat ∧ area.2.toNat ≤ FEE_SRAM_SIDE_F_STOP.toNat := by
  intro area harea
  simp only [sramAreas, List.mem_cons, List.not_mem_nil, or_false] at harea
  rcases harea with rfl | rfl | rfl | rfl <;> decide

/-- The words of the areas are inside the SRAM, but for the last one. -/
theorem SramWord.range_iff {a : U32} (h : SramWord a) : SramRange a 4 ↔ a ≠ FEE_SRAM_SIDE_F_STOP := by
  obtain ⟨h4, area, harea, hlo, hhi⟩ := h
  obtain ⟨hfirst, hlast⟩ := sramAreas_bounds area harea
  have hend := toNat_FEE_SRAM_END
  have hstop : FEE_SRAM_SIDE_F_STOP.toNat = 0xBFFFFC := rfl
  have hlo' : area.1.toNat ≤ a.toNat := hlo
  have hhi' : a.toNat ≤ area.2.toNat := hhi
  rw [and_three_eq_zero] at h4
  rw [SramRange, ne_eq, ← BitVec.toNat_inj]
  omega

/-! ## Transfers that do not fail -/

namespace SyncAt

variable {S : Type} {sync : SyncCall → S → Int × S} {status : S → Int × S} {mir : Mirror} {addr mtu : U32}

/-- An error has been returned by `smile_fee_sync_data`. -/
def Failed : SyncAt S → Prop
  | waiting ret .. | done ret _ => ret < 0
  | full .. | last .. => False

theorem Failed.step {p : SyncAt S} (h : p.Failed) (chunk : U32 → U32 → S → Int × S) :
    (p.step status chunk mtu).Failed := by
  cases p with
  | full off left s => exact h.elim
  | waiting ret off left s =>
    have hret : ret < 0 := h
    simp only [SyncAt.step, SyncAt.after]
    rw [if_neg (by omega : ¬ ret > 0), if_pos hret]
    split_ifs
    · exact hret
    · exact Int.negSucc_lt_zero 0
  | last off left s => exact h.elim
  | done ret s => exact h

/-- No call is made after an error. -/
theorem Failed.handed {p : SyncAt S} (h : p.Failed) : p.handed sync mir addr mtu = none := by
  cases p with
  | full off left s => exact h.elim
  | waiting ret off left s => rfl
  | last off left s => exact h.elim
  | done ret s => rfl

/-- A step to an error has made the call that it comes from. -/
theorem handed_of_failed_step {p : SyncAt S} (hp : ¬ p.Failed)
    (h : (p.step status (fun off len s => sync (syncCall mir addr off len) s) mtu).Failed) :
    ∃ c ret, ret < 0 ∧ p.handed sync mir addr mtu = some (c, ret) := by
  cases p with
  | full off left s =>
    by_cases hleft : left ≥ mtu
    · simp only [SyncAt.step, if_pos hleft] at h
      exact ⟨_, _, h, if_pos hleft⟩
    · simp only [SyncAt.step, if_neg hleft] at h
      exact h.elim
  | waiting ret off left s =>
    have hret : ¬ ret < 0 := hp
    simp only [SyncAt.step, SyncAt.after] at h
    rw [if_neg hret] at h
    split_ifs at h
    · exact absurd h hret
    · exact h.elim
    · exact h.elim
  | last off left s =>
    by_cases hleft : left ≠ 0
    · simp only [SyncAt.step, if_pos hleft] at h
      refine ⟨_, _, ?_, if_pos hleft⟩
      split_ifs at h with hpos hneg
      · exact h.elim
      · exact hneg
      · exact h.elim
    · simp only [SyncAt.step, if_neg hleft] at h
      exact absurd h (lt_irrefl 0)
  | done ret s => exact absurd h hp

end SyncAt

/-- If every chunk is accepted at last, no call has returned an error. -/
theorem Answered.not_failed {S : Type} {sync : SyncCall → S → Int × S} {status : S → Int × S} {mir : Mirror}
    {fn : SyncFn} {addr size mtu : U32} {s : S} (hans : Answered sync status mir fn addr size mtu s)
    (hacc : ¬ SyncRefused addr size) (n : Nat) : ¬ (fn.run sync status mir addr size mtu s n).Failed := by
  induction n with
  | zero =>
    rw [SyncFn.run, if_neg hacc]
    exact id
  | succ n ih =>
    intro hfail
    rw [syncRun_succ] at hfail
    obtain ⟨c, ret, hneg, hc⟩ := SyncAt.handed_of_failed_step ih hfail
    obtain ⟨m, hm, hacc0⟩ := hans.accepted n c ret hc
    rcases Nat.eq_or_lt_of_le hm with rfl | hlt
    · rw [hc] at hacc0
      cases hacc0
      exact lt_irrefl 0 hneg
    · -- from the error on nothing is handed over
      have hstay : ∀ k, (fn.run sync status mir addr size mtu s (n + 1 + k)).Failed := by
        intro k
        induction k with
        | zero =>
          rw [Nat.add_zero, syncRun_succ]
          exact hfail
        | succ k ihk =>
          rw [← Nat.add_assoc, syncRun_succ]
          exact ihk.step _
      obtain ⟨k, rfl⟩ := Nat.exists_eq_add_of_le hlt
      rw [(hstay k).handed] at hacc0
      cases hacc0

/-! ## What can be done with a word -/

/-- A word can be written, read back, and transferred by `smile_fee_sync_mirror_to_sram` in chunks of any size. -/
structure WordReachable (mir : Mirror) (a : U32) : Prop where
  stored : ∀ m buf buf', ∃ m', smileFeeWriteSram mir m (some buf) a 4 = (4, m') ∧
    smileFeeReadSram mir m' (some buf') a 4 = (4, some (buf'.write 0 (buf.read 0 4)))
  transferred : ∀ (mtu : U32), 1 ≤ mtu.toNat → ∀ (S : Type) (sync : SyncCall → S → Int × S) (status : S → Int × S)
    (s : S), Answered sync status mir .mirrorToSram a 4 mtu s →
      ∃ fuel n s', SyncFn.exec sync status mir .mirrorToSram fuel a 4 mtu s = some (0, s') ∧
        SyncFn.run sync status mir .mirrorToSram a 4 mtu s n = .done 0 s' ∧
        Partition mir mtu a.toNat (a.toNat + 4) (SyncFn.accepted sync status mir .mirrorToSram a 4 mtu s n)

/-- **The documented words that can be accessed**: all of them but the last. -/
theorem wordReachable_iff (mir : Mirror) (a : U32) (h : SramWord a) :
    WordReachable mir a ↔ a ≠ FEE_SRAM_SIDE_F_STOP := by
  rw [← h.range_iff]
  constructor
  · intro hreach
    by_contra hrange
    obtain ⟨m', hwrite, -⟩ := hreach.stored (fun _ => 0) (fun _ => 0) (fun _ => 0)
    have hrefused := writeSram_eq mir (fun _ => 0) a (fun _ => 0) 4
    rw [hwrite, show (4 : U32).toNat = 4 from rfl, if_neg hrange] at hrefused
    cases hrefused
  · intro hrange
    have hacc : ¬ SyncRefused a 4 :=
      SramRange.not_syncRefused (hrange : SramRange a (4 : U32).toNat) ((and_three_eq_zero a).1 h.1)
    constructor
    · intro m buf buf'
      refine ⟨m.write (sramPtr mir a) (buf.read 0 4), ?_, ?_⟩
      · rw [writeSram_eq]
        exact if_pos hrange
      · have hread : (m.write (sramPtr mir a) (buf.read 0 4)).read (sramPtr mir a) 4 = buf.read 0 4 :=
          read_write_same' _ _ _ _ (length_read ..).symm
        rw [readSram_eq, show (4 : U32).toNat = 4 from rfl, if_pos hrange, hread]
        rfl
    · intro mtu hmtu S sync status s hans
      obtain ⟨n, r, s', hn⟩ := syncRun_ends hacc hmtu hans
      have hinv := syncRun_inv sync status mir hacc hmtu .mirrorToSram s n
      have hok := hans.not_failed hacc n
      rw [hn] at hinv hok
      rcases hinv with ⟨rfl, hall⟩ | ⟨rfl, -⟩
      · obtain ⟨fuel, hfuel⟩ := (syncFn_exec_iff sync status mir .mirrorToSram a 4 mtu s s' 0).2 ⟨n, hn⟩
        exact ⟨fuel, n, s', hfuel, hn, hall⟩
      · exact absurd (Int.negSucc_lt_zero 0) hok

theorem wordReachable_first : WordReachable ⟨.little, 0x100, 0x1000⟩ FEE_SRAM_START :=
  (wordReachable_iff ⟨.little, 0x100, 0x1000⟩ FEE_SRAM_START
    ⟨by decide, (FEE_SRAM_ROW_CORR_START, FEE_SRAM_ROW_CORR_STOP), .head _, by decide, by decide⟩).2 (by decide)

/-- The last word of side F is refused by all three functions. -/
theorem not_wordReachable_stop :
    SramWord FEE_SRAM_SIDE_F_STOP ∧ SramRefused FEE_SRAM_SIDE_F_STOP 4 ∧ SyncRefused FEE_SRAM_SIDE_F_STOP 4 ∧
      ¬ WordReachable ⟨.little, 0x100, 0x1000⟩ FEE_SRAM_SIDE_F_STOP := by
  refine ⟨⟨by decide, (FEE_SRAM_SIDE_F_START, FEE_SRAM_SIDE_F_STOP), ?_, by decide, by decide⟩, by decide, by decide,
    fun hreach => ?_⟩
  · exact .tail _ (.tail _ (.tail _ (.head _)))
  obtain ⟨m', hwrite, -⟩ := hreach.stored (fun _ => 0) (fun _ => 0) (fun _ => 0)
  rw [writeSram_eq, if_neg (by decide)] at hwrite
  cases hwrite

end SmileFee
