import SmileFee.Cfg

/-!
# Setters do not interfere (`FEE/smile_fee_ctrl.c:83-1754`)

The setters are the bodies in `Cfg.lean`, with every argument of their parameter types, also those
that are too wide for the field or ignored. `Setter` lists the calls a program can make.

What a call does to the big-endian image of its register is a function of the field's own bits
(`Field.set_actsOn`). As the fields that share a register have no bit in common, **`setters_separate`**
follows for all sequences of calls on either host.
-/

namespace SmileFee

open Word Mem

/-! ## The bits of the fields -/

def Field.all : List Field := [
  .vstart, .vend, .chargeInjectionWidth, .chargeInjectionGap, .parallelToiPeriod, .parallelClkOverlap,
  .ccd2Readout, .ccd4Readout, .nFinalDump, .hEnd, .chargeInjection, .triLevelClk, .imgClkDir, .regClkDir,
  .packetSize, .cdsclpHi, .adcPwrdnEn, .trapPumpingDwellTerm, .syncSel, .selPwrSync, .usePwrSync,
  .digitiseEn, .correctionBypass, .dgEn, .correctionType, .eduWanderingMaskEn, .readoutNodeSel,
  .fullSunPixThreshold, .pixOffset, .readoutPauseCounter, .trapPumpingShuffleCounter, .intSyncPeriod,
  .cdsclpLo, .rowclpHi, .ccd2VodConfig, .ccd4VodConfig, .ccd2VrdConfig, .ccd4VrdConfig, .ccd2VgdConfig,
  .ccd4VgdConfig, .ccdVogConfig, .rowclpLo, .hStart, .ccdModeConfig, .ccdMode2Config, .eventDetection,
  .clearErrorFlag, .ccd2EPixThreshold, .ccd2FPixThreshold, .ccd4EPixThreshold, .ccd4FPixThreshold,
  .eventPktLimit, .executeOp]

theorem Field.mem_all (f : Field) : f ∈ Field.all := by cases f <;> decide

/-- The bits of the register that belong to a field. -/
def Field.bits (f : Field) : U32 := f.mask <<< f.shift

/-- No bit belongs to two fields. -/
theorem Field.bits_disjoint {f g : Field} (hne : f ≠ g) (hreg : f.reg = g.reg) : f.bits &&& g.bits = 0 := by
  have h : ∀ f ∈ Field.all, ∀ g ∈ Field.all, f ≠ g → f.reg = g.reg → f.bits &&& g.bits = 0 := by decide +kernel
  exact h f f.mem_all g g.mem_all hne hreg

theorem Field.reg_le (f : Field) : f.reg ≤ 25 := by cases f <;> decide

/-! ## What a setter does -/

section

variable (s : Mirror) (m : Mem)

theorem Mirror.updReg_unchanged (n : Nat) : s.updReg n (fun x => x) m = m := by
  rw [s.updReg_eq, s.getReg_eq, write_loadBe32]

/-- The update of a register on either host. -/
theorem Mirror.updReg_host (h : Host) (n : Nat) (f : U32 → U32) :
    Mirror.updReg { s with host := h } n f m = s.updReg n f m := by
  rw [Mirror.updReg_eq, Mirror.updReg_eq, Mirror.getReg_eq, Mirror.getReg_eq]
  rfl

theorem Mirror.updReg_updReg (n : Nat) (f g : U32 → U32) :
    s.updReg n f (s.updReg n g m) = s.updReg n (fun x => f (g x)) m := by
  rw [s.updReg_eq n f, s.getReg_updReg, s.updReg_eq n g, s.updReg_eq n fun x => f (g x)]
  exact write_write_same m _ _ _ (by simp)

theorem Mirror.getReg_updReg_of_ne {n n' : Nat} (hne : n' ≠ n) (f : U32 → U32) :
    s.getReg n' (s.updReg n f m) = s.getReg n' m := by
  rw [s.getReg_eq, s.getReg_eq, s.updReg_eq]
  refine loadBe32_write_disjoint m _ ?_
  simp only [cfgReg, length_bytes32]
  omega

/-- Updates of two registers touch different bytes. -/
theorem Mirror.updReg_comm {n n' : Nat} (hne : n ≠ n') (f g : U32 → U32) :
    s.updReg n f (s.updReg n' g m) = s.updReg n' g (s.updReg n f m) := by
  rw [s.updReg_eq n f, s.updReg_eq n' g (s.updReg n f m), s.getReg_updReg_of_ne m hne,
    s.getReg_updReg_of_ne m hne.symm, s.updReg_eq, s.updReg_eq]
  refine write_comm m _ _ ?_
  simp only [cfgReg, length_bytes32]
  omega

theorem Mirror.setFlag_setField (n sh : Nat) (mode : U32) :
    s.setFlag n sh mode m = s.updReg n (setField 1 sh (if mode ≠ 0 then 1 else 0)) m := by
  rw [Mirror.setFlag]
  split <;> rfl

end

/-- **A setter is an update of the bits of its field**, the same whatever the host and the contents. -/
theorem Field.set_actsOn (f : Field) (v : U32) :
    ∃ g, ActsOn f.bits g ∧ ∀ (s : Mirror) (m : Mem), f.set s v m = s.updReg f.reg g m := by
  cases f
  case chargeInjection | triLevelClk | imgClkDir | regClkDir | syncSel | selPwrSync | usePwrSync | digitiseEn |
      correctionBypass | dgEn | correctionType | eduWanderingMaskEn | eventDetection | clearErrorFlag |
      executeOp =>
    exact ⟨_, .of_setField (by decide) _, fun s m => s.setFlag_setField m _ _ v⟩
  case ccd2Readout =>
    exact ⟨_, .of_setField (by decide) _, fun s m => (s.setCcdReadout_eq 0 v m).trans (s.setFlag_setField m 2 24 v)⟩
  case ccd4Readout =>
    exact ⟨_, .of_setField (by decide) _, fun s m => (s.setCcdReadout_eq 1 v m).trans (s.setFlag_setField m 2 25 v)⟩
  case ccd2VodConfig | ccd4VodConfig | ccd2VrdConfig | ccd4VrdConfig | ccd2VgdConfig | ccd4VgdConfig |
      ccdVogConfig =>
    exact ⟨_, .of_setField (by decide) _, fun s m => s.setReg_eq _ v m⟩
  case adcPwrdnEn =>
    refine ⟨setField 1 28 (if v = 0 then 1 else 0), .of_setField (by decide) _, fun s m => ?_⟩
    show s.smileFeeSetAdcPwrdnEn v m = _
    rw [Mirror.smileFeeSetAdcPwrdnEn]
    split <;> rfl
  case readoutNodeSel =>
    -- the register is left alone for an empty selection
    by_cases h0 : v = 0
    · exact ⟨_, .unchanged _, fun s m => (if_pos h0).trans (s.updReg_unchanged m _).symm⟩
    · exact ⟨setField 0xF 28 v, .of_setField (by decide) _, fun s m => if_neg h0⟩
  case ccdMode2Config =>
    by_cases h0 : v.setWidth 8 = 0
    · exact ⟨_, .unchanged _, fun s m => (if_pos h0).trans (s.updReg_unchanged m _).symm⟩
    · exact ⟨setField 0x3 28 (u32 (v.setWidth 8)), .of_setField (by decide) _, fun s m => if_neg h0⟩
  all_goals exact ⟨_, .of_setField (by decide) _, fun _ _ => rfl⟩

/-! ## Sequences of calls -/

/-- A call of a configuration setter. `smile_fee_set_ccd_readout` takes any CCD id, the others are
known by their field. -/
inductive Setter where
  | set (f : Field) (v : U32)
  | ccdReadout (ccdId status : U32)

namespace Setter

/-- The field that a call sets; an unknown CCD has none. -/
def field : Setter → Option Field
  | set f _ => some f
  | ccdReadout ccdId _ => if ccdId = 1 then some .ccd2Readout else if ccdId = 2 then some .ccd4Readout else none

def exec (s : Mirror) (m : Mem) : Setter → Mem
  | set f v => f.set s v m
  | ccdReadout ccdId status => s.smileFeeSetCcdReadout ccdId status m

/-- The memory after a sequence of calls. -/
def run (s : Mirror) (m : Mem) (cs : List Setter) : Mem := cs.foldl (exec s) m

theorem exec_of_field {c : Setter} {f : Field} (h : c.field = some f) :
    ∃ v, ∀ s m, c.exec s m = f.set s v m := by
  cases c with
  | set g v =>
    cases h
    exact ⟨v, fun _ _ => rfl⟩
  | ccdReadout ccdId status =>
    simp only [field] at h
    split at h
    · rename_i h1
      cases h
      exact ⟨status, fun s m => by rw [exec, h1]; rfl⟩
    · split at h
      · rename_i h2
        cases h
        exact ⟨status, fun s m => by rw [exec, h2]; rfl⟩
      · cases h

theorem exec_of_no_field {c : Setter} (h : c.field = none) (s : Mirror) (m : Mem) : c.exec s m = m := by
  cases c with
  | set f v => cases h
  | ccdReadout ccdId status =>
    simp only [field] at h
    split at h
    · cases h
    · rename_i h1
      split at h
      · cases h
      · rename_i h2
        have h1' : ccdId.toNat ≠ 1 := fun h => h1 (BitVec.eq_of_toNat_eq h)
        have h2' : ccdId.toNat ≠ 2 := fun h => h2 (BitVec.eq_of_toNat_eq h)
        rw [exec, Mirror.smileFeeSetCcdReadout]
        split
        · rfl
        · rename_i h0
          have h0' : ccdId.toNat ≠ 0 := fun h => h0 (BitVec.eq_of_toNat_eq h)
          exact if_pos (by omega)

/-- What any call does: nothing, or an update of the bits of its field. -/
theorem exec_cases (c : Setter) : (c.field = none ∧ ∀ s m, c.exec s m = m) ∨
    ∃ f g, c.field = some f ∧ ActsOn f.bits g ∧ ∀ s m, c.exec s m = s.updReg f.reg g m := by
  cases h : c.field with
  | none => exact Or.inl ⟨rfl, exec_of_no_field h⟩
  | some f =>
    obtain ⟨v, hv⟩ := exec_of_field h
    obtain ⟨g, hg, hset⟩ := f.set_actsOn v
    exact Or.inr ⟨f, g, rfl, hg, fun s m => (hv s m).trans (hset s m)⟩

theorem exec_comm {c c' : Setter} (hne : c.field ≠ c'.field) (s : Mirror) (m : Mem) :
    c.exec s (c'.exec s m) = c'.exec s (c.exec s m) := by
  rcases c.exec_cases with ⟨-, h⟩ | ⟨f, g, hf, hg, h⟩
  · rw [h, h]
  · rcases c'.exec_cases with ⟨-, h'⟩ | ⟨f', g', hf', hg', h'⟩
    · rw [h', h']
    · rw [h, h', h, h']
      have hff : f ≠ f' := fun heq => hne (by rw [hf, hf', heq])
      by_cases hreg : f.reg = f'.reg
      · rw [← hreg, s.updReg_updReg, s.updReg_updReg]
        congr 1
        funext x
        exact hg.comm hg' (Field.bits_disjoint hff hreg) x
      · exact s.updReg_comm m hreg g g'

theorem exec_host (c : Setter) (s : Mirror) (h : Host) (m : Mem) : c.exec { s with host := h } m = c.exec s m := by
  rcases c.exec_cases with ⟨-, he⟩ | ⟨f, g, -, -, he⟩
  · rw [he, he]
  · rw [he, he, Mirror.updReg_host]

theorem run_nil (s : Mirror) (m : Mem) : run s m [] = m := List.foldl_nil

theorem run_cons (s : Mirror) (m : Mem) (c : Setter) (cs : List Setter) :
    run s m (c :: cs) = run s (c.exec s m) cs := List.foldl_cons ..

theorem run_host (cs : List Setter) (s : Mirror) (h : Host) (m : Mem) : run { s with host := h } m cs = run s m cs := by
  induction cs generalizing m with
  | nil => rw [run_nil, run_nil]
  | cons c cs ih => rw [run_cons, run_cons, exec_host, ih]

/-- A call changes no other bit than those of its field: the bytes outside of its register, the other
registers of the mirror and the other bits of the register keep their values. -/
structure Frame (s : Mirror) (c : Setter) (m m' : Mem) : Prop where
  bytes : ∀ x, (∀ f, c.field = some f → x < s.cfgReg f.reg ∨ s.cfgReg f.reg + 4 ≤ x) → m' x = m x
  cfg : ∀ n, (∀ f, c.field = some f → n ≠ f.reg) → s.getReg n m' = s.getReg n m
  hk : ∀ n, loadBe32 m' (s.hkReg n) = loadBe32 m (s.hkReg n)
  bits : ∀ f i, c.field = some f → f.bits.getLsbD i = false →
    (s.getReg f.reg m').getLsbD i = (s.getReg f.reg m).getLsbD i

theorem exec_frame (c : Setter) (s : Mirror) (m : Mem) : Frame s c m (c.exec s m) := by
  rcases c.exec_cases with ⟨hnone, h⟩ | ⟨f, g, hf, hg, h⟩
  · rw [h]
    exact ⟨fun _ _ => rfl, fun _ _ => rfl, fun _ => rfl, fun _ _ _ _ => rfl⟩
  · rw [h]
    constructor
    · intro x hx
      exact s.updReg_outside _ g m x (hx f hf)
    · intro n hn
      exact s.getReg_updReg_of_ne m (hn f hf) g
    · intro n
      have hle := f.reg_le
      rw [s.updReg_eq]
      refine loadBe32_write_disjoint m _ ?_
      simp only [Mirror.cfgReg, Mirror.hkReg, length_bytes32]
      omega
    · intro f' i hf' hi
      obtain rfl : f = f' := Option.some.inj (hf.symm.trans hf')
      rw [s.getReg_updReg]
      exact hg.outside _ i hi

end Setter

/-- **Setters do not interfere**: every call of a sequence keeps to its field, calls for different
fields can change places, and the bytes of the mirror do not depend on the host. -/
theorem setters_separate (s : Mirror) (m : Mem) (cs : List Setter) :
    (∀ before c after, cs = before ++ c :: after →
      Setter.Frame s c (Setter.run s m before) (Setter.run s m (before ++ [c]))) ∧
    (∀ before c c' after, cs = before ++ c :: c' :: after → c.field ≠ c'.field →
      Setter.run s m cs = Setter.run s m (before ++ c' :: c :: after)) ∧
    (∀ h, Setter.run { s with host := h } m cs = Setter.run s m cs) := by
  refine ⟨fun before c after _ => ?_, fun before c c' after hcs hne => ?_, fun h => Setter.run_host cs s h m⟩
  · rw [Setter.run, Setter.run, List.foldl_append]
    exact c.exec_frame s _
  · rw [hcs]
    simp only [Setter.run, List.foldl_append, List.foldl_cons]
    rw [Setter.exec_comm hne]

end SmileFee
