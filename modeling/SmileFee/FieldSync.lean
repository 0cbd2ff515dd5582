import SmileFee.Setters
import SmileFee.Upload

/-!
# Synchronisation by field (`FEE/smile_fee_ctrl.c:4217-4943`)

There is a function for every field which synchronises the register that the field is in. A user sets fields
and synchronises fields, and need not know which of them share a register.

`Field.sync_eq` is the table of these functions. **`field_uploaded`** says what it is good for: the FEE agrees
with the mirror on every field that has not been set since a field of its register was synchronised, from the
moment on at which the FEE has received that command.
-/

namespace SmileFee

open Word Mem

section Sync

variable {E : Type} (cb : Callbacks E) (mir : Mirror) (dir : SyncDirection)

/-! cfg_reg_0 -/

def smileFeeSyncVstart : Sys E → Int × Sys E := smileFeeSyncCfgReg_0 cb mir dir
def smileFeeSyncVend : Sys E → Int × Sys E := smileFeeSyncCfgReg_0 cb mir dir

/-! cfg_reg_1 -/

def smileFeeSyncChargeInjectionWidth : Sys E → Int × Sys E := smileFeeSyncCfgReg_1 cb mir dir
def smileFeeSyncChargeInjectionGap : Sys E → Int × Sys E := smileFeeSyncCfgReg_1 cb mir dir

/-! cfg_reg_2 -/

def smileFeeSyncParallelToiPeriod : Sys E → Int × Sys E := smileFeeSyncCfgReg_2 cb mir dir
def smileFeeSyncParallelClkOverlap : Sys E → Int × Sys E := smileFeeSyncCfgReg_2 cb mir dir
def smileFeeSyncCcdReadout : Sys E → Int × Sys E := smileFeeSyncCfgReg_2 cb mir dir

/-! cfg_reg_3 -/

def smileFeeSyncNFinalDump : Sys E → Int × Sys E := smileFeeSyncCfgReg_3 cb mir dir
def smileFeeSyncHEnd : Sys E → Int × Sys E := smileFeeSyncCfgReg_3 cb mir dir
def smileFeeSyncChargeInjection : Sys E → Int × Sys E := smileFeeSyncCfgReg_3 cb mir dir
def smileFeeSyncTriLevelClk : Sys E → Int × Sys E := smileFeeSyncCfgReg_3 cb mir dir
def smileFeeSyncImgClkDir : Sys E → Int × Sys E := smileFeeSyncCfgReg_3 cb mir dir
def smileFeeSyncRegClkDir : Sys E → Int × Sys E := smileFeeSyncCfgReg_3 cb mir dir

/-! cfg_reg_4 -/

def smileFeeSyncPacketSize : Sys E → Int × Sys E := smileFeeSyncCfgReg_4 cb mir dir
def smileFeeSyncCdsclpHi : Sys E → Int × Sys E := smileFeeSyncCfgReg_4 cb mir dir
def smileFeeSyncAdcPwrdnEn : Sys E → Int × Sys E := smileFeeSyncCfgReg_4 cb mir dir

/-! cfg_reg_5 -/

def smileFeeSyncTrapPumpingDwellTerm : Sys E → Int × Sys E := smileFeeSyncCfgReg_5 cb mir dir
def smileFeeSyncSyncSel : Sys E → Int × Sys E := smileFeeSyncCfgReg_5 cb mir dir
def smileFeeSyncSelPwrSync : Sys E → Int × Sys E := smileFeeSyncCfgReg_5 cb mir dir
def smileFeeSyncUsePwrSync : Sys E → Int × Sys E := smileFeeSyncCfgReg_5 cb mir dir
def smileFeeSyncReadoutNodeSel : Sys E → Int × Sys E := smileFeeSyncCfgReg_5 cb mir dir
def smileFeeSyncDigitiseEn : Sys E → Int × Sys E := smileFeeSyncCfgReg_5 cb mir dir
def smileFeeSyncCorrectionBypass : Sys E → Int × Sys E := smileFeeSyncCfgReg_5 cb mir dir
def smileFeeSyncDgEn : Sys E → Int × Sys E := smileFeeSyncCfgReg_5 cb mir dir
def smileFeeSyncCorrectionType : Sys E → Int × Sys E := smileFeeSyncCfgReg_5 cb mir dir
def smileFeeSyncEduWanderingMaskEn : Sys E → Int × Sys E := smileFeeSyncCfgReg_5 cb mir dir

/-! cfg_reg_6 -/

def smileFeeSyncFullSunPixThreshold : Sys E → Int × Sys E := smileFeeSyncCfgReg_6 cb mir dir
def smileFeeSyncPixOffset : Sys E → Int × Sys E := smileFeeSyncCfgReg_6 cb mir dir

/-! cfg_reg_7 -/

def smileFeeSyncReadoutPauseCounter : Sys E → Int × Sys E := smileFeeSyncCfgReg_7 cb mir dir
def smileFeeSyncTrapPumpingShuffleCounter : Sys E → Int × Sys E := smileFeeSyncCfgReg_7 cb mir dir

/-! cfg_reg_8 -/

def smileFeeSyncIntSyncPeriod : Sys E → Int × Sys E := smileFeeSyncCfgReg_8 cb mir dir
def smileFeeSyncCdsclpLo : Sys E → Int × Sys E := smileFeeSyncCfgReg_8 cb mir dir

/-! cfg_reg_9 -/

def smileFeeSyncRowclpHi : Sys E → Int × Sys E := smileFeeSyncCfgReg_9 cb mir dir

/-! cfg_reg_14 -/

def smileFeeSyncCcd2VodConfig : Sys E → Int × Sys E := smileFeeSyncCfgReg_14 cb mir dir

/-! cfg_reg_15 -/

def smileFeeSyncCcd4VodConfig : Sys E → Int × Sys E := smileFeeSyncCfgReg_15 cb mir dir

/-! cfg_reg_16 -/

def smileFeeSyncCcd2VrdConfig : Sys E → Int × Sys E := smileFeeSyncCfgReg_16 cb mir dir

/-! cfg_reg_17 -/

def smileFeeSyncCcd4VrdConfig : Sys E → Int × Sys E := smileFeeSyncCfgReg_17 cb mir dir

/-! cfg_reg_18 -/

def smileFeeSyncCcd2VgdConfig : Sys E → Int × Sys E := smileFeeSyncCfgReg_18 cb mir dir

/-! cfg_reg_19 -/

def smileFeeSyncCcd4VgdConfig : Sys E → Int × Sys E := smileFeeSyncCfgReg_19 cb mir dir

/-! cfg_reg_20 -/

def smileFeeSyncCcdVogConfig : Sys E → Int × Sys E := smileFeeSyncCfgReg_20 cb mir dir

/-! cfg_reg_21 -/

def smileFeeSyncRowclpLo : Sys E → Int × Sys E := smileFeeSyncCfgReg_21 cb mir dir
def smileFeeSyncHStart : Sys E → Int × Sys E := smileFeeSyncCfgReg_21 cb mir dir
def smileFeeSyncCcdModeConfig : Sys E → Int × Sys E := smileFeeSyncCfgReg_21 cb mir dir
def smileFeeSyncCcdMode2Config : Sys E → Int × Sys E := smileFeeSyncCfgReg_21 cb mir dir
def smileFeeSyncEventDetection : Sys E → Int × Sys E := smileFeeSyncCfgReg_21 cb mir dir
def smileFeeSyncClearErrorFlag : Sys E → Int × Sys E := smileFeeSyncCfgReg_21 cb mir dir

/-! cfg_reg_22 -/

def smileFeeSyncCcd2EPixThreshold : Sys E → Int × Sys E := smileFeeSyncCfgReg_22 cb mir dir
def smileFeeSyncCcd2FPixThreshold : Sys E → Int × Sys E := smileFeeSyncCfgReg_22 cb mir dir

/-! cfg_reg_23 -/

def smileFeeSyncCcd4EPixThreshold : Sys E → Int × Sys E := smileFeeSyncCfgReg_23 cb mir dir
def smileFeeSyncCcd4FPixThreshold : Sys E → Int × Sys E := smileFeeSyncCfgReg_23 cb mir dir

/-! cfg_reg_24 -/

def smileFeeSyncEventPktLimit : Sys E → Int × Sys E := smileFeeSyncCfgReg_24 cb mir dir

/-! cfg_reg_25 -/

def smileFeeSyncExecuteOp : Sys E → Int × Sys E := smileFeeSyncCfgReg_25 cb mir dir

/-- The function that synchronises a field. -/
def Field.sync : Field → Sys E → Int × Sys E
  | .vstart => smileFeeSyncVstart cb mir dir
  | .vend => smileFeeSyncVend cb mir dir
  | .chargeInjectionWidth => smileFeeSyncChargeInjectionWidth cb mir dir
  | .chargeInjectionGap => smileFeeSyncChargeInjectionGap cb mir dir
  | .parallelToiPeriod => smileFeeSyncParallelToiPeriod cb mir dir
  | .parallelClkOverlap => smileFeeSyncParallelClkOverlap cb mir dir
  | .ccd2Readout => smileFeeSyncCcdReadout cb mir dir
  | .ccd4Readout => smileFeeSyncCcdReadout cb mir dir
  | .nFinalDump => smileFeeSyncNFinalDump cb mir dir
  | .hEnd => smileFeeSyncHEnd cb mir dir
  | .chargeInjection => smileFeeSyncChargeInjection cb mir dir
  | .triLevelClk => smileFeeSyncTriLevelClk cb mir dir
  | .imgClkDir => smileFeeSyncImgClkDir cb mir dir
  | .regClkDir => smileFeeSyncRegClkDir cb mir dir
  | .packetSize => smileFeeSyncPacketSize cb mir dir
  | .cdsclpHi => smileFeeSyncCdsclpHi cb mir dir
  | .adcPwrdnEn => smileFeeSyncAdcPwrdnEn cb mir dir
  | .trapPumpingDwellTerm => smileFeeSyncTrapPumpingDwellTerm cb mir dir
  | .syncSel => smileFeeSyncSyncSel cb mir dir
  | .selPwrSync => smileFeeSyncSelPwrSync cb mir dir
  | .usePwrSync => smileFeeSyncUsePwrSync cb mir dir
  | .digitiseEn => smileFeeSyncDigitiseEn cb mir dir
  | .correctionBypass => smileFeeSyncCorrectionBypass cb mir dir
  | .dgEn => smileFeeSyncDgEn cb mir dir
  | .correctionType => smileFeeSyncCorrectionType cb mir dir
  | .eduWanderingMaskEn => smileFeeSyncEduWanderingMaskEn cb mir dir
  | .readoutNodeSel => smileFeeSyncReadoutNodeSel cb mir dir
  | .fullSunPixThreshold => smileFeeSyncFullSunPixThreshold cb mir dir
  | .pixOffset => smileFeeSyncPixOffset cb mir dir
  | .readoutPauseCounter => smileFeeSyncReadoutPauseCounter cb mir dir
  | .trapPumpingShuffleCounter => smileFeeSyncTrapPumpingShuffleCounter cb mir dir
  | .intSyncPeriod => smileFeeSyncIntSyncPeriod cb mir dir
  | .cdsclpLo => smileFeeSyncCdsclpLo cb mir dir
  | .rowclpHi => smileFeeSyncRowclpHi cb mir dir
  | .ccd2VodConfig => smileFeeSyncCcd2VodConfig cb mir dir
  | .ccd4VodConfig => smileFeeSyncCcd4VodConfig cb mir dir
  | .ccd2VrdConfig => smileFeeSyncCcd2VrdConfig cb mir dir
  | .ccd4VrdConfig => smileFeeSyncCcd4VrdConfig cb mir dir
  | .ccd2VgdConfig => smileFeeSyncCcd2VgdConfig cb mir dir
  | .ccd4VgdConfig => smileFeeSyncCcd4VgdConfig cb mir dir
  | .ccdVogConfig => smileFeeSyncCcdVogConfig cb mir dir
  | .rowclpLo => smileFeeSyncRowclpLo cb mir dir
  | .hStart => smileFeeSyncHStart cb mir dir
  | .ccdModeConfig => smileFeeSyncCcdModeConfig cb mir dir
  | .ccdMode2Config => smileFeeSyncCcdMode2Config cb mir dir
  | .eventDetection => smileFeeSyncEventDetection cb mir dir
  | .clearErrorFlag => smileFeeSyncClearErrorFlag cb mir dir
  | .ccd2EPixThreshold => smileFeeSyncCcd2EPixThreshold cb mir dir
  | .ccd2FPixThreshold => smileFeeSyncCcd2FPixThreshold cb mir dir
  | .ccd4EPixThreshold => smileFeeSyncCcd4EPixThreshold cb mir dir
  | .ccd4FPixThreshold => smileFeeSyncCcd4FPixThreshold cb mir dir
  | .eventPktLimit => smileFeeSyncEventPktLimit cb mir dir
  | .executeOp => smileFeeSyncExecuteOp cb mir dir

end Sync

/-- The register that is synchronised with a field. -/
def Field.cfgReg : Field → CfgReg
  | .vstart | .vend => .reg0
  | .chargeInjectionWidth | .chargeInjectionGap => .reg1
  | .parallelToiPeriod | .parallelClkOverlap | .ccd2Readout | .ccd4Readout => .reg2
  | .nFinalDump | .hEnd | .chargeInjection | .triLevelClk | .imgClkDir | .regClkDir => .reg3
  | .packetSize | .cdsclpHi | .adcPwrdnEn => .reg4
  | .trapPumpingDwellTerm | .syncSel | .selPwrSync | .usePwrSync | .digitiseEn | .correctionBypass | .dgEn
  | .correctionType | .eduWanderingMaskEn | .readoutNodeSel => .reg5
  | .fullSunPixThreshold | .pixOffset => .reg6
  | .readoutPauseCounter | .trapPumpingShuffleCounter => .reg7
  | .intSyncPeriod | .cdsclpLo => .reg8
  | .rowclpHi => .reg9
  | .ccd2VodConfig => .reg14
  | .ccd4VodConfig => .reg15
  | .ccd2VrdConfig => .reg16
  | .ccd4VrdConfig => .reg17
  | .ccd2VgdConfig => .reg18
  | .ccd4VgdConfig => .reg19
  | .ccdVogConfig => .reg20
  | .rowclpLo | .hStart | .ccdModeConfig | .ccdMode2Config | .eventDetection | .clearErrorFlag => .reg21
  | .ccd2EPixThreshold | .ccd2FPixThreshold => .reg22
  | .ccd4EPixThreshold | .ccd4FPixThreshold => .reg23
  | .eventPktLimit => .reg24
  | .executeOp => .reg25

theorem Field.sync_eq {E : Type} (cb : Callbacks E) (mir : Mirror) (dir : SyncDirection) (f : Field) :
    f.sync cb mir dir = smileFeeSyncCfgReg cb mir dir f.cfgReg := by
  cases f <;> rfl

/-- The synchronisation functions and the accessors agree on the register of a field. -/
theorem Field.idx_cfgReg (f : Field) : f.cfgReg.idx = f.reg := by
  cases f <;> rfl

/-! ## What a setter leaves alone -/

/-- What a getter returns depends on the bits of its field only. -/
theorem getField_congr {f : Field} {x y : U32} (h : x &&& f.bits = y &&& f.bits) :
    getField f.mask f.shift x = getField f.mask f.shift y := by
  have hf (z : U32) : getField f.mask f.shift z = (z &&& f.bits) >>> f.shift := by
    rw [getField, Field.bits, BitVec.ushiftRight_and_distrib, f.mask_fits]
  rw [hf, hf, h]

/-- What an operation on some bits leaves of the others. -/
theorem and_of_actsOn {w : Nat} {b b' : BitVec w} {g : BitVec w → BitVec w} (h : ActsOn b' g) (hd : b &&& b' = 0)
    (x : BitVec w) : g x &&& b = x &&& b := by
  apply BitVec.eq_of_getLsbD_eq
  intro i hi
  have hbit := congrArg (fun z => BitVec.getLsbD z i) hd
  simp only [BitVec.getLsbD_and]
  cases hb : b.getLsbD i with
  | false => simp
  | true =>
    have hg : b'.getLsbD i = false := by simpa [hb] using hbit
    rw [h.outside _ i hg]

/-- A call for another field leaves the bits of a field alone. -/
theorem Setter.exec_bits {c : Setter} {f : Field} (hc : c.field ≠ some f) (mir : Mirror) (m : Mem) :
    mir.getReg f.reg (c.exec mir m) &&& f.bits = mir.getReg f.reg m &&& f.bits := by
  rcases c.exec_cases with ⟨-, h⟩ | ⟨g, act, hg, hact, h⟩
  · rw [h]
  · rw [h]
    by_cases hreg : f.reg = g.reg
    · have hne : f ≠ g := fun heq => hc (by rw [hg, heq])
      rw [hreg, mir.getReg_updReg]
      exact and_of_actsOn hact (Field.bits_disjoint hne hreg) _
    · rw [mir.getReg_updReg_of_ne m hreg]

/-! ## Runs -/

inductive FieldOp where
  | set (c : Setter)
  | sync (f : Field)
  | status

structure FieldCall where
  op : FieldOp
  during : Outside := {}

/-- A call; `none` if a synchronisation returns something else than 0. -/
def FieldCall.exec (T : Target) (mir : Mirror) (s : Sys Net) (c : FieldCall) : Option (Sys Net) :=
  let s := c.during.enter s
  match c.op with
  | .set c => some { s with mem := c.exec mir s.mem }
  | .status => some (smileFeeRmapSyncStatus (netCallbacks T) s).2
  | .sync f =>
    let (rc, s') := f.sync (netCallbacks T) mir .dpu2fee s
    if rc = 0 then some s' else none

def runFields (T : Target) (mir : Mirror) (s : Sys Net) (calls : List FieldCall) : Option (Sys Net) :=
  calls.foldlM (fun s c => c.exec T mir s) s

/-- The field that a call sets. -/
def FieldCall.sets (c : FieldCall) : Option Field :=
  match c.op with
  | .set c => c.field
  | _ => none

/-- The call, known by the register. -/
def FieldCall.upload (mir : Mirror) (c : FieldCall) : UploadCall where
  op := match c.op with
    | .set c => .set fun m => c.exec mir m
    | .sync f => .sync f.cfgReg
    | .status => .status
  during := c.during

/-- The register that a call synchronises, with its value. -/
def FieldCall.synced (mir : Mirror) (m : Mem) (c : FieldCall) : List (Nat × U32) :=
  match c.op with
  | .sync f => [(f.reg, mir.getReg f.reg m)]
  | _ => []

section Run

variable {T : Target} {mir : Mirror}

theorem FieldCall.exec_upload {w : Upload} {s' : Sys Net} {c : FieldCall} (hc : c.exec T mir w.sys = some s') :
    (c.upload mir).exec T mir w = some ⟨s', w.synced ++ c.synced mir w.sys.mem⟩ := by
  obtain ⟨op, during⟩ := c
  cases op with
  | set c =>
    rw [← Option.some.inj hc]
    simp [upload, UploadCall.exec, FieldCall.synced]
  | status =>
    rw [← Option.some.inj hc]
    simp [upload, UploadCall.exec, FieldCall.synced]
  | sync f =>
    simp only [FieldCall.exec, Field.sync_eq] at hc
    split at hc
    · rename_i h
      have hreg : (f.cfgReg.idx, mir.getReg f.cfgReg.idx w.sys.mem) = (f.reg, mir.getReg f.reg w.sys.mem) := by
        rw [f.idx_cfgReg]
      exact (if_pos h).trans (congrArg some (congrArg₂ Upload.mk (Option.some.inj hc)
        (congrArg (fun u => w.synced ++ [u]) hreg)))
    · cases hc

variable (hT : ∀ c data, T.carries c data → data = []) {cfg : RmapCfg} (hfee : mir.fee ≠ 0)
include hT hfee

/-- A call keeps the invariant of the upload, and only setters change the memory. -/
theorem FieldCall.exec_inv {w : Upload} (h : UploadInv T cfg w) {c : FieldCall} {s' : Sys Net}
    (hc : c.exec T mir w.sys = some s') :
    UploadInv T cfg ⟨s', w.synced ++ c.synced mir w.sys.mem⟩ ∧
      s'.mem = match c.op with | .set c => c.exec mir w.sys.mem | _ => w.sys.mem := by
  obtain ⟨hinv, hmem⟩ := UploadCall.exec_inv hT hfee h (FieldCall.exec_upload hc)
  refine ⟨hinv, hmem.trans ?_⟩
  obtain ⟨op, during⟩ := c
  cases op <;> rfl

theorem run_fields {w : Upload} (h : UploadInv T cfg w) {calls : List FieldCall} {s' : Sys Net}
    (hrun : runFields T mir w.sys calls = some s') : ∃ w', w'.sys = s' ∧ UploadInv T cfg w' := by
  induction calls generalizing w with
  | nil => exact ⟨w, Option.some.inj hrun, h⟩
  | cons c calls ih =>
    obtain ⟨s₁, hc, hcalls⟩ := Option.bind_eq_some_iff.1 hrun
    obtain ⟨h₁, -⟩ := FieldCall.exec_inv hT hfee h hc
    exact ih h₁ hcalls

omit hT hfee in
/-- The value of a register after all synchronisations, or after all but the last one. -/
theorem lastSynced_take_concat (init : Nat → U32) (synced : List (Nat × U32)) (u : Nat × U32) {j : Nat}
    (hj : j ≤ (synced ++ [u]).length) :
    (j ≤ synced.length ∧ (synced ++ [u]).take j = synced.take j) ∨
      lastSynced init ((synced ++ [u]).take j) = Function.update (lastSynced init synced) u.1 u.2 := by
  by_cases h : j ≤ synced.length
  · exact Or.inl ⟨h, List.take_append_of_le_length h⟩
  · right
    rw [List.length_append, List.length_singleton] at hj
    rw [List.take_of_length_le (by simp; omega), lastSynced_concat]

variable (init : Nat → U32)

/-- After `k` commands and from then on, the value last synchronised has the bits of the field in the mirror. -/
structure FieldUp (mir : Mirror) (init : Nat → U32) (f : Field) (k : Nat) (w : Upload) : Prop where
  le : k ≤ w.synced.length
  agree : ∀ j, k ≤ j → j ≤ w.synced.length →
    lastSynced init (w.synced.take j) f.reg &&& f.bits = mir.getReg f.reg w.sys.mem &&& f.bits

/-- A synchronisation brings the fields of its register up. -/
theorem FieldUp.sync {w : Upload} (h : UploadInv T cfg w) {g : Field} {d : Outside} {s' : Sys Net}
    (hc : FieldCall.exec T mir w.sys ⟨.sync g, d⟩ = some s') {f : Field} (hf : f.reg = g.reg) :
    FieldUp mir init f (w.synced.length + 1) ⟨s', w.synced ++ [(g.reg, mir.getReg g.reg w.sys.mem)]⟩ := by
  obtain ⟨-, hmem⟩ := FieldCall.exec_inv hT hfee h hc
  refine ⟨by simp, fun j hk hj => ?_⟩
  rcases lastSynced_take_concat init _ _ hj with ⟨hle, -⟩ | hlast
  · omega
  · rw [hlast, hf, Function.update_self]
    exact congrArg (mir.getReg g.reg · &&& f.bits) hmem.symm

/-- The fields that are up stay so in calls that do not set them. -/
theorem FieldUp.step {w : Upload} (h : UploadInv T cfg w) {c : FieldCall} {s' : Sys Net}
    (hc : c.exec T mir w.sys = some s') {f : Field} {k : Nat} (hup : FieldUp mir init f k w)
    (hsets : c.sets ≠ some f) : FieldUp mir init f k ⟨s', w.synced ++ c.synced mir w.sys.mem⟩ := by
  obtain ⟨-, hmem⟩ := FieldCall.exec_inv hT hfee h hc
  obtain ⟨op, during⟩ := c
  cases op with
  | set c =>
    refine ⟨by simpa [FieldCall.synced] using hup.le, fun j hk hj => ?_⟩
    have hbits : mir.getReg f.reg s'.mem &&& f.bits = mir.getReg f.reg w.sys.mem &&& f.bits := by
      rw [hmem]
      exact Setter.exec_bits hsets mir _
    simp only [FieldCall.synced, List.append_nil] at hj ⊢
    rw [hbits]
    exact hup.agree j hk hj
  | status =>
    refine ⟨by simpa [FieldCall.synced] using hup.le, fun j hk hj => ?_⟩
    simp only [FieldCall.synced, List.append_nil] at hj ⊢
    rw [hmem]
    exact hup.agree j hk hj
  | sync g =>
    have hle := hup.le
    refine ⟨by simp only [FieldCall.synced, List.length_append]; omega, fun j hk hj => ?_⟩
    simp only [FieldCall.synced] at hj ⊢
    rw [hmem]
    rcases lastSynced_take_concat init _ _ hj with ⟨hj', htake⟩ | hlast
    · rw [htake]
      exact hup.agree j hk hj'
    · rw [hlast]
      by_cases hreg : f.reg = g.reg
      · rw [hreg, Function.update_self]
      · -- a synchronisation of another register
        rw [Function.update_of_ne hreg]
        have := hup.agree w.synced.length hle le_rfl
        rwa [List.take_length] at this

theorem FieldUp.run {w : Upload} (h : UploadInv T cfg w) {calls : List FieldCall} {s' : Sys Net}
    (hrun : runFields T mir w.sys calls = some s') {f : Field} {k : Nat} (hup : FieldUp mir init f k w)
    (hsets : ∀ c ∈ calls, c.sets ≠ some f) : ∃ w', w'.sys = s' ∧ UploadInv T cfg w' ∧ FieldUp mir init f k w' := by
  induction calls generalizing w with
  | nil => exact ⟨w, Option.some.inj hrun, h, hup⟩
  | cons c calls ih =>
    obtain ⟨s₁, hc, hcalls⟩ := Option.bind_eq_some_iff.1 hrun
    obtain ⟨h₁, -⟩ := FieldCall.exec_inv hT hfee h hc
    have hup₁ := hup.step hT hfee init h hc (hsets c List.mem_cons_self)
    exact ih h₁ hcalls hup₁ fun c' hc' => hsets c' (List.mem_cons_of_mem _ hc')

end Run

section Fields

variable {cfg : RmapCfg} (hd : cfg.dpath = []) (hr : cfg.rpath = []) (sim : Mirror) (junk : Nat → Junk) (fee₀ : Mem)
include hd hr

/-- **Synchronising a field uploads all fields of its register**: let a field of the register of `f` be
synchronised in a run of setters, synchronisations that return 0 and polls with any delays, from an empty log and
an idle link, and let `f` not be set after that. Then `f` has the same bits in the FEE as in the mirror, in every
state of the FEE from the moment on at which it has received the command, whatever other fields are set and
synchronised in the meantime; and the getters agree. -/
theorem field_uploaded (mir : Mirror) (hfee : mir.fee ≠ 0) (s : Sys Net) (hcfg : s.cfg = cfg) (hlog : s.log.Empty)
    (henv : s.env.Idle) (hrx : s.rxLog = []) (before after : List FieldCall) (g : Field) (d : Outside)
    (s₁ s' : Sys Net) (hbefore : runFields (simTarget hd hr sim junk fee₀) mir s before = some s₁)
    (hafter : runFields (simTarget hd hr sim junk fee₀) mir s₁ (⟨.sync g, d⟩ :: after) = some s') (f : Field)
    (hf : f.reg = g.reg) (hsets : ∀ c ∈ after, c.sets ≠ some f) :
    s₁.env.sent.length < s'.env.sent.length ∧
    ∀ j, s₁.env.sent.length < j → j ≤ s'.env.sent.length →
      let fee := feeMem sim junk fee₀ s'.env.sent j
      sim.getReg f.reg fee &&& f.bits = mir.getReg f.reg s'.mem &&& f.bits ∧
      (f.oddGet = false → f.get sim fee = f.get mir s'.mem) := by
  have hT : ∀ c data, (simTarget hd hr sim junk fee₀).carries c data → data = [] := fun _ _ h => h
  obtain ⟨hinv, htight⟩ := Inv.start (T := simTarget hd hr sim junk fee₀) hlog henv hrx
  have hstart : UploadInv (simTarget hd hr sim junk fee₀) cfg ⟨s, []⟩ := by
    refine ⟨hcfg, ?_, [], hinv, htight⟩
    rw [henv.1]; exact .nil
  obtain ⟨w₁, rfl, h₁⟩ := run_fields hT hfee hstart hbefore
  obtain ⟨s₂, hc, hrest⟩ := Option.bind_eq_some_iff.1 hafter
  obtain ⟨h₂, -⟩ := FieldCall.exec_inv hT hfee h₁ hc
  have hup := FieldUp.sync hT hfee (fun n => sim.getReg n fee₀) h₁ hc hf
  obtain ⟨w', rfl, h', hup'⟩ := hup.run hT hfee _ h₂ hrest hsets
  have hlen₁ := h₁.2.1.length_eq
  have hlen' := h'.2.1.length_eq
  have hle := hup'.le
  refine ⟨by omega, fun j hj hj' => ?_⟩
  have hbits : sim.getReg f.reg (feeMem sim junk fee₀ w'.sys.env.sent j) &&& f.bits =
      mir.getReg f.reg w'.sys.mem &&& f.bits := by
    rw [(feeMem_eq hd hr sim junk fee₀ h'.2.1 j hj').1]
    exact hup'.agree j (by omega) (by omega)
  refine ⟨hbits, fun hodd => ?_⟩
  rw [f.get_eq sim _ hodd, f.get_eq mir _ hodd]
  exact getField_congr hbits

end Fields

/-- The FEE receives the start row, which is set, when the end row is synchronised; it does not receive the end row
that is set after that. -/
theorem field_uploaded_vstart :
    let mir : Mirror := ⟨.little, 0x100, 0⟩
    let sim : Mirror := ⟨.big, 0x4000, 0⟩
    let junk : Nat → Junk := fun _ => ⟨fun _ => 0xEE, fun _ => 0xEE, fun _ => 0xEE⟩
    let fee₀ : Mem := fun _ => 0
    let T := @simTarget {} rfl rfl sim junk fee₀
    let s : Sys Net := ⟨{}, {}, fun _ => 0, [], {}⟩
    ∃ s' : Sys Net, runFields T mir s [⟨.set (.set .vstart 5), {}⟩, ⟨.sync .vend, {}⟩, ⟨.set (.set .vend 7), {}⟩,
        ⟨.status, {}⟩] = some s' ∧ s'.env.sent.length = 1 ∧
      sim.smileFeeGetVstart (feeMem sim junk fee₀ s'.env.sent 1) = 5 ∧ mir.smileFeeGetVend s'.mem = 7 ∧
      u32 (sim.smileFeeGetVstart (feeMem sim junk fee₀ s'.env.sent 1)) = u32 (mir.smileFeeGetVstart s'.mem) := by
  intro mir sim junk fee₀ T s
  have hrun : (runFields T mir s [⟨.set (.set .vstart 5), {}⟩]).map (fun s₁ : Sys Net => s₁.env.sent.length) =
      some 0 := by decide
  obtain ⟨s₁, h₁, hlen₁⟩ := Option.map_eq_some_iff.1 hrun
  have hrun' : (runFields T mir s₁ [⟨.sync .vend, {}⟩, ⟨.set (.set .vend 7), {}⟩, ⟨.status, {}⟩]).map
      (fun s' : Sys Net => (s'.env.sent.length, sim.smileFeeGetVstart (feeMem sim junk fee₀ s'.env.sent 1),
        mir.smileFeeGetVend s'.mem)) = some (1, 5, 7) := by
    rw [← Option.some.inj h₁]
    decide +kernel
  obtain ⟨s', h', hvals⟩ := Option.map_eq_some_iff.1 hrun'
  obtain ⟨hlen, hvals⟩ := Prod.mk.inj hvals
  obtain ⟨hstart, hend⟩ := Prod.mk.inj hvals
  have hempty : TransLog.Empty {} := ⟨rfl, fun k => by simp [TransLog.holds]⟩
  have hup := (@field_uploaded {} rfl rfl sim junk fee₀ mir (by decide) s rfl hempty ⟨rfl, rfl, rfl⟩ rfl
    [⟨.set (.set .vstart 5), {}⟩] [⟨.set (.set .vend 7), {}⟩, ⟨.status, {}⟩] .vend {} s₁ s' h₁ h' .vstart rfl
    (by decide)).2 1 (by rw [hlen₁]; decide) (by rw [hlen])
  refine ⟨s', ?_, hlen, hstart, hend, hup.2 rfl⟩
  rw [← List.singleton_append, runFields, List.foldlM_append]
  exact (congrArg (fun x => x >>= _) h₁).trans h'

end SmileFee
