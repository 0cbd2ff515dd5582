import SmileFee.Lib.Tiling
import SmileFee.SramAccess

/-!
# The loops of the SRAM transfers (`FEE/smile_fee_ctrl.c:5243-5380`)

| here | there |
| --- | --- |
| `SyncFn`          | `smile_fee_sync_mirror_to_sram`, `smile_fee_sync_sram_to_mirror` |
| `SyncCall`        | what `smile_fee_sync_data` is called with |
| `SyncAt`          | the points in the two functions where their loops begin anew, and the `return`s |
| `SyncFn.run`      | the points passed, one after the other, for as long as the function runs |

`smile_fee_sync_data` and `smile_fee_rmap_sync_status` may be any functions of a state: the results of the
calls are any sequence. A call need not return, so there is no last point; **`syncFn_exec_iff`** says that the
runs that do return are those of `syncSram`.
-/

namespace SmileFee

open Word Tiling

/-- A call of `smile_fee_sync_data`: the remote address, the pointer into the mirror, and the length. -/
structure SyncCall where
  addr : U32
  data : Nat
  len : U32
deriving DecidableEq, Repr

/-- The call for `len` bytes from `off` on (`:5268`, `:5285`, `:5342`, `:5364`). -/
def syncCall (mir : Mirror) (addr off len : U32) : SyncCall :=
  ⟨addr + off, mir.sram + (addr - FEE_SRAM_START + off).toNat, len⟩

/-- The checks of both functions. -/
def SyncRefused (addr size : U32) : Prop :=
  addr &&& 3 ≠ 0 ∨ addr < FEE_SRAM_START ∨ addr > FEE_SRAM_END ∨ size > FEE_SRAM_SIZE ∨
    addr + size > FEE_SRAM_END + 1

instance (addr size : U32) : Decidable (SyncRefused addr size) := inferInstanceAs (Decidable (_ ∨ _))

/-- The two functions. -/
inductive SyncFn where
  | mirrorToSram | sramToMirror
deriving DecidableEq, Repr

/-! ## Points of a run -/

/-- `off` is `sent` or `recv`, and `left` is `tx_bytes` or `rx_bytes`. -/
inductive SyncAt (S : Type) where
  /-- The head of the first loop. -/
  | full (off left : U32) (s : S)
  /-- The head of `while (smile_fee_rmap_sync_status() > 3)`, where `ret` is the result of the chunk. -/
  | waiting (ret : Int) (off left : U32) (s : S)
  /-- The head of the second loop. -/
  | last (off left : U32) (s : S)
  | done (ret : Int) (s : S)

namespace SyncAt

variable {S : Type} (status : S → Int × S) (chunk : U32 → U32 → S → Int × S) (mtu : U32)

/-- What the first loop does about the result of a chunk. -/
def after (ret : Int) (off left : U32) (s : S) : SyncAt S :=
  if ret > 0 then full off left s
  else if ret < 0 then done (-1) s
  else full (off + mtu) (left - mtu) s

def step : SyncAt S → SyncAt S
  | full off left s =>
    if left ≥ mtu then
      let (ret, s) := chunk off mtu s
      waiting ret off left s
    else last off left s
  | waiting ret off left s =>
    let (pending, s) := status s
    if pending > 3 then waiting ret off left s else after mtu ret off left s
  | last off left s =>
    if left ≠ 0 then
      let (ret, s) := chunk off left s
      if ret > 0 then last off left s
      else if ret < 0 then done (-1) s
      else last off 0 s
    else done 0 s
  | done ret s => done ret s

theorem step_done (n : Nat) (ret : Int) (s : S) : (step status chunk mtu)^[n] (done ret s) = done ret s :=
  Function.iterate_fixed rfl n

end SyncAt

namespace SyncFn

variable {S : Type} (sync : SyncCall → S → Int × S) (status : S → Int × S) (mir : Mirror)

/-- The upload does not wait: nothing is pending for it. -/
def pending : SyncFn → S → Int × S
  | mirrorToSram => fun s => (0, s)
  | sramToMirror => status

/-- The function, for the fuel of its loops. -/
def exec (fn : SyncFn) (fuel : Nat) (addr size mtu : U32) (s : S) : Option (Int × S) :=
  let chunk off len s := sync (syncCall mir addr off len) s
  match fn with
  | mirrorToSram => syncSram (fun _ s => some s) chunk fuel addr size mtu s
  | sramToMirror => syncSram (waitPending status) chunk fuel addr size mtu s

/-- Where the function is after `n` steps. -/
def run (fn : SyncFn) (addr size mtu : U32) (s : S) (n : Nat) : SyncAt S :=
  (SyncAt.step (fn.pending status) (fun off len s => sync (syncCall mir addr off len) s) mtu)^[n]
    (if SyncRefused addr size then .done (-1) s else .full 0 size s)

end SyncFn

/-- The two functions with the call that they make. -/
theorem syncFn_exec_eq {E : Type} (cb : Callbacks E) (mir : Mirror) (fuel : Nat) (addr size mtu : U32) (s : Sys E) :
    smileFeeSyncMirrorToSram cb mir fuel addr size mtu s =
        SyncFn.exec (fun c s => smileFeeSyncData cb s feeWriteCmdData c.addr c.data c.len false)
          (smileFeeRmapSyncStatus cb) mir .mirrorToSram fuel addr size mtu s ∧
      smileFeeSyncSramToMirror cb mir fuel addr size mtu s =
        SyncFn.exec (fun c s => smileFeeSyncData cb s feeReadCmdData c.addr c.data c.len true)
          (smileFeeRmapSyncStatus cb) mir .sramToMirror fuel addr size mtu s :=
  ⟨rfl, rfl⟩

/-! ## Runs that return -/

section

variable {S : Type} {status : S → Int × S} {chunk : U32 → U32 → S → Int × S} {mtu : U32}

theorem syncSram_eq (wait : Nat → S → Option S) (fuel : Nat) (addr size : U32) (s : S) :
    syncSram wait chunk fuel addr size mtu s =
      if SyncRefused addr size then some (-1, s) else mtuChunks wait chunk mtu fuel 0 size s := by
  unfold syncSram
  by_cases h1 : addr &&& 3 ≠ 0
  · rw [if_pos h1, if_pos (.inl h1)]
  by_cases h2 : addr < FEE_SRAM_START
  · rw [if_neg h1, if_pos h2, if_pos (.inr (.inl h2))]
  by_cases h3 : addr > FEE_SRAM_END
  · rw [if_neg h1, if_neg h2, if_pos h3, if_pos (.inr (.inr (.inl h3)))]
  by_cases h4 : size > FEE_SRAM_SIZE
  · rw [if_neg h1, if_neg h2, if_neg h3, if_pos h4, if_pos (.inr (.inr (.inr (.inl h4))))]
  by_cases h5 : addr + size > FEE_SRAM_END + 1
  · rw [if_neg h1, if_neg h2, if_neg h3, if_neg h4, if_pos h5, if_pos (.inr (.inr (.inr (.inr h5))))]
  rw [if_neg h1, if_neg h2, if_neg h3, if_neg h4, if_neg h5, if_neg]
  rintro (h | h | h | h | h) <;> contradiction

/-- `wait` is the inner loop over `status`: it gets where the steps get, and has enough fuel for that. -/
structure WaitsFor (wait : Nat → S → Option S) (status : S → Int × S) : Prop where
  sound : ∀ {fuel : Nat} {s s' : S}, wait fuel s = some s' →
    ∀ (chunk : U32 → U32 → S → Int × S) (mtu : U32) ret off left,
      ∃ n, (SyncAt.step status chunk mtu)^[n] (.waiting ret off left s) = SyncAt.after mtu ret off left s'
  complete : ∀ {n : Nat} {chunk : U32 → U32 → S → Int × S} {mtu : U32} {ret : Int} {off left : U32} {s s' : S}
    {r : Int},
    (SyncAt.step status chunk mtu)^[n] (.waiting ret off left s) = .done r s' →
      ∃ k < n, ∃ s₂, (∀ fuel, n ≤ fuel → wait fuel s = some s₂) ∧
        (SyncAt.step status chunk mtu)^[k] (SyncAt.after mtu ret off left s₂) = .done r s'

theorem waitsFor_none : WaitsFor (fun _ s => some s) fun s : S => (0, s) where
  sound h chunk mtu ret off left := by
    cases h
    exact ⟨1, rfl⟩
  complete {n chunk mtu ret off left s s' r} h := by
    cases n with
    | zero => cases h
    | succ n => exact ⟨n, n.lt_succ_self, s, fun _ _ => rfl, h⟩

theorem waitsFor_waitPending (status : S → Int × S) : WaitsFor (waitPending status) status where
  sound {fuel s s'} h chunk mtu ret off left := by
    induction fuel generalizing s with
    | zero => cases h
    | succ fuel ih =>
      rw [waitPending] at h
      rcases hst : status s with ⟨pending, s₁⟩
      simp only [hst] at h
      by_cases hp : pending > 3
      · rw [if_pos hp] at h
        obtain ⟨n, hn⟩ := ih h
        refine ⟨n + 1, ?_⟩
        rw [Function.iterate_succ_apply]
        simp only [SyncAt.step, hst]
        rw [if_pos hp, hn]
      · rw [if_neg hp, Option.some.injEq] at h
        subst h
        refine ⟨1, ?_⟩
        simp only [Function.iterate_one, SyncAt.step, hst]
        exact if_neg hp
  complete {n chunk mtu ret off left s s' r} h := by
    induction n generalizing s with
    | zero => cases h
    | succ n ih =>
      rw [Function.iterate_succ_apply] at h
      rcases hst : status s with ⟨pending, s₁⟩
      simp only [SyncAt.step, hst] at h
      by_cases hp : pending > 3
      · rw [if_pos hp] at h
        obtain ⟨k, hk, s₂, hwait, hrest⟩ := ih h
        refine ⟨k, by omega, s₂, fun fuel hfuel => ?_, hrest⟩
        obtain ⟨fuel, rfl⟩ := Nat.exists_eq_add_of_le' (Nat.le_trans (Nat.succ_le_succ n.zero_le) hfuel)
        rw [waitPending]
        simp only [hst]
        rw [if_pos hp]
        exact hwait fuel (by omega)
      · rw [if_neg hp] at h
        refine ⟨n, n.lt_succ_self, s₁, fun fuel hfuel => ?_, h⟩
        obtain ⟨fuel, rfl⟩ := Nat.exists_eq_add_of_le' (Nat.le_trans (Nat.succ_le_succ n.zero_le) hfuel)
        rw [waitPending]
        simp only [hst]
        exact if_neg hp

/-- What the second loop returns, its steps reach. -/
theorem lastChunk_steps {fuel : Nat} {off left : U32} {s s' : S} {r : Int}
    (h : lastChunk chunk fuel off left s = some (r, s')) :
    ∃ n, (SyncAt.step status chunk mtu)^[n] (.last off left s) = .done r s' := by
  induction fuel generalizing left s with
  | zero => cases h
  | succ fuel ih =>
    rw [lastChunk] at h
    by_cases hleft : left ≠ 0
    · rcases hc : chunk off left s with ⟨ret, s₁⟩
      rw [if_pos hleft] at h
      simp only [hc] at h
      have hstep : SyncAt.step status chunk mtu (.last off left s) =
          if ret > 0 then .last off left s₁ else if ret < 0 then .done (-1) s₁ else .last off 0 s₁ := by
        simp only [SyncAt.step, hc]
        exact if_pos hleft
      by_cases hpos : ret > 0
      · rw [if_pos hpos] at h hstep
        obtain ⟨n, hn⟩ := ih h
        exact ⟨n + 1, by rw [Function.iterate_succ_apply, hstep, hn]⟩
      · rw [if_neg hpos] at h hstep
        by_cases hneg : ret < 0
        · rw [if_pos hneg] at h hstep
          cases h
          exact ⟨1, hstep⟩
        · rw [if_neg hneg] at h hstep
          obtain ⟨n, hn⟩ := ih h
          exact ⟨n + 1, by rw [Function.iterate_succ_apply, hstep, hn]⟩
    · rw [if_neg hleft] at h
      cases h
      refine ⟨1, ?_⟩
      simp only [Function.iterate_one, SyncAt.step]
      exact if_neg hleft

theorem lastChunk_of_steps {n fuel : Nat} {off left : U32} {s s' : S} {r : Int}
    (h : (SyncAt.step status chunk mtu)^[n] (.last off left s) = .done r s') (hfuel : n ≤ fuel) :
    lastChunk chunk fuel off left s = some (r, s') := by
  induction n generalizing left s fuel with
  | zero => cases h
  | succ n ih =>
    obtain ⟨fuel, rfl⟩ := Nat.exists_eq_add_of_le' (Nat.le_trans (Nat.succ_le_succ n.zero_le) hfuel)
    rw [Function.iterate_succ_apply] at h
    rw [lastChunk]
    by_cases hleft : left ≠ 0
    · rcases hc : chunk off left s with ⟨ret, s₁⟩
      simp only [SyncAt.step, hc, if_pos hleft] at h ⊢
      split_ifs at h ⊢
      · exact ih h (by omega)
      · rw [SyncAt.step_done] at h
        cases h
        rfl
      · exact ih h (by omega)
    · simp only [SyncAt.step, if_neg hleft, SyncAt.step_done] at h ⊢
      cases h
      rfl

theorem mtuChunks_steps {wait : Nat → S → Option S} (hw : WaitsFor wait status) {fuel : Nat} {off left : U32} {s s' : S}
    {r : Int} (h : mtuChunks wait chunk mtu fuel off left s = some (r, s')) :
    ∃ n, (SyncAt.step status chunk mtu)^[n] (.full off left s) = .done r s' := by
  induction fuel generalizing off left s with
  | zero => cases h
  | succ fuel ih =>
    rw [mtuChunks] at h
    by_cases hleft : left ≥ mtu
    · rcases hc : chunk off mtu s with ⟨ret, s₁⟩
      simp only [if_pos hleft, hc] at h
      have hstep : SyncAt.step status chunk mtu (.full off left s) = .waiting ret off left s₁ := by
        simp only [SyncAt.step, hc]
        exact if_pos hleft
      cases hwait : wait fuel s₁ with
      | none => simp [hwait] at h
      | some s₂ =>
        simp only [hwait] at h
        obtain ⟨n, hn⟩ := hw.sound hwait chunk mtu ret off left
        -- the rest of the run, from where the loop goes on
        suffices hrest : ∃ k, (SyncAt.step status chunk mtu)^[k] (SyncAt.after mtu ret off left s₂) = .done r s' by
          obtain ⟨k, hk⟩ := hrest
          refine ⟨k + (n + 1), ?_⟩
          rw [Function.iterate_add_apply, Function.iterate_succ_apply, hstep, hn, hk]
        unfold SyncAt.after
        split_ifs at h ⊢
        · exact ih h
        · cases h
          exact ⟨0, rfl⟩
        · exact ih h
    · rw [if_neg hleft] at h
      obtain ⟨n, hn⟩ := lastChunk_steps h
      refine ⟨n + 1, ?_⟩
      rw [Function.iterate_succ_apply]
      simp only [SyncAt.step, if_neg hleft]
      exact hn

theorem mtuChunks_of_steps {wait : Nat → S → Option S} (hw : WaitsFor wait status) {n fuel : Nat} {off left : U32}
    {s s' : S} {r : Int} (h : (SyncAt.step status chunk mtu)^[n] (.full off left s) = .done r s') (hfuel : n ≤ fuel) :
    mtuChunks wait chunk mtu fuel off left s = some (r, s') := by
  induction n using Nat.strong_induction_on generalizing off left s fuel with
  | _ n ih =>
    cases n with
    | zero => cases h
    | succ n =>
      obtain ⟨fuel, rfl⟩ := Nat.exists_eq_add_of_le' (Nat.le_trans (Nat.succ_le_succ n.zero_le) hfuel)
      rw [Function.iterate_succ_apply] at h
      rw [mtuChunks]
      by_cases hleft : left ≥ mtu
      · rcases hc : chunk off mtu s with ⟨ret, s₁⟩
        simp only [SyncAt.step, hc, if_pos hleft] at h ⊢
        obtain ⟨k, hk, s₂, hwait, hrest⟩ := hw.complete h
        simp only [hwait fuel (by omega)]
        unfold SyncAt.after at hrest
        split_ifs at hrest ⊢
        · exact ih k (by omega) hrest (by omega)
        · rw [SyncAt.step_done] at hrest
          cases hrest
          rfl
        · exact ih k (by omega) hrest (by omega)
      · simp only [SyncAt.step, if_neg hleft] at h ⊢
        exact lastChunk_of_steps h (by omega)

end

/-- **The steps and the fuel agree**: the function returns with enough fuel if and only if its run gets to a
`return`, and with the same result. -/
theorem syncFn_exec_iff {S : Type} (sync : SyncCall → S → Int × S) (status : S → Int × S) (mir : Mirror) (fn : SyncFn)
    (addr size mtu : U32) (s s' : S) (r : Int) :
    (∃ fuel, fn.exec sync status mir fuel addr size mtu s = some (r, s')) ↔
      ∃ n, fn.run sync status mir addr size mtu s n = .done r s' := by
  -- the two functions differ in how they wait
  obtain ⟨wait, hw, hexec⟩ : ∃ wait : Nat → S → Option S, WaitsFor wait (fn.pending status) ∧
      ∀ fuel, fn.exec sync status mir fuel addr size mtu s =
        syncSram wait (fun off len s => sync (syncCall mir addr off len) s) fuel addr size mtu s := by
    cases fn with
    | mirrorToSram => exact ⟨_, waitsFor_none, fun _ => rfl⟩
    | sramToMirror => exact ⟨_, waitsFor_waitPending status, fun _ => rfl⟩
  simp only [hexec, syncSram_eq, SyncFn.run]
  split_ifs
  · simp only [SyncAt.step_done, exists_const, Option.some.injEq, Prod.mk.injEq, SyncAt.done.injEq]
  · constructor
    · rintro ⟨fuel, h⟩
      exact mtuChunks_steps hw h
    · rintro ⟨n, h⟩
      exact ⟨n, mtuChunks_of_steps hw h le_rfl⟩

end SmileFee
