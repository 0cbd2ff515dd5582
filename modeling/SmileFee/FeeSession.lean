import SmileFee.FieldSync
import SmileFee.HkSync
import SmileFee.RegShadow
import SmileFee.SramUpload

/-!
# Sessions

The registers are synchronised in both directions, in any order, with the simulator in the format of the GRESB,
which serves reads as well as writes. Between that the SRAM of the mirror is written and uploaded. The simulator has a
program of its own, which changes its memory between two commands.

What a session is for is `Shadow`: the mirror is changed by setters, a synchronisation to the FEE takes its values
along, one from the FEE asks for values, which replace those of the mirror when the reply is processed.
**`session_refines`** says that every session is such a run.
-/

namespace SmileFee

open Word Mem

/-! ## Calls -/

/-- A call of the library. The simulator calls `exit` when a transfer ends behind its SRAM, so an upload that is accepted
does not. -/
inductive FeeOp where
  | set (c : Setter)
  | sync (dir : SyncDirection) (f : Field)
  | syncHk
  | status
  | store (w : SramWrite)
  | upload (fuel : Nat) (addr size mtu : U32)
      (fits : ¬ SyncRefused addr size → addr.toNat + size.toNat ≤ FEE_SRAM_END.toNat)

structure FeeCall where
  op : FeeOp
  during : Outside := {}

/-- The return value and the memory after a write to the SRAM of the mirror. -/
def SramWrite.call (s : Mirror) (m : Mem) : SramWrite → Int × Mem
  | .bytes buf addr size => smileFeeWriteSram s m (some buf) addr size
  | .samples buf addr nmemb _ => smileFeeWriteSram16 s m (some buf) addr nmemb

/-- A write to the SRAM of the mirror leaves its registers alone. -/
theorem SramWrite.getReg_call {s : Mirror} (hs : s.Apart) (w : SramWrite) {n : Nat} (hn : n < 486) (m : Mem) :
    s.getReg n (w.call s m).2 = s.getReg n m := by
  cases w with
  | bytes buf addr size =>
    rw [call, writeSram_eq]
    split
    · rename_i hin
      exact Mirror.getReg_write_sram hs hn m (by rwa [length_read])
    · rfl
  | samples buf addr nmemb fits =>
    rw [call, writeSram16_eq_ite s m addr fits]
    split
    · rename_i hin
      exact Mirror.getReg_write_sram hs hn m (by rwa [length_read])
    · rfl

/-- A call; `none` if it is an upload that takes more than its fuel. -/
def FeeCall.exec (T : Target) (mir : Mirror) (s : Sys Net) (c : FeeCall) : Option (Int × Sys Net) :=
  let s := c.during.enter s
  match c.op with
  | .set c => some (0, { s with mem := c.exec mir s.mem })
  | .sync dir f => some (f.sync (netCallbacks T) mir dir s)
  | .syncHk => some (smileFeeSyncHkRegs (netCallbacks T) mir s)
  | .status => some (smileFeeRmapSyncStatus (netCallbacks T) s)
  | .store w => some ((w.call mir s.mem).1, { s with mem := (w.call mir s.mem).2 })
  | .upload fuel addr size mtu _ => smileFeeSyncMirrorToSram (netCallbacks T) mir fuel addr size mtu s

/-- The return values and the state after a session. -/
def runSession (T : Target) (mir : Mirror) : Sys Net → List FeeCall → Option (List Int × Sys Net)
  | s, [] => some ([], s)
  | s, c :: calls => (c.exec T mir s).bind fun r =>
    (runSession T mir r.2 calls).map fun r' => (r.1 :: r'.1, r'.2)

theorem runSession_cons {T : Target} {mir : Mirror} {s s' : Sys Net} {c : FeeCall} {calls : List FeeCall}
    {rcs : List Int} (h : runSession T mir s (c :: calls) = some (rcs, s')) : ∃ rc s₁ rcs', rcs = rc :: rcs' ∧
      c.exec T mir s = some (rc, s₁) ∧ runSession T mir s₁ calls = some (rcs', s') := by
  obtain ⟨⟨rc, s₁⟩, hc, hrest⟩ := Option.bind_eq_some_iff.1 h
  obtain ⟨⟨rcs', s₂⟩, hcalls, heq⟩ := Option.map_eq_some_iff.1 hrest
  obtain ⟨rfl, rfl⟩ := Prod.mk.inj heq
  exact ⟨rc, s₁, rcs', rfl, hc, hcalls⟩

theorem Field.reg_lt (f : Field) : f.reg < 486 := lt_of_le_of_lt f.reg_le (by decide)

/-- A setter, as a function of the registers: the bits of its field change. -/
def Setter.ActsBy (c : Setter) (f : (Nat → U32) → Nat → U32) : Prop :=
  (c.field = none ∧ ∀ μ, f μ = μ) ∨ ∃ (fld : Field) (g : U32 → U32), c.field = some fld ∧ ActsOn fld.bits g ∧
    ∀ μ, f μ = Function.update μ fld.reg (g (μ fld.reg))

theorem Setter.exists_actsBy (c : Setter) : ∃ f, c.ActsBy f ∧ ∀ (mir : Mirror) (m : Mem) (μ : Nat → U32) (n : Nat),
    μ n = mir.getReg n m → f μ n = mir.getReg n (c.exec mir m) := by
  rcases c.exec_cases with ⟨hnone, h⟩ | ⟨fld, g, hfld, hact, h⟩
  · exact ⟨fun μ => μ, Or.inl ⟨hnone, fun _ => rfl⟩, fun mir m μ n hμ => by rw [h]; exact hμ⟩
  · refine ⟨fun μ => Function.update μ fld.reg (g (μ fld.reg)), Or.inr ⟨fld, g, hfld, hact, fun _ => rfl⟩, ?_⟩
    intro mir m μ n hμ
    rw [h]
    beta_reduce
    by_cases hn : n = fld.reg
    · subst hn
      rw [Function.update_self, mir.getReg_updReg, hμ]
    · rw [Function.update_of_ne hn, mir.getReg_updReg_of_ne m hn, hμ]

/-- A setter changes registers only. -/
theorem Setter.exec_kept (c : Setter) (mir : Mirror) (m : Mem) {x : Nat} (hx : ¬ mir.InRegs x) :
    c.exec mir m x = m x := by
  rcases c.exec_cases with ⟨-, h⟩ | ⟨fld, g, -, -, h⟩
  · rw [h]
  · rw [h]
    refine mir.updReg_outside _ _ _ _ ?_
    by_contra hin
    exact hx (Mirror.inRegs_cfgReg fld.reg_lt (by omega) (by omega))

/-- What a setter leaves alone. -/
theorem Setter.ActsBy.leaves {c : Setter} {f : (Nat → U32) → Nat → U32} (h : c.ActsBy f) {fld : Field}
    (hc : c.field ≠ some fld) (μ : Nat → U32) : f μ fld.reg &&& fld.bits = μ fld.reg &&& fld.bits := by
  rcases h with ⟨-, h⟩ | ⟨fld', g, hfld, hact, h⟩
  · rw [h]
  · rw [h]
    by_cases hreg : fld.reg = fld'.reg
    · have hne : fld ≠ fld' := fun heq => hc (by rw [hfld, heq])
      rw [hreg, Function.update_self]
      exact and_of_actsOn hact (Field.bits_disjoint hne hreg) _
    · rw [Function.update_of_ne hreg]

/-- What a call does, values that come back aside, and when it returns `rc`. -/
inductive FeeCall.Does : FeeCall → Int → List (Shadow.Event Nat U32) → Prop
  | set {c : Setter} {d : Outside} {rc : Int} {f : (Nat → U32) → Nat → U32} (h : c.ActsBy f) :
      Does ⟨.set c, d⟩ rc [.change f]
  | write {f : Field} {d : Outside} {rc : Int} : Does ⟨.sync .dpu2fee f, d⟩ rc [.write f.reg]
  | read {f : Field} {d : Outside} {rc : Int} : Does ⟨.sync .fee2dpu f, d⟩ rc [.read f.reg]
  | failed {dir : SyncDirection} {f : Field} {d : Outside} {rc : Int} (h : rc ≠ 0) : Does ⟨.sync dir f, d⟩ rc []
  | hk {d : Outside} {rc : Int} {ns : List Nat} (hsub : ns.Sublist hkRegs) (hall : rc = 0 → ns = hkRegs) :
      Does ⟨.syncHk, d⟩ rc (ns.map fun n => .read (hkIdx n))
  | status {d : Outside} {rc : Int} : Does ⟨.status, d⟩ rc []
  | store {w : SramWrite} {d : Outside} {rc : Int} : Does ⟨.store w, d⟩ rc []
  | upload {fuel : Nat} {addr size mtu : U32}
      {fits : ¬ SyncRefused addr size → addr.toNat + size.toNat ≤ FEE_SRAM_END.toNat} {d : Outside} {rc : Int} (n : Nat) :
      Does ⟨.upload fuel addr size mtu fits, d⟩ rc (List.replicate n .other)

inductive SessionDoes : List FeeCall → List Int → List (Shadow.Event Nat U32) → Prop
  | nil : SessionDoes [] [] []
  | cons {c : FeeCall} {calls : List FeeCall} {rc : Int} {rcs : List Int} {es es' : List (Shadow.Event Nat U32)} :
      c.Does rc es → SessionDoes calls rcs es' → SessionDoes (c :: calls) (rc :: rcs) (es ++ es')

/-- The SRAM of the mirror after a call, as memory. -/
def FeeCall.stored (c : FeeCall) (mir : Mirror) (m : Mem) : Mem :=
  match c.op with
  | .store w => (w.call mir m).2
  | _ => m

/-- The call uploads byte `x` of the SRAM. -/
def FeeCall.Uploads (c : FeeCall) (x : Nat) : Prop :=
  match c.op with
  | .upload _ addr size _ _ =>
    addr.toNat ≤ FEE_SRAM_START.toNat + x ∧ FEE_SRAM_START.toNat + x < addr.toNat + size.toNat
  | _ => False

/-- What a call that returns `rc` has to do with the SRAM. -/
structure FeeCall.Copies (cfg : RmapCfg) (mir : Mirror) (c : FeeCall) (rc : Int) (s s' : Sys Net) (cmds : List Cmd) :
    Prop where
  sent : s'.env.sent = s.env.sent ++ cmds
  kept : ∀ x, ¬ mir.InRegs x → s'.mem x = c.stored mir s.mem x
  copies : ∀ cmd ∈ cmds, cmd.CopyOf cfg mir s'.mem
  within : ∀ cmd ∈ cmds, cmd.IsSramWrite cfg → ∀ x, cmd.Covers x → c.Uploads x
  all : rc = 0 → ∀ x, c.Uploads x → ∃ cmd ∈ cmds, cmd.IsSramWrite cfg ∧ cmd.Covers x

section Calls

variable {cfg : RmapCfg} (hd : cfg.dpath = [])

theorem toNat_regAddr {n : Nat} (hn : n < 486) : (BitVec.ofNat 32 (4 * n)).toNat = 4 * n := by
  rw [BitVec.toNat_ofNat]
  omega

theorem regAddr_lt {n : Nat} (hn : n < 486) : BitVec.ofNat 32 (4 * n) < OFFSET_OF_SRAM := by
  show (BitVec.ofNat 32 (4 * n)).toNat < 1944
  rw [toNat_regAddr hn]
  omega

include hd

theorem reqOf_read {n : Nat} (hn : n < 486) (slot : U16) (m : Mem) (a : Nat) : ReqOf cfg (.read n)
    ⟨feeReadCmdRegister cfg slot (BitVec.ofNat 32 (4 * n)), cfg.dpath.length, txData m a 0⟩ := by
  have haddr : Cmd.addr ⟨feeReadCmdRegister cfg slot (BitVec.ofNat 32 (4 * n)), cfg.dpath.length, txData m a 0⟩ =
    BitVec.ofNat 32 (4 * n) := addr_genCmd cfg slot _ 4 (by decide) _
  have hid : Cmd.trId ⟨feeReadCmdRegister cfg slot (BitVec.ofNat 32 (4 * n)), cfg.dpath.length, txData m a 0⟩ = slot :=
    trId_genCmd cfg slot _ 4 (by decide) _
  refine ⟨by rw [haddr]; exact toNat_regAddr hn, by rw [hd]; rfl, by rw [hid, haddr], by rw [haddr]; exact regAddr_lt hn, ?_⟩
  simp only [txData]
  split
  · rfl
  · rfl

theorem reqOf_write {n : Nat} (hn : n < 486) (slot : U16) (m : Mem) {a : Nat} (ha : a ≠ 0) :
    ReqOf cfg (.write n (loadBe32 m a))
      ⟨feeWriteCmdRegister cfg slot (BitVec.ofNat 32 (4 * n)), cfg.dpath.length, txData m a 4⟩ := by
  have haddr := addr_writeCmd cfg slot (BitVec.ofNat 32 (4 * n)) (txData m a 4)
  have hid := trId_writeCmd cfg slot (BitVec.ofNat 32 (4 * n)) (txData m a 4)
  have hdata : txData m a 4 = some (m.read a 4) := if_neg ha
  refine ⟨by rw [haddr]; exact toNat_regAddr hn, ⟨by rw [hd]; rfl, by rw [hid, haddr], by rw [haddr]; exact regAddr_lt hn, ?_⟩,
    m, a, rfl, hdata⟩
  simp [hdata]

variable (hr : cfg.rpath = []) (sim : Mirror) (own : Nat → Mem → Mem) (junk : Nat → Junk) (fee₀ : Mem) {mir : Mirror}
  {a : Shadow.State Nat U32} {s s' : Sys Net} {S : List Cmd} {rc : Int}
include hr

theorem Shadows.enter (h : Shadows (gresbTarget hd hr sim own junk fee₀) cfg mir a s) (o : Outside) :
    Shadows (gresbTarget hd hr sim own junk fee₀) cfg mir a (o.enter s) := by
  obtain ⟨regs, hinv, hregs⟩ := h.inv
  exact ⟨h.cfg_eq, h.mirror, h.sent, ⟨regs, (Rx.enter hinv o).inv, hregs⟩, h.genuine, h.learned⟩

theorem Shadows.read (h : Shadows (gresbTarget hd hr sim own junk fee₀) cfg mir a s) {n : Nat} (hn : n < 486)
    (hc : smileFeeSync (netCallbacks (gresbTarget hd hr sim own junk fee₀)) s (fun cfg transId =>
      feeReadCmdRegister cfg transId (BitVec.ofNat 32 (4 * n))) (mir.cfgReg n) 0 = (rc, s')) (hS : s'.env.sent <+: S) :
    ∃ es cmds a',
      Stretch (gresbTarget hd hr sim own junk fee₀) (gresbRegs sim own junk fee₀ S) cfg mir a s es cmds a' s' ∧
      (Makes (.read n) es ∨ rc ≠ 0 ∧ requests es = []) :=
  h.sync hd hr sim own junk fee₀ mir _ (fun cfg transId data => trId_genCmd cfg transId _ 4 (by decide) data)
    (q := fun _ => .read n) (fun b => .read b n)
    (fun slot m _ _ => ⟨reqOf_read hd hn slot m _, fun n' h => (Shadow.Req.read.inj h).symm⟩) hc hS

theorem Shadows.write (hfee : mir.fee ≠ 0) (h : Shadows (gresbTarget hd hr sim own junk fee₀) cfg mir a s) {n : Nat}
    (hn : n < 486) (hc : smileFeeSync (netCallbacks (gresbTarget hd hr sim own junk fee₀)) s (fun cfg transId =>
      feeWriteCmdRegister cfg transId (BitVec.ofNat 32 (4 * n))) (mir.cfgReg n) 4 = (rc, s')) (hS : s'.env.sent <+: S) :
    ∃ es cmds a',
      Stretch (gresbTarget hd hr sim own junk fee₀) (gresbRegs sim own junk fee₀ S) cfg mir a s es cmds a' s' ∧
      (Makes (.write n) es ∨ rc ≠ 0 ∧ requests es = []) := by
  have hne : mir.cfgReg n ≠ 0 := by
    simp only [Mirror.cfgReg]
    omega
  refine h.sync hd hr sim own junk fee₀ mir _ (fun cfg transId data => trId_genCmd cfg transId _ 4 (by decide) data)
    (q := fun μ => .write n (μ n)) (fun b => .write b n) (fun slot m μ hμ => ⟨?_, fun n' h => by cases h⟩) hc hS
  rw [hμ n hn, mir.getReg_eq]
  exact reqOf_write hd hn slot m hne

omit hd hr in
theorem hkIdx_lt {n : Nat} (hn : n ∈ hkRegs) : hkIdx n < 486 := by
  have hle : ∀ n ∈ hkRegs, n ≤ 37 := by decide
  have := hle n hn
  simp only [hkIdx]
  omega

omit hd hr in
/-- One read of the housekeeping, of register `n`. -/
def hkSync (T : Target) (mir : Mirror) (r : Int × Sys Net) (n : Nat) : Int × Sys Net :=
  orSync (netCallbacks T) (fun cfg transId => feeReadCmdRegister cfg transId (BitVec.ofNat 32 (4 * hkIdx n)))
    (mir.cfgReg (hkIdx n)) r

omit hd hr in
theorem smileFeeSyncHkRegs_eq (T : Target) (mir : Mirror) (s : Sys Net) :
    smileFeeSyncHkRegs (netCallbacks T) mir s = hkRegs.foldl (hkSync T mir) (0, s) := by
  rw [smileFeeSyncHkRegs, hkReadCmds_eq, List.foldl_map]
  simp only [← mir.cfgReg_hkIdx]
  rfl

omit hd hr in
theorem sent_hkSync {T : Target} {old : List Cmd} {r : Int × Sys Net} (h : old <+: r.2.env.sent) (n : Nat) :
    old <+: (hkSync T mir r n).2.env.sent :=
  (@netCallbacks_sent T old).sync h (fun cfg transId => feeReadCmdRegister cfg transId (BitVec.ofNat 32 (4 * hkIdx n)))
    (mir.cfgReg (hkIdx n)) 0

omit hd hr in
theorem sent_hkFold (T : Target) (mir : Mirror) {old : List Cmd} (ns : List Nat) {r : Int × Sys Net}
    (h : old <+: r.2.env.sent) : old <+: (ns.foldl (hkSync T mir) r).2.env.sent := by
  induction ns generalizing r with
  | nil => exact h
  | cons n ns ih => exact ih (sent_hkSync h n)

/-- **The housekeeping is read** register by register. -/
theorem Shadows.hk (ns : List Nat) (hns : ∀ n ∈ ns, n ∈ hkRegs) {r : Int × Sys Net}
    (h : Shadows (gresbTarget hd hr sim own junk fee₀) cfg mir a r.2)
    (hc : ns.foldl (hkSync (gresbTarget hd hr sim own junk fee₀) mir) r = (rc, s')) (hS : s'.env.sent <+: S) :
    ∃ es cmds a' asked,
      Stretch (gresbTarget hd hr sim own junk fee₀) (gresbRegs sim own junk fee₀ S) cfg mir a r.2 es cmds a' s' ∧
      asked.Sublist ns ∧ (rc = 0 → r.1 = 0 ∧ asked = ns) ∧ requests es = asked.map fun n => .read (hkIdx n) := by
  induction ns generalizing a r with
  | nil =>
    obtain rfl : r = (rc, s') := hc
    exact ⟨[], [], a, [], .refl h, List.Sublist.slnil, fun h0 => ⟨h0, rfl⟩, rfl⟩
  | cons n ns ih =>
    rw [List.forall_mem_cons] at hns
    rw [List.foldl_cons] at hc
    have hfirst : (hkSync (gresbTarget hd hr sim own junk fee₀) mir r n).2.env.sent <+: S := by
      have hfold := sent_hkFold (gresbTarget hd hr sim own junk fee₀) mir ns
        (List.prefix_refl (hkSync (gresbTarget hd hr sim own junk fee₀) mir r n).2.env.sent)
      rw [hc] at hfold
      exact hfold.trans hS
    have hsync : smileFeeSync (netCallbacks (gresbTarget hd hr sim own junk fee₀)) r.2
        (fun cfg transId => feeReadCmdRegister cfg transId (BitVec.ofNat 32 (4 * hkIdx n))) (mir.cfgReg (hkIdx n)) 0 =
        (_, (hkSync (gresbTarget hd hr sim own junk fee₀) mir r n).2) := rfl
    obtain ⟨es₁, cmds₁, a₁, hst₁, hes₁⟩ := h.read hd hr sim own junk fee₀ (hkIdx_lt hns.1) hsync hfirst
    obtain ⟨es, cmds, a', asked, hst, hsub, hzero, hreq⟩ := ih hns.2 hst₁.shadows hc
    have hreqs : requests (es₁ ++ es) = requests es₁ ++ asked.map fun n => .read (hkIdx n) := by
      rw [requests_append, hreq]
    rcases hes₁ with hes₁ | ⟨hne, hes₁⟩
    · refine ⟨es₁ ++ es, _, a', n :: asked, hst₁.trans hst, hsub.cons_cons n, fun h0 => ?_,
        by rw [hreqs, hes₁.requests rfl]; rfl⟩
      obtain ⟨hor, hall⟩ := hzero h0
      exact ⟨((lor_eq_zero_iff _ _).1 hor).1, by rw [hall]⟩
    · refine ⟨es₁ ++ es, _, a', asked, hst₁.trans hst, hsub.cons n, fun h0 => ?_, by rw [hreqs, hes₁]; rfl⟩
      exact absurd ((lor_eq_zero_iff _ _).1 (hzero h0).1).2 hne

omit hd hr in
/-- The synchronisation of a field is that of its register. -/
theorem Field.sync_reg (T : Target) (mir : Mirror) (dir : SyncDirection) (f : Field) (s : Sys Net) :
    f.sync (netCallbacks T) mir dir s = syncCfgReg (netCallbacks T) dir
      (fun cfg transId => feeReadCmdRegister cfg transId (BitVec.ofNat 32 (4 * f.reg)))
      (fun cfg transId => feeWriteCmdRegister cfg transId (BitVec.ofNat 32 (4 * f.reg))) (mir.cfgReg f.reg) s := by
  rw [f.sync_eq, smileFeeSyncCfgReg_eq, f.idx_cfgReg]
  rfl

/-! ## Uploads -/

/-- The first `n` bytes of an upload from `addr` on have been handed over. -/
structure Handed (cfg : RmapCfg) (mir : Mirror) (addr n : Nat) (m : Mem) (es : List (Shadow.Event Nat U32))
    (cmds : List Cmd) : Prop where
  requests : requests es = List.replicate cmds.length .other
  chunks : ∀ c ∈ cmds, c.IsSramWrite cfg ∧ c.CopyOf cfg mir m
  covers : ∀ x, (∃ c ∈ cmds, c.Covers x) ↔ addr ≤ FEE_SRAM_START.toNat + x ∧ FEE_SRAM_START.toNat + x < addr + n

omit hd hr in
theorem Handed.nil {addr : Nat} {m : Mem} {es : List (Shadow.Event Nat U32)} (hes : SmileFee.requests es = []) :
    Handed cfg mir addr 0 m es [] where
  requests := hes
  chunks c hc := absurd hc List.not_mem_nil
  covers x := by simp

/-- **A chunk** that is handed over. -/
theorem Shadows.chunk (hmir : mir.Alloc) (h : Shadows (gresbTarget hd hr sim own junk fee₀) cfg mir a s) {addr len : U32}
    (hin : SramRange addr len.toNat) (hc : smileFeeSyncData (netCallbacks (gresbTarget hd hr sim own junk fee₀)) s
      feeWriteCmdData addr (sramPtr mir addr) len false = (rc, s')) (hS : s'.env.sent <+: S) :
    ∃ es cmds a',
      Stretch (gresbTarget hd hr sim own junk fee₀) (gresbRegs sim own junk fee₀ S) cfg mir a s es cmds a' s' ∧
      (rc ≤ 0 ∧ Handed cfg mir addr.toNat len.toNat s'.mem es cmds ∨
        rc ≠ 0 ∧ Handed cfg mir addr.toNat 0 s'.mem es cmds) := by
  obtain ⟨regs, hinv, hregs⟩ := h.inv
  have hptr : sramPtr mir addr ≠ 0 := by
    have := hmir.sram_ne
    rw [sramPtr]
    omega
  obtain ⟨hext, hcfg, slot, hsub⟩ := syncData_spec hinv feeWriteCmdData addr len false
    (fun cfg transId data => trId_genCmd cfg transId addr len (by decide) data) (NoReuse.zero _ (sramPtr mir addr))
  have hgenuine := (netCallbacks_genuine (gresbTarget_steady hd hr sim own junk fee₀)).syncData (s := s)
    ⟨rfl, h.genuine⟩ feeWriteCmdData addr (sramPtr mir addr) len false
  rw [hc] at hext hcfg hsub hgenuine
  obtain ⟨c, hceq, hwrite, haddr, hdata⟩ := chunk_isSramWrite hd slot hin hptr s'.mem
  have hlen : c.len.toNat = len.toNat := by
    have := hwrite.length_data hdata
    rwa [length_read, eq_comm] at this
  rw [h.cfg_eq] at hsub
  simp only [Bool.false_eq_true, if_false, ← hceq] at hsub
  obtain ⟨es, cmds, a', hst, hdone⟩ := h.submitted hd hr sim own junk fee₀ mir hinv hregs hext hcfg hsub hgenuine
    (q := fun _ => .other) (fun b => .other b) (fun μ _ => ⟨hwrite, fun n hn => by cases hn⟩) hS
  refine ⟨es, cmds, a', hst, hdone.imp ?_ ?_⟩
  · rintro ⟨hrc, hes, rfl⟩
    refine ⟨hrc, hes.requests rfl, ?_, fun x => ?_⟩
    · rw [List.forall_mem_singleton]
      refine ⟨hwrite, fun _ => ?_⟩
      rw [haddr, hlen]
      exact hdata
    · simp [Cmd.Covers, haddr, hlen]
  · rintro ⟨hrc, hes, rfl⟩
    exact ⟨hrc, .nil hes⟩

omit hd hr in
/-- What has been handed over before stays so while the mirror keeps its SRAM. -/
theorem Handed.append (hmir : mir.Apart) {addr addr' n k : Nat} {m m' : Mem} {es es' : List (Shadow.Event Nat U32)}
    {cmds cmds' : List Cmd} (h : Handed cfg mir addr n m es cmds) (h' : Handed cfg mir addr' k m' es' cmds')
    (haddr : addr' = addr + n) (hm : ∀ x, ¬ mir.InRegs x → m' x = m x) :
    Handed cfg mir addr (n + k) m' (es ++ es') (cmds ++ cmds') where
  requests := by
    rw [requests_append, h.requests, h'.requests, List.length_append, List.replicate_append_replicate]
  chunks c hc := by
    rcases List.mem_append.1 hc with hc | hc
    · exact ⟨(h.chunks c hc).1, (h.chunks c hc).2.congr hmir hm⟩
    · exact h'.chunks c hc
  covers x := by
    simp only [List.mem_append, or_and_right, exists_or, h.covers, h'.covers]
    omega

omit hd hr in
/-- An upload that began in `s` has handed over `n` bytes. What has been sent is a part of `S`. -/
def UploadAt (T : Target) (remote : Nat → Nat → U32) (S : List Cmd) (cfg : RmapCfg) (mir : Mirror)
    (a : Shadow.State Nat U32) (s : Sys Net) (addr n : Nat) (s' : Sys Net) : Prop :=
  s'.env.sent <+: S → ∃ es cmds a', Stretch T remote cfg mir a s es cmds a' s' ∧ Handed cfg mir addr n s'.mem es cmds

/-- A chunk goes on with an upload. -/
theorem UploadAt.chunkTakes (hmir : mir.Alloc) {addr size : U32} (hacc : ¬ SyncRefused addr size)
    (fits : addr.toNat + size.toNat ≤ FEE_SRAM_END.toNat) :
    ChunkTakes (fun off len s => smileFeeSyncData (netCallbacks (gresbTarget hd hr sim own junk fee₀)) s feeWriteCmdData
        (syncCall mir addr off len).addr (syncCall mir addr off len).data len false)
      (UploadAt (gresbTarget hd hr sim own junk fee₀) (gresbRegs sim own junk fee₀ S) S cfg mir a s addr.toNat)
      size.toNat := by
  intro off len s₁ hoff hI
  obtain ⟨hin, haddr⟩ := sramRange_part hacc fits hoff
  simp only [syncCall_data]
  rw [show (syncCall mir addr off len).addr = addr + off from rfl]
  rcases hres : smileFeeSyncData (netCallbacks (gresbTarget hd hr sim own junk fee₀)) s₁ feeWriteCmdData (addr + off)
    (sramPtr mir (addr + off)) len false with ⟨ret, s₂⟩
  have hsent : s₁.env.sent <+: s₂.env.sent := by
    have hkeep := (@netCallbacks_sent (gresbTarget hd hr sim own junk fee₀) s₁.env.sent).syncData (s := s₁)
      List.prefix_rfl feeWriteCmdData (addr + off) (sramPtr mir (addr + off)) len false
    rwa [hres] at hkeep
  have hadd : ∃ k, (ret ≤ 0 ∧ k = len.toNat ∨ ret ≠ 0 ∧ k = 0) ∧
      UploadAt (gresbTarget hd hr sim own junk fee₀) (gresbRegs sim own junk fee₀ S) S cfg mir a s addr.toNat
        (off.toNat + k) s₂ := by
    by_cases hS : s₂.env.sent <+: S
    · obtain ⟨es, cmds, a₁, hst, hh⟩ := hI (hsent.trans hS)
      obtain ⟨es', cmds', a₂, hst', hdone⟩ := hst.shadows.chunk hd hr sim own junk fee₀ hmir hin hres hS
      rcases hdone with ⟨hret, hh'⟩ | ⟨hret, hh'⟩
      · exact ⟨_, Or.inl ⟨hret, rfl⟩, fun _ => ⟨_, _, a₂, hst.trans hst', hh.append hmir.apart hh' haddr hst'.kept⟩⟩
      · exact ⟨_, Or.inr ⟨hret, rfl⟩, fun _ => ⟨_, _, a₂, hst.trans hst', hh.append hmir.apart hh' haddr hst'.kept⟩⟩
    · by_cases hret : ret ≤ 0
      · exact ⟨_, Or.inl ⟨hret, rfl⟩, fun h => absurd h hS⟩
      · exact ⟨_, Or.inr ⟨by omega, rfl⟩, fun h => absurd h hS⟩
  obtain ⟨k, hk, hat⟩ := hadd
  refine ⟨fun hpos => ?_, fun hzero => ?_, fun hneg => ?_⟩
  · obtain rfl : k = 0 := hk.elim (fun hk => absurd hpos (not_lt.2 hk.1)) And.right
    exact hat
  · obtain rfl : k = len.toNat := hk.elim And.right fun hk => absurd hzero hk.1
    exact hat
  · rcases hk with ⟨-, rfl⟩ | ⟨-, rfl⟩
    · exact Or.inr hat
    · exact Or.inl hat

/-- **An upload**, whatever becomes of it. -/
theorem Shadows.upload (hmir : mir.Alloc) (h : Shadows (gresbTarget hd hr sim own junk fee₀) cfg mir a s) {fuel : Nat}
    {addr size mtu : U32} (fits : ¬ SyncRefused addr size → addr.toNat + size.toNat ≤ FEE_SRAM_END.toNat)
    (hc : smileFeeSyncMirrorToSram (netCallbacks (gresbTarget hd hr sim own junk fee₀)) mir fuel addr size mtu s =
      some (rc, s')) (hS : s'.env.sent <+: S) :
    ∃ es cmds a' n,
      Stretch (gresbTarget hd hr sim own junk fee₀) (gresbRegs sim own junk fee₀ S) cfg mir a s es cmds a' s' ∧
      Handed cfg mir addr.toNat n s'.mem es cmds ∧ n ≤ size.toNat ∧ (rc = 0 → n = size.toNat) := by
  have hstart : UploadAt (gresbTarget hd hr sim own junk fee₀) (gresbRegs sim own junk fee₀ S) S cfg mir a s addr.toNat 0
      s := fun _ => ⟨[], [], a, .refl h, .nil rfl⟩
  obtain ⟨n, hle, hI, hn⟩ := mirrorToSram_takes hstart
    (fun hacc => UploadAt.chunkTakes hd hr sim own junk fee₀ hmir hacc (fits hacc)) hc
  obtain ⟨es, cmds, a', hst, hh⟩ := hI hS
  exact ⟨es, cmds, a', n, hst, hh, hle, hn⟩

/-! ## Calls in a session -/

omit hd hr in
theorem FeeCall.exec_sync (T : Target) (mir : Mirror) (s : Sys Net) (dir : SyncDirection) (f : Field) (d : Outside) :
    FeeCall.exec T mir s ⟨.sync dir f, d⟩ = some (syncCfgReg (netCallbacks T) dir
      (fun cfg transId => feeReadCmdRegister cfg transId (BitVec.ofNat 32 (4 * f.reg)))
      (fun cfg transId => feeWriteCmdRegister cfg transId (BitVec.ofNat 32 (4 * f.reg))) (mir.cfgReg f.reg)
      (d.enter s)) :=
  congrArg some (f.sync_reg T mir dir (d.enter s))

omit hd hr in
theorem FeeCall.exec_syncHk (T : Target) (mir : Mirror) (s : Sys Net) (d : Outside) :
    FeeCall.exec T mir s ⟨.syncHk, d⟩ = some (hkRegs.foldl (hkSync T mir) (0, d.enter s)) :=
  congrArg some (smileFeeSyncHkRegs_eq T mir (d.enter s))

omit hd hr in
theorem FeeCall.sent_exec {T : Target} {mir : Mirror} {s s' : Sys Net} {c : FeeCall} {rc : Int}
    (h : c.exec T mir s = some (rc, s')) : s.env.sent <+: s'.env.sent := by
  obtain ⟨op, during⟩ := c
  have hJ := @netCallbacks_sent T s.env.sent
  have hold : s.env.sent <+: (during.enter s).env.sent := List.prefix_rfl
  cases op with
  | set c =>
    obtain ⟨-, rfl⟩ := Prod.mk.inj (Option.some.inj h)
    exact hold
  | sync dir f =>
    rw [exec_sync, Option.some.injEq] at h
    cases dir with
    | fee2dpu =>
      have hsync := hJ.sync hold (fun cfg transId => feeReadCmdRegister cfg transId (BitVec.ofNat 32 (4 * f.reg)))
        (mir.cfgReg f.reg) 0
      rwa [show smileFeeSync _ _ _ _ _ = (rc, s') from h] at hsync
    | dpu2fee =>
      have hsync := hJ.sync hold (fun cfg transId => feeWriteCmdRegister cfg transId (BitVec.ofNat 32 (4 * f.reg)))
        (mir.cfgReg f.reg) 4
      rwa [show smileFeeSync _ _ _ _ _ = (rc, s') from h] at hsync
  | syncHk =>
    rw [exec_syncHk, Option.some.injEq] at h
    have hsync := sent_hkFold T mir hkRegs (r := (0, during.enter s)) hold
    rwa [h] at hsync
  | status =>
    obtain ⟨-, rfl⟩ := Prod.mk.inj (Option.some.inj h)
    exact hJ.processRx hold
  | store w =>
    obtain ⟨-, rfl⟩ := Prod.mk.inj (Option.some.inj h)
    exact hold
  | upload fuel addr size mtu fits =>
    have hchunk : ChunkTakes (fun off len s => smileFeeSyncData (netCallbacks T) s feeWriteCmdData
        (syncCall mir addr off len).addr (syncCall mir addr off len).data len false)
        (fun _ s' => s.env.sent <+: s'.env.sent) size.toNat := by
      intro off len s₁ _ hI
      have hsync := hJ.syncData hI feeWriteCmdData (syncCall mir addr off len).addr (syncCall mir addr off len).data len
        false
      exact ⟨fun _ => hsync, fun _ => hsync, fun _ => Or.inl hsync⟩
    obtain ⟨-, -, hI, -⟩ := mirrorToSram_takes (I := fun _ s' => s.env.sent <+: s'.env.sent) hold (fun _ => hchunk) h
    exact hI

omit hd hr in
theorem sent_runSession {T : Target} {mir : Mirror} {calls : List FeeCall} {s s' : Sys Net} {rcs : List Int}
    (h : runSession T mir s calls = some (rcs, s')) : s.env.sent <+: s'.env.sent := by
  induction calls generalizing s rcs with
  | nil =>
    obtain ⟨-, rfl⟩ := Prod.mk.inj (Option.some.inj h)
    exact List.prefix_rfl
  | cons c calls ih =>
    obtain ⟨rc, s₁, rcs', -, hc, hcalls⟩ := runSession_cons h
    exact (FeeCall.sent_exec hc).trans (ih hcalls)

omit hd hr in
theorem Inv.setMem {T : Target} {regs : List Nat} {mark : Nat} (h : Inv T regs mark s) (m : Mem) :
    Inv T regs mark { s with mem := m } :=
  ⟨h.wf, h.ok, h.regs_len, h.mark_le, h.stale, h.queue, h.nodup, h.answered_lt, h.replies, h.log⟩

omit hd hr in
/-- The copies of a call that writes nothing to the SRAM. -/
theorem Stretch.copies {T : Target} {remote : Nat → Nat → U32} {a' : Shadow.State Nat U32} {o : Outside}
    {es : List (Shadow.Event Nat U32)} {cmds : List Cmd} {op : FeeOp} (h : Shadows T cfg mir a (o.enter s))
    (hst : Stretch T remote cfg mir a (o.enter s) es cmds a' s') (hes : .other ∉ requests es)
    (hstored : FeeCall.stored ⟨op, o⟩ mir s.mem = s.mem) (hup : ∀ x, ¬ FeeCall.Uploads ⟨op, o⟩ x) :
    FeeCall.Copies cfg mir ⟨op, o⟩ rc s s' cmds where
  sent := hst.sent
  kept x hx := by
    rw [hstored]
    exact hst.kept x hx
  copies c hc hw := absurd hw (hst.no_sramWrite h hes c hc)
  within c hc hw := absurd hw (hst.no_sramWrite h hes c hc)
  all _ x hx := absurd hx (hup x)

variable (hmir : mir.Alloc)
include hmir

/-- **A call** of the session, as the shadow sees it. -/
theorem Shadows.exec (h : Shadows (gresbTarget hd hr sim own junk fee₀) cfg mir a s) {c : FeeCall}
    (hc : c.exec (gresbTarget hd hr sim own junk fee₀) mir s = some (rc, s')) (hS : s'.env.sent <+: S) :
    ∃ es cmds a', c.Does rc (requests es) ∧ c.Copies cfg mir rc s s' cmds ∧
      Shadow.Run (gresbRegs sim own junk fee₀ S) a es a' ∧
      Shadows (gresbTarget hd hr sim own junk fee₀) cfg mir a' s' := by
  obtain ⟨op, during⟩ := c
  have he := h.enter hd hr sim own junk fee₀ during
  cases op with
  | set c =>
    obtain ⟨rfl, rfl⟩ := Prod.mk.inj (Option.some.inj hc)
    obtain ⟨f, hacts, hf⟩ := c.exists_actsBy
    obtain ⟨regs, hi, hregs⟩ := he.inv
    refine ⟨[.change f], [], { a with mirror := f a.mirror }, .set hacts, ⟨(List.append_nil _).symm,
      fun x hx => c.exec_kept mir _ hx, fun c hc => absurd hc List.not_mem_nil,
      fun c hc => absurd hc List.not_mem_nil, fun _ x hx => absurd hx not_false⟩,
      .single (.change a f), he.cfg_eq, fun n hn => hf mir _ _ n (he.mirror n hn), he.sent,
      ⟨regs, hi.setMem _, hregs⟩, he.genuine, he.learned⟩
  | sync dir f =>
    rw [FeeCall.exec_sync, Option.some.injEq] at hc
    cases dir with
    | fee2dpu =>
      obtain ⟨es, cmds, a', hst, hes⟩ := he.read hd hr sim own junk fee₀ f.reg_lt hc hS
      refine ⟨es, cmds, a', ?_, hst.copies he ?_ rfl fun _ => not_false, hst.run, hst.shadows⟩
      · rcases hes with hes | ⟨hne, hes⟩
        · rw [hes.requests rfl]; exact .read
        · rw [hes]; exact .failed hne
      · rcases hes with hes | ⟨-, hes⟩
        · simp [hes.requests rfl]
        · simp [hes]
    | dpu2fee =>
      obtain ⟨es, cmds, a', hst, hes⟩ := he.write hd hr sim own junk fee₀ hmir.fee_ne f.reg_lt hc hS
      refine ⟨es, cmds, a', ?_, hst.copies he ?_ rfl fun _ => not_false, hst.run, hst.shadows⟩
      · rcases hes with hes | ⟨hne, hes⟩
        · rw [hes.requests rfl]; exact .write
        · rw [hes]; exact .failed hne
      · rcases hes with hes | ⟨-, hes⟩
        · simp [hes.requests rfl]
        · simp [hes]
  | syncHk =>
    rw [FeeCall.exec_syncHk, Option.some.injEq] at hc
    obtain ⟨es, cmds, a', asked, hst, hsub, hzero, hreq⟩ :=
      Shadows.hk hd hr sim own junk fee₀ hkRegs (fun _ h => h) he hc hS
    refine ⟨es, cmds, a', ?_, hst.copies he (by simp [hreq]) rfl fun _ => not_false, hst.run, hst.shadows⟩
    rw [hreq]
    exact .hk hsub fun h0 => (hzero h0).2
  | status =>
    obtain ⟨rfl, rfl⟩ := Prod.mk.inj (Option.some.inj hc)
    have hgenuine := ((@netCallbacks_genuine _ s.env.sent.length (gresbTarget_steady hd hr sim own junk fee₀)).processRx
      (s := during.enter s) ⟨rfl, he.genuine⟩).2
    obtain ⟨es, a', hes, hst⟩ := he.rx hd hr sim own junk fee₀ mir (fun regs hinv => Rx.processRx hinv) hgenuine hS
    refine ⟨es, [], a', ?_, hst.copies he (by simp [hes]) rfl fun _ => not_false, hst.run, hst.shadows⟩
    rw [hes]
    exact .status
  | store w =>
    obtain ⟨rfl, rfl⟩ := Prod.mk.inj (Option.some.inj hc)
    obtain ⟨regs, hi, hregs⟩ := he.inv
    refine ⟨[], [], a, .store, ⟨(List.append_nil _).symm, fun _ _ => rfl, fun c hc => absurd hc List.not_mem_nil,
      fun c hc => absurd hc List.not_mem_nil, fun _ x hx => absurd hx not_false⟩, .nil a, he.cfg_eq, fun n hn => ?_,
      he.sent, ⟨regs, hi.setMem _, hregs⟩, he.genuine, he.learned⟩
    rw [w.getReg_call hmir.apart hn]
    exact he.mirror n hn
  | upload fuel addr size mtu fits =>
    obtain ⟨es, cmds, a', n, hst, hh, hle, hn⟩ := he.upload hd hr sim own junk fee₀ hmir fits hc hS
    refine ⟨es, cmds, a', ?_, ⟨hst.sent, hst.kept, fun c hc => (hh.chunks c hc).2, fun c hc _ x hx => ?_, ?_⟩, hst.run,
      hst.shadows⟩
    · rw [hh.requests]
      exact .upload cmds.length
    · obtain ⟨hlo, hhi⟩ := (hh.covers x).1 ⟨c, hc, hx⟩
      exact ⟨hlo, by omega⟩
    · rintro hrc x ⟨hlo, hhi⟩
      obtain ⟨c, hc, hcov⟩ := (hh.covers x).2 ⟨hlo, by rw [hn hrc]; exact hhi⟩
      exact ⟨c, hc, (hh.chunks c hc).1, hcov⟩

/-- **A session.** -/
theorem Shadows.session {calls : List FeeCall} {rcs : List Int}
    (h : Shadows (gresbTarget hd hr sim own junk fee₀) cfg mir a s)
    (hrun : runSession (gresbTarget hd hr sim own junk fee₀) mir s calls = some (rcs, s')) (hS : s'.env.sent <+: S) :
    ∃ es a', SessionDoes calls rcs (requests es) ∧ Shadow.Run (gresbRegs sim own junk fee₀ S) a es a' ∧
      Shadows (gresbTarget hd hr sim own junk fee₀) cfg mir a' s' := by
  induction calls generalizing a s rcs with
  | nil =>
    obtain ⟨rfl, rfl⟩ := Prod.mk.inj (Option.some.inj hrun)
    exact ⟨[], a, .nil, .nil a, h⟩
  | cons c calls ih =>
    obtain ⟨rc, s₁, rcs', rfl, hc, hcalls⟩ := runSession_cons hrun
    obtain ⟨es, cmds, a₁, hdoes, -, hrun₁, h₁⟩ :=
      h.exec hd hr sim own junk fee₀ hmir hc ((sent_runSession hcalls).trans hS)
    obtain ⟨es', a', hdoes', hrun', h'⟩ := ih h₁ hcalls
    refine ⟨es ++ es', a', ?_, hrun₁.append hrun', h'⟩
    rw [requests_append]
    exact .cons hdoes hdoes'

end Calls

/-! ## What a session does -/

section Facts

variable {calls : List FeeCall} {rcs : List Int} {es : List (Shadow.Event Nat U32)}

/-- The field that a call sets. -/
def FeeCall.sets (c : FeeCall) : Option Field :=
  match c.op with
  | .set c => c.field
  | _ => none

/-- The register that a call synchronises as one of the configuration. -/
def FeeCall.syncs (c : FeeCall) : Option (SyncDirection × Nat) :=
  match c.op with
  | .sync dir f => some (dir, f.reg)
  | _ => none

/-- The call does not set the field, and does not write its register. -/
def FeeCall.Spares (f : Field) (c : FeeCall) : Prop := c.sets ≠ some f ∧ c.syncs ≠ some (.dpu2fee, f.reg)

instance (f : Field) (c : FeeCall) : Decidable (c.Spares f) := inferInstanceAs (Decidable (_ ∧ _))

/-- The events of a call, values that come back aside. -/
inductive FeeCall.Event (c : FeeCall) : Shadow.Event Nat U32 → Prop
  | change {st : Setter} {f : (Nat → U32) → Nat → U32} (hsets : c.sets = st.field) (h : st.ActsBy f) :
      FeeCall.Event c (.change f)
  | write {n : Nat} (h : c.syncs = some (.dpu2fee, n)) : FeeCall.Event c (.write n)
  | read {n : Nat} (h : c.syncs = some (.fee2dpu, n)) : FeeCall.Event c (.read n)
  | hk {n : Nat} (h : n ∈ hkRegs) : FeeCall.Event c (.read (hkIdx n))
  | other : FeeCall.Event c .other

theorem FeeCall.Does.event {c : FeeCall} {rc : Int} (h : c.Does rc es) {e : Shadow.Event Nat U32} (he : e ∈ es) :
    c.Event e := by
  cases h with
  | set hacts =>
    rw [List.mem_singleton.1 he]
    exact .change rfl hacts
  | write =>
    rw [List.mem_singleton.1 he]
    exact .write rfl
  | read =>
    rw [List.mem_singleton.1 he]
    exact .read rfl
  | failed hne => cases he
  | hk hsub hall =>
    obtain ⟨n, hn, rfl⟩ := List.mem_map.1 he
    exact .hk (hsub.subset hn)
  | status => cases he
  | store => cases he
  | upload n =>
    rw [List.eq_of_mem_replicate he]
    exact .other

/-- A property of the events of a session, of which values that come back have it. -/
theorem SessionDoes.forall_events {P : Shadow.Event Nat U32 → Prop} (h : SessionDoes calls rcs (requests es))
    (hlearn : ∀ i, P (.learn i)) (hP : ∀ c ∈ calls, ∀ e, c.Event e → P e) : ∀ e ∈ es, P e := by
  have hmade : ∀ e ∈ requests es, P e := by
    generalize requests es = es at h
    induction h with
    | nil => exact fun e he => absurd he List.not_mem_nil
    | cons hdoes _ ih =>
      rw [List.forall_mem_cons] at hP
      intro e he
      rcases List.mem_append.1 he with he | he
      · exact hP.1 e (hdoes.event he)
      · exact ih hP.2 e he
  intro e he
  cases hl : e.isLearn with
  | true =>
    cases e with
    | learn i => exact hlearn i
    | _ => cases hl
  | false => exact hmade e (mem_requests.2 ⟨he, hl⟩)

theorem SessionDoes.leaves {f : Field} (h : SessionDoes calls rcs (requests es)) (hsets : ∀ c ∈ calls, c.sets ≠ some f) :
    ∀ e ∈ es, e.Leaves f.reg fun v => v &&& f.bits := by
  refine h.forall_events (fun i => trivial) fun c hc e he => ?_
  cases he with
  | change hst hacts => exact hacts.leaves (hst ▸ hsets c hc)
  | _ => trivial

/-- No setter reaches the housekeeping. -/
theorem SessionDoes.leaves_hk (h : SessionDoes calls rcs (requests es)) (n : Nat) :
    ∀ e ∈ es, e.Leaves (hkIdx n) (id : U32 → U32) := by
  refine h.forall_events (fun i => trivial) fun c hc e he => ?_
  cases he with
  | change hst hacts =>
    intro μ
    rcases hacts with ⟨-, hf⟩ | ⟨fld, g, -, -, hf⟩
    · rw [hf]
    · have hle := fld.reg_le
      rw [hf, Function.update_of_ne]
      simp only [hkIdx]
      omega
  | _ => trivial

theorem SessionDoes.writes_not {n : Nat} (h : SessionDoes calls rcs (requests es))
    (hno : ∀ c ∈ calls, c.syncs ≠ some (.dpu2fee, n)) : .write n ∉ es := by
  have hall : ∀ e ∈ es, e ≠ .write n := by
    refine h.forall_events (fun i heq => by cases heq) fun c hc e he heq => ?_
    subst heq
    cases he with
    | write hsyncs => exact hno c hc hsyncs
  exact fun hmem => hall _ hmem rfl

/-- What a call that returned 0 has done is part of what the session has done. -/
theorem SessionDoes.of_mem {c : FeeCall} {rc : Int} (h : SessionDoes calls rcs es) (hmem : (c, rc) ∈ calls.zip rcs) :
    ∃ es', c.Does rc es' ∧ ∀ e ∈ es', e ∈ es := by
  induction h with
  | nil => cases hmem
  | @cons c' calls rc' rcs es₁ es₂ hdoes _ ih =>
    rw [List.zip_cons_cons, List.mem_cons] at hmem
    rcases hmem with heq | hmem
    · obtain ⟨rfl, rfl⟩ := Prod.mk.inj heq
      exact ⟨es₁, hdoes, fun e he => List.mem_append_left _ he⟩
    · obtain ⟨es', hdoes', hsub⟩ := ih hmem
      exact ⟨es', hdoes', fun e he => List.mem_append_right _ (hsub e he)⟩

theorem SessionDoes.read_mem {g : Field} {d : Outside} (h : SessionDoes calls rcs (requests es))
    (hmem : (⟨.sync .fee2dpu g, d⟩, 0) ∈ calls.zip rcs) : .read g.reg ∈ es := by
  obtain ⟨es', hdoes, hsub⟩ := h.of_mem hmem
  cases hdoes with
  | read => exact (List.mem_filter.1 (hsub _ (List.mem_singleton_self _))).1
  | failed hne => exact absurd rfl hne

theorem SessionDoes.hk_mem {d : Outside} (h : SessionDoes calls rcs (requests es))
    (hmem : (⟨.syncHk, d⟩, 0) ∈ calls.zip rcs) {n : Nat} (hn : n ∈ hkRegs) : .read (hkIdx n) ∈ es := by
  obtain ⟨es', hdoes, hsub⟩ := h.of_mem hmem
  cases hdoes with
  | hk hsub' hall =>
    rw [hall rfl] at hsub
    exact (List.mem_filter.1 (hsub _ (List.mem_map_of_mem hn))).1

end Facts

section Results

variable {cfg : RmapCfg} (hd : cfg.dpath = []) (hr : cfg.rpath = []) (sim : Mirror) (own : Nat → Mem → Mem)
  (junk : Nat → Junk) (fee₀ : Mem) (mir : Mirror)

/-- Nothing has been asked for. -/
def shadowOf (mir : Mirror) (s : Sys Net) : Shadow.State Nat U32 := { mirror := fun n => mir.getReg n s.mem }

include hd hr

theorem Shadows.start {s : Sys Net} (hcfg : s.cfg = cfg) (hlog : s.log.Empty) (henv : s.env.Idle) (hrx : s.rxLog = []) :
    Shadows (gresbTarget hd hr sim own junk fee₀) cfg mir (shadowOf mir s) s := by
  obtain ⟨hinv, -⟩ := Inv.start (T := gresbTarget hd hr sim own junk fee₀) hlog henv hrx
  obtain ⟨hsent, -, hq⟩ := henv
  refine ⟨hcfg, fun n _ => rfl, ?_, ⟨[], hinv, fun i q hi => by cases hi⟩, fun p hp => ?_, fun i => ?_⟩
  · rw [hsent]; exact .nil
  · rw [hq, hrx] at hp
    simp at hp
  · simp [shadowOf]

variable {hd hr sim own junk fee₀ mir} {a a' : Shadow.State Nat U32} {s s' : Sys Net}

/-- When no transaction is pending, all values asked for have come back. -/
theorem Shadows.idle (h : Shadows (gresbTarget hd hr sim own junk fee₀) cfg mir a s) (hidle : s.log.pending = 0) {i n : Nat}
    (hi : a.sent[i]? = some (.read n)) : i ∈ a.learned := by
  obtain ⟨regs, hinv, -⟩ := h.inv
  refine (h.learned i).2 ⟨⟨n, hi⟩, hinv.all_applied hidle (Nat.zero_le i) ?_⟩
  rw [← h.sent.length_eq]
  exact (List.getElem?_eq_some_iff.1 hi).1

/-- A value asked for after the shadow was `a` has not come back before. -/
theorem Shadows.not_learned (h : Shadows (gresbTarget hd hr sim own junk fee₀) cfg mir a s) {i : Nat}
    (hi : a.sent.length ≤ i) : i ∉ a.learned := by
  intro hmem
  obtain ⟨⟨r, hr⟩, -⟩ := (h.learned i).1 hmem
  have := (List.getElem?_eq_some_iff.1 hr).1
  omega

variable (hd hr sim own junk fee₀ mir) (hsim : sim.Apart) (hmir : mir.Alloc) (s) (hcfg : s.cfg = cfg)
  (hlog : s.log.Empty) (henv : s.env.Idle) (hrx : s.rxLog = [])
include hsim hmir hcfg hlog henv hrx

/-- **A session refines the shadow**: from an empty log and an idle link, whatever is called, whatever fails, with any
delays, any order of the replies and any program of the FEE,

* the session is a run of the shadow in which the calls make their requests in order;
* the registers of the mirror are those of the shadow, and the commands sent are its requests;
* a register that the program of the FEE leaves alone has been changed by these requests, in their order;
* when no transaction is pending, all values asked for have come back. -/
theorem session_refines (calls : List FeeCall) (rcs : List Int) (s' : Sys Net)
    (h : runSession (gresbTarget hd hr sim own junk fee₀) mir s calls = some (rcs, s')) :
    let remote := gresbRegs sim own junk fee₀ s'.env.sent
    ∃ es a, SessionDoes calls rcs (requests es) ∧ Shadow.Run remote (shadowOf mir s) es a ∧
      (∀ n < 486, mir.getReg n s'.mem = a.mirror n) ∧ List.Forall₂ (ReqOf cfg) a.sent s'.env.sent ∧
      (∀ n < 486, ∀ obs : U32 → U32, (∀ j m, obs (sim.getReg n (own j m)) = obs (sim.getReg n m)) →
        Shadow.Follows remote a.sent n obs) ∧
      (s'.log.pending = 0 → ∀ i n, a.sent[i]? = some (.read n) → i ∈ a.learned) := by
  intro remote
  have hstart := Shadows.start hd hr sim own junk fee₀ mir hcfg hlog henv hrx
  obtain ⟨es, a, hdoes, hrun, h⟩ := hstart.session hd hr sim own junk fee₀ hmir h List.prefix_rfl
  refine ⟨es, a, hdoes, hrun, fun n hn => (h.mirror n hn).symm, h.sent, fun n hn obs hown => ?_,
    fun hidle i n hi => h.idle hidle hi⟩
  exact gresbRegs_follows hd hr hsim own junk fee₀ h.sent hn hown

end Results

/-- The start row is set and written; the reply comes after the next change. -/
theorem session_refines_vstart :
    let mir : Mirror := ⟨.little, 0x100, 0x1000⟩
    let sim : Mirror := ⟨.big, 0x4000, 0x10000⟩
    let junk : Nat → Junk := fun _ => ⟨fun _ => 0xEE, fun _ => 0xEE, fun _ => 0xEE⟩
    let s : Sys Net := ⟨{}, {}, fun _ => 0, [], {}⟩
    let T := @gresbTarget {} rfl rfl sim (fun _ m => m) junk fun _ => 0
    let reply : Arrival := ⟨0, [0, 1, 0x2c, 0, 0, 0, 0, rmapCrc8 [0, 1, 0x2c, 0, 0, 0, 0], 0], fun _ => 0xEE⟩
    let calls : List FeeCall := [⟨.set (.set .vstart 5), {}⟩, ⟨.sync .dpu2fee .vend, {}⟩, ⟨.set (.set .vstart 9), {}⟩,
      ⟨.status, { sched := [[reply]] }⟩]
    ∃ s', runSession T mir s calls = some ([0, 0, 0, 0], s') ∧ s'.log.pending = 0 ∧ ∃ es a,
      SessionDoes calls [0, 0, 0, 0] (requests es) ∧
      Shadow.Run (gresbRegs sim (fun _ m => m) junk (fun _ => 0) s'.env.sent) (shadowOf mir s) es a ∧
      ∀ i n, a.sent[i]? = some (.read n) → i ∈ a.learned := by
  intro mir sim junk s T reply calls
  have hvals : (runSession T mir s calls).map (fun r => (r.1, r.2.log.pending)) = some ([0, 0, 0, 0], 0) := by
    decide +kernel
  obtain ⟨⟨rcs, s'⟩, hrun, heq⟩ := Option.map_eq_some_iff.1 hvals
  obtain ⟨rfl, hpending⟩ := Prod.mk.inj heq
  have hempty : TransLog.Empty {} := ⟨rfl, fun k => by simp [TransLog.holds]⟩
  obtain ⟨es, a, hdoes, hevents, -, -, -, hidle⟩ := @session_refines {} rfl rfl sim (fun _ m => m) junk (fun _ => 0) mir s
    (by decide) ⟨by decide, by decide, by decide⟩ rfl hempty ⟨rfl, rfl, rfl⟩ rfl calls _ s' hrun
  exact ⟨s', hrun, hpending, es, a, hdoes, hevents, hidle hpending⟩

end SmileFee
