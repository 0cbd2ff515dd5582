import SmileFee.Ctrl
import SmileFee.SimRmap
import SmileFee.Sync

/-!
# Register upload

The configuration registers of the mirror are changed by setters and synchronised to the FEE, which
is the simulator behind a link. The FEE receives the commands in the order in which they were sent,
each at any time after that; its reply comes back at any later time.

What an upload is for is the *last-synced map*: a register of the FEE has the value that the
register of the mirror had when it was last synchronised. **`upload_refines`** says that the
memory of the FEE is that map, after every command it has received.
-/

namespace SmileFee

open Word Mem

/-- The value of every register after the synchronisations listed. -/
def lastSynced (init : Nat → U32) (synced : List (Nat × U32)) : Nat → U32 :=
  synced.foldl (fun f u => Function.update f u.1 u.2) init

theorem lastSynced_concat (init : Nat → U32) (synced : List (Nat × U32)) (u : Nat × U32) :
    lastSynced init (synced ++ [u]) = Function.update (lastSynced init synced) u.1 u.2 := by
  simp [lastSynced]

/-! ## The FEE behind the link -/

/-- What is arbitrary when a command is received: the content of the blobs before they are filled,
and the bytes behind the received packet. -/
structure Junk where
  blob : Mem
  reply : Mem
  beyond : Nat → U8

/-- A command as the simulator receives it, packaged by `rmap_tx`. -/
def simReceive (sim : Mirror) (z : Junk) (c : Cmd) (mem : Mem) : Option (Mem × List U8) :=
  rmapSimRx sim z.reply mem ⟨packaged (smileFeePackage z.blob c.hdr c.nonCrcBytes c.data), z.beyond⟩

/-- The memory of the FEE after it has received the first `j` commands. -/
def feeMem (sim : Mirror) (junk : Nat → Junk) (fee₀ : Mem) (sent : List Cmd) : Nat → Mem
  | 0 => fee₀
  | j + 1 =>
    let mem := feeMem sim junk fee₀ sent j
    match sent[j]? with
    | none => mem
    | some c => ((simReceive sim (junk j) c mem).map Prod.fst).getD mem

/-- A write of four bytes to one of the registers. -/
def Cmd.IsRegWrite (cfg : RmapCfg) (c : Cmd) : Prop :=
  c.nonCrcBytes = 0 ∧ c.hdr = feeWriteCmdRegister cfg c.trId c.addr ∧ c.addr < OFFSET_OF_SRAM ∧
    c.data.map List.length = some 4

instance (cfg : RmapCfg) (c : Cmd) : Decidable (c.IsRegWrite cfg) :=
  inferInstanceAs (Decidable (_ ∧ _ ∧ _ ∧ _))

section Target

variable {cfg : RmapCfg} (hd : cfg.dpath = []) (hr : cfg.rpath = []) (sim : Mirror) (z : Junk) (mem : Mem)
include hd hr

theorem simReceive_regWrite {c : Cmd} (hc : c.IsRegWrite cfg) : ∃ data reply, c.data = some data ∧
    simReceive sim z c mem = some (mem.write (sim.fee + c.addr.toNat) data, reply) ∧ Replies c [] reply := by
  obtain ⟨hdr, nonCrcBytes, data⟩ := c
  obtain ⟨h0, hhdr, haddr, hdata⟩ := hc
  obtain ⟨data, hsome, hlen⟩ := Option.map_eq_some_iff.1 hdata
  obtain rfl : _ = some data := hsome
  obtain ⟨reply, hrx, hrep⟩ := rmapSimRx_writeRegister hd hr sim z.blob z.reply mem _ haddr hlen z.beyond
  simp only at h0 hhdr
  rw [← hhdr] at hrx hrep
  subst h0
  exact ⟨data, reply, rfl, hrx, hrep⟩

omit z mem in
/-- The simulator as a target for register writes: the reply to a command is what it produces after
the commands sent before. -/
def simTarget (junk : Nat → Junk) (fee₀ : Mem) : Target where
  answers sent _ i bytes := match sent[i]? with
    | none => false
    | some c => decide (c.IsRegWrite cfg ∧
        (simReceive sim (junk i) c (feeMem sim junk fee₀ sent i)).map Prod.snd = some bytes)
  carries _ data := data = []
  wellFormed sent answered i c bytes hc h := by
    simp only [hc, decide_eq_true_eq] at h
    obtain ⟨data, reply, -, hrx, hrep⟩ := simReceive_regWrite hd hr sim (junk i) (feeMem sim junk fee₀ sent i) h.1
    rw [hrx] at h
    rw [← Option.some.inj h.2]
    exact ⟨[], hrep, rfl⟩

end Target

/-! ## Runs -/

/-- Setters change the memory of the DPU in any way they like. -/
inductive UploadOp where
  | set (setters : Mem → Mem)
  | sync (r : CfgReg)
  | status

structure UploadCall where
  op : UploadOp
  during : Outside := {}

/-- The system, and for each synchronisation the register and the value it had. -/
structure Upload where
  sys : Sys Net
  synced : List (Nat × U32) := []

/-- A call; `none` if a synchronisation returns something else than 0. -/
def UploadCall.exec (T : Target) (mir : Mirror) (w : Upload) (c : UploadCall) : Option Upload :=
  let s := c.during.enter w.sys
  match c.op with
  | .set setters => some { w with sys := { s with mem := setters s.mem } }
  | .status => some { w with sys := (smileFeeRmapSyncStatus (netCallbacks T) s).2 }
  | .sync r =>
    let (rc, s') := smileFeeSyncCfgReg (netCallbacks T) mir .dpu2fee r s
    if rc = 0 then some ⟨s', w.synced ++ [(r.idx, mir.getReg r.idx s.mem)]⟩ else none

def runUploads (T : Target) (mir : Mirror) (w : Upload) (calls : List UploadCall) : Option Upload :=
  calls.foldlM (fun w c => c.exec T mir w) w

/-- What the setters alone make of the memory. -/
def settersOnly (m : Mem) (calls : List UploadCall) : Mem :=
  calls.foldl (fun m c => match c.op with
    | .set setters => setters m
    | _ => m) m

/-! ## The invariant -/

/-- The command `c` carries the synchronisation `u`. -/
def Carries (cfg : RmapCfg) (u : Nat × U32) (c : Cmd) : Prop :=
  ∃ (r : CfgReg) (transId : U16) (m : Mem) (a : Nat), u = (r.idx, loadBe32 m a) ∧
    c = ⟨feeWriteCmdRegister cfg transId (BitVec.ofNat 32 (4 * r.idx)), cfg.dpath.length, some (m.read a 4)⟩

/-- Nothing leaks, and the commands sent carry the synchronisations made. -/
def UploadInv (T : Target) (cfg : RmapCfg) (w : Upload) : Prop :=
  w.sys.cfg = cfg ∧ List.Forall₂ (Carries cfg) w.synced w.sys.env.sent ∧
    ∃ regs, Inv T regs 0 w.sys ∧ Tight 0 w.sys ∅

/-- Replies without data leave the memory as it is. -/
theorem replay_quiet {l : List (Pkt × RxResult)} (h : ∀ e ∈ l, ∀ m, e.2.effect m = m) (m : Mem) : replay m l = m := by
  induction l with
  | nil => rfl
  | cons e l ih =>
    rw [replay, List.foldl_cons, h e List.mem_cons_self, ← replay]
    exact ih fun e' h' => h e' (List.mem_cons_of_mem _ h')

theorem Inv.quiet {T : Target} (hT : ∀ c data, T.carries c data → data = []) {regs : List Nat} {mark : Nat}
    {s : Sys Net} (h : Inv T regs mark s) : ∀ e ∈ s.rxLog, ∀ m, e.2.effect m = m := by
  intro e he m
  obtain ⟨c, data, -, -, hcar, hr | hr | ⟨hr, -⟩⟩ := h.log e he
  · rw [hr]; rfl
  · rw [hr, hT c data hcar]
    exact Mem.write_nil m _
  · rw [hr]; rfl

theorem Extends.quiet {P : Pkt × RxResult → Prop} {s s' : Sys Net} (h : Extends P s s')
    (hq : ∀ e ∈ s'.rxLog, ∀ m, e.2.effect m = m) : s'.mem = s.mem := by
  obtain ⟨new, hlog, hmem, -⟩ := h
  rw [hmem]
  exact replay_quiet (fun e he => hq e (by rw [hlog]; exact List.mem_append_right _ he)) _

section Step

variable {T : Target} (hT : ∀ c data, T.carries c data → data = []) {cfg : RmapCfg} {mir : Mirror}
  (hfee : mir.fee ≠ 0) {w w' : Upload}
include hT hfee

/-- One call keeps the invariant, and only setters change the memory. -/
theorem UploadCall.exec_inv (h : UploadInv T cfg w) {c : UploadCall} (hc : c.exec T mir w = some w') :
    UploadInv T cfg w' ∧ w'.sys.mem = settersOnly w.sys.mem [c] := by
  obtain ⟨hcfg, hsynced, regs, hinv, htight⟩ := h
  have henter := Rx.enter hinv c.during
  have htight := henter.tight _ htight
  obtain ⟨op, during⟩ := c
  cases op with
  | set setters =>
    rw [← Option.some.inj hc]
    have hi := henter.inv
    exact ⟨⟨hcfg, hsynced, regs, ⟨hi.wf, hi.ok, hi.regs_len, hi.mark_le, hi.stale, hi.queue, hi.nodup, hi.answered_lt,
      hi.replies, hi.log⟩, htight⟩, rfl⟩
  | status =>
    rw [← Option.some.inj hc]
    have hrx := Rx.processRx henter.inv
    have hsent : (smileFeeRmapSyncStatus (netCallbacks T) (during.enter w.sys)).2.env.sent = w.sys.env.sent := hrx.sent
    exact ⟨⟨hrx.cfg.trans hcfg, hsent ▸ hsynced, regs, hrx.inv, hrx.tight _ htight⟩,
      hrx.ext.quiet (hrx.inv.quiet hT)⟩
  | sync r =>
    have hne : mir.fee + 4 * r.idx ≠ 0 := by omega
    obtain ⟨hext, hcfg', slot, hsub⟩ := sync_spec henter.inv
      (fun cfg transId => feeWriteCmdRegister cfg transId (BitVec.ofNat 32 (4 * r.idx)))
      (fun cfg transId data => trId_genCmd cfg transId _ 4 (by decide) data) 4
      (fun _ => NoReuse.zero _ (mir.fee + 4 * r.idx))
    have hsync : smileFeeSyncCfgReg (netCallbacks T) mir .dpu2fee r (during.enter w.sys) =
        smileFeeSync (netCallbacks T) (during.enter w.sys) (fun cfg transId =>
          feeWriteCmdRegister cfg transId (BitVec.ofNat 32 (4 * r.idx))) (mir.fee + 4 * r.idx) 4 := by
      rw [smileFeeSyncCfgReg_eq]; rfl
    simp only [UploadCall.exec, hsync] at hc
    rcases hs : smileFeeSync (netCallbacks T) (during.enter w.sys) (fun cfg transId =>
      feeWriteCmdRegister cfg transId (BitVec.ofNat 32 (4 * r.idx))) (mir.fee + 4 * r.idx) 4 with ⟨rc, s'⟩
    rw [hs] at hext hcfg' hsub hc
    simp only at hext hcfg' hsub hc
    split at hc
    · rename_i hrc
      rw [← Option.some.inj hc]
      cases hsub with
      | unsent hne => exact absurd hrc hne
      | sent _ hsent hinv' htight' =>
        have hmem : s'.mem = w.sys.mem := hext.quiet (hinv'.quiet hT)
        refine ⟨⟨hcfg'.trans hcfg, ?_, _, hinv', htight' htight⟩, hmem⟩
        rw [hsent]
        refine List.rel_append hsynced (List.Forall₂.cons ?_ List.Forall₂.nil)
        refine ⟨r, slot, w.sys.mem, mir.fee + 4 * r.idx, Prod.ext rfl (mir.getReg_eq _ _), ?_⟩
        rw [txData, if_neg hne, hmem, ← hcfg]
        rfl
    · cases hc

theorem run_upload (h : UploadInv T cfg w) {calls : List UploadCall}
    (hrun : runUploads T mir w calls = some w') :
    UploadInv T cfg w' ∧ w'.sys.mem = settersOnly w.sys.mem calls := by
  induction calls generalizing w with
  | nil => rw [← Option.some.inj hrun]; exact ⟨h, rfl⟩
  | cons c calls ih =>
    obtain ⟨w₁, hc, hcalls⟩ := Option.bind_eq_some_iff.1 hrun
    obtain ⟨h₁, hm₁⟩ := UploadCall.exec_inv hT hfee h hc
    obtain ⟨h₂, hm₂⟩ := ih h₁ hcalls
    refine ⟨h₂, ?_⟩
    rw [hm₂, hm₁]
    rfl

end Step

/-! ## The memory of the FEE -/

section Refinement

theorem trId_writeCmd (cfg : RmapCfg) (transId : U16) (addr : U32) (data : Option (List U8)) :
    Cmd.trId ⟨feeWriteCmdRegister cfg transId addr, cfg.dpath.length, data⟩ = transId :=
  trId_genCmd cfg transId addr 4 (by decide) data

theorem addr_writeCmd (cfg : RmapCfg) (transId : U16) (addr : U32) (data : Option (List U8)) :
    Cmd.addr ⟨feeWriteCmdRegister cfg transId addr, cfg.dpath.length, data⟩ = addr :=
  addr_genCmd cfg transId addr 4 (by decide) data

variable {cfg : RmapCfg} (hd : cfg.dpath = [])
include hd

theorem Carries.isRegWrite {u : Nat × U32} {c : Cmd} (h : Carries cfg u c) : c.IsRegWrite cfg := by
  obtain ⟨r, transId, m, a, -, rfl⟩ := h
  refine ⟨by rw [hd]; rfl, ?_, ?_, by simp⟩
  · rw [trId_writeCmd, addr_writeCmd]
  · have hle := r.idx_le
    rw [addr_writeCmd]
    show (BitVec.ofNat 32 (4 * r.idx)).toNat < 1944
    rw [BitVec.toNat_ofNat]
    omega

variable (hr : cfg.rpath = []) (sim : Mirror) (junk : Nat → Junk) (fee₀ : Mem)
include hr

/-- Receiving a synchronisation writes its register. -/
theorem Carries.feeMem_succ {u : Nat × U32} {c : Cmd} (h : Carries cfg u c) {sent : List Cmd} {j : Nat}
    (hj : sent[j]? = some c) : ∃ (r : CfgReg) (m : Mem) (a : Nat), u = (r.idx, loadBe32 m a) ∧
      feeMem sim junk fee₀ sent (j + 1) = (feeMem sim junk fee₀ sent j).write (sim.cfgReg r.idx) (m.read a 4) := by
  obtain ⟨data, reply, hdata, hrx, -⟩ := simReceive_regWrite hd hr sim (junk j) (feeMem sim junk fee₀ sent j)
    (h.isRegWrite hd)
  obtain ⟨r, transId, m, a, rfl, rfl⟩ := h
  have hle := r.idx_le
  refine ⟨r, m, a, rfl, ?_⟩
  rw [feeMem, hj]
  simp only [hrx, Option.map_some, Option.getD_some]
  rw [← Option.some.inj hdata, addr_writeCmd, BitVec.toNat_ofNat, Nat.mod_eq_of_lt (by omega)]
  rfl

/-- The memory of the FEE is the last-synced map. -/
theorem feeMem_eq {synced : List (Nat × U32)} {sent : List Cmd} (h : List.Forall₂ (Carries cfg) synced sent) (j : Nat)
    (hj : j ≤ sent.length) :
    (∀ n, sim.getReg n (feeMem sim junk fee₀ sent j) =
      lastSynced (fun n => sim.getReg n fee₀) (synced.take j) n) ∧
    ∀ x, (∀ r : CfgReg, x < sim.cfgReg r.idx ∨ sim.cfgReg r.idx + 4 ≤ x) → feeMem sim junk fee₀ sent j x = fee₀ x := by
  induction j with
  | zero => exact ⟨fun n => rfl, fun x _ => rfl⟩
  | succ j ih =>
    obtain ⟨hreg, hother⟩ := ih (Nat.le_of_succ_le hj)
    have hj' : j < synced.length := by rw [h.length_eq]; exact hj
    have hcar := h.get hj' hj
    obtain ⟨r, m, a, hu, hmem⟩ := hcar.feeMem_succ hd hr sim junk fee₀ (List.getElem?_eq_getElem hj)
    rw [hmem]
    constructor
    · intro n
      rw [List.take_succ_eq_append_getElem hj', lastSynced_concat, show synced[j] = (r.idx, loadBe32 m a) from hu,
        sim.getReg_eq]
      by_cases hn : n = r.idx
      · subst hn
        rw [Function.update_self, loadBe32_write_read]
      · rw [Function.update_of_ne hn, loadBe32_write_disjoint, ← sim.getReg_eq, hreg]
        simp only [Mirror.cfgReg, length_read]
        omega
    · intro x hx
      rw [write_outside _ _ _ x (by simpa using hx r)]
      exact hother x hx

/-- **The upload refines the last-synced map**: with empty paths, from an empty log and an idle link,
in every run of setters, synchronisations that return 0 and polls, with any delays,

* after every command it has received, a register of the FEE has the value that the register of the
  mirror had when it was last synchronised (its initial value if it was not), and no byte outside of
  the registers has changed;
* the FEE has a reply to every command;
* only setters have changed the mirror, and when all replies have been applied the log is empty. -/
theorem upload_refines (mir : Mirror) (hfee : mir.fee ≠ 0) (s : Sys Net) (hcfg : s.cfg = cfg) (hlog : s.log.Empty)
    (henv : s.env.Idle) (hrx : s.rxLog = []) (calls : List UploadCall) (w : Upload)
    (hrun : runUploads (simTarget hd hr sim junk fee₀) mir ⟨s, []⟩ calls = some w) :
    let sent := w.sys.env.sent
    w.synced.length = sent.length ∧
    (∀ j ≤ sent.length,
      (∀ n, sim.getReg n (feeMem sim junk fee₀ sent j) =
        lastSynced (fun n => sim.getReg n fee₀) (w.synced.take j) n) ∧
      ∀ x, (∀ r : CfgReg, x < sim.cfgReg r.idx ∨ sim.cfgReg r.idx + 4 ≤ x) → feeMem sim junk fee₀ sent j x = fee₀ x) ∧
    (∀ j < sent.length, ∃ bytes, (simTarget hd hr sim junk fee₀).answers sent w.sys.env.answered j bytes = true) ∧
    w.sys.mem = settersOnly s.mem calls ∧
    ((∀ i < sent.length, i ∈ applied w.sys.rxLog) → w.sys.log.Empty) := by
  have hT : ∀ c data, (simTarget hd hr sim junk fee₀).carries c data → data = [] := fun _ _ h => h
  obtain ⟨hinv, htight⟩ := Inv.start (T := simTarget hd hr sim junk fee₀) hlog henv hrx
  have hstart : UploadInv (simTarget hd hr sim junk fee₀) cfg ⟨s, []⟩ := by
    refine ⟨hcfg, ?_, [], hinv, htight⟩
    rw [henv.1]; exact .nil
  obtain ⟨⟨-, hsynced, regs, hinv', htight'⟩, hmem⟩ := run_upload hT hfee hstart hrun
  refine ⟨hsynced.length_eq, fun j hj => feeMem_eq hd hr sim junk fee₀ hsynced j hj, fun j hj => ?_, hmem,
    hinv'.empty_of_applied htight'⟩
  have hcar := hsynced.get (by rw [hsynced.length_eq]; exact hj) hj
  obtain ⟨data, reply, -, hrx, -⟩ := simReceive_regWrite hd hr sim (junk j)
    (feeMem sim junk fee₀ w.sys.env.sent j) (hcar.isRegWrite hd)
  refine ⟨reply, ?_⟩
  simp only [simTarget, List.getElem?_eq_getElem hj, decide_eq_true_eq]
  exact ⟨hcar.isRegWrite hd, by rw [show w.sys.env.sent[j] = w.sys.env.sent.get ⟨j, hj⟩ from rfl, hrx]; rfl⟩

end Refinement

/-- Two fields of register 0 are set and the register is synchronised; a third change is not. -/
theorem upload_refines_vstart :
    let mir : Mirror := ⟨.little, 0x100, 0⟩
    let sim : Mirror := ⟨.big, 0x4000, 0⟩
    let junk : Nat → Junk := fun _ => ⟨fun _ => 0xEE, fun _ => 0xEE, fun _ => 0xEE⟩
    let fee₀ : Mem := fun _ => 0
    let T := @simTarget {} rfl rfl sim junk fee₀
    let reply : Arrival := ⟨0, [0, 1, 0x2c, 0, 0, 0, 0, rmapCrc8 [0, 1, 0x2c, 0, 0, 0, 0], 0], fun _ => 0xEE⟩
    let calls : List UploadCall := [⟨.set (mir.smileFeeSetVstart 5), {}⟩, ⟨.set (mir.smileFeeSetVend 7), {}⟩,
      ⟨.sync .reg0, {}⟩, ⟨.set (mir.smileFeeSetVstart 6), {}⟩, ⟨.status, { sched := [[reply]] }⟩]
    ∃ w, runUploads T mir ⟨⟨{}, {}, fun _ => 0, [], {}⟩, []⟩ calls = some w ∧
      w.sys.env.sent.length = 1 ∧ w.sys.log.Empty ∧
      sim.getReg 0 (feeMem sim junk fee₀ w.sys.env.sent 1) = 0x00070005 := by
  intro mir sim junk fee₀ T reply calls
  have hrun : (runUploads T mir ⟨⟨{}, {}, fun _ => 0, [], {}⟩, []⟩ calls).map (fun w : Upload =>
      (w.sys.env.sent.length, w.synced, applied w.sys.rxLog)) = some (1, [(0, 0x00070005)], [0]) := by decide
  obtain ⟨w, hw, hvals⟩ := Option.map_eq_some_iff.1 hrun
  obtain ⟨hlen, hvals⟩ := Prod.mk.inj hvals
  obtain ⟨hsynced, happ⟩ := Prod.mk.inj hvals
  have hempty : TransLog.Empty {} := ⟨rfl, fun k => by simp [TransLog.holds]⟩
  obtain ⟨-, hmem, -, -, hdone⟩ := @upload_refines {} rfl rfl sim junk fee₀ mir (by decide) _ rfl hempty
    ⟨rfl, rfl, rfl⟩ rfl calls w hw
  refine ⟨w, hw, hlen, hdone fun i hi => ?_, ?_⟩
  · rw [happ, List.mem_singleton]; omega
  · rw [(hmem 1 hlen.ge).1 0, hsynced]; rfl

end SmileFee
