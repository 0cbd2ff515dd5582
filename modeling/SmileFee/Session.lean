import SmileFee.Sync

/-!
# Runs of the library

A run is a list of calls, each with what the outside does during it. **`run_sound`** is about all
runs without `smile_fee_rmap_reset_log`, from an empty log: transaction ids are unambiguous, every
reply that is read is applied to the address registered for its own command, once, and a status of
0 means that nothing is outstanding.

**`reset_isolation`** is about runs with resets. A reset makes the slots free whose indices are the
transaction ids of replies still to come, and nothing tells these from the replies to the commands
sent afterwards; **`reset_leaks_old_reply`** is such a run. As long as no call is given a slot of
that kind, the old replies have no effect.
-/

namespace SmileFee

open Word

/-- The command codes `rmap_set_cmd` accepts. -/
abbrev CmdCode := { cmd : U8 // rmapValidateCmdCode cmd = true }

/-- A call of the library. The command functions it is given are those of `smile_fee_gen_cmd` for
some command code; `size` is the number of bytes of the register they address. -/
inductive Op where
  | sync (cmd : CmdCode) (addr size : U32) (localAddr dataLen : Nat)
  | syncData (cmd : CmdCode) (addr : U32) (localAddr : Nat) (dataLen : U32) (read : Bool)
  | status
  | resetLog

/-- The local address a call registers. -/
def Op.localAddr : Op → Option Nat
  | .sync _ _ _ a _ | .syncData _ _ a _ _ => some a
  | .status | .resetLog => none

def Op.exec (T : Target) (s : Sys Net) : Op → Int × Sys Net
  | .sync cmd addr size a dataLen =>
    smileFeeSync (netCallbacks T) s (fun cfg transId => smileFeeGenCmd cfg transId cmd addr size) a dataLen
  | .syncData cmd addr a dataLen read =>
    smileFeeSyncData (netCallbacks T) s (fun cfg transId addr size => smileFeeGenCmd cfg transId cmd addr size)
      addr a dataLen read
  | .status => smileFeeRmapSyncStatus (netCallbacks T) s
  | .resetLog => (0, smileFeeRmapResetLog s)

structure Call where
  op : Op
  during : Outside := {}

/-- The system, the local address each transmitted command was submitted with, and how many commands
had been transmitted at the last reset. -/
structure World where
  sys : Sys Net
  regs : List Nat := []
  mark : Nat := 0

def World.init (cfg : RmapCfg) (mem : Mem) : World := { sys := { cfg := cfg, log := {}, mem := mem, env := {} } }

def Call.exec (T : Target) (w : World) (c : Call) : Int × World :=
  let r := c.op.exec T (c.during.enter w.sys)
  (r.1, {
    sys := r.2
    regs := w.regs ++ List.replicate (r.2.env.sent.length - w.sys.env.sent.length) (c.op.localAddr.getD 0)
    mark := match c.op with
      | .resetLog => w.sys.env.sent.length
      | _ => w.mark })

def run (T : Target) (w : World) (calls : List Call) : World := calls.foldl (fun w c => (c.exec T w).2) w

/-! ## The invariant along a run -/

variable {T : Target}

/-- What a submission means for the invariant and the registered addresses. -/
theorem Submitted.regs_inv {regs : List Nat} {mark a : Nat} {X : Set Nat} {s s' : Sys Net} {rc : Int} {c : Cmd}
    (h : Submitted T regs mark a X s rc s' c) :
    Inv T (regs ++ List.replicate (s'.env.sent.length - s.env.sent.length) a) mark s' := by
  cases h with
  | unsent _ hs inv => rw [hs, Nat.sub_self]; simpa using inv
  | sent _ hs inv _ => rw [hs, List.length_append, Nat.add_sub_cancel_left]; exact inv

theorem Rx.regs_inv {regs : List Nat} {mark : Nat} {s s' : Sys Net} (h : Rx T regs mark s s') (a : Nat) :
    Inv T (regs ++ List.replicate (s'.env.sent.length - s.env.sent.length) a) mark s' := by
  rw [h.sent, Nat.sub_self]; simpa using h.inv

/-- A reset forgets all commands sent so far: it moves the mark behind them. -/
theorem Inv.reset {regs : List Nat} {mark : Nat} {s : Sys Net} (h : Inv T regs mark s) :
    Inv T regs s.env.sent.length (smileFeeRmapResetLog s) where
  wf := .reset _
  ok := by
    have : live s.env.sent.length (smileFeeRmapResetLog s) = ∅ := by
      ext i
      simp only [live, smileFeeRmapResetLog, Set.mem_ofPred_eq, Set.mem_empty_iff_false, iff_false]
      omega
    rw [this]; exact .empty
  regs_len := h.regs_len
  mark_le := le_rfl
  stale _ _ _ := s.log.holds_reset _
  queue := h.queue
  nodup := h.nodup
  answered_lt := h.answered_lt
  replies := h.replies
  log e he := by
    obtain ⟨c, data, hc, hrep, hcar, hr⟩ := h.log e he
    refine ⟨c, data, hc, hrep, hcar, hr.imp_right (Or.imp_right fun hr => ⟨hr.1, hr.2.imp_left fun hlt => ?_⟩)⟩
    exact hlt.trans_le h.mark_le

/-- The call is not given a slot whose index is the transaction id of a command from before the last
reset with its reply still to be read. -/
def Call.NoReuse (T : Target) (w : World) (c : Call) : Prop :=
  match c.op with
  | .sync _ _ _ a dataLen => dataLen % 4 = 0 → SmileFee.NoReuse w.mark (c.during.enter w.sys) a
  | .syncData _ _ a _ _ => SmileFee.NoReuse w.mark (smileFeeProcessRx (netCallbacks T) (c.during.enter w.sys)).2 a
  | .status | .resetLog => True

instance (T : Target) (w : World) : (c : Call) → Decidable (c.NoReuse T w)
  | ⟨.sync _ _ _ _ _, _⟩ => inferInstanceAs (Decidable (_ → SmileFee.NoReuse _ _ _))
  | ⟨.syncData _ _ _ _ _, _⟩ => inferInstanceAs (Decidable (SmileFee.NoReuse _ _ _))
  | ⟨.status, _⟩ | ⟨.resetLog, _⟩ => inferInstanceAs (Decidable True)

theorem Call.noReuse_of_mark {w : World} (hm : w.mark = 0) (c : Call) : c.NoReuse T w := by
  unfold Call.NoReuse
  rw [hm]
  split
  · exact fun _ => .zero _ _
  · exact .zero _ _
  · trivial
  · trivial

theorem Call.mark_le_exec {w : World} (h : Inv T w.regs w.mark w.sys) (c : Call) : w.mark ≤ (c.exec T w).2.mark := by
  simp only [Call.exec]
  split
  · exact h.mark_le
  · exact le_rfl

theorem Call.exec_inv {w : World} (h : Inv T w.regs w.mark w.sys) (c : Call) (hnew : c.NoReuse T w) :
    Inv T (c.exec T w).2.regs (c.exec T w).2.mark (c.exec T w).2.sys ∧
      Extends (Harmless w.mark) w.sys (c.exec T w).2.sys := by
  have henter := Rx.enter h c.during
  obtain ⟨op, during⟩ := c
  cases op with
  | sync cmd addr size a dataLen =>
    obtain ⟨hext, -, slot, hsub⟩ := sync_spec henter.inv
      (fun cfg transId => smileFeeGenCmd cfg transId cmd.1 addr size)
      (fun cfg transId data => trId_genCmd cfg transId addr size cmd.2 data) dataLen hnew
    exact ⟨hsub.regs_inv, hext⟩
  | syncData cmd addr a dataLen read =>
    obtain ⟨hext, -, slot, hsub⟩ := syncData_spec henter.inv
      (fun cfg transId addr size => smileFeeGenCmd cfg transId cmd.1 addr size) addr dataLen read
      (fun cfg transId data => trId_genCmd cfg transId addr dataLen cmd.2 data) hnew
    exact ⟨hsub.regs_inv, hext⟩
  | status =>
    have hrx := Rx.processRx henter.inv
    exact ⟨hrx.regs_inv 0, hrx.ext⟩
  | resetLog => exact ⟨Rx.regs_inv (Rx.refl henter.inv.reset) 0, .of_eq rfl rfl⟩

theorem Inv.init (cfg : RmapCfg) (mem : Mem) : Inv T (World.init cfg mem).regs 0 (World.init cfg mem).sys :=
  (Inv.start ⟨rfl, fun k => by simp [TransLog.holds, World.init]⟩ ⟨rfl, rfl, rfl⟩ rfl).1

/-- Every call of a run meets `Call.NoReuse`. -/
def RunNoReuse (T : Target) : World → List Call → Prop
  | _, [] => True
  | w, c :: calls => c.NoReuse T w ∧ RunNoReuse T (c.exec T w).2 calls

instance RunNoReuse.decide (T : Target) : (w : World) → (calls : List Call) → Decidable (RunNoReuse T w calls)
  | _, [] => isTrue trivial
  | w, c :: calls => @instDecidableAnd _ _ _ (RunNoReuse.decide T (c.exec T w).2 calls)

theorem RunNoReuse.split {w : World} {calls calls' : List Call} (h : RunNoReuse T w (calls ++ calls')) :
    RunNoReuse T w calls ∧ RunNoReuse T (run T w calls) calls' := by
  induction calls generalizing w with
  | nil => exact ⟨trivial, h⟩
  | cons c calls ih => exact ⟨⟨h.1, (ih h.2).1⟩, (ih h.2).2⟩

theorem run_append (w : World) (calls calls' : List Call) :
    run T w (calls ++ calls') = run T (run T w calls) calls' := List.foldl_append

/-- Every run keeps the invariant, and replies to commands from before its start that were forgotten
then stay without effect. -/
theorem run_inv {w : World} (h : Inv T w.regs w.mark w.sys) (calls : List Call) (hnew : RunNoReuse T w calls) :
    Inv T (run T w calls).regs (run T w calls).mark (run T w calls).sys ∧
      Extends (Harmless w.mark) w.sys (run T w calls).sys := by
  induction calls generalizing w with
  | nil => exact ⟨h, .of_eq rfl rfl⟩
  | cons c calls ih =>
    obtain ⟨hinv, hext⟩ := Call.exec_inv h c hnew.1
    obtain ⟨hinv', hext'⟩ := ih hinv hnew.2
    refine ⟨hinv', hext.trans (hext'.mono fun e he hlt => he (hlt.trans_le (c.mark_le_exec h)))⟩

/-! ## Without resets -/

/-- A call that is no reset, with an address that is not `NULL`. -/
def Op.Plain : Op → Prop
  | .resetLog => False
  | op => op.localAddr ≠ some 0

instance : (op : Op) → Decidable op.Plain
  | .resetLog => isFalse id
  | .sync _ _ _ a _ | .syncData _ _ a _ _ => inferInstanceAs (Decidable (some a ≠ some 0))
  | .status => inferInstanceAs (Decidable (none ≠ some 0))

theorem Call.exec_regs {w : World} (h : Inv T w.regs w.mark w.sys) (c : Call) :
    ∀ a ∈ (c.exec T w).2.regs, a ∈ w.regs ∨ c.op.localAddr = some a := by
  intro a ha
  rcases List.mem_append.1 ha with ha | ha
  · exact Or.inl ha
  · obtain ⟨hne, rfl⟩ := List.mem_replicate.1 ha
    have henter := Rx.enter h c.during
    obtain ⟨op, during⟩ := c
    cases op with
    | sync cmd addr size a dataLen => exact Or.inr rfl
    | syncData cmd addr a dataLen read => exact Or.inr rfl
    | status => exact absurd (Nat.sub_eq_zero_of_le (congrArg List.length (Rx.processRx henter.inv).sent).le) hne
    | resetLog => exact absurd (Nat.sub_self _) hne

/-- A plain run never moves the mark and registers no `NULL`. -/
theorem run_plain {w : World} (h : Inv T w.regs w.mark w.sys) (hm : w.mark = 0) (hreg : ∀ a ∈ w.regs, a ≠ 0)
    (calls : List Call) (hc : ∀ c ∈ calls, c.op.Plain) :
    RunNoReuse T w calls ∧ (run T w calls).mark = 0 ∧ ∀ a ∈ (run T w calls).regs, a ≠ 0 := by
  induction calls generalizing w with
  | nil => exact ⟨trivial, hm, hreg⟩
  | cons c calls ih =>
    have hplain := hc c List.mem_cons_self
    have hnew := c.noReuse_of_mark (T := T) hm
    have hmark : (c.exec T w).2.mark = 0 := by
      obtain ⟨op, during⟩ := c
      cases op with
      | resetLog => exact hplain.elim
      | _ => exact hm
    have hreg' : ∀ a ∈ (c.exec T w).2.regs, a ≠ 0 := by
      rintro a ha rfl
      rcases Call.exec_regs h c 0 ha with ha | ha
      · exact hreg 0 ha rfl
      · obtain ⟨op, during⟩ := c
        cases op with
        | resetLog => exact hplain.elim
        | _ => exact hplain ha
    obtain ⟨h1, h2⟩ := ih (Call.exec_inv h c hnew).1 hmark hreg' fun c' h' => hc c' (List.mem_cons_of_mem _ h')
    exact ⟨⟨hnew, h1⟩, h2⟩

/-- Of a packet that was read: the reply of which command it is, and that it was applied to the
address of this command, or could not be decoded for want of memory. -/
def Applied (w : World) (e : Pkt × RxResult) : Prop :=
  ∃ c data, w.sys.env.sent[e.1.origin]? = some c ∧ Replies c data e.1.bytes ∧
    (e.2 = .noMem ∨ e.2 = .applied c.trId.toNat (w.regs.getD e.1.origin 0) data)

/-- No two replies to one command are applied. -/
theorem Inv.applied_nodup {regs : List Nat} {mark : Nat} {s : Sys Net} (h : Inv T regs mark s) :
    (applied s.rxLog).Nodup := by
  have hnd := (List.nodup_append.1 (h.queue.nodup_iff.1 h.nodup)).1
  refine List.Nodup.sublist ?_ hnd
  rw [applied, answersRead]
  induction s.rxLog with
  | nil => exact List.Sublist.refl _
  | cons e l ih =>
    rcases e with ⟨p, r⟩
    cases r <;> simp <;> first
      | exact ih.trans (List.sublist_cons_self _ _)
      | exact ih

/-- With no slot in use, every command sent since the mark has had its reply applied. -/
theorem Inv.all_applied {regs : List Nat} {mark : Nat} {s : Sys Net} (h : Inv T regs mark s) (hp : s.log.pending = 0)
    {i : Nat} (hm : mark ≤ i) (hi : i < s.env.sent.length) : i ∈ applied s.rxLog := by
  have hempty := h.ok.drained (h.wf.pending_eq_zero.1 hp)
  by_contra hn
  exact (Set.eq_empty_iff_forall_notMem.1 hempty) i ⟨hm, hi, hn⟩

/-- **Soundness of every run without reset**, from an empty log and with local addresses that are not
`NULL`, whatever replies the target gives at which poll:

* no two commands that have not been answered have the same transaction id;
* every reply that has been read was applied to the address of its own command, no command had two
  replies applied, and this is all that changed the memory;
* a command whose reply has not been applied still holds its slot, with its address;
* a status of 0 is only returned when the replies of all commands sent so far have been applied. -/
theorem run_sound (T : Target) (cfg : RmapCfg) (mem : Mem) (calls : List Call) (hc : ∀ c ∈ calls, c.op.Plain) :
    let w := run T (World.init cfg mem) calls
    (∀ (i j : Nat) (ci cj : Cmd), w.sys.env.sent[i]? = some ci → w.sys.env.sent[j]? = some cj →
      i ∉ w.sys.env.answered → j ∉ w.sys.env.answered → ci.trId = cj.trId → i = j) ∧
    (∀ e ∈ w.sys.rxLog, Applied w e) ∧
    (applied w.sys.rxLog).Nodup ∧
    w.sys.mem = replay mem w.sys.rxLog ∧
    (∀ (i : Nat) (ci : Cmd), w.sys.env.sent[i]? = some ci → i ∉ applied w.sys.rxLog →
      w.sys.log.holds ci.trId.toNat = some (w.regs.getD i 0)) ∧
    (∀ c : Call, c.op = .status → (c.exec T w).1 = 0 →
      ∀ i < w.sys.env.sent.length, i ∈ applied (c.exec T w).2.sys.rxLog) := by
  have hinit := Inv.init (T := T) cfg mem
  obtain ⟨hnew, hmark, hreg⟩ := run_plain hinit rfl (fun a ha => absurd ha List.not_mem_nil) calls hc
  obtain ⟨hinv, new, hlog, hmem, -⟩ := run_inv hinit calls hnew
  rw [hmark] at hinv
  refine ⟨?_, ?_, hinv.applied_nodup, ?_, ?_, ?_⟩
  · intro i j ci cj hi hj hni hnj heq
    have hlive (k : Nat) (c : Cmd) (hk : (run T (World.init cfg mem) calls).sys.env.sent[k]? = some c)
        (hnk : k ∉ (run T (World.init cfg mem) calls).sys.env.answered) :
        k ∈ live 0 (run T (World.init cfg mem) calls).sys :=
      ⟨Nat.zero_le k, (List.getElem?_eq_some_iff.1 hk).1, fun happ =>
        hnk (hinv.queue.mem_iff.2 (List.mem_append_left _ (applied_subset _ happ)))⟩
    exact hinv.ok.inj (hlive i ci hi hni) (hlive j cj hj hnj) (by rw [idOf_eq hi, idOf_eq hj, heq])
  · intro e he
    obtain ⟨c, data, hc', hrep, -, hr⟩ := hinv.log e he
    refine ⟨c, data, hc', hrep, hr.imp_right fun hr => hr.resolve_right ?_⟩
    rintro ⟨-, hlt | hnull⟩
    · exact Nat.not_lt_zero _ hlt
    · have hlt : e.1.origin < (run T (World.init cfg mem) calls).regs.length := by
        rw [hinv.regs_len]; exact (List.getElem?_eq_some_iff.1 hc').1
      rw [List.getD_eq_getElem _ _ hlt] at hnull
      exact hreg _ (List.getElem_mem hlt) hnull
  · have hnew : (run T (World.init cfg mem) calls).sys.rxLog = new := by
      rw [hlog]; rfl
    rw [hmem, hnew]; rfl
  · intro i ci hi hni
    have := hinv.ok.held i ⟨Nat.zero_le i, (List.getElem?_eq_some_iff.1 hi).1, hni⟩
    rwa [idOf_eq hi] at this
  · rintro ⟨op, during⟩ rfl hrc i hi
    have hrx := Rx.processRx (Rx.enter hinv during).inv
    refine hrx.inv.all_applied hrc (Nat.zero_le i) ?_
    rw [hrx.sent]
    exact hi

/-- Two registers are written, and the replies come in the other order. -/
theorem run_sound_two_writes :
    let write : CmdCode := ⟨RMAP_WRITE_ADDR_INC_REPLY, by decide⟩
    let reply (id : U16) : List U8 := [0, 1, 0x2c, 0, 0, u8 (id >>> 8), u8 id]
    let arrival (i : Nat) (id : U16) : Arrival := ⟨i, reply id ++ [rmapCrc8 (reply id), 0], fun _ => 0⟩
    let calls : List Call := [⟨.sync write 0 4 0x100 4, {}⟩, ⟨.sync write 4 4 0x104 4, {}⟩,
      ⟨.status, { sched := [[arrival 1 1]] }⟩, ⟨.status, { sched := [[arrival 0 0]] }⟩]
    let w := run (servingTarget fun _ => []) (World.init {} fun _ => 0) calls
    applied w.sys.rxLog = [1, 0] ∧ (∀ e ∈ w.sys.rxLog, Applied w e) ∧ w.sys.mem = replay (fun _ => 0) w.sys.rxLog := by
  intro write reply arrival calls w
  have hsound := run_sound (servingTarget fun _ => []) {} (fun _ => 0) calls (by decide)
  exact ⟨by decide, hsound.2.1, hsound.2.2.2.1⟩

/-! ## Resets -/

/-- From `w` to `w'`, the replies to commands sent before `w` that were read wrote nothing and
completed no transaction. -/
def Isolated (w w' : World) : Prop :=
  ∃ new, w'.sys.rxLog = w.sys.rxLog ++ new ∧ w'.sys.mem = replay w.sys.mem new ∧
    ∀ e ∈ new, e.1.origin < w.sys.env.sent.length → ∀ slot addr data, e.2 ≠ .applied slot addr data

/-- **Reset isolation**: after a reset, replies to commands sent before it are dropped, in every run
in which no call is given the transaction id of a command sent before the last reset whose reply has
not been read. -/
theorem reset_isolation (T : Target) (cfg : RmapCfg) (mem : Mem) (before after : List Call) (reset : Call)
    (hreset : reset.op = .resetLog)
    (hnew : RunNoReuse T (World.init cfg mem) (before ++ reset :: after)) :
    Isolated (run T (World.init cfg mem) before) (run T (World.init cfg mem) (before ++ reset :: after)) := by
  obtain ⟨hbefore, hnew⟩ := hnew.split
  have hinv := (run_inv (Inv.init cfg mem) before hbefore).1
  rw [run_append]
  generalize run T (World.init cfg mem) before = w at hinv hnew
  have hinv' := (Call.exec_inv hinv reset hnew.1).1
  obtain ⟨-, new, hlog, hmem, hharm⟩ := run_inv hinv' after hnew.2
  obtain ⟨op, during⟩ := reset
  cases hreset
  refine ⟨new, hlog, hmem, fun e he hlt slot addr data happ => ?_⟩
  rcases hharm e he hlt with h | h
  · rw [h] at happ; cases happ
  · rw [h] at happ; cases happ

/-- A reset with the reply to the second of two commands still to come; a third one is given the slot
of the first, and the late reply is dropped. -/
theorem reset_isolation_late_reply :
    let write : CmdCode := ⟨RMAP_WRITE_ADDR_INC_REPLY, by decide⟩
    let reply (id : U16) : List U8 := [0, 1, 0x2c, 0, 0, u8 (id >>> 8), u8 id]
    let arrival (i : Nat) (id : U16) : Arrival := ⟨i, reply id ++ [rmapCrc8 (reply id), 0], fun _ => 0⟩
    let before : List Call := [⟨.sync write 0 4 0x100 4, {}⟩, ⟨.sync write 4 4 0x104 4, {}⟩,
      ⟨.status, { sched := [[arrival 0 0]] }⟩]
    let after : List Call := [⟨.sync write 8 4 0x108 4, {}⟩, ⟨.status, { sched := [[arrival 1 1]] }⟩]
    let w := run (servingTarget fun _ => []) (World.init {} fun _ => 0) before
    let w' := run (servingTarget fun _ => []) (World.init {} fun _ => 0) (before ++ ⟨.resetLog, {}⟩ :: after)
    w'.sys.rxLog.map (fun e => (e.1.origin, e.2)) = [(0, .applied 0 0x100 []), (1, .unknown)] ∧ Isolated w w' := by
  intro write reply arrival before after w w'
  exact ⟨by decide, reset_isolation _ {} _ before after ⟨.resetLog, {}⟩ rfl (by decide)⟩

/-- **Old replies are taken for new ones**: a register is read, the log is reset, and another register
is read. Its command is given the same transaction id, and while it is submitted the reply to the
first read arrives: the data of the first register ends up in the mirror of the second. -/
theorem reset_leaks_old_reply :
    let read : CmdCode := ⟨RMAP_READ_ADDR_INC, by decide⟩
    let reply : List U8 := [0, 1, 0x0c, 0, 0, 0, 0, 0, 0, 0, 4]
    let data : List U8 := [0xAA, 0xBB, 0xCC, 0xDD]
    let arrival : Arrival := ⟨0, reply ++ [rmapCrc8 reply] ++ data ++ [rmapCrc8 data], fun _ => 0⟩
    let before : List Call := [⟨.sync read 0 4 0x100 0, {}⟩]
    let after : List Call := [⟨.sync read 4 4 0x200 0, { sched := [[arrival]] }⟩]
    let w := run (servingTarget fun _ => data) (World.init {} fun _ => 0) before
    let w' := run (servingTarget fun _ => data) (World.init {} fun _ => 0) (before ++ ⟨.resetLog, {}⟩ :: after)
    ¬ Isolated w w' ∧ w'.sys.mem.read 0x200 4 = data ∧ w'.sys.env.sent.length = 2 ∧ w'.sys.log.holds 0 = none := by
  intro read reply data arrival before after w w'
  refine ⟨?_, by decide, by decide, by decide⟩
  rintro ⟨new, hlog, -, hnew⟩
  have hold : w.sys.rxLog = [] := by
    have : w.sys.rxLog.length = 0 := by decide
    exact List.length_eq_zero_iff.1 this
  have hread : w'.sys.rxLog.map (fun e => (e.1.origin, e.2)) = [(0, .applied 0 0x200 data)] := by decide
  rw [hold, List.nil_append] at hlog
  rw [hlog] at hread
  obtain ⟨e, rfl, he⟩ := List.map_eq_singleton_iff.1 hread
  obtain ⟨horig, hres⟩ := Prod.mk.inj he
  exact hnew e (List.mem_singleton_self e) (by rw [horig]; decide) 0 0x200 data hres

end SmileFee
