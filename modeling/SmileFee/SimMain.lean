import SmileFee.Lib.Feed
import SmileFee.Lib.Progress
import SmileFee.OpReads
import SmileFee.WanderingMask

/-!
# The main loop of the simulator (`SIM/fee_sim.c:2280-2389`)

| here | there |
| --- | --- |
| `MainPc`                 | the places in `fee_sim_main` at which it reads or writes a register, executes, or sends |
| `MainState.step`         | `fee_sim_main` from one of these places to the next |
| `MainEvent`              | such a step, or what another thread makes of the registers in between |

The thread that receives commands writes to the registers at any time. So every access of the main loop is a
step of its own, and an operation sends its packets one by one. What `fee_sim_exec` reads itself is taken as it is at
its beginning (`SimOp`): that is what it finds if nobody changes it meanwhile (`SameForOp`), and where it matters this is
a hypothesis. The time that an operation has taken is an input.

* **`main_refines`**: whatever the other threads write and when, as long as it is nothing that the operation under way
  reads, what is sent is `feeSimRun` of the operations, and there are no more of these than were requested, or repeated
  in synchronous mode.
* **`request_served`**: a request that is not withdrawn is served, while the period of integration does not change.
* **`wanderingMask_scans`**: where the operations find the mask.
-/

namespace SmileFee

open Word Mem

def FEE_MODE_ID_ON : U8 := 0x0
/-- `FEE_CMD__ID_IMM_ON`. -/
def FEE_CMD_ID_IMM_ON : U8 := 0x8

inductive MainPc where
  /-- The request is polled (`:2324`). -/
  | start
  /-- The head of the `do` (`:2330`). -/
  | op
  | exec
  /-- `fee_sim_exec` has these packets still to send, and leaves these static variables. -/
  | tx (pkts : List (List U8)) (statics : Option SimStatics)
  /-- `sync_sel` behind the operation (`:2361`). -/
  | sel (elapsed : U32)
  | wait (elapsed : U32)
  | imm (elapsed : U32)
  | on
  | slp (elapsed : U32)
  /-- The end of the `do` (`:2388`). -/
  | again
  | ended

structure MainState where
  pc : MainPc := .start
  mem : Mem
  statics : SimStatics := {}

/-- What comes from outside of the program: the images and the contents of buffers for an operation, and
the time it has taken. -/
structure MainIo where
  op : SimOp
  elapsed : U32

/-- What can be seen of the main loop. -/
inductive MainObs where
  | request
  | again
  | clear
  | execute (op : SimOp)
  | send (pkt : List U8)

/-- `fee_sim_main` (`:2280`) up to its next access. -/
def MainState.step (s : Mirror) (st : MainState) (io : MainIo) : MainState × List MainObs :=
  match st.pc with
  | .start => if s.smileFeeGetExecuteOp st.mem = 0 then (st, []) else ({ st with pc := .op }, [.request])
  | .op => ({ st with pc := .exec, mem := s.smileFeeSetExecuteOp 0 st.mem }, [.clear])
  | .exec =>
    let op := { io.op with mem := st.mem }
    let (sent, statics) := feeSimExecuteOp s st.statics op
    ({ st with pc := .tx sent statics }, [.execute op])
  | .tx (pkt :: pkts) statics => ({ st with pc := .tx pkts statics }, [.send pkt])
  | .tx [] none => ({ st with pc := .ended }, [])
  | .tx [] (some statics) => ({ st with pc := .sel io.elapsed, statics := statics }, [])
  | .sel elapsed =>
    if s.smileFeeGetSyncSel st.mem = 0 then ({ st with pc := .start }, []) else ({ st with pc := .wait elapsed }, [])
  | .wait elapsed =>
    if elapsed < s.smileFeeGetIntSyncPeriod st.mem * 1000 then ({ st with pc := .imm elapsed }, [])
    else ({ st with pc := .again }, [])
  | .imm elapsed =>
    if s.smileFeeGetCcdModeConfig st.mem = FEE_CMD_ID_IMM_ON then ({ st with pc := .on }, [])
    else ({ st with pc := .slp elapsed }, [])
  | .on => ({ st with pc := .start, mem := s.smileFeeSetCcdModeConfig FEE_MODE_ID_ON st.mem }, [])
  | .slp elapsed => ({ st with pc := .wait (elapsed + s.smileFeeGetIntSyncPeriod st.mem * 10) }, [])
  | .again =>
    if s.smileFeeGetSyncSel st.mem = 0 then ({ st with pc := .start }, []) else ({ st with pc := .op }, [.again])
  | .ended => (st, [])

theorem MainState.step_exec (s : Mirror) (mem : Mem) (statics : SimStatics) (io : MainIo) :
    MainState.step s ⟨.exec, mem, statics⟩ io =
      let r := feeSimExecuteOp s statics { io.op with mem := mem }
      (⟨.tx r.1 r.2, mem, statics⟩, [.execute { io.op with mem := mem }]) := rfl

inductive MainEvent where
  | step (io : MainIo)
  /-- Another thread has written to the memory. -/
  | write (mem : Mem)

def MainEvent.isStep : MainEvent → Bool
  | .step _ => true
  | .write _ => false

/-- The main loop with its past: what was seen of it, and how often another thread has made a request where
there was none. -/
structure MainRun where
  st : MainState
  trace : List MainObs := []
  raised : Nat := 0

def MainRun.exec (s : Mirror) (r : MainRun) : MainEvent → MainRun
  | .step io =>
    let (st, obs) := r.st.step s io
    { r with st := st, trace := r.trace ++ obs }
  | .write mem =>
    { r with
      st := { r.st with mem := mem }
      raised := r.raised +
        if s.smileFeeGetExecuteOp r.st.mem = 0 ∧ s.smileFeeGetExecuteOp mem ≠ 0 then 1 else 0 }

def MainRun.run (s : Mirror) (r : MainRun) (events : List MainEvent) : MainRun := events.foldl (MainRun.exec s) r

/-! ## What it comes to -/

def MainObs.op? : MainObs → Option SimOp
  | .execute op => some op
  | _ => none

def MainObs.pkt? : MainObs → Option (List U8)
  | .send pkt => some pkt
  | _ => none

def MainObs.isRequest : MainObs → Bool
  | .request => true
  | _ => false

def MainObs.isAgain : MainObs → Bool
  | .again => true
  | _ => false

namespace MainRun

variable (r : MainRun)

def ops : List SimOp := r.trace.filterMap MainObs.op?
def sent : List (List U8) := r.trace.filterMap MainObs.pkt?
def requests : Nat := r.trace.countP MainObs.isRequest
def repeats : Nat := r.trace.countP MainObs.isAgain

end MainRun

/-- What the operation that is executed has still to send. -/
def MainPc.unsent : MainPc → List (List U8)
  | .tx pkts _ => pkts
  | _ => []

/-- The static variables after operations; `none` if the program has ended. -/
def feeSimStatics (s : Mirror) : SimStatics → List SimOp → Option SimStatics
  | st, [] => some st
  | st, op :: ops => (feeSimExecuteOp s st op).2.bind fun st => feeSimStatics s st ops

section

variable {s : Mirror} {st st' : SimStatics} {ops : List SimOp}

theorem feeSimStatics_concat (op : SimOp) (h : feeSimStatics s st ops = some st') :
    feeSimStatics s st (ops ++ [op]) = (feeSimExecuteOp s st' op).2 := by
  induction ops generalizing st with
  | nil =>
    cases h
    simp [feeSimStatics]
  | cons o ops ih =>
    obtain ⟨mid, hmid, h⟩ := Option.bind_eq_some_iff.1 h
    simp only [List.cons_append, feeSimStatics, hmid, Option.bind_some]
    exact ih h

theorem feeSimRun_concat (op : SimOp) (h : feeSimStatics s st ops = some st') :
    feeSimRun s st (ops ++ [op]) = feeSimRun s st ops ++ [(feeSimExecuteOp s st' op).1] := by
  induction ops generalizing st with
  | nil =>
    cases h
    rw [List.nil_append, feeSimRun, feeSimRun, List.nil_append]
    split <;> simp_all [feeSimRun]
  | cons o ops ih =>
    obtain ⟨mid, hmid, h⟩ := Option.bind_eq_some_iff.1 h
    rcases hx : feeSimExecuteOp s st o with ⟨sent, after⟩
    rw [hx] at hmid
    subst hmid
    simp only [List.cons_append, feeSimRun, hx, ih h]

/-- An operation leaves the mask alone. -/
theorem SimOp.transfer_wMask {op : SimOp} {buf : Node → Option Mem} {n : Nat}
    (h : (op.transfer s st buf n).2 = some st') : st'.wMask = st.wMask := by
  unfold SimOp.transfer at h
  split at h
  · cases h
  · cases h
    rfl

theorem feeSimExec_wMask {op : SimOp} (h : (feeSimExec s st op).2 = some st') : st'.wMask = st.wMask := by
  have hftp (h : (feeSimExecFtPatMode s st op).2 = some st') : st'.wMask = st.wMask := by
    unfold feeSimExecFtPatMode at h
    split at h
    · cases h
      rfl
    · dsimp only at h
      split at h
      · cases h
        rfl
      · have hmask := SimOp.transfer_wMask h
        exact hmask
  have hft (h : (feeSimExecFtMode s st op).2 = some st') : st'.wMask = st.wMask := by
    unfold feeSimExecFtMode at h
    dsimp only at h
    split at h
    · cases h
      rfl
    · split at h
      · split at h
        · cases h
          rfl
        · exact SimOp.transfer_wMask h
      · cases h
        rfl
  have hev (h : (feeSimExecEvsimMode s st op).2 = some st') : st'.wMask = st.wMask := by
    unfold feeSimExecEvsimMode at h
    split at h
    · cases h
    · cases h
      rfl
  unfold feeSimExec at h
  dsimp only at h
  split_ifs at h
  · exact hftp h
  · exact hft h
  · split at h
    · cases h
    · cases h
      rfl
  · exact hev h
  · cases h
    rfl

/-- The mask moves once with every operation. -/
theorem feeSimStatics_wMask (h : feeSimStatics s st ops = some st') :
    st'.wMask = feeSimMoveWanderingMask^[ops.length] st.wMask := by
  induction ops generalizing st with
  | nil =>
    cases h
    rfl
  | cons op ops ih =>
    obtain ⟨mid, hmid, h⟩ := Option.bind_eq_some_iff.1 h
    obtain ⟨after, hafter, rfl⟩ := Option.map_eq_some_iff.1 hmid
    rw [ih h, List.length_cons, Function.iterate_succ_apply, feeSimExec_wMask hafter]

end

/-! ### Registers that the main loop writes -/

section

variable (s : Mirror) (m : Mem)

theorem getExecuteOp_setExecuteOp : s.smileFeeGetExecuteOp (s.smileFeeSetExecuteOp 0 m) = 0 :=
  Field.get_set s .executeOp 0 m (by decide) rfl rfl

theorem getReg_setExecuteOp {n : Nat} (hn : n ≠ 25) (mode : U32) :
    s.getReg n (s.smileFeeSetExecuteOp mode m) = s.getReg n m := by
  rw [Mirror.smileFeeSetExecuteOp, s.setFlag_setField, s.getReg_updReg_of_ne m hn]

theorem getReg_setCcdModeConfig {n : Nat} (hn : n ≠ 21) (v : U8) :
    s.getReg n (s.smileFeeSetCcdModeConfig v m) = s.getReg n m := by
  rw [Mirror.smileFeeSetCcdModeConfig, Mirror.setBits, s.getReg_updReg_of_ne m hn]

theorem getExecuteOp_setCcdModeConfig (v : U8) :
    s.smileFeeGetExecuteOp (s.smileFeeSetCcdModeConfig v m) = s.smileFeeGetExecuteOp m :=
  congrArg (getField 0x1 0) (getReg_setCcdModeConfig s m (by decide) v)

theorem getSyncSel_setExecuteOp (mode : U32) :
    s.smileFeeGetSyncSel (s.smileFeeSetExecuteOp mode m) = s.smileFeeGetSyncSel m :=
  congrArg (getField 0x1 20) (getReg_setExecuteOp s m (by decide) mode)

theorem getCcdModeConfig_setExecuteOp (mode : U32) :
    s.smileFeeGetCcdModeConfig (s.smileFeeSetExecuteOp mode m) = s.smileFeeGetCcdModeConfig m :=
  congrArg (fun x => (getField 0xF 24 x).setWidth 8) (getReg_setExecuteOp s m (by decide) mode)

theorem getIntSyncPeriod_setExecuteOp (mode : U32) :
    s.smileFeeGetIntSyncPeriod (s.smileFeeSetExecuteOp mode m) = s.smileFeeGetIntSyncPeriod m :=
  congrArg (fun x => u32 ((getField 0xFFFFF 0 x).setWidth 16)) (getReg_setExecuteOp s m (by decide) mode)

theorem getIntSyncPeriod_setCcdModeConfig (v : U8) :
    s.smileFeeGetIntSyncPeriod (s.smileFeeSetCcdModeConfig v m) = s.smileFeeGetIntSyncPeriod m :=
  congrArg (fun x => u32 ((getField 0xFFFFF 0 x).setWidth 16)) (getReg_setCcdModeConfig s m (by decide) v)

end

/-! ### Safety -/

/-- The static variables, or those that the operation which is executed will leave. -/
def MainState.after (st : MainState) : Option SimStatics :=
  match st.pc with
  | .tx _ statics => statics
  | .ended => none
  | _ => some st.statics

/-- An operation that was requested and is not yet executed. -/
def MainPc.due : MainPc → Nat
  | .op | .exec => 1
  | _ => 0

/-- A request that is there. -/
def requested (s : Mirror) (mem : Mem) : Nat := if s.smileFeeGetExecuteOp mem = 0 then 0 else 1

/-- A request that nothing has been done about. -/
def MainState.open (s : Mirror) (st : MainState) : Nat :=
  match st.pc with
  | .op => 0
  | _ => requested s st.mem

theorem requested_setExecuteOp (s : Mirror) (m : Mem) : requested s (s.smileFeeSetExecuteOp 0 m) = 0 :=
  if_pos (getExecuteOp_setExecuteOp s m)

theorem requested_setCcdModeConfig (s : Mirror) (m : Mem) (v : U8) :
    requested s (s.smileFeeSetCcdModeConfig v m) = requested s m := by
  rw [requested, getExecuteOp_setCcdModeConfig, requested]

/-- `st₀` are the static variables at the start of the run, `n₀` is the request that was there. -/
structure MainRun.Inv (s : Mirror) (st₀ : SimStatics) (n₀ : Nat) (r : MainRun) : Prop where
  sent : r.sent ++ r.st.pc.unsent = (feeSimRun s st₀ r.ops).flatten
  statics : feeSimStatics s st₀ r.ops = r.st.after
  /-- The program has not ended before an operation. -/
  alive : ∀ k < r.ops.length, ∃ st, feeSimStatics s st₀ (r.ops.take k) = some st
  count : r.ops.length + r.st.pc.due = r.requests + r.repeats
  requests : r.requests + r.st.open s ≤ r.raised + n₀

section

variable {s : Mirror} {st₀ : SimStatics} {n₀ : Nat} {r : MainRun}

/-- A step that does not execute: what is sent comes from what there was to send. -/
theorem MainRun.Inv.seen (h : r.Inv s st₀ n₀) {st : MainState} {obs : List MainObs}
    (hops : obs.filterMap MainObs.op? = []) (hsent : obs.filterMap MainObs.pkt? ++ st.pc.unsent = r.st.pc.unsent)
    (hafter : st.after = r.st.after)
    (hdue : st.pc.due = r.st.pc.due + obs.countP MainObs.isRequest + obs.countP MainObs.isAgain)
    (hopen : obs.countP MainObs.isRequest + st.open s ≤ r.st.open s) :
    MainRun.Inv s st₀ n₀ { r with st := st, trace := r.trace ++ obs } := by
  have hops' : MainRun.ops { r with st := st, trace := r.trace ++ obs } = r.ops := by
    simp [MainRun.ops, hops]
  refine ⟨?_, ?_, ?_, ?_, ?_⟩
  · rw [hops', ← h.sent, ← hsent]
    simp [MainRun.sent]
  · rw [hops', h.statics, hafter]
  · rw [hops']
    exact h.alive
  · have hcount := h.count
    rw [hops']
    simp only [MainRun.requests, MainRun.repeats, List.countP_append] at hcount ⊢
    omega
  · have hreq := h.requests
    simp only [MainRun.requests, List.countP_append] at hreq ⊢
    omega

/-- A step that executes an operation. -/
theorem MainRun.Inv.executes {mem : Mem} {statics : SimStatics} {trace : List MainObs} {raised : Nat}
    (h : MainRun.Inv s st₀ n₀ ⟨⟨.exec, mem, statics⟩, trace, raised⟩) (op : SimOp) :
    MainRun.Inv s st₀ n₀ ⟨⟨.tx (feeSimExecuteOp s statics op).1 (feeSimExecuteOp s statics op).2, mem, statics⟩,
      trace ++ [.execute op], raised⟩ := by
  obtain ⟨hsent, hstat, halive, hcount, hreq⟩ := h
  simp only [MainRun.sent, MainRun.ops, MainRun.requests, MainRun.repeats, MainPc.unsent, MainPc.due,
    List.append_nil] at hsent hstat halive hcount hreq
  have hops : MainRun.ops ⟨⟨.tx (feeSimExecuteOp s statics op).1 (feeSimExecuteOp s statics op).2, mem, statics⟩,
      trace ++ [.execute op], raised⟩ = trace.filterMap MainObs.op? ++ [op] := by
    simp [MainRun.ops, MainObs.op?]
  refine ⟨?_, ?_, ?_, ?_, ?_⟩
  · rw [hops, feeSimRun_concat op hstat, List.flatten_append, ← hsent]
    simp [MainRun.sent, MainObs.pkt?, MainPc.unsent]
  · rw [hops, feeSimStatics_concat op hstat]
    rfl
  · intro k hk
    rw [hops, List.length_append, List.length_singleton] at hk
    rw [hops, List.take_append_of_le_length (by omega)]
    rcases Nat.lt_succ_iff_lt_or_eq.1 hk with hlt | rfl
    · exact halive k hlt
    · rw [List.take_length]
      exact ⟨statics, hstat⟩
  · rw [hops, List.length_append]
    simpa [MainRun.requests, MainRun.repeats, MainObs.isRequest, MainObs.isAgain, MainPc.due] using hcount
  · simpa [MainRun.requests, MainObs.isRequest, MainState.open] using hreq

theorem MainRun.Inv.step (h : r.Inv s st₀ n₀) (io : MainIo) : (r.exec s (.step io)).Inv s st₀ n₀ := by
  obtain ⟨⟨pc, mem, statics⟩, trace, raised⟩ := r
  cases pc with
  | start =>
    simp only [MainRun.exec, MainState.step]
    split
    · exact h.seen rfl rfl rfl rfl (by simp)
    · rename_i h1
      exact h.seen rfl rfl rfl rfl (le_of_eq (if_neg h1).symm)
  | op =>
    refine h.seen rfl rfl rfl rfl ?_
    show 0 + requested s (s.smileFeeSetExecuteOp 0 mem) ≤ 0
    rw [requested_setExecuteOp]
  | exec => exact h.executes _
  | tx pkts statics' =>
    rcases pkts with _ | ⟨pkt, pkts⟩
    · rcases statics' with _ | statics'
      · exact h.seen rfl rfl rfl rfl (by simp [MainState.open])
      · exact h.seen rfl rfl rfl rfl (by simp [MainState.open])
    · exact h.seen rfl rfl rfl rfl (by simp [MainState.open, MainObs.isRequest])
  | sel elapsed =>
    simp only [MainRun.exec, MainState.step]
    split <;> exact h.seen rfl rfl rfl rfl (by simp [MainState.open])
  | wait elapsed =>
    simp only [MainRun.exec, MainState.step]
    split <;> exact h.seen rfl rfl rfl rfl (by simp [MainState.open])
  | imm elapsed =>
    simp only [MainRun.exec, MainState.step]
    split <;> exact h.seen rfl rfl rfl rfl (by simp [MainState.open])
  | on =>
    refine h.seen rfl rfl rfl rfl ?_
    show 0 + requested s (s.smileFeeSetCcdModeConfig FEE_MODE_ID_ON mem) ≤ requested s mem
    rw [requested_setCcdModeConfig, Nat.zero_add]
  | slp elapsed => exact h.seen rfl rfl rfl rfl (by simp [MainState.open])
  | again =>
    simp only [MainRun.exec, MainState.step]
    split
    · exact h.seen rfl rfl rfl rfl (by simp [MainState.open])
    · exact h.seen rfl rfl rfl rfl (by simp [MainState.open, MainObs.isRequest])
  | ended => exact h.seen rfl rfl rfl rfl (by simp)

/-- A request of another thread counts where there was none. -/
theorem MainRun.Inv.write (h : r.Inv s st₀ n₀) (mem : Mem) : (r.exec s (.write mem)).Inv s st₀ n₀ := by
  obtain ⟨⟨pc, old, statics⟩, trace, raised⟩ := r
  obtain ⟨hsent, hstat, halive, hcount, hreq⟩ := h
  refine ⟨hsent, hstat, halive, hcount, ?_⟩
  simp only [MainRun.exec, MainRun.requests] at hreq ⊢
  have hnew : requested s mem ≤ requested s old +
      if s.smileFeeGetExecuteOp old = 0 ∧ s.smileFeeGetExecuteOp mem ≠ 0 then 1 else 0 := by
    unfold requested
    split_ifs <;> simp_all
  cases pc <;> simp only [MainState.open] at hreq ⊢ <;> omega

theorem MainRun.Inv.run (h : r.Inv s st₀ n₀) (events : List MainEvent) : (r.run s events).Inv s st₀ n₀ := by
  induction events generalizing r with
  | nil => exact h
  | cons e events ih =>
    cases e with
    | step io => exact ih (h.step io)
    | write mem => exact ih (h.write mem)

end

/-- The main loop at its start. -/
def MainRun.start (mem : Mem) (statics : SimStatics) : MainRun := { st := { mem, statics } }

theorem MainRun.Inv.start (s : Mirror) (mem : Mem) (statics : SimStatics) :
    (MainRun.start mem statics).Inv s statics (requested s mem) :=
  ⟨rfl, rfl, nofun, rfl, by simp [MainRun.requests, MainRun.start, MainState.open]⟩

/-! ### Operations that nobody disturbs -/

/-- A request disturbs no operation. -/
theorem SameForOp.setExecuteOp {s : Mirror} (hbelow : s.cfgReg 25 + 4 ≤ s.sram) (mode : U32) (m : Mem) :
    SameForOp s m (s.smileFeeSetExecuteOp mode m) := by
  refine .of_regs (fun n hn => ?_) fun x _ => ?_
  · refine (getReg_setExecuteOp s m ?_ mode).symm
    rintro rfl
    exact absurd hn (by decide)
  · rw [Mirror.smileFeeSetExecuteOp, Mirror.setFlag]
    exact (s.updReg_outside 25 _ m _ (Or.inr (by omega))).symm

/-- `fee_sim_exec` has not returned. -/
def MainPc.executing : MainPc → Bool
  | .tx .. => true
  | _ => false

/-- Until then the main loop does not write. -/
theorem MainState.step_mem_of_executing {s : Mirror} {st : MainState} {io : MainIo} (h : st.pc.executing) :
    (st.step s io).1.mem = st.mem := by
  obtain ⟨pc, mem, statics⟩ := st
  cases pc with
  | tx pkts after => rcases pkts with _ | ⟨pkt, pkts⟩ <;> cases after <;> rfl
  | _ => cases h

/-- Another thread writes nothing that the operation under way reads. -/
def MainEvent.Spares (s : Mirror) (r : MainRun) : MainEvent → Prop
  | .step _ => True
  | .write mem => r.st.pc.executing → SameForOp s r.st.mem mem

def MainRun.Undisturbed (s : Mirror) (r : MainRun) (events : List MainEvent) : Prop :=
  Feed.Along (fun r e => ((), MainRun.exec s r e)) (MainEvent.Spares s) r events

/-- The operation under way finds what it has found at its beginning. -/
def MainRun.Finds (s : Mirror) (r : MainRun) : Prop :=
  r.st.pc.executing → ∃ op, r.ops.getLast? = some op ∧ SameForOp s op.mem r.st.mem

section

variable {s : Mirror} {r : MainRun}

theorem MainRun.Finds.step (h : r.Finds s) (io : MainIo) : (r.exec s (.step io)).Finds s := by
  obtain ⟨⟨pc, mem, statics⟩, trace, raised⟩ := r
  cases pc with
  | exec =>
    intro _
    refine ⟨{ io.op with mem := mem }, ?_, .refl s mem⟩
    simp [MainRun.exec, MainState.step, MainRun.ops, MainObs.op?]
  | tx pkts after =>
    rcases pkts with _ | ⟨pkt, pkts⟩
    · cases after <;> exact nofun
    · intro _
      obtain ⟨op, hop, hsame⟩ := h rfl
      refine ⟨op, ?_, hsame⟩
      simpa [MainRun.exec, MainState.step, MainRun.ops, MainObs.op?] using hop
  | start | sel | wait | imm | again =>
    simp only [MainRun.exec, MainState.step]
    split <;> exact nofun
  | op | on | slp | ended => exact nofun

theorem MainRun.Finds.exec (h : r.Finds s) {e : MainEvent} (he : e.Spares s r) : (r.exec s e).Finds s := by
  cases e with
  | step io => exact h.step io
  | write mem =>
    intro hpc
    obtain ⟨op, hop, hsame⟩ := h hpc
    exact ⟨op, hop, hsame.trans (he hpc)⟩

theorem MainRun.Finds.run (h : r.Finds s) {events : List MainEvent} (hun : r.Undisturbed s events) :
    (r.run s events).Finds s := by
  induction events generalizing r with
  | nil => exact h
  | cons e events ih => exact ih (h.exec hun.1) hun.2

theorem MainRun.undisturbed_append {as bs : List MainEvent} :
    r.Undisturbed s (as ++ bs) ↔ r.Undisturbed s as ∧ (r.run s as).Undisturbed s bs := by
  induction as generalizing r with
  | nil => exact (and_iff_right trivial).symm
  | cons e as ih => exact (and_congr_right fun _ => ih).trans and_assoc.symm

theorem MainRun.undisturbed_steps {events : List MainEvent}
    (h : ∀ e ∈ events, e.isStep = true) : r.Undisturbed s events := by
  induction events generalizing r with
  | nil => trivial
  | cons e events ih =>
    have htail : ∀ e' ∈ events, e'.isStep = true := fun e' he' => h e' (List.mem_cons_of_mem e he')
    have hhead := h e List.mem_cons_self
    cases e with
    | step io => exact ⟨trivial, ih htail⟩
    | write mem => cases hhead

end

/-- **The main loop executes one operation after the other**: as long as nobody writes what the operation under way reads,
what it sends are the packets of `feeSimRun`, where an operation reads the same from its beginning to its end; and every
operation was requested by another thread, or repeats one. -/
theorem main_refines (s : Mirror) (mem : Mem) (statics : SimStatics) (events : List MainEvent)
    (hun : (MainRun.start mem statics).Undisturbed s events) :
    let r := (MainRun.start mem statics).run s events
    r.sent ++ r.st.pc.unsent = (feeSimRun s statics r.ops).flatten ∧
      (r.st.pc.executing → ∃ op, r.ops.getLast? = some op ∧
        ∀ st, feeSimExecuteOp s st { op with mem := r.st.mem } = feeSimExecuteOp s st op) ∧
      r.ops.length ≤ r.requests + r.repeats ∧ r.requests ≤ r.raised + requested s mem := by
  intro r
  have h : r.Inv s statics (requested s mem) := (MainRun.Inv.start s mem statics).run events
  have hstart : (MainRun.start mem statics).Finds s := nofun
  have hfinds : r.Finds s := hstart.run hun
  have hcount := h.count
  have hreq := h.requests
  refine ⟨h.sent, fun hpc => ?_, by omega, by omega⟩
  obtain ⟨op, hop, hsame⟩ := hfinds hpc
  exact ⟨op, hop, fun st => (feeSimExecuteOp_congr hsame st op).symm⟩

/-- The first three accesses take a request that is there. -/
theorem run_request {s : Mirror} {mem : Mem} (h : s.smileFeeGetExecuteOp mem ≠ 0) (statics : SimStatics) (io : MainIo) :
    ((MainRun.start mem statics).run s (List.replicate 3 (.step io))).st.mem = s.smileFeeSetExecuteOp 0 mem := by
  have hstart : MainState.step s ⟨.start, mem, statics⟩ io = (⟨.op, mem, statics⟩, [.request]) := if_neg h
  simp only [List.replicate, MainRun.run, List.foldl, MainRun.start, MainRun.exec, hstart]
  rfl

/-- An event simulation without nodes, and while it is executed, a request for another one. -/
theorem main_refines_requestedAgain :
    let s : Mirror := ⟨.little, 0, 0x800⟩
    let mem : Mem := fun x => if x = 0x12 then 0x3 else if x = 0x13 then 0xA else if x = 0x54 then 0xA else
      if x = 0x67 then 1 else 0
    let io : MainIo := ⟨{ mem := fun _ => 0 }, 0⟩
    let again := s.smileFeeSetExecuteOp 1 (s.smileFeeSetExecuteOp 0 mem)
    let events : List MainEvent := List.replicate 3 (.step io) ++ [.write again] ++ List.replicate 5 (.step io)
    let r := (MainRun.start mem {}).run s events
    r.sent.map List.length = [162, 64] ∧ r.sent ++ r.st.pc.unsent = (feeSimRun s {} r.ops).flatten ∧
      r.ops.length ≤ r.requests + r.repeats ∧ r.raised = 1 := by
  intro s mem io again events r
  have hsteps (r : MainRun) (n : Nat) : r.Undisturbed s (List.replicate n (.step io)) :=
    MainRun.undisturbed_steps fun e he => by rw [List.eq_of_mem_replicate he]; rfl
  have hwrite : MainEvent.Spares s ((MainRun.start mem {}).run s (List.replicate 3 (.step io))) (.write again) := by
    intro _
    rw [run_request (by decide)]
    exact .setExecuteOp (by decide) 1 _
  have hun : (MainRun.start mem {}).Undisturbed s events :=
    MainRun.undisturbed_append.2 ⟨MainRun.undisturbed_append.2 ⟨hsteps _ 3, hwrite, trivial⟩, hsteps _ 5⟩
  obtain ⟨hsent, -, hops, -⟩ := main_refines s mem {} events hun
  exact ⟨by decide +kernel, hsent, hops, by decide +kernel⟩

/-! ### Progress -/

/-- An access: a step of the main loop that does not send. -/
def MainEvent.access (st : MainState) : MainEvent → Nat
  | .step _ => match st.pc with
    | .tx (_ :: _) _ => 0
    | _ => 1
  | .write _ => 0

/-- How often the main loop sleeps before the time is up: each time for a hundredth of the period. -/
def rounds (period elapsed : U32) : Nat :=
  (period.toNat * 1000 - elapsed.toNat + (period.toNat * 10 - 1)) / (period.toNat * 10)

theorem rounds_le (period elapsed : U32) : rounds period elapsed ≤ 100 := by
  rcases Nat.eq_zero_or_pos period.toNat with h0 | hpos
  · simp [rounds, h0]
  · have hlt : rounds period elapsed < 101 := by
      rw [rounds, Nat.div_lt_iff_lt_mul (by omega)]
      omega
    omega

theorem getIntSyncPeriod_lt (s : Mirror) (m : Mem) : (s.smileFeeGetIntSyncPeriod m).toNat < 2 ^ 16 := by
  rw [Mirror.smileFeeGetIntSyncPeriod, u32, BitVec.toNat_setWidth]
  exact (Nat.mod_le _ _).trans_lt (BitVec.isLt _)

theorem rounds_sleep {period elapsed : U32} (hp : period.toNat < 2 ^ 16) (h : elapsed < period * 1000) :
    rounds period (elapsed + period * 10) + 1 ≤ rounds period elapsed := by
  have hmul (k : Nat) (hk : k ≤ 1000) : (period * BitVec.ofNat 32 k).toNat = period.toNat * k := by
    rw [BitVec.toNat_mul, BitVec.toNat_ofNat, Nat.mod_eq_of_lt (by omega : k < 2 ^ 32)]
    exact Nat.mod_eq_of_lt ((Nat.mul_le_mul (le_of_lt hp) hk).trans_lt (by norm_num))
  have h1000 : (period * 1000).toNat = period.toNat * 1000 := hmul 1000 le_rfl
  have h10 : (period * 10).toNat = period.toNat * 10 := hmul 10 (by omega)
  rw [BitVec.lt_def, h1000] at h
  have hadd : (elapsed + period * 10).toNat = elapsed.toNat + period.toNat * 10 := by
    rw [BitVec.toNat_add, h10]
    exact Nat.mod_eq_of_lt (by omega)
  have hpos : 0 < period.toNat * 10 := by omega
  rcases Nat.lt_or_ge (elapsed.toNat + period.toNat * 10) (period.toNat * 1000) with hmore | hlast
  · rw [rounds, rounds, hadd, ← Nat.add_div_right _ hpos]
    exact Nat.div_le_div_right (by omega)
  · have hzero : rounds period (elapsed + period * 10) = 0 := by
      rw [rounds, hadd, Nat.div_eq_zero_iff_lt hpos]
      omega
    rw [hzero, rounds]
    exact Nat.div_pos (by omega) hpos

/-- How many accesses it takes at most until a request is taken, while the period is `p`. -/
def MainPc.untilOp (p : U32) : MainPc → Nat
  | .op => 0
  | .start => 1
  | .on | .again => 2
  | .wait elapsed => 3 + 3 * rounds p elapsed
  | .sel elapsed => 4 + 3 * rounds p elapsed
  | .slp elapsed => 4 + 3 * rounds p (elapsed + p * 10)
  | .imm elapsed => 5 + 3 * rounds p (elapsed + p * 10)
  | .tx .. => 305
  | .exec => 306
  | .ended => 0

/-- There is a request, and the period is `p`. -/
structure Requested (s : Mirror) (p : U32) (mem : Mem) : Prop where
  request : s.smileFeeGetExecuteOp mem ≠ 0
  period : s.smileFeeGetIntSyncPeriod mem = p

section

variable {s : Mirror} {p : U32}

theorem MainPc.untilOp_le (pc : MainPc) : pc.untilOp p ≤ 306 := by
  cases pc <;> simp only [untilOp] <;> first | omega | (have hle := rounds_le p; grind)

/-- **A step towards the next operation**: it is taken, or the program ends, or it comes nearer. -/
theorem MainState.step_untilOp (hp : p.toNat < 2 ^ 16) (st : MainState) (hst : Requested s p st.mem)
    (hpc : st.pc ≠ .ended) (io : MainIo) :
    MainObs.clear ∈ (st.step s io).2 ∨ (st.step s io).1.pc = .ended ∨
      (Requested s p (st.step s io).1.mem ∧ (st.step s io).1.pc ≠ .ended) ∧
        (MainEvent.step io).access st + (st.step s io).1.pc.untilOp p ≤ st.pc.untilOp p := by
  obtain ⟨pc, mem, statics⟩ := st
  obtain ⟨hreq, hper⟩ := hst
  cases pc with
  | start =>
    rw [MainState.step, if_neg hreq]
    exact Or.inr (Or.inr ⟨⟨⟨hreq, hper⟩, nofun⟩, le_rfl⟩)
  | op => exact Or.inl (List.mem_singleton_self _)
  | exec =>
    rw [MainState.step_exec]
    exact Or.inr (Or.inr ⟨⟨⟨hreq, hper⟩, nofun⟩, le_rfl⟩)
  | tx pkts statics' =>
    rcases pkts with _ | ⟨pkt, pkts⟩
    · rcases statics' with _ | statics'
      · exact Or.inr (Or.inl rfl)
      · refine Or.inr (Or.inr ⟨⟨⟨hreq, hper⟩, nofun⟩, ?_⟩)
        show 1 + (4 + 3 * rounds p io.elapsed) ≤ 305
        have := rounds_le p io.elapsed
        omega
    · exact Or.inr (Or.inr ⟨⟨⟨hreq, hper⟩, nofun⟩, le_rfl⟩)
  | sel elapsed =>
    simp only [MainState.step]
    split
    · refine Or.inr (Or.inr ⟨⟨⟨hreq, hper⟩, nofun⟩, ?_⟩)
      show 1 + 1 ≤ 4 + 3 * rounds p elapsed
      omega
    · refine Or.inr (Or.inr ⟨⟨⟨hreq, hper⟩, nofun⟩, ?_⟩)
      show 1 + (3 + 3 * rounds p elapsed) ≤ 4 + 3 * rounds p elapsed
      omega
  | wait elapsed =>
    simp only [MainState.step]
    split
    · rename_i hlt
      rw [hper] at hlt
      refine Or.inr (Or.inr ⟨⟨⟨hreq, hper⟩, nofun⟩, ?_⟩)
      show 1 + (5 + 3 * rounds p (elapsed + p * 10)) ≤ 3 + 3 * rounds p elapsed
      have := rounds_sleep hp hlt
      omega
    · refine Or.inr (Or.inr ⟨⟨⟨hreq, hper⟩, nofun⟩, ?_⟩)
      show 1 + 2 ≤ 3 + 3 * rounds p elapsed
      omega
  | imm elapsed =>
    simp only [MainState.step]
    split
    · refine Or.inr (Or.inr ⟨⟨⟨hreq, hper⟩, nofun⟩, ?_⟩)
      show 1 + 2 ≤ 5 + 3 * rounds p (elapsed + p * 10)
      omega
    · refine Or.inr (Or.inr ⟨⟨⟨hreq, hper⟩, nofun⟩, ?_⟩)
      show 1 + (4 + 3 * rounds p (elapsed + p * 10)) ≤ 5 + 3 * rounds p (elapsed + p * 10)
      omega
  | on =>
    refine Or.inr (Or.inr ⟨⟨⟨?_, ?_⟩, nofun⟩, le_rfl⟩)
    · rwa [← getExecuteOp_setCcdModeConfig s mem FEE_MODE_ID_ON] at hreq
    · rwa [← getIntSyncPeriod_setCcdModeConfig s mem FEE_MODE_ID_ON] at hper
  | slp elapsed =>
    refine Or.inr (Or.inr ⟨⟨⟨hreq, hper⟩, nofun⟩, ?_⟩)
    show 1 + (3 + 3 * rounds p (elapsed + s.smileFeeGetIntSyncPeriod mem * 10)) ≤
      4 + 3 * rounds p (elapsed + p * 10)
    rw [show s.smileFeeGetIntSyncPeriod mem = p from hper]
    omega
  | again =>
    simp only [MainState.step]
    split
    · exact Or.inr (Or.inr ⟨⟨⟨hreq, hper⟩, nofun⟩, le_rfl⟩)
    · exact Or.inr (Or.inr ⟨⟨⟨hreq, hper⟩, nofun⟩, Nat.le_succ 1⟩)
  | ended => exact absurd rfl hpc

end

/-! ### Runs -/

namespace MainRun

variable {s : Mirror} {r : MainRun}

/-- A request has been taken, or the program has ended. -/
def Taken (r : MainRun) : Prop := MainObs.clear ∈ r.trace ∨ r.st.pc = .ended

theorem Taken.exec (h : r.Taken) (e : MainEvent) : (r.exec s e).Taken := by
  rcases h with hclear | hended
  · left
    cases e with
    | step io => exact List.mem_append_left _ hclear
    | write mem => exact hclear
  · right
    cases e with
    | step io => simp [MainRun.exec, MainState.step, hended]
    | write mem => exact hended

/-- Every step of the main loop is an access or sends a packet. -/
theorem step_access (st : MainState) (io : MainIo) :
    (MainEvent.step io).access st + ((st.step s io).2.filterMap MainObs.pkt?).length = 1 := by
  obtain ⟨pc, mem, statics⟩ := st
  cases pc with
  | tx pkts statics' => rcases pkts with _ | ⟨pkt, pkts⟩ <;> rcases statics' with _ | statics' <;> rfl
  | exec => rfl
  | start | sel | wait | imm | again =>
    simp only [MainState.step]
    split <;> rfl
  | op | on | slp | ended => rfl

theorem exec_access (e : MainEvent) :
    e.access r.st + (r.exec s e).sent.length = (if e.isStep then 1 else 0) + r.sent.length := by
  cases e with
  | step io =>
    have hstep := @step_access s r.st io
    show _ + ((r.trace ++ (r.st.step s io).2).filterMap MainObs.pkt?).length = 1 + r.sent.length
    rw [List.filterMap_append, List.length_append]
    show _ + (r.sent.length + _) = _
    omega
  | write mem => rfl

/-- The accesses of a run are its steps, but for the packets sent. -/
theorem total_access (events : List MainEvent) :
    Progress.total (MainRun.exec s) (fun r e => e.access r.st) r events + (r.run s events).sent.length =
      events.countP MainEvent.isStep + r.sent.length := by
  induction events generalizing r with
  | nil => simp [Progress.total, run]
  | cons e events ih =>
    have h1 := @exec_access s r e
    have h2 := @ih (r.exec s e)
    rw [Progress.total, List.countP_cons]
    show _ + ((r.exec s e).run s events).sent.length = _
    omega

end MainRun

/-- **A request is served**: as long as it is not withdrawn and the period stays the same, it is taken after at most
306 accesses of the main loop, wherever that is, and whatever else other threads write; or the program has ended. -/
theorem request_served (s : Mirror) (p : U32) (st : MainState) (events : List MainEvent) (hst : Requested s p st.mem)
    (hev : ∀ mem, MainEvent.write mem ∈ events → Requested s p mem)
    (hlen : 306 + (MainRun.run s { st } events).sent.length < events.countP MainEvent.isStep) :
    MainObs.clear ∈ (MainRun.run s { st } events).trace ∨ (MainRun.run s { st } events).st.pc = .ended := by
  have hp : p.toNat < 2 ^ 16 := hst.period ▸ getIntSyncPeriod_lt s st.mem
  have hall : ∀ e ∈ events, ∀ mem, e = MainEvent.write mem → Requested s p mem := fun e he mem hmem =>
    hev mem (hmem ▸ he)
  have hmeets : Progress.Meets (MainRun.exec s) (fun r e => (r.exec s e).Taken) { st } events := by
    refine @Progress.meets_of_rank _ _ _ (fun r e => e.access r.st) _ _ (fun r => Requested s p r.st.mem)
      (fun r => r.st.pc.untilOp p) ?_ _ hst events hall ?_
    · rintro r (io | mem) hreq hallowed
      · by_cases hended : r.st.pc = .ended
        · exact Or.inl (MainRun.Taken.exec (Or.inr hended) _)
        rcases r.st.step_untilOp hp hreq hended io with hclear | hend | ⟨hready, hnear⟩
        · exact Or.inl (Or.inl (List.mem_append_right _ hclear))
        · exact Or.inl (Or.inr hend)
        · exact Or.inr ⟨hready.1, hnear⟩
      · exact Or.inr ⟨hallowed mem rfl, by simp [MainEvent.access, MainRun.exec]⟩
    · have htotal := @MainRun.total_access s { st } events
      have hrank := st.pc.untilOp_le (p := p)
      have hnone : (MainRun.sent { st }).length = 0 := rfl
      show st.pc.untilOp p < _
      omega
  exact hmeets.holds hall (fun _ _ h => h) fun _ e _ h => h.exec e

/-- A request that is made while the main loop polls. -/
theorem request_served_polling :
    let events := List.replicate 400 (MainEvent.step ⟨{ mem := fun _ => 0 }, 0⟩)
    let r := MainRun.run ⟨.little, 0, 0x1000⟩ { st := { mem := fun x => if x = 103 then 1 else 0 } } events
    MainObs.clear ∈ r.trace ∨ r.st.pc = .ended :=
  request_served ⟨.little, 0, 0x1000⟩ 0 _ (List.replicate 400 (.step ⟨{ mem := fun _ => 0 }, 0⟩))
    ⟨by decide, by decide⟩ (fun _ hmem => nomatch List.eq_of_mem_replicate hmem) (by decide +kernel)

/-! ### Coming to rest -/

/-- The main loop polls, and there is no request; or it has ended. -/
def MainState.AtRest (s : Mirror) (st : MainState) : Prop :=
  st.pc = .start ∧ s.smileFeeGetExecuteOp st.mem = 0 ∨ st.pc = .ended

/-- No request, and the operations are not repeated. -/
structure SyncOff (s : Mirror) (p : U32) (mem : Mem) : Prop where
  request : s.smileFeeGetExecuteOp mem = 0
  sync : s.smileFeeGetSyncSel mem = 0
  period : s.smileFeeGetIntSyncPeriod mem = p

/-- No request, and the immediate on-mode is commanded. -/
structure ImmOn (s : Mirror) (p : U32) (mem : Mem) : Prop where
  request : s.smileFeeGetExecuteOp mem = 0
  mode : s.smileFeeGetCcdModeConfig mem = FEE_CMD_ID_IMM_ON
  period : s.smileFeeGetIntSyncPeriod mem = p

/-- How many accesses it takes at most to come to rest without repetition, and with how many operations. -/
def MainPc.untilOff (p : U32) : MainPc → Nat
  | .start | .ended => 0
  | .on | .again | .sel _ => 1
  | .tx .. => 2
  | .exec => 3
  | .op => 4
  | .wait elapsed => 2 + 3 * rounds p elapsed
  | .slp elapsed => 3 + 3 * rounds p (elapsed + p * 10)
  | .imm elapsed => 4 + 3 * rounds p (elapsed + p * 10)

/-- The same for the immediate on-mode, which is looked for before the period is over. -/
def MainPc.untilImm (p : U32) : MainPc → Nat
  | .start | .ended => 0
  | .on => 1
  | .imm _ => 2
  | .wait elapsed => if elapsed < p * 1000 then 3 else 9
  | .sel elapsed => if elapsed < p * 1000 then 4 else 10
  | .slp elapsed => if elapsed + p * 10 < p * 1000 then 4 else 10
  | .tx .. => 5
  | .exec => 6
  | .op => 7
  | .again => 8

/-- How many operations come first. -/
def MainPc.opsOff : MainPc → Nat
  | .op | .exec => 1
  | _ => 0

def MainPc.opsImm (p : U32) : MainPc → Nat
  | .op | .exec | .again => 1
  | .wait elapsed | .sel elapsed => if elapsed < p * 1000 then 0 else 1
  | .slp elapsed => if elapsed + p * 10 < p * 1000 then 0 else 1
  | _ => 0

section

variable {s : Mirror} {p : U32}

theorem MainState.step_untilOff (hp : p.toNat < 2 ^ 16) (st : MainState) (hst : SyncOff s p st.mem) (io : MainIo) :
    ((st.step s io).2.filterMap MainObs.op?).length + (st.step s io).1.pc.opsOff ≤ st.pc.opsOff ∧
      ((st.step s io).1.AtRest s ∨ SyncOff s p (st.step s io).1.mem ∧
        (MainEvent.step io).access st + (st.step s io).1.pc.untilOff p ≤ st.pc.untilOff p) := by
  obtain ⟨pc, mem, statics⟩ := st
  obtain ⟨hreq, hsync, hper⟩ := hst
  have hstart : MainState.AtRest s ⟨.start, mem, statics⟩ := Or.inl ⟨rfl, hreq⟩
  cases pc with
  | start =>
    rw [MainState.step, if_pos hreq]
    exact ⟨le_rfl, Or.inl hstart⟩
  | op =>
    refine ⟨le_rfl, Or.inr ⟨⟨getExecuteOp_setExecuteOp s mem, ?_, ?_⟩, le_rfl⟩⟩
    · exact (getSyncSel_setExecuteOp s mem 0).trans hsync
    · exact (getIntSyncPeriod_setExecuteOp s mem 0).trans hper
  | exec =>
    rw [MainState.step_exec]
    exact ⟨le_rfl, Or.inr ⟨⟨hreq, hsync, hper⟩, le_rfl⟩⟩
  | tx pkts statics' =>
    rcases pkts with _ | ⟨pkt, pkts⟩
    · rcases statics' with _ | statics'
      · exact ⟨le_rfl, Or.inl (Or.inr rfl)⟩
      · exact ⟨le_rfl, Or.inr ⟨⟨hreq, hsync, hper⟩, le_rfl⟩⟩
    · exact ⟨le_rfl, Or.inr ⟨⟨hreq, hsync, hper⟩, le_rfl⟩⟩
  | sel elapsed | again =>
    simp only [MainState.step]
    rw [if_pos hsync]
    exact ⟨le_rfl, Or.inl hstart⟩
  | wait elapsed =>
    simp only [MainState.step]
    split
    · rename_i hlt
      rw [hper] at hlt
      refine ⟨le_rfl, Or.inr ⟨⟨hreq, hsync, hper⟩, ?_⟩⟩
      show 1 + (4 + 3 * rounds p (elapsed + p * 10)) ≤ 2 + 3 * rounds p elapsed
      have := rounds_sleep hp hlt
      omega
    · refine ⟨le_rfl, Or.inr ⟨⟨hreq, hsync, hper⟩, ?_⟩⟩
      show 1 + 1 ≤ 2 + 3 * rounds p elapsed
      omega
  | imm elapsed =>
    simp only [MainState.step]
    split
    · refine ⟨le_rfl, Or.inr ⟨⟨hreq, hsync, hper⟩, ?_⟩⟩
      show 1 + 1 ≤ 4 + 3 * rounds p (elapsed + p * 10)
      omega
    · refine ⟨le_rfl, Or.inr ⟨⟨hreq, hsync, hper⟩, ?_⟩⟩
      show 1 + (3 + 3 * rounds p (elapsed + p * 10)) ≤ 4 + 3 * rounds p (elapsed + p * 10)
      omega
  | on => exact ⟨le_rfl, Or.inl (Or.inl ⟨rfl, (getExecuteOp_setCcdModeConfig s mem _).trans hreq⟩)⟩
  | slp elapsed =>
    refine ⟨le_rfl, Or.inr ⟨⟨hreq, hsync, hper⟩, ?_⟩⟩
    show 1 + (2 + 3 * rounds p (elapsed + s.smileFeeGetIntSyncPeriod mem * 10)) ≤
      3 + 3 * rounds p (elapsed + p * 10)
    rw [show s.smileFeeGetIntSyncPeriod mem = p from hper]
    omega
  | ended => exact ⟨le_rfl, Or.inl (Or.inr rfl)⟩

theorem MainState.step_untilImm (st : MainState) (hst : ImmOn s p st.mem) (io : MainIo)
    (hio : io.elapsed < p * 1000) :
    ((st.step s io).2.filterMap MainObs.op?).length + (st.step s io).1.pc.opsImm p ≤ st.pc.opsImm p ∧
      ((st.step s io).1.AtRest s ∨ ImmOn s p (st.step s io).1.mem ∧
        (MainEvent.step io).access st + (st.step s io).1.pc.untilImm p ≤ st.pc.untilImm p) := by
  obtain ⟨pc, mem, statics⟩ := st
  obtain ⟨hreq, hmode, hper⟩ := hst
  have hstart : MainState.AtRest s ⟨.start, mem, statics⟩ := Or.inl ⟨rfl, hreq⟩
  cases pc with
  | start =>
    rw [MainState.step, if_pos hreq]
    exact ⟨le_rfl, Or.inl hstart⟩
  | op =>
    refine ⟨le_rfl, Or.inr ⟨⟨getExecuteOp_setExecuteOp s mem, ?_, ?_⟩, le_rfl⟩⟩
    · exact (getCcdModeConfig_setExecuteOp s mem 0).trans hmode
    · exact (getIntSyncPeriod_setExecuteOp s mem 0).trans hper
  | exec =>
    rw [MainState.step_exec]
    exact ⟨le_rfl, Or.inr ⟨⟨hreq, hmode, hper⟩, le_rfl⟩⟩
  | tx pkts statics' =>
    rcases pkts with _ | ⟨pkt, pkts⟩
    · rcases statics' with _ | statics'
      · exact ⟨le_rfl, Or.inl (Or.inr rfl)⟩
      · refine ⟨?_, Or.inr ⟨⟨hreq, hmode, hper⟩, ?_⟩⟩
        · show 0 + (if io.elapsed < p * 1000 then 0 else 1) ≤ 0
          rw [if_pos hio]
        · show 1 + (if io.elapsed < p * 1000 then 4 else 10) ≤ 5
          rw [if_pos hio]
    · exact ⟨le_rfl, Or.inr ⟨⟨hreq, hmode, hper⟩, le_rfl⟩⟩
  | sel elapsed =>
    simp only [MainState.step]
    split
    · exact ⟨Nat.zero_le _, Or.inl hstart⟩
    · refine ⟨le_of_eq (Nat.zero_add _), Or.inr ⟨⟨hreq, hmode, hper⟩, ?_⟩⟩
      show 1 + (if elapsed < p * 1000 then 3 else 9) ≤ if elapsed < p * 1000 then 4 else 10
      split <;> omega
  | wait elapsed =>
    simp only [MainState.step, show s.smileFeeGetIntSyncPeriod mem = p from hper]
    by_cases hlt : elapsed < p * 1000
    · rw [if_pos hlt]
      refine ⟨Nat.zero_le _, Or.inr ⟨⟨hreq, hmode, hper⟩, ?_⟩⟩
      show 1 + 2 ≤ if elapsed < p * 1000 then 3 else 9
      rw [if_pos hlt]
    · rw [if_neg hlt]
      refine ⟨?_, Or.inr ⟨⟨hreq, hmode, hper⟩, ?_⟩⟩
      · show 0 + 1 ≤ if elapsed < p * 1000 then 0 else 1
        rw [if_neg hlt]
      · show 1 + 8 ≤ if elapsed < p * 1000 then 3 else 9
        rw [if_neg hlt]
  | imm elapsed =>
    simp only [MainState.step]
    rw [if_pos hmode]
    exact ⟨le_rfl, Or.inr ⟨⟨hreq, hmode, hper⟩, le_rfl⟩⟩
  | on => exact ⟨le_rfl, Or.inl (Or.inl ⟨rfl, (getExecuteOp_setCcdModeConfig s mem _).trans hreq⟩)⟩
  | slp elapsed =>
    simp only [MainState.step, show s.smileFeeGetIntSyncPeriod mem = p from hper]
    refine ⟨le_of_eq (Nat.zero_add _), Or.inr ⟨⟨hreq, hmode, hper⟩, ?_⟩⟩
    show 1 + (if elapsed + p * 10 < p * 1000 then 3 else 9) ≤ if elapsed + p * 10 < p * 1000 then 4 else 10
    split <;> omega
  | again =>
    simp only [MainState.step]
    split
    · exact ⟨Nat.zero_le _, Or.inl hstart⟩
    · exact ⟨le_rfl, Or.inr ⟨⟨hreq, hmode, hper⟩, le_rfl⟩⟩
  | ended => exact ⟨le_rfl, Or.inl (Or.inr rfl)⟩

theorem MainPc.untilOff_le (pc : MainPc) : pc.untilOff p ≤ 304 := by
  cases pc <;> simp only [untilOff] <;> first | omega | (have hle := rounds_le p; grind)

theorem MainPc.untilImm_le (pc : MainPc) : pc.untilImm p ≤ 10 := by
  cases pc <;> simp only [untilImm] <;> first | omega | (split <;> omega)

theorem MainPc.opsOff_le (pc : MainPc) : pc.opsOff ≤ 1 := by
  cases pc <;> simp [opsOff]

theorem MainPc.opsImm_le (pc : MainPc) : pc.opsImm p ≤ 1 := by
  cases pc <;> simp only [opsImm] <;> first | omega | (split <;> omega)

end

/-- What is written and what comes from outside is as described. -/
def MainEvent.Sat (P : MainIo → Prop) (Q : Mem → Prop) : MainEvent → Prop
  | .step io => P io
  | .write mem => Q mem

theorem MainState.AtRest.step {s : Mirror} {st : MainState} (h : st.AtRest s) (io : MainIo) :
    st.step s io = (st, []) := by
  rcases h with ⟨hpc, hreq⟩ | hpc
  · simp only [MainState.step, hpc, hreq, if_true]
  · simp only [MainState.step, hpc]

/-- The common part of both ways to come to rest. -/
theorem MainRun.rests {s : Mirror} {P : MainIo → Prop} {Q : Mem → Prop} {rank more : MainPc → Nat}
    (hreq : ∀ mem, Q mem → s.smileFeeGetExecuteOp mem = 0) (hmore : ∀ pc, more pc ≤ 1)
    (hstep : ∀ st io, Q st.mem → P io →
      ((st.step s io).2.filterMap MainObs.op?).length + more (st.step s io).1.pc ≤ more st.pc ∧
        ((st.step s io).1.AtRest s ∨ Q (st.step s io).1.mem ∧
          (MainEvent.step io).access st + rank (st.step s io).1.pc ≤ rank st.pc))
    {st : MainState} (hst : Q st.mem) {events : List MainEvent} (hall : ∀ e ∈ events, e.Sat P Q)
    (hlen : rank st.pc + (MainRun.run s { st } events).sent.length < events.countP MainEvent.isStep) :
    (MainRun.run s { st } events).st.AtRest s ∧ (MainRun.run s { st } events).ops.length ≤ 1 := by
  have hmeets : Progress.Meets (MainRun.exec s) (fun r e => (r.exec s e).st.AtRest s ∧ (r.exec s e).ops.length ≤ 1)
      { st } events := by
    refine @Progress.meets_of_rank _ _ _ (fun r e => e.access r.st) _ _
      (fun r => Q r.st.mem ∧ r.ops.length + more r.st.pc ≤ 1) (fun r => rank r.st.pc) ?_ _ ⟨hst, ?_⟩ events hall ?_
    · rintro r (io | mem) ⟨hq, hops⟩ hallowed
      · obtain ⟨hcount, hnear⟩ := hstep r.st io hq hallowed
        have hlen' : (r.exec s (.step io)).ops.length =
            r.ops.length + ((r.st.step s io).2.filterMap MainObs.op?).length := by
          show ((r.trace ++ (r.st.step s io).2).filterMap MainObs.op?).length = _
          rw [List.filterMap_append, List.length_append]
          rfl
        rcases hnear with hrest | ⟨hq', hrank⟩
        · exact Or.inl ⟨hrest, by omega⟩
        · refine Or.inr ⟨⟨hq', ?_⟩, hrank⟩
          show _ + more (r.st.step s io).1.pc ≤ 1
          omega
      · exact Or.inr ⟨⟨hallowed, hops⟩, by simp [MainEvent.access, MainRun.exec]⟩
    · simpa [MainRun.ops] using hmore st.pc
    · have htotal := @MainRun.total_access s { st } events
      have hnone : (MainRun.sent { st }).length = 0 := rfl
      show rank st.pc < _
      omega
  refine @Progress.Meets.holds _ _ _ _ _ (fun r => r.st.AtRest s ∧ r.ops.length ≤ 1) _ _ hmeets hall
    (fun _ _ h => h) ?_
  rintro r (io | mem) hallowed ⟨hrest, hops⟩
  · rw [MainRun.exec, hrest.step]
    exact ⟨hrest, by simpa [MainRun.ops] using hops⟩
  · refine ⟨?_, hops⟩
    rcases hrest with ⟨hpc, -⟩ | hpc
    · exact Or.inl ⟨hpc, hreq mem hallowed⟩
    · exact Or.inr hpc

/-- **The main loop comes to rest** when nothing is requested any more, and either the synchronous mode is off, or the
immediate on-mode is commanded and operations take less than a period: after at most 304 accesses, wherever it is, and
after at most one more operation. -/
theorem main_rests (s : Mirror) (p : U32) (st : MainState) (events : List MainEvent)
    (hquiet : (SyncOff s p st.mem ∧ ∀ e ∈ events, e.Sat (fun _ => True) (SyncOff s p)) ∨
      ImmOn s p st.mem ∧ ∀ e ∈ events, e.Sat (fun io => io.elapsed < p * 1000) (ImmOn s p))
    (hlen : 304 + (MainRun.run s { st } events).sent.length < events.countP MainEvent.isStep) :
    (MainRun.run s { st } events).st.AtRest s ∧ (MainRun.run s { st } events).ops.length ≤ 1 := by
  rcases hquiet with ⟨hst, hall⟩ | ⟨hst, hall⟩
  · have hp : p.toNat < 2 ^ 16 := hst.period ▸ getIntSyncPeriod_lt s st.mem
    have hrank := st.pc.untilOff_le (p := p)
    exact MainRun.rests (fun _ h => h.request) MainPc.opsOff_le (fun st io hq _ => st.step_untilOff hp hq io) hst hall
      (by omega)
  · have hrank := st.pc.untilImm_le (p := p)
    exact MainRun.rests (fun _ h => h.request) MainPc.opsImm_le (fun st io hq hio => st.step_untilImm hq io hio) hst
      hall (by omega)

/-- A synchronous mode with a period of 100, from which the immediate on-mode is commanded. -/
theorem main_rests_immOn :
    let events := List.replicate 400 (MainEvent.step ⟨{ mem := fun _ => 0 }, 0⟩)
    let st : MainState := { pc := .wait 0, mem := fun x => if x = 84 then 8 else if x = 35 then 100 else 0 }
    (MainRun.run ⟨.little, 0, 0x1000⟩ { st } events).st.AtRest ⟨.little, 0, 0x1000⟩ ∧
      (MainRun.run ⟨.little, 0, 0x1000⟩ { st } events).ops.length ≤ 1 :=
  main_rests ⟨.little, 0, 0x1000⟩ 100 { pc := .wait 0, mem := fun x => if x = 84 then 8 else if x = 35 then 100 else 0 }
    (List.replicate 400 (.step ⟨{ mem := fun _ => 0 }, 0⟩))
    (Or.inr ⟨⟨by decide, by decide, by decide⟩, fun _ he =>
      List.eq_of_mem_replicate he ▸ (show (0 : U32) < 100 * 1000 by decide)⟩) (by decide +kernel)

/-! ### The way of the mask -/

namespace WMask

/-- Number `k` of the positions, line by line. -/
def nth (k : Nat) : WMask := ⟨BitVec.ofNat 16 (2 + 5 * (k % 77)), BitVec.ofNat 16 (2 + 5 * (k / 77 % 128))⟩

theorem toNat_ofNat_pos {i : Nat} (hi : i ≤ 128) : (BitVec.ofNat 16 (2 + 5 * i)).toNat = 2 + 5 * i := by
  rw [BitVec.toNat_ofNat, Nat.mod_eq_of_lt (by omega)]

theorem nth_position (k : Nat) : (nth k).position = (2 + 5 * (k / 77 % 128), 2 + 5 * (k % 77)) := by
  rw [nth, position, toNat_ofNat_pos (by omega), toNat_ofNat_pos (by omega)]

theorem move_nth (k : Nat) : feeSimMoveWanderingMask (nth k) = nth (k + 1) := by
  have hcol : (BitVec.ofNat 16 (2 + 5 * (k % 77)) : U16) + 5 = BitVec.ofNat 16 (2 + 5 * (k % 77 + 1)) :=
    (BitVec.ofNat_add ..).symm
  have hrow : (BitVec.ofNat 16 (2 + 5 * (k / 77 % 128)) : U16) + 5 = BitVec.ofNat 16 (2 + 5 * (k / 77 % 128 + 1)) :=
    (BitVec.ofNat_add ..).symm
  have hc : (BitVec.ofNat 16 (2 + 5 * (k % 77 + 1)) : U16) > SIM_WANDERING_MASK_COL_END ↔ k % 77 = 76 := by
    rw [gt_iff_lt, BitVec.lt_def, toNat_COL_END, toNat_ofNat_pos (by omega)]
    simp only [FEE_EDU_FRAME_6x6_COLS]
    omega
  have hr : (BitVec.ofNat 16 (2 + 5 * (k / 77 % 128 + 1)) : U16) > SIM_WANDERING_MASK_ROW_END ↔ k / 77 % 128 = 127 := by
    rw [gt_iff_lt, BitVec.lt_def, toNat_ROW_END, toNat_ofNat_pos (by omega)]
    simp only [FEE_EDU_FRAME_6x6_ROWS]
    omega
  rw [feeSimMoveWanderingMask, nth, nth]
  simp only [hcol, hrow, hc, hr]
  by_cases hlast : k % 77 = 76
  · rw [if_pos hlast, show (k + 1) % 77 = 0 by omega]
    by_cases hbottom : k / 77 % 128 = 127
    · rw [if_pos hbottom, show (k + 1) / 77 % 128 = 0 by omega]
      rfl
    · rw [if_neg hbottom, show (k + 1) / 77 % 128 = k / 77 % 128 + 1 by omega]
      rfl
  · rw [if_neg hlast, show (k + 1) % 77 = k % 77 + 1 by omega, show (k + 1) / 77 = k / 77 by omega]

theorem iterate_move (k : Nat) : feeSimMoveWanderingMask^[k] {} = nth k := by
  induction k with
  | zero => rfl
  | succ k ih => rw [Function.iterate_succ_apply', ih, move_nth]

/-- **One round of the grid**, wherever it begins: every position is passed once. -/
theorem OnGrid.existsUnique_nth {w : WMask} (h : w.OnGrid) (n : Nat) :
    ∃! k, (n ≤ k ∧ k < n + 77 * 128) ∧ nth k = w := by
  obtain ⟨hcol, hcol_le, hrow, hrow_le⟩ := h
  simp only [FEE_EDU_FRAME_6x6_COLS, FEE_EDU_FRAME_6x6_ROWS] at hcol_le hrow_le
  have hiff (k : Nat) : nth k = w ↔ 2 + 5 * (k / 77 % 128) = w.row.toNat ∧ 2 + 5 * (k % 77) = w.col.toNat := by
    rw [← Prod.mk_inj, ← nth_position]
    constructor
    · rintro rfl
      rfl
    · intro heq
      obtain ⟨hr, hc⟩ := Prod.mk.inj heq
      cases w
      cases hk : nth k
      simp_all [BitVec.toNat_inj]
  -- the place of the position in a round
  obtain ⟨i, hi⟩ : ∃ i, i = (w.row.toNat - 2) / 5 * 77 + (w.col.toNat - 2) / 5 := ⟨_, rfl⟩
  have hmod (k : Nat) : nth k = w ↔ k % (77 * 128) = i := by
    rw [hiff]
    omega
  have hlt : i < 77 * 128 := by omega
  refine ⟨n + (i + 77 * 128 - n % (77 * 128)) % (77 * 128), ⟨by omega, (hmod _).2 (by omega)⟩, ?_⟩
  rintro k ⟨hk, hw⟩
  rw [hmod] at hw
  omega

end WMask

/-- **The mask scans its grid**: operation `k` finds it at position `k`, and of as many operations in a row as there are
positions, whichever these are, one finds it at a given place. -/
theorem wanderingMask_scans (s : Mirror) (mem : Mem) (events : List MainEvent) :
    let r := (MainRun.start mem {}).run s events
    (∀ k < r.ops.length, ∃ st, feeSimStatics s {} (r.ops.take k) = some st ∧
      st.wMask.position = (2 + 5 * (k / 77 % 128), 2 + 5 * (k % 77))) ∧
    ∀ (w : WMask) (n : Nat), w.OnGrid → n + 77 * 128 ≤ r.ops.length →
      ∃! k, (n ≤ k ∧ k < n + 77 * 128) ∧ ∃ st, feeSimStatics s {} (r.ops.take k) = some st ∧ st.wMask = w := by
  intro r
  have h : r.Inv s {} (requested s mem) := (MainRun.Inv.start s mem {}).run events
  have hnth (k : Nat) (hk : k < r.ops.length) :
      ∃ st, feeSimStatics s {} (r.ops.take k) = some st ∧ st.wMask = WMask.nth k := by
    obtain ⟨st, hst⟩ := h.alive k hk
    have hmask := feeSimStatics_wMask hst
    rw [List.length_take_of_le (le_of_lt hk)] at hmask
    exact ⟨st, hst, hmask.trans (WMask.iterate_move k)⟩
  refine ⟨fun k hk => ?_, fun w n hw hn => ?_⟩
  · obtain ⟨st, hst, hmask⟩ := hnth k hk
    exact ⟨st, hst, hmask ▸ WMask.nth_position k⟩
  · obtain ⟨k, ⟨hk, hkw⟩, huniq⟩ := hw.existsUnique_nth n
    obtain ⟨st, hst, hmask⟩ := hnth k (by omega)
    refine ⟨k, ⟨hk, st, hst, hmask.trans hkw⟩, ?_⟩
    rintro k' ⟨hk', st', hst', hmask'⟩
    obtain ⟨st'', hst'', hnth'⟩ := hnth k' (by omega)
    obtain rfl := Option.some.inj (hst'.symm.trans hst'')
    exact huniq k' ⟨hk', hnth'.symm.trans hmask'⟩

end SmileFee
