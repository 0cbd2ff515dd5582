import Mathlib.Data.Finset.Card
import SmileFee.FeeRmap

/-!
# Transactions (`FEE/smile_fee_rmap.c:83-314, 376-497, 695-722`)

| here | there |
| --- | --- |
| `TransLog`            | the static `trans_log`; only slots below `TRANS_LOG_SIZE` exist |
| `Callbacks`           | what the library is given or links against: `malloc`, `rmap_tx`, `rmap_rx` |
| `Sys`                 | the statics of the library, the memory its pointers point to, and the state of the callbacks |
| `smileFeeProcessRx`   | `smile_fee_process_rx` (`:211`) |
| `smileFeeSubmitTx`    | `smile_fee_submit_tx` (`:296`) |
| `smileFeeSync`, `smileFeeSyncData` | `smile_fee_sync` (`:391`), `smile_fee_sync_data` (`:451`) |

Pointers are addresses of a flat memory, `NULL` is 0. A log entry that is not in use may hold any
address. `rxLog` is not part of the program: it records what became of each packet that was read.

The receive loop runs as long as `rmap_rx` announces packets; `Callbacks.left` bounds their number,
and `rxLoop_while` is the `while` loop of the source.
-/

namespace SmileFee

/-! ## The transaction log -/

def TRANS_LOG_SIZE : Nat := 64

structure TransLog where
  inUse : Nat → Bool := fun _ => false
  localAddr : Nat → Nat := fun _ => 0
  pending : Int := 0

namespace TransLog

variable (l : TransLog)

/-- `trans_log_grab_slot` (`:137`): the first free slot, −1 if there is none. -/
def grabSlot (addr : Nat) : Int × TransLog :=
  match (List.range TRANS_LOG_SIZE).find? fun i => !l.inUse i with
  | some i => (i, {
      inUse := Function.update l.inUse i true
      localAddr := Function.update l.localAddr i addr
      pending := l.pending + 1 })
  | none => (-1, l)

/-- `trans_log_release_slot` (`:165`). -/
def releaseSlot (slot : Nat) : TransLog :=
  if slot ≥ TRANS_LOG_SIZE then l
  else if !l.inUse slot then l
  else { l with inUse := Function.update l.inUse slot false, pending := l.pending - 1 }

/-- `trans_log_get_addr` (`:190`). -/
def getAddr (slot : Nat) : Nat :=
  if slot ≥ TRANS_LOG_SIZE then 0
  else if !l.inUse slot then 0
  else l.localAddr slot

/-- `smile_fee_rmap_reset_log` (`:718`): only the slots in the log are cleared. -/
def reset : TransLog :=
  { l with inUse := fun i => if i < TRANS_LOG_SIZE then false else l.inUse i, pending := 0 }

/-- What a slot registers, `none` for a slot that is free. -/
def holds (k : Nat) : Option Nat := if k < TRANS_LOG_SIZE ∧ l.inUse k then some (l.localAddr k) else none

/-- The slots in use. -/
def slots : Finset Nat := (Finset.range TRANS_LOG_SIZE).filter fun k => l.inUse k

/-- The counter counts the slots in use. -/
def WF : Prop := l.pending = l.slots.card

theorem mem_slots {k : Nat} : k ∈ l.slots ↔ k < TRANS_LOG_SIZE ∧ l.inUse k = true := by
  simp [slots]

theorem holds_eq_none {k : Nat} : l.holds k = none ↔ k ∉ l.slots := by
  simp only [holds, mem_slots]
  split <;> simp_all

/-- What grabbing a slot can do. -/
theorem grabSlot_cases (addr : Nat) :
    (∃ i : Nat, i < TRANS_LOG_SIZE ∧ l.holds i = none ∧ (∀ j < i, j ∈ l.slots) ∧ l.grabSlot addr = (↑i, {
      inUse := Function.update l.inUse i true
      localAddr := Function.update l.localAddr i addr
      pending := l.pending + 1 })) ∨
    ((∀ i < TRANS_LOG_SIZE, i ∈ l.slots) ∧ l.grabSlot addr = (-1, l)) := by
  unfold grabSlot
  cases h : (List.range TRANS_LOG_SIZE).find? fun i => !l.inUse i with
  | none =>
    refine Or.inr ⟨fun i hi => ?_, rfl⟩
    have := List.find?_eq_none.1 h i (List.mem_range.2 hi)
    exact l.mem_slots.2 ⟨hi, by simpa using this⟩
  | some i =>
    obtain ⟨hp, hmem, hall⟩ := List.find?_range_eq_some.1 h
    have hi : i < TRANS_LOG_SIZE := List.mem_range.1 hmem
    refine Or.inl ⟨i, hi, l.holds_eq_none.2 fun hs => ?_, fun j hj => ?_, rfl⟩
    · have := (l.mem_slots.1 hs).2
      simp [this] at hp
    · exact l.mem_slots.2 ⟨by omega, by simpa using hall j hj⟩

/-- The log after slot `i` has been taken. -/
theorem holds_take {i : Nat} (hi : i < TRANS_LOG_SIZE) (addr : Nat) :
    holds { inUse := Function.update l.inUse i true, localAddr := Function.update l.localAddr i addr
            pending := l.pending + 1 } = Function.update l.holds i (some addr) := by
  funext k
  by_cases hk : k = i
  · subst hk; simp [holds, hi]
  · simp [holds, hk]

theorem slots_take {i : Nat} (hi : i < TRANS_LOG_SIZE) (addr : Nat) :
    slots { inUse := Function.update l.inUse i true, localAddr := Function.update l.localAddr i addr
            pending := l.pending + 1 } = insert i l.slots := by
  ext k
  by_cases hk : k = i
  · subst hk; simp [mem_slots, hi]
  · simp [mem_slots, hk]

theorem WF.take {l : TransLog} (h : l.WF) {i : Nat} (hi : i < TRANS_LOG_SIZE) (hfree : l.holds i = none)
    (addr : Nat) :
    WF { inUse := Function.update l.inUse i true, localAddr := Function.update l.localAddr i addr
         pending := l.pending + 1 } := by
  rw [WF, l.slots_take hi, Finset.card_insert_of_notMem (l.holds_eq_none.1 hfree)]
  rw [WF] at h
  simp only [h, Nat.cast_add, Nat.cast_one]

theorem releaseSlot_of_free {k : Nat} (h : l.holds k = none) : l.releaseSlot k = l := by
  have := l.holds_eq_none.1 h
  rw [mem_slots] at this
  unfold releaseSlot
  split
  · rfl
  · split
    · rfl
    · simp_all

theorem releaseSlot_of_used {k : Nat} (h : k ∈ l.slots) :
    l.releaseSlot k = { l with inUse := Function.update l.inUse k false, pending := l.pending - 1 } := by
  obtain ⟨h1, h2⟩ := l.mem_slots.1 h
  rw [releaseSlot, if_neg (by omega), if_neg (by simp [h2])]

@[simp] theorem holds_releaseSlot (k : Nat) : (l.releaseSlot k).holds = Function.update l.holds k none := by
  by_cases h : k ∈ l.slots
  · rw [l.releaseSlot_of_used h]
    funext j
    by_cases hj : j = k
    · subst hj; simp [holds]
    · simp [holds, hj]
  · have hn := l.holds_eq_none.2 h
    rw [l.releaseSlot_of_free hn, ← hn, Function.update_eq_self]

theorem WF.releaseSlot {l : TransLog} (h : l.WF) (k : Nat) : (l.releaseSlot k).WF := by
  by_cases hk : k ∈ l.slots
  · rw [l.releaseSlot_of_used hk]
    have hs : slots { l with inUse := Function.update l.inUse k false, pending := l.pending - 1 } =
        l.slots.erase k := by
      ext j
      by_cases hj : j = k
      · subst hj; simp [mem_slots]
      · simp [mem_slots, hj]
    have hpos : 0 < l.slots.card := Finset.card_pos.2 ⟨k, hk⟩
    rw [WF, hs, Finset.card_erase_of_mem hk]
    rw [WF] at h
    simp only [h]
    omega
  · rw [l.releaseSlot_of_free (l.holds_eq_none.2 hk)]
    exact h

theorem getAddr_eq (k : Nat) : l.getAddr k = (l.holds k).getD 0 := by
  unfold getAddr holds
  split
  · rw [if_neg (by omega)]; rfl
  · split <;> simp_all

/-- Nothing is pending exactly when every slot is free. -/
theorem WF.pending_eq_zero {l : TransLog} (h : l.WF) : l.pending = 0 ↔ ∀ k, l.holds k = none := by
  rw [WF] at h
  rw [h, Nat.cast_eq_zero, Finset.card_eq_zero, Finset.eq_empty_iff_forall_notMem]
  exact forall_congr' fun k => l.holds_eq_none.symm

theorem WF.reset (l : TransLog) : l.reset.WF := by
  have hs : l.reset.slots = ∅ := by
    ext k
    simp only [mem_slots, TransLog.reset]
    split <;> simp_all
  rw [WF, hs]
  rfl

theorem holds_reset (k : Nat) : l.reset.holds k = none := by
  rw [holds_eq_none, mem_slots, TransLog.reset]
  simp only [not_and, Bool.not_eq_true]
  intro hk
  rw [if_pos hk]

end TransLog

/-! ## The library and what it calls -/

/-- A packet in the receive queue of the link; `origin` tells where it came from. -/
structure Pkt where
  bytes : List U8
  beyond : Nat → U8 := fun _ => 0
  origin : Nat := 0

def Pkt.buf (p : Pkt) : Buf := ⟨p.bytes, p.beyond⟩

/-- What became of a packet: the packet structure could not be allocated, it did not decode, its
transaction has no address in the log, or its data was copied and its slot released. -/
inductive RxResult where
  | noMem
  | malformed
  | unknown
  | applied (slot addr : Nat) (data : List U8)
deriving DecidableEq, Repr

/-- The callbacks given to `smile_fee_rmap_init` (`connected` tells if it was called) and `malloc`,
which reports whether it succeeded. `rmap_rx(NULL)` is `rxSize`. -/
structure Callbacks (E : Type) where
  connected : Bool := true
  malloc : E → Bool × E
  /-- `rmap_tx(hdr, hdr_size, non_crc_bytes, data, data_size)`: `true` for an error. -/
  tx : E → List U8 → Nat → Option (List U8) → Bool × E
  rxSize : E → Nat × E
  rxRead : E → Pkt × E
  /-- How many packets can still be received without further calls of `tx`. -/
  left : E → Nat
  left_malloc : ∀ e, left (malloc e).2 ≤ left e
  left_size : ∀ e, left (rxSize e).2 ≤ left e
  left_pos : ∀ e, (rxSize e).1 ≠ 0 → 0 < left e
  left_read : ∀ e, (rxSize e).1 ≠ 0 → left (rxRead (malloc (rxSize e).2).2).2 < left e

structure Sys (E : Type) where
  cfg : RmapCfg
  log : TransLog
  mem : Mem
  rxLog : List (Pkt × RxResult) := []
  env : E

section Functions

variable {E : Type} (cb : Callbacks E)

/-- The body of the receive loop behind the call of `rmap_rx` (`:250-277`). -/
def rxPacket (pkt : Pkt) (s : Sys E) : Sys E :=
  let (ok, env) := cb.malloc s.env
  let s := { s with env := env }
  if !ok then { s with rxLog := s.rxLog ++ [(pkt, .noMem)] } else
  match pkt.buf.decode with
  | none => { s with rxLog := s.rxLog ++ [(pkt, .malformed)] }
  | some rp =>
    let localAddr := s.log.getAddr rp.trId.toNat
    if localAddr = 0 then { s with rxLog := s.rxLog ++ [(pkt, .unknown)] }
    else { s with
      mem := if rp.dataLen ≠ 0 then s.mem.write localAddr rp.data else s.mem
      log := s.log.releaseSlot rp.trId.toNat
      rxLog := s.rxLog ++ [(pkt, .applied rp.trId.toNat localAddr rp.data)] }

/-- The receive loop, unrolled as often as there can be packets. -/
def rxLoop : Nat → Int → Sys E → Int × Sys E
  | 0, cnt, s => (cnt, { s with env := (cb.rxSize s.env).2 })
  | k + 1, cnt, s =>
    let (n, env) := cb.rxSize s.env
    let s := { s with env := env }
    if n = 0 then (cnt, s)
    else if s.log.pending = 0 then (cnt, s)
    else
      let (ok, env) := cb.malloc s.env
      let s := { s with env := env }
      if !ok then (-1, s)
      else
        let (pkt, env) := cb.rxRead s.env
        let s := { s with env := env }
        if pkt.bytes.length = 0 then (-1, s)
        else rxLoop k (cnt + 1) (rxPacket cb pkt s)

/-- `smile_fee_process_rx` (`:211`). -/
def smileFeeProcessRx (s : Sys E) : Int × Sys E :=
  if !cb.connected then (-1, s) else rxLoop cb (cb.left s.env) 0 s

/-- The buffer behind a pointer handed to `rmap_tx`. -/
def txData (mem : Mem) (data size : Nat) : Option (List U8) := if data = 0 then none else some (mem.read data size)

/-- `smile_fee_submit_tx` (`:296`). -/
def smileFeeSubmitTx (s : Sys E) (cmd : List U8) (data dataSize : Nat) : Int × Sys E :=
  let s := (smileFeeProcessRx cb s).2
  if !cb.connected then (-1, s) else
  let (err, env) := cb.tx s.env cmd s.cfg.dpath.length (txData s.mem data dataSize)
  if err then (-1, { s with env := env }) else (0, { s with env := env })

/-- Generating the command for a slot and submitting it (`:409-426`, `:473-494`). The generator
returns 0 when it cannot allocate its packet. -/
def submitCmd (s : Sys E) (fn : RmapCfg → U16 → List U8) (slot : Nat) (data dataSize : Nat) : Int × Sys E :=
  let (ok, env) := cb.malloc s.env
  let s := { s with env := env }
  if !ok then (-1, s) else
  let (ok, env) := cb.malloc s.env
  let s := { s with env := env }
  let cmd := if ok then fn s.cfg (BitVec.ofNat 16 slot) else []
  if cmd.length = 0 then (-1, s)
  else smileFeeSubmitTx cb s cmd data dataSize

/-- `smile_fee_sync` (`:391`). -/
def smileFeeSync (s : Sys E) (fn : RmapCfg → U16 → List U8) (addr : Nat) (dataLen : Nat) : Int × Sys E :=
  if dataLen % 4 ≠ 0 then (-1, s) else
  let (slot, log) := s.log.grabSlot addr
  let s := { s with log := log }
  if slot < 0 then (-1, s)
  else submitCmd cb s fn slot.toNat addr dataLen

/-- `smile_fee_sync_data` (`:451`). -/
def smileFeeSyncData (s : Sys E) (fn : RmapCfg → U16 → U32 → U32 → List U8) (addr : U32) (data : Nat)
    (dataLen : U32) (read : Bool) : Int × Sys E :=
  let s := (smileFeeProcessRx cb s).2
  let (slot, log) := s.log.grabSlot data
  let s := { s with log := log }
  if slot < 0 then (1, s)
  else submitCmd cb s (fun cfg transId => fn cfg transId addr dataLen) slot.toNat
    (if read then 0 else data) (if read then 0 else dataLen.toNat)

/-- `smile_fee_rmap_sync_status` (`:705`). -/
def smileFeeRmapSyncStatus (s : Sys E) : Int × Sys E :=
  let s := (smileFeeProcessRx cb s).2
  (s.log.pending, s)

/-- `smile_fee_rmap_reset_log` (`:718`). -/
def smileFeeRmapResetLog (s : Sys E) : Sys E := { s with log := s.log.reset }

/-! ## The receive loop -/

/-- What becomes of a packet. -/
inductive RxStep (pkt : Pkt) (s : Sys E) : Sys E → Prop
  | noMem (hm : (cb.malloc s.env).1 = false) :
      RxStep pkt s { s with env := (cb.malloc s.env).2, rxLog := s.rxLog ++ [(pkt, .noMem)] }
  | malformed (hm : (cb.malloc s.env).1 = true) (hdec : pkt.buf.decode = none) :
      RxStep pkt s { s with env := (cb.malloc s.env).2, rxLog := s.rxLog ++ [(pkt, .malformed)] }
  | unknown {rp : RmapPkt} (hm : (cb.malloc s.env).1 = true) (hdec : pkt.buf.decode = some rp)
      (haddr : s.log.getAddr rp.trId.toNat = 0) :
      RxStep pkt s { s with env := (cb.malloc s.env).2, rxLog := s.rxLog ++ [(pkt, .unknown)] }
  | applied {rp : RmapPkt} (hm : (cb.malloc s.env).1 = true) (hdec : pkt.buf.decode = some rp)
      (haddr : s.log.getAddr rp.trId.toNat ≠ 0) :
      RxStep pkt s { s with
        env := (cb.malloc s.env).2
        mem := s.mem.write (s.log.getAddr rp.trId.toNat) rp.data
        log := s.log.releaseSlot rp.trId.toNat
        rxLog := s.rxLog ++ [(pkt, .applied rp.trId.toNat (s.log.getAddr rp.trId.toNat) rp.data)] }

/-- **A packet of the receive loop**: it is written to the address of its slot, or has no effect. -/
theorem rxPacket_step (pkt : Pkt) (s : Sys E) : RxStep cb pkt s (rxPacket cb pkt s) := by
  unfold rxPacket
  dsimp only
  by_cases hm : (cb.malloc s.env).1 = true
  · rw [hm, if_neg (by simp)]
    cases hdec : pkt.buf.decode with
    | none => exact .malformed hm hdec
    | some rp =>
      dsimp only
      by_cases haddr : s.log.getAddr rp.trId.toNat = 0
      · rw [if_pos haddr]
        exact .unknown hm hdec haddr
      · rw [if_neg haddr]
        -- without data there is nothing to write
        have hmem : (if rp.dataLen ≠ 0 then s.mem.write (s.log.getAddr rp.trId.toNat) rp.data else s.mem) =
            s.mem.write (s.log.getAddr rp.trId.toNat) rp.data := by
          split
          · rfl
          · rename_i hz
            have hlen := Buf.length_data_of_decode hdec
            rw [not_not.1 hz] at hlen
            rw [List.length_eq_zero_iff.1 hlen, Mem.write_nil]
        rw [hmem]
        exact .applied hm hdec haddr
  · rw [if_pos (by simpa using hm)]
    exact .noMem (by simpa using hm)

@[simp] theorem rxPacket_env (pkt : Pkt) (s : Sys E) : (rxPacket cb pkt s).env = (cb.malloc s.env).2 := by
  have h := rxPacket_step cb pkt s
  generalize rxPacket cb pkt s = s' at h ⊢
  cases h <;> rfl

/-- What the packets in a log have written to memory. -/
def RxResult.effect (m : Mem) : RxResult → Mem
  | .applied _ addr data => m.write addr data
  | _ => m

def replay (m : Mem) (l : List (Pkt × RxResult)) : Mem := l.foldl (fun m e => e.2.effect m) m

/-- The packets read on the way from `s` to `s'` are all that has changed the memory, and each of
them is one of `P`. -/
def Extends {E E' : Type} (P : Pkt × RxResult → Prop) (s : Sys E) (s' : Sys E') : Prop :=
  ∃ new, s'.rxLog = s.rxLog ++ new ∧ s'.mem = replay s.mem new ∧ ∀ e ∈ new, P e

theorem Extends.of_eq {E E' : Type} {P : Pkt × RxResult → Prop} {s : Sys E} {s' : Sys E'}
    (hl : s'.rxLog = s.rxLog) (hm : s'.mem = s.mem) : Extends P s s' :=
  ⟨[], by simp [hl], hm, fun _ h => absurd h List.not_mem_nil⟩

theorem Extends.trans {E E' E'' : Type} {P : Pkt × RxResult → Prop} {s : Sys E} {s' : Sys E'} {s'' : Sys E''}
    (h : Extends P s s') (h' : Extends P s' s'') : Extends P s s'' := by
  obtain ⟨new, hl, hm, hP⟩ := h
  obtain ⟨new', hl', hm', hP'⟩ := h'
  refine ⟨new ++ new', by rw [hl', hl, List.append_assoc], ?_, fun e he => ?_⟩
  · rw [hm', hm, replay, replay, replay, List.foldl_append]
  · rcases List.mem_append.1 he with he | he
    · exact hP e he
    · exact hP' e he

theorem Extends.mono {E E' : Type} {P Q : Pkt × RxResult → Prop} {s : Sys E} {s' : Sys E'} (h : Extends P s s')
    (hPQ : ∀ e, P e → Q e) : Extends Q s s' := by
  obtain ⟨new, hl, hm, hP⟩ := h
  exact ⟨new, hl, hm, fun e he => hPQ e (hP e he)⟩

/-- The result of a packet covers the bytes it has written. -/
def RxResult.Covers (r : RxResult) (x : Nat) : Prop :=
  ∃ slot addr data, r = .applied slot addr data ∧ addr ≤ x ∧ x < addr + data.length

/-- It wrote bytes of `f` only. -/
def RxResult.Agrees (r : RxResult) (f : Mem) : Prop :=
  ∀ slot addr data, r = .applied slot addr data → data = f.read addr data.length

theorem RxResult.effect_outside {r : RxResult} {x : Nat} (h : ¬ r.Covers x) (m : Mem) : r.effect m x = m x := by
  cases r with
  | applied slot addr data =>
    refine Mem.write_outside m addr data x ?_
    by_contra hx
    exact h ⟨slot, addr, data, rfl, by omega, by omega⟩
  | _ => rfl

theorem RxResult.effect_inside {r : RxResult} {f : Mem} {x : Nat} (h : r.Covers x) (hf : r.Agrees f) (m : Mem) :
    r.effect m x = f x := by
  obtain ⟨slot, addr, data, rfl, h1, h2⟩ := h
  have hread : (m.write addr data).read addr data.length = f.read addr data.length := by
    rw [Mem.read_write_same]
    exact hf slot addr data rfl
  exact Mem.eq_of_read_eq hread h1 h2

/-- What no packet has written is as it was. -/
theorem replay_outside {l : List (Pkt × RxResult)} {x : Nat} (h : ∀ e ∈ l, ¬ e.2.Covers x) (m : Mem) :
    replay m l x = m x := by
  induction l generalizing m with
  | nil => rfl
  | cons e l ih =>
    rw [replay, List.foldl_cons, ← replay, ih fun e' h' => h e' (List.mem_cons_of_mem _ h')]
    exact RxResult.effect_outside (h e List.mem_cons_self) m

/-- Packets that agree on what they write may come in any order. -/
theorem replay_inside {l : List (Pkt × RxResult)} {f : Mem} (hf : ∀ e ∈ l, e.2.Agrees f) {x : Nat}
    (h : ∃ e ∈ l, e.2.Covers x) (m : Mem) : replay m l x = f x := by
  induction l generalizing m with
  | nil => obtain ⟨e, he, -⟩ := h; cases he
  | cons e l ih =>
    rw [replay, List.foldl_cons, ← replay]
    by_cases hl : ∃ e ∈ l, e.2.Covers x
    · exact ih (fun e' h' => hf e' (List.mem_cons_of_mem _ h')) hl _
    · rw [replay_outside fun e' h' hc => hl ⟨e', h', hc⟩]
      obtain ⟨e', he', hc⟩ := h
      rcases List.mem_cons.1 he' with rfl | he'
      · exact RxResult.effect_inside hc (hf e' List.mem_cons_self) m
      · exact absurd ⟨e', he', hc⟩ hl

/-- One turn of the receive loop, and what follows it. -/
def rxTurn (cont : Int → Sys E → Int × Sys E) (cnt : Int) (s : Sys E) : Int × Sys E :=
  let (n, env) := cb.rxSize s.env
  let s := { s with env := env }
  if n = 0 then (cnt, s)
  else if s.log.pending = 0 then (cnt, s)
  else
    let (ok, env) := cb.malloc s.env
    let s := { s with env := env }
    if !ok then (-1, s)
    else
      let (pkt, env) := cb.rxRead s.env
      let s := { s with env := env }
      if pkt.bytes.length = 0 then (-1, s)
      else cont (cnt + 1) (rxPacket cb pkt s)

theorem rxLoop_turn (k : Nat) (cnt : Int) (s : Sys E) : rxLoop cb (k + 1) cnt s = rxTurn cb (rxLoop cb k) cnt s := rfl

/-- What follows a turn has fewer packets left. -/
theorem rxTurn_congr {cont cont' : Int → Sys E → Int × Sys E} {cnt : Int} {s : Sys E}
    (h : ∀ s', cb.left s'.env < cb.left s.env → cont (cnt + 1) s' = cont' (cnt + 1) s') :
    rxTurn cb cont cnt s = rxTurn cb cont' cnt s := by
  rw [rxTurn, rxTurn]
  dsimp only
  by_cases hn : (cb.rxSize s.env).1 = 0
  · rw [if_pos hn, if_pos hn]
  · have hlt := cb.left_read s.env hn
    rw [if_neg hn, if_neg hn]
    split
    · rfl
    · split
      · rfl
      · split
        · rfl
        · apply h
          rw [rxPacket_env]
          exact (cb.left_malloc _).trans_lt hlt

/-- Unrolling the loop once more than there are packets changes nothing. -/
theorem rxLoop_succ : ∀ (k : Nat) (cnt : Int) (s : Sys E), cb.left s.env ≤ k →
    rxLoop cb (k + 1) cnt s = rxLoop cb k cnt s
  | 0, cnt, s, hk => by
    have hz : (cb.rxSize s.env).1 = 0 := by
      by_contra h
      have := cb.left_pos s.env h
      omega
    simp [rxLoop, hz]
  | k + 1, cnt, s, hk => by
    rw [rxLoop_turn, rxLoop_turn cb k]
    exact rxTurn_congr cb fun s' hlt => rxLoop_succ k _ s' (Nat.le_of_lt_succ (hlt.trans_le hk))

theorem rxLoop_of_le {k : Nat} (cnt : Int) (s : Sys E) (hk : cb.left s.env ≤ k) :
    rxLoop cb k cnt s = rxLoop cb (cb.left s.env) cnt s := by
  induction k, hk using Nat.le_induction with
  | base => rfl
  | succ k hk ih => rw [rxLoop_succ cb k cnt s hk, ih]

/-- **The `while` loop of `smile_fee_process_rx`**: one turn of it, then the loop again. -/
theorem rxLoop_while (cnt : Int) (s : Sys E) : rxLoop cb (cb.left s.env) cnt s =
    rxTurn cb (fun cnt s => rxLoop cb (cb.left s.env) cnt s) cnt s := by
  rw [← rxLoop_succ cb _ cnt s le_rfl, rxLoop_turn]
  exact rxTurn_congr cb fun s' hlt => rxLoop_of_le cb _ s' hlt.le

end Functions

end SmileFee
