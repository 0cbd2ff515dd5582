import SmileFee.Lib.Matching
import SmileFee.Net

/-!
# Every reply finds the command that caused it

The log is a table of slots, the transaction id of a command is the slot it was given, and a slot
is used again as soon as it is free. `Inv` relates the log, the commands in flight, the replies in
the queue and the packets read so far; in it, the commands that are *live* (sent, and no reply of
theirs applied) are matched to the slots of the log in the sense of `Matching.Ok`.

A transaction is open before its command is sent, and `smile_fee_submit_tx` reads replies in
between. `Reserved` says that a slot is held and belongs to no live command; reading replies
(`Rx`) keeps it, so that the new command can be issued under it.

A reset of the log forgets the commands sent before (those below the `mark`), not their replies.
As long as no slot is in use whose index is the transaction id of such a command (`Inv.stale`),
their replies find no address.
-/

namespace SmileFee

/-! ## Invariant -/

/-- The commands, by number, whose replies have been applied. -/
def applied (l : List (Pkt × RxResult)) : List Nat :=
  l.filterMap fun e => match e.2 with
    | .applied .. => some e.1.origin
    | _ => none

/-- The commands whose replies have been read. -/
def answersRead (l : List (Pkt × RxResult)) : List Nat := l.map fun e => e.1.origin

/-- The transaction id of a command. -/
def idOf (sent : List Cmd) (i : Nat) : Nat := (sent[i]?.map fun c => c.trId.toNat).getD 0

/-- The commands that were sent from number `mark` on and whose reply has not been applied. -/
def live (mark : Nat) (s : Sys Net) : Set Nat := {i | mark ≤ i ∧ i < s.env.sent.length ∧ i ∉ applied s.rxLog}

/-- A reply to a command from before the mark has no effect. -/
def Harmless (mark : Nat) (e : Pkt × RxResult) : Prop := e.1.origin < mark → e.2 = .noMem ∨ e.2 = .unknown

/-- The reply to such a command finds no address: it is from before the mark, or has none. -/
def Unmatched (regs : List Nat) (mark i : Nat) : Prop := i < mark ∨ regs.getD i 0 = 0

/-- `regs` lists the local addresses with which the commands sent so far were submitted; the log has
been reset when `mark` commands had been sent. -/
structure Inv (T : Target) (regs : List Nat) (mark : Nat) (s : Sys Net) : Prop where
  wf : s.log.WF
  ok : Matching.Ok s.log.holds (idOf s.env.sent) (fun i => regs.getD i 0) (live mark s)
  regs_len : regs.length = s.env.sent.length
  mark_le : mark ≤ s.env.sent.length
  stale : ∀ i < mark, i ∉ answersRead s.rxLog → s.log.holds (idOf s.env.sent i) = none
  queue : s.env.answered.Perm (answersRead s.rxLog ++ s.env.rxq.map Pkt.origin)
  nodup : s.env.answered.Nodup
  answered_lt : ∀ i ∈ s.env.answered, i < s.env.sent.length
  replies : ∀ p ∈ s.env.rxq, ∃ c data, s.env.sent[p.origin]? = some c ∧ Replies c data p.bytes ∧ T.carries c data
  log : ∀ e ∈ s.rxLog, ∃ c data, s.env.sent[e.1.origin]? = some c ∧ Replies c data e.1.bytes ∧
    T.carries c data ∧ (e.2 = .noMem ∨ e.2 = .applied c.trId.toNat (regs.getD e.1.origin 0) data ∨
      e.2 = .unknown ∧ Unmatched regs mark e.1.origin)

/-- Slot `k` is held for address `a` and is that of no live command. -/
def Reserved (mark : Nat) (s : Sys Net) (k a : Nat) : Prop :=
  s.log.holds k = some a ∧ ∀ i ∈ live mark s, idOf s.env.sent i ≠ k

/-- Every slot in use, but for those in `X`, is that of a live command. -/
def Tight (mark : Nat) (s : Sys Net) (X : Set Nat) : Prop :=
  ∀ k, s.log.holds k ≠ none → k ∈ X ∨ ∃ i ∈ live mark s, idOf s.env.sent i = k

/-- The log is empty. -/
def TransLog.Empty (l : TransLog) : Prop := l.pending = 0 ∧ ∀ k, l.holds k = none

/-- An empty log and an idle link. -/
theorem Inv.start {T : Target} {s : Sys Net} (hlog : s.log.Empty) (henv : s.env.Idle) (hrx : s.rxLog = []) :
    Inv T [] 0 s ∧ Tight 0 s ∅ := by
  obtain ⟨hsent, hans, hq⟩ := henv
  have hlive : live 0 s = ∅ := by
    ext i; simp [live, hsent]
  refine ⟨{
    wf := ?_
    ok := by rw [hlive]; exact .empty
    regs_len := by rw [hsent]; rfl
    mark_le := Nat.zero_le _
    stale := fun i hi => absurd hi (Nat.not_lt_zero i)
    queue := by rw [hans, hrx, hq]; exact List.Perm.refl _
    nodup := by rw [hans]; exact List.nodup_nil
    answered_lt := fun i hi => by rw [hans] at hi; exact absurd hi List.not_mem_nil
    replies := fun p hp => by rw [hq] at hp; exact absurd hp List.not_mem_nil
    log := fun e he => by rw [hrx] at he; exact absurd he List.not_mem_nil }, fun k hk => absurd (hlog.2 k) hk⟩
  have hslots : s.log.slots = ∅ := by
    ext k
    simp only [Finset.notMem_empty, iff_false]
    exact s.log.holds_eq_none.1 (hlog.2 k)
  rw [TransLog.WF, hslots, hlog.1]
  rfl

/-- Where nothing leaks, the log is empty as soon as all replies have been applied. -/
theorem Inv.empty_of_applied {T : Target} {regs : List Nat} {mark : Nat} {s : Sys Net} (h : Inv T regs mark s)
    (ht : Tight mark s ∅) (hdone : ∀ i < s.env.sent.length, i ∈ applied s.rxLog) : s.log.Empty := by
  have hfree : ∀ k, s.log.holds k = none := by
    intro k
    by_contra hk
    rcases ht k hk with hX | ⟨i, ⟨-, hi, hni⟩, -⟩
    · exact hX
    · exact hni (hdone i hi)
  exact ⟨h.wf.pending_eq_zero.2 hfree, hfree⟩

/-! ## Reading replies -/

/-- What reading replies does to a state. -/
structure Rx (T : Target) (regs : List Nat) (mark : Nat) (s s' : Sys Net) : Prop where
  inv : Inv T regs mark s'
  cfg : s'.cfg = s.cfg
  sent : s'.env.sent = s.env.sent
  reserved : ∀ k a, Reserved mark s k a → Reserved mark s' k a
  tight : ∀ X, Tight mark s X → Tight mark s' X
  ext : Extends (Harmless mark) s s'

variable {T : Target} {regs : List Nat} {mark : Nat} {s s' s'' : Sys Net}

theorem Rx.refl (h : Inv T regs mark s) : Rx T regs mark s s :=
  ⟨h, rfl, rfl, fun _ _ h => h, fun _ h => h, .of_eq rfl rfl⟩

theorem Rx.trans (h : Rx T regs mark s s') (h' : Rx T regs mark s' s'') : Rx T regs mark s s'' :=
  ⟨h'.inv, h'.cfg.trans h.cfg, h'.sent.trans h.sent, fun k a hr => h'.reserved k a (h.reserved k a hr),
    fun X ht => h'.tight X (h.tight X ht), h.ext.trans h'.ext⟩

/-- A step of the link that sends and delivers nothing. -/
theorem Rx.env (h : Inv T regs mark s) (env : Net) (hsent : env.sent = s.env.sent)
    (hans : env.answered = s.env.answered)
    (hq : env.rxq = s.env.rxq) : Rx T regs mark s { s with env := env } := by
  have hlive : live mark { s with env := env } = live mark s := by simp only [live, hsent]
  refine ⟨⟨h.wf, ?_, ?_, ?_, ?_, ?_, ?_, ?_, ?_, ?_⟩, rfl, hsent, ?_, ?_, .of_eq rfl rfl⟩
  · rw [hlive, hsent]; exact h.ok
  · rw [hsent]; exact h.regs_len
  · rw [hsent]; exact h.mark_le
  · rw [hsent]; exact h.stale
  · rw [hans, hq]; exact h.queue
  · rw [hans]; exact h.nodup
  · rw [hans, hsent]; exact h.answered_lt
  · rw [hq, hsent]; exact h.replies
  · rw [hsent]; exact h.log
  · intro k a hr
    rw [Reserved, hlive, hsent]; exact hr
  · intro X ht
    rw [Tight, hlive, hsent]; exact ht

theorem Rx.enter (h : Inv T regs mark s) (o : Outside) : Rx T regs mark s (o.enter s) :=
  Rx.env h { s.env with sched := o.sched, mallocs := o.mallocs, txs := o.txs } rfl rfl rfl

/-- An arrival. -/
theorem Rx.deliver (h : Inv T regs mark s) (a : Arrival) : Rx T regs mark s { s with env := s.env.deliver T a } := by
  unfold Net.deliver
  split
  · rename_i hc
    obtain ⟨hlt, hnew, hans⟩ := hc
    obtain ⟨data, hrep, hcar⟩ := T.wellFormed _ _ _ _ _ (List.getElem?_eq_getElem hlt) hans
    refine ⟨⟨h.wf, h.ok, h.regs_len, h.mark_le, h.stale, ?_, ?_, ?_, ?_, h.log⟩, rfl, rfl,
      fun _ _ h => h, fun _ h => h, .of_eq rfl rfl⟩
    · simp only [List.map_append, List.map_cons, List.map_nil, ← List.append_assoc]
      exact h.queue.append_right [a.idx]
    · exact List.nodup_append.2 ⟨h.nodup, List.nodup_singleton _, by
        rintro i hi j hj rfl
        exact hnew (List.mem_singleton.1 hj ▸ hi)⟩
    · intro i hi
      rcases List.mem_append.1 hi with hi | hi
      · exact h.answered_lt i hi
      · rw [List.mem_singleton.1 hi]; exact hlt
    · intro p hp
      rcases List.mem_append.1 hp with hp | hp
      · exact h.replies p hp
      · rw [List.mem_singleton.1 hp]
        exact ⟨_, data, List.getElem?_eq_getElem hlt, hrep, hcar⟩
  · exact Rx.refl h

theorem Rx.arrivals (as : List Arrival) (h : Inv T regs mark s) :
    Rx T regs mark s { s with env := as.foldl (Net.deliver T) s.env } := by
  induction as generalizing s with
  | nil => exact Rx.refl h
  | cons a as ih =>
    have ha := Rx.deliver h a
    exact ha.trans (ih ha.inv)

theorem Rx.poll (h : Inv T regs mark s) : Rx T regs mark s { s with env := s.env.poll T } := by
  unfold Net.poll
  split
  · exact Rx.refl h
  · rename_i now later _
    have h0 := Rx.env h { s.env with sched := later } rfl rfl rfl
    exact h0.trans (Rx.arrivals now h0.inv)

theorem Rx.malloc (h : Inv T regs mark s) : Rx T regs mark s { s with env := s.env.malloc.2 } :=
  Rx.env h _ (Net.sent_malloc _) (Net.answered_malloc _) (Net.rxq_malloc _)

theorem applied_append (l l' : List (Pkt × RxResult)) : applied (l ++ l') = applied l ++ applied l' :=
  List.filterMap_append

theorem applied_subset (l : List (Pkt × RxResult)) {i : Nat} (h : i ∈ applied l) : i ∈ answersRead l := by
  obtain ⟨e, he, hi⟩ := List.mem_filterMap.1 h
  refine List.mem_map.2 ⟨e, he, ?_⟩
  split at hi
  · exact Option.some.inj hi
  · cases hi

/-- A reply in the queue has been given by the target and has not been read. -/
theorem Inv.of_queue (h : Inv T regs mark s) {p : Pkt} (hp : p ∈ s.env.rxq) :
    p.origin ∈ s.env.answered ∧ p.origin ∉ answersRead s.rxLog := by
  have hq : p.origin ∈ s.env.rxq.map Pkt.origin := List.mem_map_of_mem hp
  refine ⟨h.queue.mem_iff.2 (List.mem_append_right _ hq), fun hread => ?_⟩
  have hnd := (List.nodup_append.1 (h.queue.nodup_iff.1 h.nodup)).2.2
  exact hnd _ hread _ hq rfl

/-- Such a reply is that of a live command, unless the log has been reset in between. -/
theorem Inv.live_of_queue (h : Inv T regs mark s) {p : Pkt} (hp : p ∈ s.env.rxq) (hm : mark ≤ p.origin) :
    p.origin ∈ live mark s := by
  obtain ⟨hans, hnew⟩ := h.of_queue hp
  exact ⟨hm, h.answered_lt _ hans, fun happ => hnew (applied_subset _ happ)⟩

theorem idOf_eq {sent : List Cmd} {i : Nat} {c : Cmd} (h : sent[i]? = some c) : idOf sent i = c.trId.toNat := by
  simp [idOf, h]

theorem Inv.head (h : Inv T regs mark s) {p : Pkt} {rest : List Pkt} (hq : s.env.rxq = p :: rest) :
    ∃ c data, s.env.sent[p.origin]? = some c ∧ Replies c data p.bytes ∧ T.carries c data :=
  h.replies p (by rw [hq]; exact List.mem_cons_self)

/-- The invariant after the packet at the head of the queue has been read. -/
theorem Inv.read (h : Inv T regs mark s) {p : Pkt} {rest : List Pkt} (hq : s.env.rxq = p :: rest) {r : RxResult}
    (hr : ∃ c data, s.env.sent[p.origin]? = some c ∧ Replies c data p.bytes ∧ T.carries c data ∧
      (r = .noMem ∨ r = .applied c.trId.toNat (regs.getD p.origin 0) data ∨
        r = .unknown ∧ Unmatched regs mark p.origin))
    (hwf : s'.log.WF) (hok : Matching.Ok s'.log.holds (idOf s.env.sent) (fun i => regs.getD i 0) (live mark s'))
    (hholds : ∀ k a, s'.log.holds k = some a → s.log.holds k = some a)
    (hsent : s'.env.sent = s.env.sent) (hans : s'.env.answered = s.env.answered) (hrxq : s'.env.rxq = rest)
    (hlog : s'.rxLog = s.rxLog ++ [(p, r)]) : Inv T regs mark s' where
  wf := hwf
  ok := by rw [hsent]; exact hok
  regs_len := by rw [hsent]; exact h.regs_len
  mark_le := by rw [hsent]; exact h.mark_le
  stale i hi hnew := by
    rw [hlog] at hnew
    rw [hsent, Option.eq_none_iff_forall_ne_some]
    intro a ha
    have hfree := h.stale i hi fun hread => hnew (by simp [answersRead] at hread ⊢; exact Or.inl hread)
    rw [hholds _ a ha] at hfree
    cases hfree
  queue := by
    have := h.queue
    rw [hq] at this
    rw [hans, hrxq, hlog]
    simpa [answersRead] using this
  nodup := by rw [hans]; exact h.nodup
  answered_lt := by rw [hans, hsent]; exact h.answered_lt
  replies q hm := by
    rw [hrxq] at hm
    rw [hsent]
    exact h.replies q (by rw [hq]; exact List.mem_cons_of_mem _ hm)
  log e he := by
    rw [hlog] at he
    rw [hsent]
    rcases List.mem_append.1 he with he | he
    · exact h.log e he
    · rw [List.mem_singleton.1 he]
      exact hr

/-- The packet at the head of the queue is not applied: there is no memory to decode it, or there is
no address for it. -/
theorem Rx.read_unapplied (h : Inv T regs mark s) {p : Pkt} {rest : List Pkt} (hq : s.env.rxq = p :: rest)
    {r : RxResult} (hr : r = .noMem ∨ r = .unknown ∧ Unmatched regs mark p.origin)
    (hcfg : s'.cfg = s.cfg) (hl : s'.log = s.log) (hsent : s'.env.sent = s.env.sent)
    (hans : s'.env.answered = s.env.answered) (hrxq : s'.env.rxq = rest)
    (hlog : s'.rxLog = s.rxLog ++ [(p, r)]) (hmem : s'.mem = r.effect s.mem) : Rx T regs mark s s' := by
  obtain ⟨c, data, hc, hrep, hcar⟩ := h.head hq
  have hlive : live mark s' = live mark s := by
    simp only [live, hsent, hlog, applied_append]
    rcases hr with rfl | ⟨rfl, -⟩ <;> simp [applied]
  refine ⟨h.read hq ⟨c, data, hc, hrep, hcar, hr.imp_right Or.inr⟩ ?_ ?_ ?_ hsent hans hrxq hlog, hcfg, hsent, ?_, ?_,
    [(p, r)], hlog, hmem, ?_⟩
  · rw [hl]; exact h.wf
  · rw [hl, hlive]; exact h.ok
  · rw [hl]; exact fun _ _ h => h
  · intro k a hres
    rw [Reserved, hl, hlive, hsent]; exact hres
  · intro X ht
    rw [Tight, hl, hlive, hsent]; exact ht
  · intro e he
    rw [List.mem_singleton.1 he]
    exact fun _ => hr.imp_right And.left

/-- The packet at the head of the queue is applied: its transaction is complete. -/
theorem Rx.read_applied (h : Inv T regs mark s) {p : Pkt} {rest : List Pkt} (hq : s.env.rxq = p :: rest) {c : Cmd}
    {data : List U8} (hm : mark ≤ p.origin) (hc : s.env.sent[p.origin]? = some c) (hrep : Replies c data p.bytes)
    (hcar : T.carries c data) (hcfg : s'.cfg = s.cfg) (hl : s'.log = s.log.releaseSlot c.trId.toNat)
    (hsent : s'.env.sent = s.env.sent) (hans : s'.env.answered = s.env.answered) (hrxq : s'.env.rxq = rest)
    (hlog : s'.rxLog = s.rxLog ++ [(p, .applied c.trId.toNat (regs.getD p.origin 0) data)])
    (hmem : s'.mem = s.mem.write (regs.getD p.origin 0) data) : Rx T regs mark s s' := by
  have hlv := h.live_of_queue (by rw [hq]; exact List.mem_cons_self) hm
  have hid := idOf_eq hc
  have hholds : s'.log.holds = Function.update s.log.holds (idOf s.env.sent p.origin) none := by
    rw [hl, hid, TransLog.holds_releaseSlot]
  have hlive : live mark s' = live mark s \ {p.origin} := by
    ext i
    simp only [live, hsent, hlog, applied_append, Set.mem_ofPred_eq, Set.mem_sdiff, Set.mem_singleton_iff]
    simp [applied, and_assoc]
  have hof : ∀ k a, s'.log.holds k = some a → s.log.holds k = some a := by
    intro k a hk
    rw [hholds] at hk
    by_cases hkid : k = idOf s.env.sent p.origin
    · rw [hkid, Function.update_self] at hk; cases hk
    · rwa [Function.update_of_ne hkid] at hk
  refine ⟨h.read hq ⟨c, data, hc, hrep, hcar, Or.inr (Or.inl rfl)⟩ ?_ ?_ hof hsent hans hrxq hlog, hcfg, hsent, ?_, ?_,
    [_], hlog, hmem, ?_⟩
  · rw [hl]; exact h.wf.releaseSlot _
  · rw [hholds, hlive]; exact h.ok.complete hlv
  · rintro k a ⟨hk, hfresh⟩
    refine ⟨?_, fun i hi => ?_⟩
    · rw [hholds, Function.update_of_ne (hfresh _ hlv).symm]; exact hk
    · rw [hsent]; rw [hlive] at hi
      exact hfresh i hi.1
  · intro X ht k hk
    rw [hholds] at hk
    by_cases hkid : k = idOf s.env.sent p.origin
    · rw [hkid, Function.update_self] at hk; exact absurd rfl hk
    · rw [Function.update_of_ne hkid] at hk
      rcases ht k hk with hX | ⟨i, hi, hik⟩
      · exact Or.inl hX
      · refine Or.inr ⟨i, ?_, by rw [hsent]; exact hik⟩
        rw [hlive]
        exact ⟨hi, fun heq => hkid (by rw [← hik, Set.mem_singleton_iff.1 heq])⟩
  · intro e he hlt
    rw [List.mem_singleton.1 he] at hlt
    exact absurd hm (by simpa using hlt)

/-- What the log has for a packet in the queue: the address registered for its own command, or
nothing if it is from before the mark. -/
theorem Inv.getAddr (h : Inv T regs mark s) {p : Pkt} (hp : p ∈ s.env.rxq) {c : Cmd}
    (hc : s.env.sent[p.origin]? = some c) :
    s.log.getAddr c.trId.toNat = if p.origin < mark then 0 else regs.getD p.origin 0 := by
  rw [s.log.getAddr_eq, ← idOf_eq hc]
  split
  · rename_i hm
    rw [h.stale _ hm (h.of_queue hp).2]; rfl
  · rename_i hm
    rw [h.ok.held _ (h.live_of_queue hp (Nat.le_of_not_lt hm))]; rfl

/-- Reading the packet at the head of the queue: it is applied to the address its own command has
registered, unless there is no memory to decode it or no address for it. -/
theorem Rx.packet (h : Inv T regs mark s) {p : Pkt} {rest : List Pkt} (hq : s.env.rxq = p :: rest) :
    Rx T regs mark s (rxPacket (netCallbacks T) p { s with env := { s.env with rxq := rest } }) := by
  obtain ⟨c, data, hc, hrep, hcar⟩ := h.head hq
  obtain ⟨rp, hdec, htid, hdata, -⟩ := hrep.decode p.beyond
  have haddr := h.getAddr (by rw [hq]; exact List.mem_cons_self) hc
  rw [← htid] at haddr
  have hsent := Net.sent_malloc { s.env with rxq := rest }
  have hans := Net.answered_malloc { s.env with rxq := rest }
  have hrxq := Net.rxq_malloc { s.env with rxq := rest }
  have hstep := rxPacket_step (netCallbacks T) p { s with env := { s.env with rxq := rest } }
  generalize rxPacket (netCallbacks T) p { s with env := { s.env with rxq := rest } } = s' at hstep ⊢
  cases hstep with
  | noMem => exact Rx.read_unapplied h hq (Or.inl rfl) rfl rfl hsent hans hrxq rfl rfl
  | malformed _ hnone => exact absurd (hdec.symm.trans hnone) (by simp)
  | unknown _ hdec' hnull =>
    obtain rfl := Option.some.inj (hdec.symm.trans hdec')
    have hun : Unmatched regs mark p.origin := by
      rw [show s.log.getAddr rp.trId.toNat = 0 from hnull] at haddr
      split at haddr
      · exact Or.inl ‹_›
      · exact Or.inr haddr.symm
    exact Rx.read_unapplied h hq (Or.inr ⟨rfl, hun⟩) rfl rfl hsent hans hrxq rfl rfl
  | applied _ hdec' hne =>
    obtain rfl := Option.some.inj (hdec.symm.trans hdec')
    have hge : ¬ p.origin < mark := fun hlt => hne (haddr.trans (if_pos hlt))
    rw [if_neg hge] at haddr
    refine Rx.read_applied h hq (Nat.le_of_not_lt hge) hc hrep hcar rfl (by rw [← htid]) hsent hans hrxq ?_ ?_
    · rw [← haddr, ← htid, ← hdata]
    · rw [← haddr, ← hdata]

/-- **Reading replies** keeps the invariant, sends nothing, and frees no slot but those whose
command has been answered. -/
theorem Rx.loop (k : Nat) (cnt : Int) (h : Inv T regs mark s) :
    Rx T regs mark s (rxLoop (netCallbacks T) k cnt s).2 := by
  induction k generalizing cnt s with
  | zero => exact Rx.poll h
  | succ k ih =>
    have hpoll := Rx.poll h
    rcases hsz : (netCallbacks T).rxSize s.env with ⟨n, env1⟩
    rcases hm : (netCallbacks T).malloc env1 with ⟨ok, env2⟩
    rcases hrd : (netCallbacks T).rxRead env2 with ⟨pkt, env3⟩
    have henv1 : s.env.poll T = env1 := congrArg Prod.snd hsz
    have henv2 : env1.malloc.2 = env2 := congrArg Prod.snd hm
    rw [henv1] at hpoll
    have hmal := Rx.malloc hpoll.inv
    simp only [henv2] at hmal
    simp only [rxLoop, hsz, hm, hrd]
    split
    · exact hpoll
    · rename_i hn
      obtain ⟨p, rest, hq⟩ := Net.rxSize_ne_zero T (n := s.env) (by rw [show Net.rxSize T s.env = _ from hsz]; exact hn)
      rw [henv1] at hq
      have hq2 : env2.rxq = p :: rest := by rw [← henv2, Net.rxq_malloc]; exact hq
      obtain ⟨rfl, rfl⟩ := Prod.mk.inj (hrd.symm.trans (Net.rxRead_eq hq2))
      split
      · exact hpoll
      · split
        · exact hpoll.trans hmal
        · obtain ⟨c, data, -, hrep, -⟩ := hmal.inv.head hq2
          have hpkt := Rx.packet hmal.inv hq2
          rw [if_neg (by simpa using hrep.ne_nil)]
          exact (hpoll.trans hmal).trans (hpkt.trans (ih (cnt + 1) hpkt.inv))

theorem Rx.processRx (h : Inv T regs mark s) : Rx T regs mark s (smileFeeProcessRx (netCallbacks T) s).2 := by
  rw [smileFeeProcessRx, if_neg (by simp [netCallbacks])]
  exact Rx.loop _ _ h

/-! ## Sending commands -/

theorem Inv.lt_of_applied (h : Inv T regs mark s) {i : Nat} (hi : i ∈ applied s.rxLog) : i < s.env.sent.length :=
  h.answered_lt i (h.queue.mem_iff.2 (List.mem_append_left _ (applied_subset _ hi)))

theorem idOf_append {sent : List Cmd} {c : Cmd} {i : Nat} (hi : i < sent.length) :
    idOf (sent ++ [c]) i = idOf sent i := by
  simp [idOf, List.getElem?_append_left hi]

/-- A command sent under a reserved slot. -/
theorem Inv.sent (h : Inv T regs mark s) {k a : Nat} (hres : Reserved mark s k a) {c : Cmd} (hc : c.trId.toNat = k)
    (hcfg : s'.log = s.log) (hlog : s'.rxLog = s.rxLog) (hans : s'.env.answered = s.env.answered)
    (hq : s'.env.rxq = s.env.rxq) (hsent : s'.env.sent = s.env.sent ++ [c]) :
    Inv T (regs ++ [a]) mark s' ∧ (Tight mark s {k} → Tight mark s' ∅) := by
  have hn : idOf s'.env.sent s.env.sent.length = k := by simp [idOf, hsent, hc]
  have hlive : live mark s' = insert s.env.sent.length (live mark s) := by
    ext i
    simp only [live, hsent, hlog, List.length_append, List.length_singleton, Set.mem_ofPred_eq, Set.mem_insert_iff]
    constructor
    · rintro ⟨hm, h1, h2⟩
      by_cases hi : i = s.env.sent.length
      · exact Or.inl hi
      · exact Or.inr ⟨hm, by omega, h2⟩
    · rintro (rfl | ⟨hm, h1, h2⟩)
      · exact ⟨h.mark_le, by omega, fun happ => absurd (h.lt_of_applied happ) (by omega)⟩
      · exact ⟨hm, by omega, h2⟩
  have hid (i : Nat) (hi : i < s.env.sent.length) : idOf s'.env.sent i = idOf s.env.sent i := by
    rw [hsent]; exact idOf_append hi
  have hreg (i : Nat) (hi : i < s.env.sent.length) : (regs ++ [a]).getD i 0 = regs.getD i 0 :=
    List.getD_append _ _ _ _ (by rw [h.regs_len]; exact hi)
  have hold (i : Nat) (c' : Cmd) (hi : s.env.sent[i]? = some c') : s'.env.sent[i]? = some c' := by
    rw [hsent, List.getElem?_append_left (List.getElem?_eq_some_iff.1 hi).1, hi]
  refine ⟨⟨?_, ?_, ?_, ?_, ?_, ?_, ?_, ?_, ?_, ?_⟩, ?_⟩
  · rw [hcfg]; exact h.wf
  · rw [hcfg, hlive]
    have hok := h.ok.congr (idOf s'.env.sent) (fun i => (regs ++ [a]).getD i 0) (fun _ _ => rfl)
      (fun i hi => hid i hi.2.1) fun i hi => hreg i hi.2.1
    refine hok.issue ?_ fun q hq => ?_
    · rw [hn, hres.1, List.getD_append_right _ _ _ _ (by rw [h.regs_len]), h.regs_len]
      simp
    · rw [hn, hid q hq.2.1]; exact hres.2 q hq
  · rw [hsent, List.length_append, List.length_append, h.regs_len]; rfl
  · rw [hsent, List.length_append]
    exact Nat.le_add_right_of_le h.mark_le
  · intro i hi hnew
    rw [hcfg, hid i (hi.trans_le h.mark_le)]
    exact h.stale i hi (hlog ▸ hnew)
  · rw [hans, hlog, hq]; exact h.queue
  · rw [hans]; exact h.nodup
  · rw [hans, hsent, List.length_append]
    intro i hi
    have := h.answered_lt i hi
    omega
  · intro p hp
    rw [hq] at hp
    obtain ⟨c', data, hc', hrep⟩ := h.replies p hp
    exact ⟨c', data, hold _ _ hc', hrep⟩
  · intro e he
    rw [hlog] at he
    obtain ⟨c', data, hc', hrep, hcar, hr⟩ := h.log e he
    refine ⟨c', data, hold _ _ hc', hrep, hcar, ?_⟩
    rwa [Unmatched, hreg _ (List.getElem?_eq_some_iff.1 hc').1]
  · intro ht j hj
    rw [hcfg] at hj
    refine Or.inr ?_
    rw [hlive]
    rcases ht j hj with hjk | ⟨i, hi, hij⟩
    · exact ⟨_, Set.mem_insert _ _, hn.trans (Set.mem_singleton_iff.1 hjk).symm⟩
    · exact ⟨i, Set.mem_insert_of_mem _ hi, (hid i hi.2.1).trans hij⟩

/-- The slot given next is not the transaction id of a command from before the mark whose reply has
not been read. -/
def NoReuse (mark : Nat) (s : Sys Net) (a : Nat) : Prop :=
  ∀ i < mark, i ∉ answersRead s.rxLog → (s.log.grabSlot a).1 ≠ idOf s.env.sent i

/-- Before the first reset there are none. -/
theorem NoReuse.zero (s : Sys Net) (a : Nat) : NoReuse 0 s a := fun i hi => absurd hi (Nat.not_lt_zero i)

instance (mark : Nat) (s : Sys Net) (a : Nat) : Decidable (NoReuse mark s a) :=
  inferInstanceAs (Decidable (∀ i < mark, i ∉ answersRead s.rxLog → (s.log.grabSlot a).1 ≠ idOf s.env.sent i))

/-- Taking a slot of the log, or finding none. -/
theorem Inv.grab (h : Inv T regs mark s) {a : Nat} (hnew : NoReuse mark s a) :
    (∃ k : Nat, k < TRANS_LOG_SIZE ∧ (s.log.grabSlot a).1 = k ∧
      Inv T regs mark { s with log := (s.log.grabSlot a).2 } ∧
      Reserved mark { s with log := (s.log.grabSlot a).2 } k a ∧
      ∀ X, Tight mark s X → Tight mark { s with log := (s.log.grabSlot a).2 } (insert k X)) ∨
    s.log.grabSlot a = (-1, s.log) := by
  rcases s.log.grabSlot_cases a with ⟨k, hk, hfree, -, hg⟩ | ⟨-, hg⟩
  · rw [NoReuse, hg] at hnew
    refine Or.inl ⟨k, hk, by rw [hg], ?_⟩
    have hholds : (s.log.grabSlot a).2.holds = Function.update s.log.holds k (some a) := by
      rw [hg]; exact s.log.holds_take hk a
    have hwf : (s.log.grabSlot a).2.WF := by rw [hg]; exact h.wf.take hk hfree a
    refine ⟨⟨hwf, ?_, h.regs_len, h.mark_le, fun i hi hread => ?_, h.queue, h.nodup, h.answered_lt, h.replies,
      h.log⟩, ⟨?_, ?_⟩, ?_⟩
    · show Matching.Ok (s.log.grabSlot a).2.holds _ _ _
      rw [hholds]; exact h.ok.take hfree a
    · show (s.log.grabSlot a).2.holds (idOf s.env.sent i) = none
      rw [hholds, Function.update_of_ne fun heq => hnew i hi hread (congrArg Nat.cast heq.symm)]
      exact h.stale i hi hread
    · show (s.log.grabSlot a).2.holds k = some a
      rw [hholds, Function.update_self]
    · exact fun i hi => h.ok.id_ne_of_free hfree hi
    · intro X ht j hj
      rw [show TransLog.holds _ j = Function.update s.log.holds k (some a) j from congrFun hholds j] at hj
      by_cases hjk : j = k
      · exact Or.inl (hjk ▸ Set.mem_insert _ _)
      · rw [Function.update_of_ne hjk] at hj
        rcases ht j hj with hX | hl
        · exact Or.inl (Set.mem_insert_of_mem _ hX)
        · exact Or.inr hl
  · exact Or.inr hg

/-- The outcome of a call that submits a command for local address `a`: it fails and nothing has
been sent, or the command `c` has been sent. If no slots but those in `X` were without a command
before, no slot is without one after a command has been sent or no slot was free (`rc > 0`). -/
inductive Submitted (T : Target) (regs : List Nat) (mark a : Nat) (X : Set Nat) (s : Sys Net) (rc : Int)
    (s' : Sys Net) (c : Cmd) : Prop
  | unsent (hrc : rc ≠ 0) (hsent : s'.env.sent = s.env.sent) (inv : Inv T regs mark s')
      (tight : 0 < rc → Tight mark s X → Tight mark s' ∅)
  | sent (hrc : rc ≤ 0) (hsent : s'.env.sent = s.env.sent ++ [c]) (inv : Inv T (regs ++ [a]) mark s')
      (tight : Tight mark s X → Tight mark s' ∅)

/-- An error return before anything has been sent. -/
theorem Submitted.failed {a : Nat} {X : Set Nat} {c : Cmd} (hsent : s'.env.sent = s.env.sent)
    (inv : Inv T regs mark s') : Submitted T regs mark a X s (-1) s' c :=
  .unsent (by decide) hsent inv fun hrc => absurd hrc (by decide)

/-- Steps before the submission that send nothing. -/
theorem Submitted.of_steps {a : Nat} {X Y : Set Nat} {rc : Int} {c : Cmd} (h : Submitted T regs mark a Y s' rc s'' c)
    (hsent : s'.env.sent = s.env.sent) (ht : Tight mark s X → Tight mark s' Y) :
    Submitted T regs mark a X s rc s'' c := by
  cases h with
  | unsent hrc hs inv tight => exact .unsent hrc (hs.trans hsent) inv fun hrc h => tight hrc (ht h)
  | sent hrc hs inv tight => exact .sent hrc (hs.trans (by rw [hsent])) inv fun h => tight (ht h)

theorem submitTx_spec (h : Inv T regs mark s) {k a : Nat} (hres : Reserved mark s k a) (hdr : List U8)
    (hid : ∀ data, (Cmd.trId ⟨hdr, s.cfg.dpath.length, data⟩).toNat = k) (data size : Nat) :
    let r := smileFeeSubmitTx (netCallbacks T) s hdr data size
    Extends (Harmless mark) s r.2 ∧ r.2.cfg = s.cfg ∧
      Submitted T regs mark a {k} s r.1 r.2 ⟨hdr, s.cfg.dpath.length, txData r.2.mem data size⟩ := by
  have hrx := Rx.processRx h
  generalize hs1 : (smileFeeProcessRx (netCallbacks T) s).2 = s1 at hrx
  rcases htx : (netCallbacks T).tx s1.env hdr s1.cfg.dpath.length (txData s1.mem data size) with ⟨err, env⟩
  have hcases := Net.tx_cases s1.env hdr s1.cfg.dpath.length (txData s1.mem data size)
  rw [show Net.tx s1.env hdr s1.cfg.dpath.length (txData s1.mem data size) = (err, env) from htx] at hcases
  obtain ⟨hans, hq, hsent⟩ := hcases
  have key : Submitted T regs mark a {k} s (if err then -1 else 0) { s1 with env := env }
      ⟨hdr, s.cfg.dpath.length, txData s1.mem data size⟩ := by
    rcases hsent with ⟨herr, hsent⟩ | hsent
    · have herr : err = true := herr
      exact .unsent (by simp [herr]) (hsent.trans hrx.sent) (Rx.env hrx.inv env hsent hans hq).inv
        fun hrc => by simp [herr] at hrc
    · obtain ⟨hinv, htight⟩ := @Inv.sent T regs mark s1 { s1 with env := env } hrx.inv k a (hrx.reserved k a hres) _
        (hrx.cfg ▸ hid _) rfl rfl hans hq hsent
      have hsent' : env.sent = s.env.sent ++ [⟨hdr, s.cfg.dpath.length, txData s1.mem data size⟩] := by
        rw [← hrx.sent, ← hrx.cfg]; exact hsent
      exact .sent (by split <;> decide) hsent' hinv fun ht => htight (hrx.tight _ ht)
  have hext : Extends (Harmless mark) s { s1 with env := env } := hrx.ext
  simp only [smileFeeSubmitTx, hs1, htx, show (netCallbacks T).connected = true from rfl, Bool.not_true,
    Bool.false_eq_true, if_false]
  cases err
  · exact ⟨hext, hrx.cfg, key⟩
  · exact ⟨hext, hrx.cfg, key⟩

theorem submitCmd_spec (h : Inv T regs mark s) {k a : Nat} (hk : k < TRANS_LOG_SIZE) (hres : Reserved mark s k a)
    (fn : RmapCfg → U16 → List U8)
    (hfn : ∀ cfg transId data, Cmd.trId ⟨fn cfg transId, cfg.dpath.length, data⟩ = transId) (data size : Nat) :
    let r := submitCmd (netCallbacks T) s fn k data size
    Extends (Harmless mark) s r.2 ∧ r.2.cfg = s.cfg ∧ Submitted T regs mark a {k} s r.1 r.2
      ⟨fn s.cfg (BitVec.ofNat 16 k), s.cfg.dpath.length, txData r.2.mem data size⟩ := by
  have h1 := Rx.malloc h
  have h2 := Rx.malloc h1.inv
  have hid (data) : (Cmd.trId ⟨fn s.cfg (BitVec.ofNat 16 k), s.cfg.dpath.length, data⟩).toNat = k := by
    rw [hfn]
    simp only [TRANS_LOG_SIZE] at hk
    simp
    omega
  have hsub := submitTx_spec h2.inv (h2.reserved k a (h1.reserved k a hres)) _ hid data size
  rcases hm1 : (netCallbacks T).malloc s.env with ⟨ok1, env1⟩
  rcases hm2 : (netCallbacks T).malloc env1 with ⟨ok2, env2⟩
  have henv1 : s.env.malloc.2 = env1 := congrArg Prod.snd hm1
  have henv2 : env1.malloc.2 = env2 := congrArg Prod.snd hm2
  simp only [henv1, henv2] at h1 h2 hsub
  simp only [submitCmd, hm1, hm2]
  cases ok1
  · exact ⟨.of_eq rfl rfl, rfl, .failed h1.sent h1.inv⟩
  · simp only [Bool.not_true, Bool.false_eq_true, if_false]
    cases ok2
    · exact ⟨.of_eq rfl rfl, rfl, .failed (h2.sent.trans h1.sent) h2.inv⟩
    · simp only [if_true]
      split
      · exact ⟨.of_eq rfl rfl, rfl, .failed (h2.sent.trans h1.sent) h2.inv⟩
      · exact ⟨hsub.1, hsub.2.1, hsub.2.2.of_steps (h2.sent.trans h1.sent) fun ht => h2.tight _ (h1.tight _ ht)⟩

/-- `smile_fee_sync` with a command generator. -/
theorem sync_spec (h : Inv T regs mark s) (fn : RmapCfg → U16 → List U8)
    (hfn : ∀ cfg transId data, Cmd.trId ⟨fn cfg transId, cfg.dpath.length, data⟩ = transId) {a : Nat}
    (dataLen : Nat) (hnew : dataLen % 4 = 0 → NoReuse mark s a) :
    let r := smileFeeSync (netCallbacks T) s fn a dataLen
    Extends (Harmless mark) s r.2 ∧ r.2.cfg = s.cfg ∧ ∃ slot, Submitted T regs mark a ∅ s r.1 r.2
      ⟨fn s.cfg slot, s.cfg.dpath.length, txData r.2.mem a dataLen⟩ := by
  simp only [smileFeeSync]
  split
  · exact ⟨.of_eq rfl rfl, rfl, 0, .failed rfl h⟩
  · rename_i hlen
    rcases h.grab (hnew (not_not.1 hlen)) with ⟨k, hk, hg, hinv, hres, htight⟩ | hg
    · rw [hg, if_neg (by omega)]
      obtain ⟨hext, hcfg, hsub⟩ := submitCmd_spec hinv hk hres fn hfn a dataLen
      refine ⟨hext, hcfg, _, hsub.of_steps rfl fun ht => ?_⟩
      simpa using htight ∅ ht
    · rw [hg, if_pos neg_one_lt_zero]
      exact ⟨.of_eq rfl rfl, rfl, 0, .failed rfl h⟩

/-- `smile_fee_sync_data` with a command generator. -/
theorem syncData_spec (h : Inv T regs mark s) (fn : RmapCfg → U16 → U32 → U32 → List U8) (addr : U32)
    {a : Nat} (dataLen : U32) (read : Bool)
    (hfn : ∀ cfg transId data, Cmd.trId ⟨fn cfg transId addr dataLen, cfg.dpath.length, data⟩ = transId)
    (hnew : NoReuse mark (smileFeeProcessRx (netCallbacks T) s).2 a) :
    let r := smileFeeSyncData (netCallbacks T) s fn addr a dataLen read
    Extends (Harmless mark) s r.2 ∧ r.2.cfg = s.cfg ∧ ∃ slot, Submitted T regs mark a ∅ s r.1 r.2
      ⟨fn s.cfg slot addr dataLen, s.cfg.dpath.length,
        txData r.2.mem (if read then 0 else a) (if read then 0 else dataLen.toNat)⟩ := by
  have hrx := Rx.processRx h
  simp only [smileFeeSyncData]
  generalize (smileFeeProcessRx (netCallbacks T) s).2 = s1 at hrx hnew ⊢
  rcases hrx.inv.grab hnew with ⟨k, hk, hg, hinv, hres, htight⟩ | hg
  · rw [hg, if_neg (by omega)]
    obtain ⟨hext, hcfg, hsub⟩ := submitCmd_spec hinv hk hres (fun cfg transId => fn cfg transId addr dataLen) hfn
      (if read then 0 else a) (if read then 0 else dataLen.toNat)
    refine ⟨hrx.ext.trans hext, hcfg.trans hrx.cfg, BitVec.ofNat 16 k, ?_⟩
    rw [← hrx.cfg]
    refine hsub.of_steps hrx.sent fun ht => ?_
    simpa using htight ∅ (hrx.tight _ ht)
  · rw [hg, if_pos neg_one_lt_zero]
    exact ⟨hrx.ext, hrx.cfg, 0, .unsent one_ne_zero hrx.sent hrx.inv fun _ => hrx.tight _⟩

end SmileFee
