import SmileFee.GresbTarget
import SmileFee.Lib.Shadow

/-!
# The registers as a shadow

The registers of the mirror are those of a `Shadow`, and the commands that the library sends to the simulator in the
format of the GRESB are its requests (`ReqOf`): reads and writes of registers, and writes to the SRAM, which have nothing
to do with registers.

A `Stretch` of a session is a run of the shadow. There are two kinds of it: replies that are processed teach values that
were asked for (`Shadows.rx`), and a submitted command makes a request after that (`Shadows.submitted`).
-/

namespace SmileFee

open Word Mem

/-! ## Requests -/

/-- The command is the request. -/
def ReqOf (cfg : RmapCfg) (q : Shadow.Req Nat U32) (c : Cmd) : Prop :=
  match q with
  | .write n v => c.addr.toNat = 4 * n ∧ c.IsRegWrite cfg ∧
      ∃ (m : Mem) (a : Nat), v = loadBe32 m a ∧ c.data = some (m.read a 4)
  | .read n => c.addr.toNat = 4 * n ∧ c.IsRegRead cfg
  | .other => c.IsSramWrite cfg

/-- A request for a register is no write to the SRAM. -/
theorem not_isSramWrite {cfg : RmapCfg} {q : Shadow.Req Nat U32} {c : Cmd} (h : ReqOf cfg q c) (hq : q ≠ .other) :
    ¬ c.IsSramWrite cfg := by
  intro hc
  have hge : 0x800000 ≤ c.addr.toNat := hc.2.2.1.1
  have hlt : c.addr.toNat < 1944 := by
    cases q with
    | write n v => exact h.2.1.2.2.1
    | read n => exact h.2.2.2.1
    | other => exact absurd rfl hq
  omega

/-- The registers of the FEE when it receives command `j`. -/
def gresbRegs (sim : Mirror) (own : Nat → Mem → Mem) (junk : Nat → Junk) (fee₀ : Mem) (sent : List Cmd) (j n : Nat) :
    U32 :=
  sim.getReg n (gresbMem sim own junk fee₀ sent j)

/-- A register that the program of the FEE leaves alone changes by the requests. -/
theorem gresbRegs_follows {cfg : RmapCfg} (hd : cfg.dpath = []) (hr : cfg.rpath = []) {sim : Mirror}
    (hsim : sim.Apart) (own : Nat → Mem → Mem) (junk : Nat → Junk) (fee₀ : Mem) {reqs : List (Shadow.Req Nat U32)}
    {sent : List Cmd} (h : List.Forall₂ (ReqOf cfg) reqs sent) {W : Type} {r : Nat} (hlt : r < 486) {o : U32 → W}
    (hown : ∀ j m, o (sim.getReg r (own j m)) = o (sim.getReg r m)) :
    Shadow.Follows (gresbRegs sim own junk fee₀ sent) reqs r o := by
  intro j q hq
  obtain ⟨hj, rfl⟩ := List.getElem?_eq_some_iff.1 hq
  have hj' : j < sent.length := by rw [← h.length_eq]; exact hj
  have hreq : ReqOf cfg reqs[j] sent[j] := h.get hj hj'
  simp only [gresbRegs, gresbMem, hown, List.getElem?_eq_getElem hj']
  generalize gresbMem sim own junk fee₀ sent j = mem
  generalize sent[j] = c at hreq ⊢
  generalize reqs[j] = q at hreq ⊢
  cases q with
  | read n =>
    obtain ⟨reply, hrx, -⟩ := gresbReceive_regRead hd hr sim hreq.2 (junk j) mem
    rw [hrx]
    rfl
  | other =>
    obtain ⟨data, reply, hsome, hrx, -⟩ := gresbReceive_sramWrite hd hr sim hreq (junk j) mem
    have hin : SramRange c.addr data.length := by
      rw [Cmd.IsSramWrite.length_data hreq hsome]
      exact hreq.2.2.1
    rw [hrx]
    exact congrArg o (Mirror.getReg_write_sram hsim hlt mem hin)
  | write n v =>
    obtain ⟨haddr, hw, m, a, rfl, hdata⟩ := hreq
    obtain ⟨data, reply, hsome, hrx, -⟩ := gresbReceive_regWrite hd hr sim hw (junk j) mem
    obtain rfl := Option.some.inj (hdata.symm.trans hsome)
    rw [hrx, haddr]
    show o (sim.getReg r (mem.write (sim.cfgReg n) (m.read a 4))) = o (if n = r then _ else sim.getReg r mem)
    split
    · rename_i hn
      rw [hn, sim.getReg_eq, loadBe32_write_read]
    · rename_i hn
      rw [sim.getReg_eq, loadBe32_write_disjoint, ← sim.getReg_eq]
      simp only [Mirror.cfgReg, length_read]
      omega

/-! ## What replies teach -/

/-- What a packet that has been read means for the mirror: nothing, or a value that was asked for. -/
inductive Teaches (mir : Mirror) (remote : Nat → Nat → U32) (reqs : List (Shadow.Req Nat U32)) (e : Pkt × RxResult) :
    Prop
  | nothing (heffect : ∀ m, e.2.effect m = m)
      (hread : ∀ r, reqs[e.1.origin]? = some (.read r) → e.1.origin ∉ applied [e])
  | value {r slot a : Nat} {m : Mem} (hreq : reqs[e.1.origin]? = some (.read r)) (hlt : r < 486)
      (happlied : e.2 = .applied slot (mir.cfgReg r) (m.read a 4)) (hval : loadBe32 m a = remote e.1.origin r)

/-- The shadow `a` when `pre` has been read: its mirror is in the memory `m`, and the values have come back that were
applied. -/
structure Reflects (mir : Mirror) (pre : List (Pkt × RxResult)) (m : Mem) (a : Shadow.State Nat U32) : Prop where
  mirror : ∀ n < 486, a.mirror n = mir.getReg n m
  learned : ∀ i, i ∈ a.learned ↔ (∃ r, a.sent[i]? = some (.read r)) ∧ i ∈ applied pre

section Teaches

variable {mir : Mirror} {remote : Nat → Nat → U32} {pre : List (Pkt × RxResult)} {a : Shadow.State Nat U32} {m : Mem}
  {e : Pkt × RxResult}

theorem eq_origin_of_applied {i : Nat} (h : i ∈ applied [e]) : i = e.1.origin := by
  have hread := applied_subset _ h
  simpa [answersRead] using hread

theorem mem_applied_concat {i : Nat} : i ∈ applied (pre ++ [e]) ↔ i ∈ applied pre ∨ i ∈ applied [e] := by
  rw [applied_append, List.mem_append]

/-- A packet that is no answer to a read teaches nothing. -/
theorem Reflects.nothing (h : Reflects mir pre m a) (heffect : ∀ m, e.2.effect m = m)
    (hread : ∀ r, a.sent[e.1.origin]? = some (.read r) → e.1.origin ∉ applied [e]) :
    Reflects mir (pre ++ [e]) (e.2.effect m) a where
  mirror n hn := by rw [heffect, h.mirror n hn]
  learned i := by
    rw [h.learned, mem_applied_concat]
    refine and_congr_right fun hsome => ⟨Or.inl, fun hmem => hmem.elim id fun hnew => ?_⟩
    obtain ⟨r, hi⟩ := hsome
    obtain rfl := eq_origin_of_applied hnew
    exact absurd hnew (hread r hi)

/-- A value is put into its register of the mirror. -/
theorem Reflects.value (h : Reflects mir pre m a) {r slot x : Nat} {mem : Mem}
    (hreq : a.sent[e.1.origin]? = some (.read r)) (happlied : e.2 = .applied slot (mir.cfgReg r) (mem.read x 4)) :
    Reflects mir (pre ++ [e]) (e.2.effect m)
      { a with mirror := Function.update a.mirror r (loadBe32 mem x), learned := a.learned ++ [e.1.origin] } where
  mirror n hn := by
    dsimp only
    rw [happlied, RxResult.effect, mir.getReg_eq]
    by_cases hnr : n = r
    · rw [hnr, Function.update_self, loadBe32_write_read]
    · rw [Function.update_of_ne hnr, h.mirror n hn, mir.getReg_eq, loadBe32_write_disjoint]
      simp only [Mirror.cfgReg, length_read]
      omega
  learned i := by
    dsimp only
    rw [List.mem_append, h.learned, mem_applied_concat, and_or_left]
    refine or_congr Iff.rfl ⟨fun hi => ?_, fun hi => ?_⟩
    · rw [List.mem_singleton.1 hi]
      exact ⟨⟨r, hreq⟩, by simp [applied, happlied]⟩
    · exact List.mem_singleton.2 (eq_origin_of_applied hi.2)

/-- A value that is read has not come back before. -/
theorem Reflects.not_learned (h : Reflects mir pre m a) (hnodup : (answersRead (pre ++ [e])).Nodup) :
    e.1.origin ∉ a.learned := by
  rw [h.learned]
  rintro ⟨-, hold⟩
  have happ : answersRead (pre ++ [e]) = answersRead pre ++ [e.1.origin] := by simp [answersRead]
  rw [happ] at hnodup
  exact (List.nodup_append.1 hnodup).2.2 _ (applied_subset _ hold) _ (List.mem_singleton_self _) rfl

/-- **One packet** that is read. -/
theorem Teaches.step (he : Teaches mir remote a.sent e) (h : Reflects mir pre m a)
    (hnodup : (answersRead (pre ++ [e])).Nodup) :
    ∃ es a', (∀ ev ∈ es, ∃ i, ev = .learn i) ∧ Shadow.Run remote a es a' ∧ a'.sent = a.sent ∧
      Reflects mir (pre ++ [e]) (e.2.effect m) a' ∧ ∀ x, ¬ mir.InRegs x → e.2.effect m x = m x := by
  cases he with
  | nothing heffect hread =>
    exact ⟨[], a, fun ev hev => absurd hev List.not_mem_nil, .nil a, rfl, h.nothing heffect hread,
      fun x _ => by rw [heffect]⟩
  | @value r slot x mem hreq hlt happlied hval =>
    refine ⟨[.learn e.1.origin], _, ?_, .single (.learn a hreq (h.not_learned hnodup)), rfl,
      hval ▸ h.value hreq happlied, fun y hy => ?_⟩
    · rw [List.forall_mem_singleton]
      exact ⟨_, rfl⟩
    · rw [happlied, RxResult.effect]
      refine write_outside _ _ _ _ ?_
      by_contra hin
      rw [length_read] at hin
      exact hy (Mirror.inRegs_cfgReg hlt (by omega) (by omega))

/-- The packets that are read are a run of the shadow, in which values come back. -/
theorem Teaches.run {l : List (Pkt × RxResult)} (hl : ∀ e ∈ l, Teaches mir remote a.sent e)
    (hnodup : (answersRead (pre ++ l)).Nodup) (h : Reflects mir pre m a) :
    ∃ es a', (∀ e ∈ es, ∃ i, e = .learn i) ∧ Shadow.Run remote a es a' ∧ a'.sent = a.sent ∧
      Reflects mir (pre ++ l) (replay m l) a' ∧ ∀ x, ¬ mir.InRegs x → replay m l x = m x := by
  induction l generalizing pre a m with
  | nil =>
    rw [List.append_nil]
    exact ⟨[], a, fun e he => absurd he List.not_mem_nil, .nil a, rfl, h, fun x _ => rfl⟩
  | cons e l ih =>
    rw [List.forall_mem_cons] at hl
    obtain ⟨he, hl⟩ := hl
    rw [show pre ++ e :: l = (pre ++ [e]) ++ l by simp] at hnodup ⊢
    have hfirst : (answersRead (pre ++ [e])).Nodup := by
      rw [answersRead, List.map_append] at hnodup
      exact (List.nodup_append.1 hnodup).1
    obtain ⟨es, a₁, hes, hrun, hsent, h₁, hkept⟩ := he.step h hfirst
    obtain ⟨es', a', hes', hrun', hsent', h', hkept'⟩ := ih (hsent ▸ hl) hnodup h₁
    refine ⟨es ++ es', a', fun ev hev => ?_, hrun.append hrun', hsent'.trans hsent, h',
      fun x hx => (hkept' x hx).trans (hkept x hx)⟩
    exact (List.mem_append.1 hev).elim (hes ev) (hes' ev)

end Teaches

/-! ## The relation between a session and its shadow -/

/-- The session `s` is that of the shadow `a`. -/
structure Shadows (T : Target) (cfg : RmapCfg) (mir : Mirror) (a : Shadow.State Nat U32) (s : Sys Net) : Prop where
  cfg_eq : s.cfg = cfg
  mirror : ∀ n < 486, a.mirror n = mir.getReg n s.mem
  sent : List.Forall₂ (ReqOf cfg) a.sent s.env.sent
  inv : ∃ regs, Inv T regs 0 s ∧ ∀ i r, a.sent[i]? = some (.read r) → regs.getD i 0 = mir.cfgReg r
  genuine : Genuine T s.env.sent.length s.env s.rxLog
  learned : ∀ i, i ∈ a.learned ↔ (∃ r, a.sent[i]? = some (.read r)) ∧ i ∈ applied s.rxLog

section Session

variable {cfg : RmapCfg} (hd : cfg.dpath = []) (hr : cfg.rpath = []) (sim : Mirror) (own : Nat → Mem → Mem)
  (junk : Nat → Junk) (fee₀ : Mem) (mir : Mirror)

variable {a : Shadow.State Nat U32} {s s' : Sys Net} {S : List Cmd}

/-- The packets read by a call are replies to the requests before it. -/
theorem Shadows.teaches (h : Shadows (gresbTarget hd hr sim own junk fee₀) cfg mir a s) {regs : List Nat}
    (hinv : Inv (gresbTarget hd hr sim own junk fee₀) regs 0 s')
    (hregs : ∀ i r, a.sent[i]? = some (.read r) → regs.getD i 0 = mir.cfgReg r) (hold : s.env.sent <+: s'.env.sent)
    (hS : s'.env.sent <+: S)
    (hgenuine : Genuine (gresbTarget hd hr sim own junk fee₀) s.env.sent.length s'.env s'.rxLog) {e : Pkt × RxResult}
    (he : e ∈ s'.rxLog) : Teaches mir (gresbRegs sim own junk fee₀ S) a.sent e := by
  obtain ⟨hlt, answered, hans⟩ := hgenuine e.1 (Or.inr (List.mem_map_of_mem he))
  obtain ⟨c, data, hc, hrep, -, hres⟩ := hinv.log e he
  have hlt' : e.1.origin < a.sent.length := by rw [h.sent.length_eq]; exact hlt
  have hsent : s.env.sent[e.1.origin]? = some c := by
    have hsome := List.getElem?_eq_getElem hlt
    exact hsome.trans ((Shadow.getElem?_of_isPrefix hold hsome).symm.trans hc)
  have hreq : ReqOf cfg a.sent[e.1.origin] c := by
    have hget : ReqOf cfg a.sent[e.1.origin] s.env.sent[e.1.origin] := h.sent.get hlt' hlt
    rwa [show s.env.sent[e.1.origin] = c from Option.some.inj ((List.getElem?_eq_getElem hlt).symm.trans hsent)] at hget
  have hq : a.sent[e.1.origin]? = some a.sent[e.1.origin] := List.getElem?_eq_getElem hlt'
  have haddr := hregs e.1.origin
  generalize a.sent[e.1.origin] = q at hreq hq
  rcases hres with hres | hres | ⟨hres, -⟩
  · exact .nothing (fun m => by rw [hres]; rfl) (fun r _ => by simp [applied, hres])
  · -- the reply to a write has no data
    have hquiet : c.isWrite = true → (∀ r, q ≠ .read r) → Teaches mir (gresbRegs sim own junk fee₀ S) a.sent e := by
      intro hw hne
      refine .nothing (fun m => ?_) (fun r hread => ?_)
      · rw [hres, hrep.data_of_write hw]
        exact Mem.write_nil m _
      · exact absurd (Option.some.inj (hq.symm.trans hread)) (hne r)
    cases q with
    | write n v => exact hquiet (isWrite_of_regWrite hd hreq.2.1) fun r h => by cases h
    | other => exact hquiet (isWrite_of_sramWrite hd hreq) fun r h => by cases h
    | read n =>
      have hdata := data_of_answer hd hr sim own junk fee₀ hc hreq.2 hrep hans
      have hlow : c.addr.toNat < 1944 := hreq.2.2.2.1
      have hlt486 : n < 486 := by
        have := hreq.1
        omega
      rw [haddr n hq, hdata, hreq.1] at hres
      refine .value hq hlt486 hres ?_
      rw [gresbRegs, sim.getReg_eq, gresbMem_of_prefix sim own junk fee₀ hS]
      · rfl
      · exact (List.getElem?_eq_some_iff.1 hc).1.le
  · exact .nothing (fun m => by rw [hres]; rfl) (fun r _ => by simp [applied, hres])

/-- **Reading replies** is a run of the shadow in which values come back. -/
theorem Shadows.learns (h : Shadows (gresbTarget hd hr sim own junk fee₀) cfg mir a s) {regs : List Nat}
    (hinv : Inv (gresbTarget hd hr sim own junk fee₀) regs 0 s')
    (hregs : ∀ i r, a.sent[i]? = some (.read r) → regs.getD i 0 = mir.cfgReg r) (hold : s.env.sent <+: s'.env.sent)
    (hS : s'.env.sent <+: S) (hext : Extends (Harmless 0) s s')
    (hgenuine : Genuine (gresbTarget hd hr sim own junk fee₀) s.env.sent.length s'.env s'.rxLog) :
    ∃ es a', (∀ e ∈ es, ∃ i, e = .learn i) ∧ Shadow.Run (gresbRegs sim own junk fee₀ S) a es a' ∧ a'.sent = a.sent ∧
      Reflects mir s'.rxLog s'.mem a' ∧ ∀ x, ¬ mir.InRegs x → s'.mem x = s.mem x := by
  obtain ⟨new, hlog, hmem, -⟩ := hext
  have hteach : ∀ e ∈ new, Teaches mir (gresbRegs sim own junk fee₀ S) a.sent e := fun e he =>
    h.teaches hd hr sim own junk fee₀ mir hinv hregs hold hS hgenuine (by rw [hlog]; exact List.mem_append_right _ he)
  have hnodup : (answersRead (s.rxLog ++ new)).Nodup := by
    rw [← hlog]
    exact (List.nodup_append.1 (hinv.queue.nodup_iff.1 hinv.nodup)).1
  rw [hmem, hlog]
  exact Teaches.run hteach hnodup ⟨h.mirror, h.learned⟩

end Session

/-! ## Stretches -/

/-- What has been done, values that come back aside. -/
def requests (es : List (Shadow.Event Nat U32)) : List (Shadow.Event Nat U32) := es.filter fun e => !e.isLearn

theorem requests_append (es es' : List (Shadow.Event Nat U32)) : requests (es ++ es') = requests es ++ requests es' :=
  List.filter_append ..

theorem mem_requests {es : List (Shadow.Event Nat U32)} {e : Shadow.Event Nat U32} :
    e ∈ requests es ↔ e ∈ es ∧ e.isLearn = false := by
  simp [requests]

theorem requests_learns {es : List (Shadow.Event Nat U32)} (h : ∀ e ∈ es, ∃ i, e = .learn i) : requests es = [] := by
  rw [requests, List.filter_eq_nil_iff]
  intro e he
  obtain ⟨i, rfl⟩ := h e he
  simp [Shadow.Event.isLearn]

/-- Values come back, then the request `e` is made. -/
def Makes (e : Shadow.Event Nat U32) (es : List (Shadow.Event Nat U32)) : Prop :=
  ∃ pre, requests pre = [] ∧ es = pre ++ [e]

theorem Makes.requests {e : Shadow.Event Nat U32} {es : List (Shadow.Event Nat U32)} (h : Makes e es)
    (he : e.isLearn = false) : requests es = [e] := by
  obtain ⟨pre, hpre, rfl⟩ := h
  rw [requests_append, hpre, List.nil_append]
  simp [SmileFee.requests, he]

/-- A stretch of a session, in which the shadow runs along and `cmds` are sent. Of the memory only registers change. -/
structure Stretch (T : Target) (remote : Nat → Nat → U32) (cfg : RmapCfg) (mir : Mirror) (a : Shadow.State Nat U32)
    (s : Sys Net) (es : List (Shadow.Event Nat U32)) (cmds : List Cmd) (a' : Shadow.State Nat U32) (s' : Sys Net) :
    Prop where
  run : Shadow.Run remote a es a'
  shadows : Shadows T cfg mir a' s'
  sent : s'.env.sent = s.env.sent ++ cmds
  kept : ∀ x, ¬ mir.InRegs x → s'.mem x = s.mem x

section Stretch

variable {T : Target} {remote : Nat → Nat → U32} {cfg : RmapCfg} {mir : Mirror} {a a' a'' : Shadow.State Nat U32}
  {s s' s'' : Sys Net} {es es' : List (Shadow.Event Nat U32)} {cmds cmds' : List Cmd}

theorem Stretch.refl (h : Shadows T cfg mir a s) : Stretch T remote cfg mir a s [] [] a s :=
  ⟨.nil a, h, (List.append_nil _).symm, fun _ _ => rfl⟩

theorem Stretch.trans (h : Stretch T remote cfg mir a s es cmds a' s')
    (h' : Stretch T remote cfg mir a' s' es' cmds' a'' s'') :
    Stretch T remote cfg mir a s (es ++ es') (cmds ++ cmds') a'' s'' := by
  refine ⟨h.run.append h'.run, h'.shadows, ?_, fun x hx => (h'.kept x hx).trans (h.kept x hx)⟩
  rw [h'.sent, h.sent, List.append_assoc]

theorem Stretch.sent_prefix (h : Stretch T remote cfg mir a s es cmds a' s') : s.env.sent <+: s'.env.sent := by
  rw [h.sent]
  exact List.prefix_append _ _

/-- A stretch without `other` writes nothing to the SRAM. -/
theorem Stretch.no_sramWrite (h₀ : Shadows T cfg mir a s) (h : Stretch T remote cfg mir a s es cmds a' s')
    (hes : .other ∉ requests es) : ∀ c ∈ cmds, ¬ c.IsSramWrite cfg := by
  intro c hc
  obtain ⟨i, hi, rfl⟩ := List.getElem_of_mem hc
  have hlen : s.env.sent.length + i < s'.env.sent.length := by
    rw [h.sent, List.length_append]
    omega
  have hlen' : s.env.sent.length + i < a'.sent.length := by rwa [h.shadows.sent.length_eq]
  have hreq : ReqOf cfg a'.sent[s.env.sent.length + i] s'.env.sent[s.env.sent.length + i] := h.shadows.sent.get hlen' hlen
  have hcmd : s'.env.sent[s.env.sent.length + i] = cmds[i] := by
    simp only [h.sent]
    rw [List.getElem_append_right (Nat.le_add_right _ _)]
    simp
  rw [hcmd] at hreq
  refine not_isSramWrite hreq fun hother => hes ?_
  have hmade := h.run.made (j := s.env.sent.length + i) (by rw [h₀.sent.length_eq]; exact Nat.le_add_right _ _)
    (List.getElem?_eq_getElem hlen')
  rw [hother] at hmade
  exact mem_requests.2 ⟨hmade, rfl⟩

end Stretch

section Session

variable {cfg : RmapCfg} (hd : cfg.dpath = []) (hr : cfg.rpath = []) (sim : Mirror) (own : Nat → Mem → Mem)
  (junk : Nat → Junk) (fee₀ : Mem) (mir : Mirror)

variable {a : Shadow.State Nat U32} {s s' : Sys Net} {S : List Cmd}

/-- A call that sends nothing. -/
theorem Shadows.rx (h : Shadows (gresbTarget hd hr sim own junk fee₀) cfg mir a s)
    (hrx : ∀ regs, Inv (gresbTarget hd hr sim own junk fee₀) regs 0 s →
      Rx (gresbTarget hd hr sim own junk fee₀) regs 0 s s')
    (hgenuine : Genuine (gresbTarget hd hr sim own junk fee₀) s.env.sent.length s'.env s'.rxLog)
    (hS : s'.env.sent <+: S) : ∃ es a', requests es = [] ∧
      Stretch (gresbTarget hd hr sim own junk fee₀) (gresbRegs sim own junk fee₀ S) cfg mir a s es [] a' s' := by
  obtain ⟨regs, hinv, hregs⟩ := h.inv
  have hr' := hrx regs hinv
  have hsent := hr'.sent
  obtain ⟨es, a', hes, hrun, hsent', hreflects, hkept⟩ :=
    h.learns hd hr sim own junk fee₀ mir hr'.inv hregs (hsent ▸ List.prefix_rfl) hS hr'.ext hgenuine
  refine ⟨es, a', requests_learns hes, hrun, ⟨hr'.cfg.trans h.cfg_eq, hreflects.mirror, ?_, ⟨regs, hr'.inv, ?_⟩, ?_,
    hreflects.learned⟩, by rw [hsent, List.append_nil], hkept⟩
  · rw [hsent', hsent]; exact h.sent
  · rw [hsent']; exact hregs
  · rw [hsent]; exact hgenuine

/-- **A request**: values come back, then it is made. If the call fails it may not have been. -/
theorem Shadows.submitted (h : Shadows (gresbTarget hd hr sim own junk fee₀) cfg mir a s) {regs : List Nat}
    (hinv : Inv (gresbTarget hd hr sim own junk fee₀) regs 0 s)
    (hregs : ∀ i r, a.sent[i]? = some (.read r) → regs.getD i 0 = mir.cfgReg r) {rc : Int} {addr : Nat} {c : Cmd}
    (hext : Extends (Harmless 0) s s') (hcfg : s'.cfg = s.cfg)
    (hsub : Submitted (gresbTarget hd hr sim own junk fee₀) regs 0 addr ∅ s rc s' c)
    (hgenuine : Genuine (gresbTarget hd hr sim own junk fee₀) s.env.sent.length s'.env s'.rxLog)
    {ev : Shadow.Event Nat U32} {q : (Nat → U32) → Shadow.Req Nat U32}
    (hstep : ∀ b : Shadow.State Nat U32,
      Shadow.Step (gresbRegs sim own junk fee₀ S) b ev { b with sent := b.sent ++ [q b.mirror] })
    (hq : ∀ μ : Nat → U32, (∀ n < 486, μ n = mir.getReg n s'.mem) → ReqOf cfg (q μ) c ∧
      ∀ n, q μ = .read n → addr = mir.cfgReg n)
    (hS : s'.env.sent <+: S) : ∃ es cmds a',
      Stretch (gresbTarget hd hr sim own junk fee₀) (gresbRegs sim own junk fee₀ S) cfg mir a s es cmds a' s' ∧
      (rc ≤ 0 ∧ Makes ev es ∧ cmds = [c] ∨ rc ≠ 0 ∧ requests es = [] ∧ cmds = []) := by
  cases hsub with
  | unsent hrc hsent hinv' htight =>
    obtain ⟨es, a', hes, hrun, hsent', hreflects, hkept⟩ :=
      h.learns hd hr sim own junk fee₀ mir hinv' hregs (hsent ▸ List.prefix_rfl) hS hext hgenuine
    refine ⟨es, [], a', ⟨hrun, ⟨hcfg.trans h.cfg_eq, hreflects.mirror, ?_, ⟨regs, hinv', ?_⟩, ?_, hreflects.learned⟩,
      by rw [hsent, List.append_nil], hkept⟩, Or.inr ⟨hrc, requests_learns hes, rfl⟩⟩
    · rw [hsent', hsent]; exact h.sent
    · rw [hsent']; exact hregs
    · rw [hsent]; exact hgenuine
  | sent hrc hsent hinv' htight =>
    have hlen := h.sent.length_eq
    have hregs' : ∀ i r, a.sent[i]? = some (.read r) → (regs ++ [addr]).getD i 0 = mir.cfgReg r := by
      intro i r hi
      have hi' := (List.getElem?_eq_some_iff.1 hi).1
      rw [List.getD_append _ _ _ _ (by rw [hinv.regs_len, ← hlen]; exact hi')]
      exact hregs i r hi
    obtain ⟨es, a', hes, hrun, hsent', hreflects, hkept⟩ :=
      h.learns hd hr sim own junk fee₀ mir hinv' hregs' (hsent ▸ List.prefix_append _ _) hS hext hgenuine
    obtain ⟨hreq, hreg⟩ := hq a'.mirror hreflects.mirror
    refine ⟨es ++ [ev], [c], { a' with sent := a'.sent ++ [q a'.mirror] }, ⟨hrun.append (.single (hstep a')),
      ⟨hcfg.trans h.cfg_eq, hreflects.mirror, ?_, ⟨_, hinv', ?_⟩, ?_, ?_⟩, hsent, hkept⟩,
      Or.inl ⟨hrc, ⟨es, requests_learns hes, rfl⟩, rfl⟩⟩
    · rw [hsent', hsent]
      exact List.rel_append h.sent (.cons hreq .nil)
    · intro i r hi
      rw [hsent'] at hi
      by_cases hlt : i < a.sent.length
      · rw [List.getElem?_append_left hlt] at hi
        exact hregs' i r hi
      · rw [List.getElem?_append_right (Nat.le_of_not_lt hlt), List.getElem?_singleton] at hi
        split at hi
        · rename_i hz
          rw [List.getD_append_right _ _ _ _ (by rw [hinv.regs_len]; omega), hinv.regs_len, ← hlen, hz]
          exact hreg r (Option.some.inj hi)
        · cases hi
    · rw [hsent, List.length_append]
      exact hgenuine.mono (Nat.le_add_right _ _)
    · intro i
      rw [hreflects.learned, hsent']
      refine and_congr_left fun happ => exists_congr fun r' => ?_
      have hlt : i < a.sent.length := by
        obtain ⟨e, he, rfl⟩ := List.mem_map.1 (applied_subset _ happ)
        rw [hlen]
        exact (hgenuine e.1 (Or.inr (List.mem_map_of_mem he))).1
      rw [List.getElem?_append_left hlt]

/-- **A synchronisation of a register.** -/
theorem Shadows.sync (h : Shadows (gresbTarget hd hr sim own junk fee₀) cfg mir a s) (fn : RmapCfg → U16 → List U8)
    (hfn : ∀ cfg transId data, Cmd.trId ⟨fn cfg transId, cfg.dpath.length, data⟩ = transId) {n dataLen : Nat}
    {ev : Shadow.Event Nat U32} {q : (Nat → U32) → Shadow.Req Nat U32}
    (hstep : ∀ b : Shadow.State Nat U32,
      Shadow.Step (gresbRegs sim own junk fee₀ S) b ev { b with sent := b.sent ++ [q b.mirror] })
    (hq : ∀ slot (m : Mem) (μ : Nat → U32), (∀ n' < 486, μ n' = mir.getReg n' m) →
      ReqOf cfg (q μ) ⟨fn cfg slot, cfg.dpath.length, txData m (mir.cfgReg n) dataLen⟩ ∧ ∀ n', q μ = .read n' → n' = n)
    {rc : Int} (hc : smileFeeSync (netCallbacks (gresbTarget hd hr sim own junk fee₀)) s fn (mir.cfgReg n) dataLen =
      (rc, s')) (hS : s'.env.sent <+: S) : ∃ es cmds a',
      Stretch (gresbTarget hd hr sim own junk fee₀) (gresbRegs sim own junk fee₀ S) cfg mir a s es cmds a' s' ∧
      (Makes ev es ∨ rc ≠ 0 ∧ requests es = []) := by
  obtain ⟨regs, hinv, hregs⟩ := h.inv
  obtain ⟨hext, hcfg, slot, hsub⟩ := sync_spec hinv fn hfn dataLen fun _ => NoReuse.zero s (mir.cfgReg n)
  have hgenuine :=
    (netCallbacks_genuine (gresbTarget_steady hd hr sim own junk fee₀)).sync (s := s) ⟨rfl, h.genuine⟩ fn
      (mir.cfgReg n) dataLen
  rw [hc] at hext hcfg hsub hgenuine
  obtain ⟨es, cmds, a', hst, hdone⟩ := h.submitted hd hr sim own junk fee₀ mir hinv hregs hext hcfg hsub hgenuine
    hstep (fun μ hμ => by
      obtain ⟨hreq, hreg⟩ := hq slot s'.mem μ hμ
      rw [h.cfg_eq]
      exact ⟨hreq, fun n' hn' => by rw [hreg n' hn']⟩) hS
  exact ⟨es, cmds, a', hst, hdone.imp (fun hd => hd.2.1) fun hf => ⟨hf.1, hf.2.1⟩⟩

end Session

end SmileFee
