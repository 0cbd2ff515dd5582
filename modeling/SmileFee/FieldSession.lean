import SmileFee.FeeSession

/-!
# What can be relied on in a session

* **`field_read_back`**: a field that is read has the value that it has in the FEE;
* **`field_written`**: one that is written is in the FEE what it is in the mirror, from then on;
* **`field_restored`**: what is read back is what was written;
* **`hkRegs_consistent`**: the housekeeping of a register is from one moment.

All this is about the bits of a field, whose register may have other fields that the session goes on to change.
-/

namespace SmileFee

open Word Mem

section Results

variable {cfg : RmapCfg} {hd : cfg.dpath = []} {hr : cfg.rpath = []} {sim : Mirror} {own : Nat → Mem → Mem}
  {junk : Nat → Junk} {fee₀ : Mem} {mir : Mirror} {a a' : Shadow.State Nat U32} {s s' : Sys Net}

/-- The values of register `n` that the first `k` commands asked for have come back. -/
def Returned (cfg : RmapCfg) (n k : Nat) (s : Sys Net) : Prop :=
  ∀ i < k, ∀ c ∈ s.env.sent[i]?, c.addr.toNat = 4 * n → c.IsRegRead cfg → i ∈ applied s.rxLog

instance (cfg : RmapCfg) (n k : Nat) (s : Sys Net) : Decidable (Returned cfg n k s) :=
  inferInstanceAs (Decidable (∀ i < k, ∀ c ∈ s.env.sent[i]?, _))

/-- When no transaction is pending, all values have come back. -/
theorem Shadows.returned (h : Shadows (gresbTarget hd hr sim own junk fee₀) cfg mir a s) (hidle : s.log.pending = 0)
    (n k : Nat) : Returned cfg n k s := by
  obtain ⟨regs, hinv, -⟩ := h.inv
  exact fun i _ c hc _ _ => hinv.all_applied hidle (Nat.zero_le i) (List.getElem?_eq_some_iff.1 hc).1

theorem Returned.learned {n k : Nat} (hret : Returned cfg n k s)
    (h : Shadows (gresbTarget hd hr sim own junk fee₀) cfg mir a s) {i : Nat} (hi : i < k)
    (hread : a.sent[i]? = some (.read n)) : i ∈ a.learned := by
  obtain ⟨hlt, hget⟩ := List.getElem?_eq_some_iff.1 hread
  have hlt' : i < s.env.sent.length := by rw [← h.sent.length_eq]; exact hlt
  have hreq : ReqOf cfg a.sent[i] s.env.sent[i] := h.sent.get hlt hlt'
  rw [hget] at hreq
  exact (h.learned i).2 ⟨⟨n, hread⟩, hret i hi _ (List.getElem?_eq_getElem hlt') hreq.1 hreq.2⟩

/-- **Reading back** a register that is not written from command `w` on. The values asked for before that have come back
at the start, and all of them in the end. -/
theorem Shadows.read_back {S : List Cmd} (h : Shadows (gresbTarget hd hr sim own junk fee₀) cfg mir a s) {n w : Nat}
    (hw : w ≤ s.env.sent.length) (hret : Returned cfg n w s) {es : List (Shadow.Event Nat U32)}
    (hrun : Shadow.Run (gresbRegs sim own junk fee₀ S) a es a')
    (h' : Shadows (gresbTarget hd hr sim own junk fee₀) cfg mir a' s') (hret' : Returned cfg n s'.env.sent.length s')
    {W : Type} (hn : n < 486) {o : U32 → W} (hleaves : ∀ e ∈ es, e.Leaves n o)
    (hfollows : Shadow.Follows (gresbRegs sim own junk fee₀ S) a'.sent n o)
    (hno : ∀ j v, w ≤ j → a'.sent[j]? ≠ some (.write n v)) (hread : .read n ∈ es) {k : Nat} (hk : w ≤ k)
    (hk' : k ≤ s'.env.sent.length) : o (mir.getReg n s'.mem) = o (gresbRegs sim own junk fee₀ S k n) := by
  have hlen := h.sent.length_eq
  have hlen' := h'.sent.length_eq
  obtain ⟨i, hi, hin⟩ := hrun.asked hread
  have hlt := (List.getElem?_eq_some_iff.1 hin).1
  have hstart : ∀ i < w, a'.sent[i]? = some (.read n) → i ∈ a.learned := by
    intro i hi hread'
    have hsome : a.sent[i]? = some a.sent[i] := List.getElem?_eq_getElem (by omega)
    have hsame := (Shadow.getElem?_of_isPrefix hrun.sent_prefix hsome).symm.trans hread'
    exact hret.learned h hi (hsome.trans hsame)
  rw [← h'.mirror n hn]
  exact hrun.coherent hleaves hfollows hstart hno
    ⟨i, hret'.learned h' (by omega) hin, h.not_learned hi, hin⟩ hk (by omega)

/-- **A write** that returns 0 has been sent, with the value of the mirror. -/
theorem Shadows.written {S : List Cmd} (hmir : mir.Alloc) (h : Shadows (gresbTarget hd hr sim own junk fee₀) cfg mir a s)
    {g : Field} {d : Outside}
    (hc : FeeCall.exec (gresbTarget hd hr sim own junk fee₀) mir s ⟨.sync .dpu2fee g, d⟩ = some (0, s'))
    (hS : s'.env.sent <+: S) : ∃ pre a', requests pre = [] ∧
      Shadow.Run (gresbRegs sim own junk fee₀ S) a (pre ++ [.write g.reg]) a' ∧
      Shadows (gresbTarget hd hr sim own junk fee₀) cfg mir a' s' := by
  rw [FeeCall.exec_sync, Option.some.injEq] at hc
  obtain ⟨es, cmds, a', hst, hes⟩ := (h.enter hd hr sim own junk fee₀ d).write hd hr sim own junk fee₀ hmir.fee_ne g.reg_lt
    hc hS
  obtain ⟨pre, hpre, rfl⟩ := hes.resolve_right fun hf => hf.1 rfl
  exact ⟨pre, a', hpre, hst.run, hst.shadows⟩

/-- After a write the FEE agrees with the mirror, if the values asked for before it had come back. -/
theorem Shadows.written_agrees (hsim : sim.Apart) (hmir : mir.Alloc)
    (h : Shadows (gresbTarget hd hr sim own junk fee₀) cfg mir a s) {f g : Field} (hreg : g.reg = f.reg)
    (hret : Returned cfg f.reg s.env.sent.length s) {d : Outside} {s₁ : Sys Net}
    (hwrite : FeeCall.exec (gresbTarget hd hr sim own junk fee₀) mir s ⟨.sync .dpu2fee g, d⟩ = some (0, s₁))
    {after : List FeeCall} {rcs : List Int}
    (hrun : runSession (gresbTarget hd hr sim own junk fee₀) mir s₁ after = some (rcs, s'))
    (hafter : ∀ c ∈ after, c.sets ≠ some f)
    (hown : ∀ j m, sim.getReg f.reg (own j m) &&& f.bits = sim.getReg f.reg m &&& f.bits) {j : Nat}
    (hj : s₁.env.sent.length ≤ j) (hj' : j ≤ s'.env.sent.length) :
    gresbRegs sim own junk fee₀ s'.env.sent j f.reg &&& f.bits = mir.getReg f.reg s'.mem &&& f.bits := by
  obtain ⟨pre, a₁, hnone, hrun₁, hs₁⟩ := h.written (S := s'.env.sent) hmir hwrite (sent_runSession hrun)
  obtain ⟨es, a', hdoes, hrun', hs'⟩ := hs₁.session hd hr sim own junk fee₀ hmir (S := s'.env.sent) hrun List.prefix_rfl
  have hno : .read f.reg ∉ pre := by
    intro hmem
    have hread : Shadow.Event.read f.reg ∈ requests pre := mem_requests.2 ⟨hmem, rfl⟩
    rw [hnone] at hread
    cases hread
  rw [hreg] at hrun₁
  have hsettled : ∀ i, a.sent[i]? = some (.read f.reg) → i ∈ a.learned := by
    intro i hi
    refine hret.learned h ?_ hi
    rw [← h.sent.length_eq]
    exact (List.getElem?_eq_some_iff.1 hi).1
  have hfollows := gresbRegs_follows hd hr hsim own junk fee₀ hs'.sent f.reg_lt (o := fun v => v &&& f.bits) hown
  have hagrees := hrun₁.agrees_write (o := fun v => v &&& f.bits)
    (fun k q hq => hfollows k q (Shadow.getElem?_of_isPrefix hrun'.sent_prefix hq)) hno hsettled
  rw [← hs'.mirror f.reg f.reg_lt]
  exact (hrun'.agrees hagrees (hdoes.leaves hafter) hfollows).agree j (by rw [hs₁.sent.length_eq]; exact hj)
    (by rw [hs'.sent.length_eq]; exact hj')

variable (hd hr sim own junk fee₀ mir) (hsim : sim.Apart) (hmir : mir.Alloc) (s) (hcfg : s.cfg = cfg)
  (hlog : s.log.Empty) (henv : s.env.Idle) (hrx : s.rxLog = [])
include hsim hmir hcfg hlog henv hrx

/-- **Reading back makes the mirror agree with the FEE**: when no transaction is pending a session begins which does not
write the register of a field and does not set the field. It reads the register back, and ends with no transaction
pending. Then the field is in the mirror what it is in the FEE, and has been all the time. -/
theorem field_read_back (before after : List FeeCall) (f : Field)
    (hown : ∀ j m, sim.getReg f.reg (own j m) &&& f.bits = sim.getReg f.reg m &&& f.bits) (rcs rcs' : List Int)
    (s₁ s₂ : Sys Net) (h₁ : runSession (gresbTarget hd hr sim own junk fee₀) mir s before = some (rcs, s₁))
    (hidle₁ : s₁.log.pending = 0)
    (h₂ : runSession (gresbTarget hd hr sim own junk fee₀) mir s₁ after = some (rcs', s₂))
    (hidle₂ : s₂.log.pending = 0) (hafter : ∀ c ∈ after, c.Spares f)
    (hread : ∃ g d, g.reg = f.reg ∧ (⟨.sync .fee2dpu g, d⟩, 0) ∈ after.zip rcs') {j : Nat}
    (hj : s₁.env.sent.length ≤ j) (hj' : j ≤ s₂.env.sent.length) :
    let fee := gresbMem sim own junk fee₀ s₂.env.sent j
    mir.getReg f.reg s₂.mem &&& f.bits = sim.getReg f.reg fee &&& f.bits ∧
    (f.oddGet = false → f.get mir s₂.mem = f.get sim fee) := by
  intro fee
  obtain ⟨es, a₁, -, -, hs₁⟩ := (Shadows.start hd hr sim own junk fee₀ mir hcfg hlog henv hrx).session hd hr sim own junk
    fee₀ hmir (S := s₂.env.sent) h₁ (sent_runSession h₂)
  obtain ⟨es', a₂, hdoes, hrun, hs₂⟩ := hs₁.session hd hr sim own junk fee₀ hmir (S := s₂.env.sent) h₂ List.prefix_rfl
  obtain ⟨g, d, hg, hmem⟩ := hread
  have hno := hdoes.writes_not fun c hc => (hafter c hc).2
  have hbits : mir.getReg f.reg s₂.mem &&& f.bits = sim.getReg f.reg fee &&& f.bits :=
    hs₁.read_back le_rfl (hs₁.returned hidle₁ _ _) hrun hs₂ (hs₂.returned hidle₂ _ _) f.reg_lt
      (o := fun v => v &&& f.bits) (hdoes.leaves fun c hc => (hafter c hc).1)
      (gresbRegs_follows hd hr hsim own junk fee₀ hs₂.sent f.reg_lt hown)
      (fun i v hi hw => hno (hrun.made (by rw [hs₁.sent.length_eq]; exact hi) hw)) (hg ▸ hdoes.read_mem hmem) hj hj'
  refine ⟨hbits, fun hodd => ?_⟩
  rw [f.get_eq mir _ hodd, f.get_eq sim _ hodd]
  exact getField_congr hbits

/-- **What is written stays in agreement**: the register of a field is synchronised to the FEE, whose program leaves the
field alone, when all its values that were asked for have come back, and the field is not set after that. Whatever else is
called, the register synchronised in either direction, the FEE has of the field what the mirror has, from the command
on. -/
theorem field_written (before after : List FeeCall) (f g : Field) (d : Outside) (hreg : g.reg = f.reg)
    (hown : ∀ j m, sim.getReg f.reg (own j m) &&& f.bits = sim.getReg f.reg m &&& f.bits) (rcs rcs' : List Int)
    (s₁ s₂ s₃ : Sys Net) (h₁ : runSession (gresbTarget hd hr sim own junk fee₀) mir s before = some (rcs, s₁))
    (hret : Returned cfg f.reg s₁.env.sent.length s₁)
    (hwrite : FeeCall.exec (gresbTarget hd hr sim own junk fee₀) mir s₁ ⟨.sync .dpu2fee g, d⟩ = some (0, s₂))
    (h₃ : runSession (gresbTarget hd hr sim own junk fee₀) mir s₂ after = some (rcs', s₃))
    (hafter : ∀ c ∈ after, c.sets ≠ some f) {j : Nat} (hj : s₂.env.sent.length ≤ j) (hj' : j ≤ s₃.env.sent.length) :
    let fee := gresbMem sim own junk fee₀ s₃.env.sent j
    sim.getReg f.reg fee &&& f.bits = mir.getReg f.reg s₃.mem &&& f.bits ∧
    (f.oddGet = false → f.get sim fee = f.get mir s₃.mem) := by
  intro fee
  obtain ⟨es₁, a₁, -, -, hs₁⟩ := (Shadows.start hd hr sim own junk fee₀ mir hcfg hlog henv hrx).session hd hr sim own junk
    fee₀ hmir (S := s₃.env.sent) h₁ ((FeeCall.sent_exec hwrite).trans (sent_runSession h₃))
  have hbits : sim.getReg f.reg fee &&& f.bits = mir.getReg f.reg s₃.mem &&& f.bits :=
    hs₁.written_agrees hsim hmir hreg hret hwrite h₃ hafter hown hj hj'
  refine ⟨hbits, fun hodd => ?_⟩
  rw [f.get_eq mir _ hodd, f.get_eq sim _ hodd]
  exact getField_congr hbits

/-- **What is read back is what was written**: the register of a field is synchronised to the FEE, whose program leaves
the field alone. Whatever is set and synchronised after that, and however the mirror has changed, once the register
has been read back the field has the value it had then. The values asked for before the write have come back when the
session begins that reads it back. -/
theorem field_restored (before between after : List FeeCall) (f g : Field) (d : Outside) (hreg : g.reg = f.reg)
    (hown : ∀ j m, sim.getReg f.reg (own j m) &&& f.bits = sim.getReg f.reg m &&& f.bits) (rcs rcs' rcs'' : List Int)
    (s₁ s₂ s₃ s₄ : Sys Net) (h₁ : runSession (gresbTarget hd hr sim own junk fee₀) mir s before = some (rcs, s₁))
    (hwrite : FeeCall.exec (gresbTarget hd hr sim own junk fee₀) mir s₁ ⟨.sync .dpu2fee g, d⟩ = some (0, s₂))
    (h₃ : runSession (gresbTarget hd hr sim own junk fee₀) mir s₂ between = some (rcs', s₃))
    (hbetween : ∀ c ∈ between, c.syncs ≠ some (.dpu2fee, f.reg)) (hret : Returned cfg f.reg s₂.env.sent.length s₃)
    (h₄ : runSession (gresbTarget hd hr sim own junk fee₀) mir s₃ after = some (rcs'', s₄))
    (hafter : ∀ c ∈ after, c.Spares f) (hret' : Returned cfg f.reg s₄.env.sent.length s₄)
    (hread : ∃ g' d', g'.reg = f.reg ∧ (⟨.sync .fee2dpu g', d'⟩, 0) ∈ after.zip rcs'') :
    mir.getReg f.reg s₄.mem &&& f.bits = mir.getReg f.reg s₂.mem &&& f.bits ∧
    (f.oddGet = false → f.get mir s₄.mem = f.get mir s₂.mem) := by
  have hpre₄ := sent_runSession h₄
  have hpre₃ := sent_runSession h₃
  obtain ⟨es₁, a₁, -, -, hs₁⟩ := (Shadows.start hd hr sim own junk fee₀ mir hcfg hlog henv hrx).session hd hr sim own
    junk fee₀ hmir (S := s₄.env.sent) h₁ ((FeeCall.sent_exec hwrite).trans (hpre₃.trans hpre₄))
  -- the write takes the value of the mirror along
  obtain ⟨pre, a₂, -, hrun₂, hs₂⟩ := hs₁.written hmir hwrite (hpre₃.trans hpre₄)
  obtain ⟨sent, hlast⟩ := hrun₂.last_write
  obtain ⟨es₃, a₃, hdoes₃, hrun₃, hs₃⟩ := hs₂.session hd hr sim own junk fee₀ hmir (S := s₄.env.sent) h₃ hpre₄
  obtain ⟨es₄, a₄, hdoes₄, hrun₄, hs₄⟩ := hs₃.session hd hr sim own junk fee₀ hmir (S := s₄.env.sent) h₄ List.prefix_rfl
  have hfollows := gresbRegs_follows hd hr hsim own junk fee₀ hs₄.sent f.reg_lt (o := fun v => v &&& f.bits) hown
  have hlen₂ : s₂.env.sent.length = sent.length + 1 := by
    rw [← hs₂.sent.length_eq, hlast, List.length_append, List.length_singleton]
  have hwritten : gresbRegs sim own junk fee₀ s₄.env.sent s₂.env.sent.length f.reg &&& f.bits =
      mir.getReg f.reg s₂.mem &&& f.bits := by
    have hreq : a₄.sent[sent.length]? = some (.write g.reg (a₂.mirror g.reg)) :=
      Shadow.getElem?_of_isPrefix (hrun₃.sent_prefix.trans hrun₄.sent_prefix) (by rw [hlast, List.getElem?_concat_length])
    rw [hlen₂]
    refine (hfollows _ _ hreq).trans ?_
    beta_reduce
    rw [Shadow.Req.result, if_pos hreg, hs₂.mirror g.reg g.reg_lt, hreg]
  -- no request changes the register after that
  have hnone : ∀ j v, s₂.env.sent.length ≤ j → a₄.sent[j]? ≠ some (.write f.reg v) := by
    intro j v hj hw
    have hmem := (hrun₃.append hrun₄).made (by rw [hs₂.sent.length_eq]; exact hj) hw
    exact (List.mem_append.1 hmem).elim (hdoes₃.writes_not hbetween) (hdoes₄.writes_not fun c hc => (hafter c hc).2)
  obtain ⟨g', d', hg', hmem⟩ := hread
  have hback := hs₃.read_back hpre₃.length_le hret hrun₄ hs₄ hret' f.reg_lt (o := fun v => v &&& f.bits)
    (hdoes₄.leaves fun c hc => (hafter c hc).1) hfollows hnone (hg' ▸ hdoes₄.read_mem hmem) le_rfl
    (hpre₃.length_le.trans hpre₄.length_le)
  have hbits : mir.getReg f.reg s₄.mem &&& f.bits = mir.getReg f.reg s₂.mem &&& f.bits := hback.trans hwritten
  refine ⟨hbits, fun hodd => ?_⟩
  rw [f.get_eq mir _ hodd, f.get_eq mir _ hodd]
  exact getField_congr hbits

omit hsim in
/-- **The housekeeping is consistent by register**: it is read, and what no transaction is pending any more for is
what the FEE had. All fields of a register are from one moment, the receipt of one of the commands. -/
theorem hkRegs_consistent (before after : List FeeCall) (rcs rcs' : List Int) (s₁ s₂ : Sys Net)
    (h₁ : runSession (gresbTarget hd hr sim own junk fee₀) mir s before = some (rcs, s₁)) (hidle₁ : s₁.log.pending = 0)
    (h₂ : runSession (gresbTarget hd hr sim own junk fee₀) mir s₁ after = some (rcs', s₂)) (hidle₂ : s₂.log.pending = 0)
    (hread : ∃ d, (⟨.syncHk, d⟩, 0) ∈ after.zip rcs') {n : Nat} (hn : n ∈ hkRegs) :
    ∃ j, s₁.env.sent.length ≤ j ∧ j < s₂.env.sent.length ∧
      ∀ f : HkField, f.reg = n → f.get mir s₂.mem = f.get sim (gresbMem sim own junk fee₀ s₂.env.sent j) := by
  obtain ⟨es, a₁, -, -, hs₁⟩ := (Shadows.start hd hr sim own junk fee₀ mir hcfg hlog henv hrx).session hd hr sim own junk
    fee₀ hmir (S := s₂.env.sent) h₁ (sent_runSession h₂)
  obtain ⟨es', a₂, hdoes, hrun, hs₂⟩ := hs₁.session hd hr sim own junk fee₀ hmir (S := s₂.env.sent) h₂ List.prefix_rfl
  obtain ⟨d, hmem⟩ := hread
  obtain ⟨i, hi, hin⟩ := hrun.asked (hdoes.hk_mem hmem hn)
  have hlen : s₁.env.sent.length = a₁.sent.length := hs₁.sent.length_eq.symm
  have hlen' : s₂.env.sent.length = a₂.sent.length := hs₂.sent.length_eq.symm
  rcases hrun.last_learned (hdoes.leaves_hk n) with ⟨-, hall⟩ | ⟨j, hj, hjn, hval⟩
  · exact absurd (hall i (hs₂.idle hidle₂ hin) hin) (hs₁.not_learned hi)
  · refine ⟨j, ?_, ?_, fun f hf => ?_⟩
    · -- values asked for before have come back before
      by_contra hlt
      rw [not_le, hlen] at hlt
      have hsome := List.getElem?_eq_getElem hlt
      have hsame := (Shadow.getElem?_of_isPrefix hrun.sent_prefix hsome).symm.trans hjn
      exact hj (hs₁.idle hidle₁ (hsome.trans hsame))
    · rw [hlen']
      exact (List.getElem?_eq_some_iff.1 hjn).1
    · have hlt : hkIdx n < 486 := hkIdx_lt hn
      have hreg : mir.getReg (hkIdx n) s₂.mem = gresbRegs sim own junk fee₀ s₂.env.sent j (hkIdx n) := by
        rw [← hs₂.mirror _ hlt]
        exact hval
      rw [f.get_eq, f.get_eq, hf, hreg]
      rfl

end Results

/-- The end row is read back with the start row, which is set in the meantime. -/
theorem field_read_back_vend :
    let mir : Mirror := ⟨.little, 0x100, 0x1000⟩
    let sim : Mirror := ⟨.big, 0x4000, 0x10000⟩
    let junk : Nat → Junk := fun _ => ⟨fun _ => 0xEE, fun _ => 0xEE, fun _ => 0xEE⟩
    let fee₀ : Mem := sim.smileFeeSetVend 7 fun _ => 0
    let s : Sys Net := ⟨{}, {}, fun _ => 0, [], {}⟩
    let T := @gresbTarget {} rfl rfl sim (fun _ m => m) junk fee₀
    let reply : Arrival := ⟨0, [0, 1, 0x0c, 0, 0, 0, 0, 0, 0, 0, 4, rmapCrc8 [0, 1, 0x0c, 0, 0, 0, 0, 0, 0, 0, 4], 0, 7, 0,
      0], fun _ => 0xEE⟩
    let after : List FeeCall := [⟨.sync .fee2dpu .vstart, {}⟩, ⟨.set (.set .vstart 9), {}⟩,
      ⟨.status, { sched := [[reply]] }⟩]
    ∃ s', runSession T mir s after = some ([0, 0, 0], s') ∧ mir.smileFeeGetVend s'.mem = 7 ∧
      u32 (mir.smileFeeGetVend s'.mem) =
        u32 (sim.smileFeeGetVend (gresbMem sim (fun _ m => m) junk fee₀ s'.env.sent 1)) := by
  intro mir sim junk fee₀ s T reply after
  have hvals : (runSession T mir s after).map (fun r => (r.1, r.2.log.pending, r.2.env.sent.length,
      mir.smileFeeGetVend r.2.mem)) = some ([0, 0, 0], 0, 1, 7) := by decide +kernel
  obtain ⟨⟨rcs, s'⟩, hrun, heq⟩ := Option.map_eq_some_iff.1 hvals
  simp only [Prod.mk.injEq] at heq
  obtain ⟨rfl, hidle, hlen, hval⟩ := heq
  have hempty : TransLog.Empty {} := ⟨rfl, fun k => by simp [TransLog.holds]⟩
  have hspares : ∀ c ∈ after, c.Spares .vend := by
    intro c hc
    simp only [after, List.mem_cons, List.not_mem_nil, or_false] at hc
    rcases hc with rfl | rfl | rfl <;> exact ⟨by simp [FeeCall.sets, Setter.field], by simp [FeeCall.syncs]⟩
  have hback := @field_read_back {} rfl rfl sim (fun _ m => m) junk fee₀ mir s (by decide)
    ⟨by decide, by decide, by decide⟩ rfl hempty ⟨rfl, rfl, rfl⟩ rfl [] after .vend (fun _ _ => rfl) [] _ s s' rfl rfl
    hrun hidle hspares ⟨.vstart, {}, rfl, List.mem_cons_self⟩ 1 (Nat.zero_le 1) hlen.ge
  exact ⟨s', hrun, hval, hback.2 rfl⟩

/-- The start row is read, and written while another write is pending. It is read back together with the end row, which
is set in between. -/
theorem field_written_vstart :
    let mir : Mirror := ⟨.little, 0x100, 0x1000⟩
    let sim : Mirror := ⟨.big, 0x4000, 0x10000⟩
    let junk : Nat → Junk := fun _ => ⟨fun _ => 0xEE, fun _ => 0xEE, fun _ => 0xEE⟩
    let s : Sys Net := ⟨{}, {}, fun _ => 0, [], {}⟩
    let T := @gresbTarget {} rfl rfl sim (fun _ m => m) junk fun _ => 0
    let reply (i : Nat) (id v : U8) : Arrival := ⟨i, [0, 1, 0x0c, 0, 0, 0, id, 0, 0, 0, 4,
      rmapCrc8 [0, 1, 0x0c, 0, 0, 0, id, 0, 0, 0, 4], 0, 0, 0, v], fun _ => 0xEE⟩
    let written : Arrival := ⟨2, [0, 1, 0x2c, 0, 0, 0, 0, rmapCrc8 [0, 1, 0x2c, 0, 0, 0, 0], 0], fun _ => 0xEE⟩
    let before : List FeeCall := [⟨.sync .fee2dpu .vstart, {}⟩,
      ⟨.sync .dpu2fee .packetSize, { sched := [[reply 0 0 0]] }⟩, ⟨.set (.set .vstart 5), {}⟩]
    let after : List FeeCall := [⟨.set (.set .vend 7), {}⟩, ⟨.sync .fee2dpu .vstart, {}⟩,
      ⟨.status, { sched := [[reply 3 2 5, written]] }⟩]
    ∃ s₁ s₂ s₃, runSession T mir s before = some ([0, 0, 0], s₁) ∧ s₁.log.pending = 1 ∧
      FeeCall.exec T mir s₁ ⟨.sync .dpu2fee .vstart, {}⟩ = some (0, s₂) ∧
      runSession T mir s₂ after = some ([0, 0, 1], s₃) ∧ mir.smileFeeGetVend s₃.mem = 0 ∧
      u32 (sim.smileFeeGetVstart (gresbMem sim (fun _ m => m) junk (fun _ => 0) s₃.env.sent 4)) =
        u32 (mir.smileFeeGetVstart s₃.mem) := by
  intro mir sim junk s T reply written before after
  have hall : ((runSession T mir s before).bind fun r₁ => (FeeCall.exec T mir r₁.2 ⟨.sync .dpu2fee .vstart, {}⟩).bind
      fun r₂ => (runSession T mir r₂.2 after).map fun r₃ => decide (r₁.1 = [0, 0, 0] ∧ r₁.2.log.pending = 1 ∧
        Returned {} Field.vstart.reg r₁.2.env.sent.length r₁.2 ∧ r₂.1 = 0 ∧ r₂.2.env.sent.length = 3 ∧
        r₃.1 = [0, 0, 1] ∧ r₃.2.env.sent.length = 4 ∧ mir.smileFeeGetVend r₃.2.mem = 0)) = some true := by
    decide +kernel
  obtain ⟨⟨rcs₁, s₁⟩, hrun₁, hall⟩ := Option.bind_eq_some_iff.1 hall
  obtain ⟨⟨rc, s₂⟩, hwrite, hall⟩ := Option.bind_eq_some_iff.1 hall
  obtain ⟨⟨rcs₃, s₃⟩, hrun₃, hvals⟩ := Option.map_eq_some_iff.1 hall
  obtain ⟨rfl, hpending, hret, rfl, hlen₂, rfl, hlen₃, hval⟩ := of_decide_eq_true hvals
  have hempty : TransLog.Empty {} := ⟨rfl, fun k => by simp [TransLog.holds]⟩
  have hsets : ∀ c ∈ after, c.sets ≠ some .vstart := by
    intro c hc
    simp only [after, List.mem_cons, List.not_mem_nil, or_false] at hc
    rcases hc with rfl | rfl | rfl <;> simp [FeeCall.sets, Setter.field]
  have hup := @field_written {} rfl rfl sim (fun _ m => m) junk (fun _ => 0) mir s (by decide)
    ⟨by decide, by decide, by decide⟩ rfl hempty ⟨rfl, rfl, rfl⟩ rfl before after .vstart .vstart {} rfl (fun _ _ => rfl)
    _ _ s₁ s₂ s₃ hrun₁ hret hwrite hrun₃ hsets 4 (hlen₂.trans_le (by decide)) hlen₃.ge
  exact ⟨s₁, s₂, s₃, hrun₁, hpending, hwrite, hrun₃, hval, hup.2 rfl⟩

/-- The start row is written, changed and read back. The replies come in the other order. -/
theorem field_restored_vstart :
    let mir : Mirror := ⟨.little, 0x100, 0x1000⟩
    let sim : Mirror := ⟨.big, 0x4000, 0x10000⟩
    let junk : Nat → Junk := fun _ => ⟨fun _ => 0xEE, fun _ => 0xEE, fun _ => 0xEE⟩
    let s : Sys Net := ⟨{}, {}, mir.smileFeeSetVstart 5 fun _ => 0, [], {}⟩
    let T := @gresbTarget {} rfl rfl sim (fun _ m => m) junk fun _ => 0
    let written : Arrival := ⟨0, [0, 1, 0x2c, 0, 0, 0, 0, rmapCrc8 [0, 1, 0x2c, 0, 0, 0, 0], 0], fun _ => 0xEE⟩
    let reply : Arrival := ⟨1, [0, 1, 0x0c, 0, 0, 0, 1, 0, 0, 0, 4, rmapCrc8 [0, 1, 0x0c, 0, 0, 0, 1, 0, 0, 0, 4], 0, 0, 0,
      5], fun _ => 0xEE⟩
    let between : List FeeCall := [⟨.set (.set .vstart 9), {}⟩]
    let after : List FeeCall := [⟨.sync .fee2dpu .vend, {}⟩, ⟨.status, { sched := [[reply, written]] }⟩]
    ∃ s₂ s₃ s₄, FeeCall.exec T mir s ⟨.sync .dpu2fee .vstart, {}⟩ = some (0, s₂) ∧
      runSession T mir s₂ between = some ([0], s₃) ∧ s₃.log.pending = 1 ∧ mir.smileFeeGetVstart s₃.mem = 9 ∧
      runSession T mir s₃ after = some ([0, 0], s₄) ∧
      u32 (mir.smileFeeGetVstart s₄.mem) = u32 (mir.smileFeeGetVstart s₂.mem) := by
  intro mir sim junk s T written reply between after
  have hall : ((FeeCall.exec T mir s ⟨.sync .dpu2fee .vstart, {}⟩).bind fun r₂ => (runSession T mir r₂.2 between).bind
      fun r₃ => (runSession T mir r₃.2 after).map fun r₄ => decide (r₂.1 = 0 ∧ r₃.1 = [0] ∧ r₃.2.log.pending = 1 ∧
        mir.smileFeeGetVstart r₃.2.mem = 9 ∧ Returned {} Field.vstart.reg r₂.2.env.sent.length r₃.2 ∧ r₄.1 = [0, 0] ∧
        Returned {} Field.vstart.reg r₄.2.env.sent.length r₄.2)) = some true := by
    decide +kernel
  obtain ⟨⟨rc, s₂⟩, hwrite, hall⟩ := Option.bind_eq_some_iff.1 hall
  obtain ⟨⟨rcs₃, s₃⟩, hrun₃, hall⟩ := Option.bind_eq_some_iff.1 hall
  obtain ⟨⟨rcs₄, s₄⟩, hrun₄, hvals⟩ := Option.map_eq_some_iff.1 hall
  obtain ⟨rfl, rfl, hpending, hval, hret, rfl, hret'⟩ := of_decide_eq_true hvals
  have hempty : TransLog.Empty {} := ⟨rfl, fun k => by simp [TransLog.holds]⟩
  have hback := @field_restored {} rfl rfl sim (fun _ m => m) junk (fun _ => 0) mir s (by decide)
    ⟨by decide, by decide, by decide⟩ rfl hempty ⟨rfl, rfl, rfl⟩ rfl [] between after .vstart .vstart {} rfl
    (fun _ _ => rfl) _ _ _ s s₂ s₃ s₄ rfl hwrite hrun₃ (by simp [between, FeeCall.syncs]) hret hrun₄
    (by simp [after, FeeCall.Spares, FeeCall.sets, FeeCall.syncs]) hret' ⟨.vend, {}, rfl, List.mem_cons_self⟩
  exact ⟨s₂, s₃, s₄, hwrite, hrun₃, hpending, hval, hrun₄, hback.2 rfl⟩

/-- The frame counter is changed by the FEE while its housekeeping is read, and the replies come in the other order. -/
theorem hkRegs_consistent_frameCounter :
    let mir : Mirror := ⟨.little, 0x100, 0x1000⟩
    let sim : Mirror := ⟨.big, 0x4000, 0x10000⟩
    let junk : Nat → Junk := fun _ => ⟨fun _ => 0xEE, fun _ => 0xEE, fun _ => 0xEE⟩
    let own : Nat → Mem → Mem := fun j m => if j = 21 then sim.smileFeeSetHkFrameCounter 7 m else m
    let s : Sys Net := ⟨{}, {}, fun _ => 0, [], {}⟩
    let T := @gresbTarget {} rfl rfl sim own junk fun _ => 0
    let hdr (i : Nat) : List U8 := [0, 1, 0x0c, 0, 0, 0, BitVec.ofNat 8 i, 0, 0, 0, 4]
    let replies : List Arrival := (List.range 26).map fun i =>
      ⟨i, hdr i ++ [rmapCrc8 (hdr i), 0, if i = 21 then 7 else 0, 0, 0], fun _ => 0xEE⟩
    let calls : List FeeCall := [⟨.syncHk, {}⟩, ⟨.status, { sched := [replies.reverse] }⟩]
    ∃ s', runSession T mir s calls = some ([0, 0], s') ∧ mir.smileFeeGetHkFrameCounter s'.mem = 7 ∧
      ∃ j < 26, HkField.get mir s'.mem .frameCounter =
          HkField.get sim (gresbMem sim own junk (fun _ => 0) s'.env.sent j) .frameCounter ∧
        HkField.get mir s'.mem .fpgaOpMode =
          HkField.get sim (gresbMem sim own junk (fun _ => 0) s'.env.sent j) .fpgaOpMode := by
  intro mir sim junk own s T hdr replies calls
  have hvals : (runSession T mir s calls).map (fun r => (r.1, r.2.log.pending, r.2.env.sent.length,
      mir.smileFeeGetHkFrameCounter r.2.mem)) = some ([0, 0], 0, 26, 7) := by decide +kernel
  obtain ⟨⟨rcs, s'⟩, hrun, heq⟩ := Option.map_eq_some_iff.1 hvals
  simp only [Prod.mk.injEq] at heq
  obtain ⟨rfl, hidle, hlen, hval⟩ := heq
  have hempty : TransLog.Empty {} := ⟨rfl, fun k => by simp [TransLog.holds]⟩
  have h33 : 33 ∈ hkRegs := by decide
  obtain ⟨j, -, hj, hfields⟩ := @hkRegs_consistent {} rfl rfl sim own junk (fun _ => 0) mir s
    ⟨by decide, by decide, by decide⟩ rfl hempty ⟨rfl, rfl, rfl⟩ rfl [] calls [] _ s s' rfl rfl hrun hidle
    ⟨{}, List.mem_cons_self⟩ 33 h33
  rw [hlen] at hj
  exact ⟨s', hrun, hval, j, hj, hfields .frameCounter rfl, hfields .fpgaOpMode rfl⟩

end SmileFee
