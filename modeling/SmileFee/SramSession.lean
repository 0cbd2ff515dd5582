import SmileFee.FeeSession

/-!
# The SRAM in a session

An upload copies a range of the SRAM of the mirror, in chunks which are sent one by one, among other commands perhaps.
The copy is made when a chunk is handed over, and the FEE has it when it has received the command.

**`sram_uploaded`** says that a byte that has been uploaded is the same on both sides, from then on and as long as nothing
new is stored in the mirror, and **`sram_kept`** that a byte that is not uploaded stays what it was in the FEE.
-/

namespace SmileFee

open Word Mem

/-! ## Bytes of the SRAM -/

/-- The write stores byte `x` of the SRAM. -/
def SramWrite.Covers (x : Nat) : SramWrite → Prop
  | .bytes _ addr size => SramRange addr size.toNat ∧
      addr.toNat ≤ FEE_SRAM_START.toNat + x ∧ FEE_SRAM_START.toNat + x < addr.toNat + size.toNat
  | .samples _ addr nmemb _ => SramRange addr (2 * nmemb.toNat) ∧
      addr.toNat ≤ FEE_SRAM_START.toNat + x ∧ FEE_SRAM_START.toNat + x < addr.toNat + 2 * nmemb.toNat

instance (x : Nat) : (w : SramWrite) → Decidable (w.Covers x)
  | .bytes _ _ _ => inferInstanceAs (Decidable (_ ∧ _ ∧ _))
  | .samples _ _ _ _ => inferInstanceAs (Decidable (_ ∧ _ ∧ _))

theorem SramWrite.sramAt_call {w : SramWrite} {x : Nat} (h : ¬ w.Covers x) (s : Mirror) (m : Mem) :
    s.sramAt (w.call s m).2 x = s.sramAt m x := by
  cases w with
  | bytes buf addr size =>
    rw [call, writeSram_eq]
    split
    · rename_i hin
      have hlo := hin.1
      rw [Mirror.sramAt_write m (by rwa [length_read]), if_neg]
      rw [length_read]
      exact fun hx => h ⟨hin, by omega, by omega⟩
    · rfl
  | samples buf addr nmemb fits =>
    rw [call, writeSram16_eq_ite s m addr fits]
    split
    · rename_i hin
      have hlo := hin.1
      rw [Mirror.sramAt_write m (by rwa [length_read]), if_neg]
      rw [length_read]
      exact fun hx => h ⟨hin, by omega, by omega⟩
    · rfl

theorem Cmd.Covers.lt {cfg : RmapCfg} {c : Cmd} {x : Nat} (h : c.Covers x) (hc : c.IsSramWrite cfg) :
    x < FEE_SRAM_SIZE.toNat := by
  obtain ⟨-, -, ⟨-, hin⟩, -⟩ := hc
  obtain ⟨-, hhi⟩ := h
  rw [toNat_FEE_SRAM_END] at hin
  rw [toNat_FEE_SRAM_START] at hhi
  rw [toNat_FEE_SRAM_SIZE]
  omega

/-- The call stores byte `x` of the SRAM of the mirror. -/
def FeeCall.Stores (x : Nat) (c : FeeCall) : Prop :=
  match c.op with
  | .store w => w.Covers x
  | _ => False

instance (x : Nat) : (c : FeeCall) → Decidable (c.Stores x)
  | ⟨.store w, _⟩ => inferInstanceAs (Decidable (w.Covers x))
  | ⟨.set _, _⟩ => isFalse not_false
  | ⟨.sync _ _, _⟩ => isFalse not_false
  | ⟨.syncHk, _⟩ => isFalse not_false
  | ⟨.status, _⟩ => isFalse not_false
  | ⟨.upload .., _⟩ => isFalse not_false

theorem FeeCall.sramAt_stored {c : FeeCall} {x : Nat} (h : ¬ c.Stores x) (mir : Mirror) (m : Mem) :
    mir.sramAt (c.stored mir m) x = mir.sramAt m x := by
  obtain ⟨op, during⟩ := c
  cases op with
  | store w => exact SramWrite.sramAt_call h mir m
  | _ => rfl

/-- A copy, byte by byte. -/
theorem Cmd.CopyOf.byte {cfg : RmapCfg} {mir : Mirror} {m : Mem} {c : Cmd} (h : c.CopyOf cfg mir m)
    (hc : c.IsSramWrite cfg) {x : Nat} (hx : c.Covers x) {data : List U8} (hdata : c.data = some data) :
    data.getD (x - (c.addr.toNat - FEE_SRAM_START.toNat)) 0 = mir.sramAt m x := by
  obtain ⟨hlo, hhi⟩ := hx
  obtain ⟨hptr, -⟩ := hc.2.2.1.inside mir
  have hge := hc.2.2.1.1
  obtain rfl := Option.some.inj (hdata.symm.trans (h hc))
  have hlt : x - (c.addr.toNat - FEE_SRAM_START.toNat) < (m.read (sramPtr mir c.addr) c.len.toNat).length := by
    rw [length_read]
    omega
  rw [List.getD_eq_getElem _ _ hlt, getElem_read, Mirror.sramAt, hptr]
  exact congrArg m (by omega)

section Copies

variable {cfg : RmapCfg} (hd : cfg.dpath = []) (hr : cfg.rpath = []) {sim : Mirror} (hsim : sim.Apart)
  {own : Nat → Mem → Mem} (junk : Nat → Junk) (fee₀ : Mem) {reqs : List (Shadow.Req Nat U32)} {sent : List Cmd}
  (h : List.Forall₂ (ReqOf cfg) reqs sent) {x : Nat} (hx : x < FEE_SRAM_SIZE.toNat)
  (hown : ∀ j m, sim.sramAt (own j m) x = sim.sramAt m x)
include hd hr hsim h hx hown

/-- **A command**, as a byte of the SRAM of the FEE sees it. -/
theorem sramAt_gresbMem_succ {j : Nat} {c : Cmd} (hc : sent[j]? = some c) :
    (c.IsSramWrite cfg ∧ c.Covers x ∧ ∃ data, c.data = some data ∧
      sim.sramAt (gresbMem sim own junk fee₀ sent (j + 1)) x =
        data.getD (x - (c.addr.toNat - FEE_SRAM_START.toNat)) 0) ∨
    (¬ (c.IsSramWrite cfg ∧ c.Covers x) ∧
      sim.sramAt (gresbMem sim own junk fee₀ sent (j + 1)) x = sim.sramAt (gresbMem sim own junk fee₀ sent j) x) := by
  obtain ⟨hj, rfl⟩ := List.getElem?_eq_some_iff.1 hc
  have hj' : j < reqs.length := by rw [h.length_eq]; exact hj
  have hreq : ReqOf cfg reqs[j] sent[j] := h.get hj' hj
  simp only [gresbMem, hown, List.getElem?_eq_getElem hj]
  generalize gresbMem sim own junk fee₀ sent j = mem
  generalize sent[j] = c at hreq ⊢
  generalize reqs[j] = q at hreq ⊢
  cases q with
  | read n =>
    obtain ⟨reply, hrx, -⟩ := gresbReceive_regRead hd hr sim hreq.2 (junk j) mem
    refine Or.inr ⟨fun hw => not_isSramWrite hreq (by simp) hw.1, ?_⟩
    rw [hrx]
    rfl
  | write n v =>
    obtain ⟨data, reply, hsome, hrx, -⟩ := gresbReceive_regWrite hd hr sim hreq.2.1 (junk j) mem
    refine Or.inr ⟨fun hw => not_isSramWrite hreq (by simp) hw.1, ?_⟩
    obtain ⟨haddr, ⟨-, -, hlt, -⟩, m, a, -, hdata⟩ := hreq
    obtain rfl := Option.some.inj (hdata.symm.trans hsome)
    rw [hrx]
    refine write_outside _ _ _ _ ?_
    have hlt' : c.addr.toNat < 1944 := hlt
    have hout := hsim.not_inRegs hx
    rw [Mirror.InRegs, toNat_OFFSET_OF_SRAM] at hout
    rw [length_read]
    omega
  | other =>
    obtain ⟨data, reply, hsome, hrx, -⟩ := gresbReceive_sramWrite hd hr sim hreq (junk j) mem
    have hlen := Cmd.IsSramWrite.length_data hreq hsome
    have hin : SramRange c.addr data.length := hlen ▸ hreq.2.2.1
    have hlo := hin.1
    rw [hrx]
    simp only [Option.map_some, Option.getD_some, Mirror.sramAt_write mem hin]
    split
    · rename_i hcov
      exact Or.inl ⟨hreq, ⟨by omega, by omega⟩, data, hsome, rfl⟩
    · rename_i hcov
      refine Or.inr ⟨fun hw => hcov ?_, rfl⟩
      have := hw.2
      rw [Cmd.Covers] at this
      omega

theorem sramAt_untouched {l : Nat} (hl : l ≤ sent.length)
    (hno : ∀ j c, j < l → sent[j]? = some c → ¬ (c.IsSramWrite cfg ∧ c.Covers x)) :
    sim.sramAt (gresbMem sim own junk fee₀ sent l) x = sim.sramAt fee₀ x := by
  induction l with
  | zero => exact hown 0 fee₀
  | succ l ih =>
    have hc : sent[l]? = some sent[l] := List.getElem?_eq_getElem hl
    rcases sramAt_gresbMem_succ hd hr hsim junk fee₀ h hx hown hc with ⟨hw, hcov, -⟩ | ⟨-, heq⟩
    · exact absurd ⟨hw, hcov⟩ (hno l _ l.lt_succ_self hc)
    · rw [heq]
      exact ih (Nat.le_of_succ_le hl) fun j c hj => hno j c (by omega)

/-- **Copies of one memory**: a byte of the SRAM is what it is there, or no command has changed it. -/
theorem sramAt_copies {mir : Mirror} {m : Mem} {k l : Nat} (hkl : k ≤ l) (hl : l ≤ sent.length)
    (hcopies : ∀ j c, k ≤ j → j < l → sent[j]? = some c → c.CopyOf cfg mir m) :
    sim.sramAt (gresbMem sim own junk fee₀ sent l) x = mir.sramAt m x ∨
    (sim.sramAt (gresbMem sim own junk fee₀ sent l) x = sim.sramAt (gresbMem sim own junk fee₀ sent k) x ∧
      ∀ j c, k ≤ j → j < l → sent[j]? = some c → ¬ (c.IsSramWrite cfg ∧ c.Covers x)) := by
  induction l, hkl using Nat.le_induction with
  | base => exact Or.inr ⟨rfl, fun j c hlo hhi => absurd hhi (not_lt.2 hlo)⟩
  | succ l hkl ih =>
    have hc : sent[l]? = some sent[l] := List.getElem?_eq_getElem hl
    rcases sramAt_gresbMem_succ hd hr hsim junk fee₀ h hx hown hc with ⟨hw, hcov, data, hdata, heq⟩ | ⟨hnot, heq⟩
    · exact Or.inl (heq.trans ((hcopies l _ hkl l.lt_succ_self hc).byte hw hcov hdata))
    · rw [heq]
      refine (ih (Nat.le_of_succ_le hl) fun j c hlo hhi => hcopies j c hlo (by omega)).imp_right ?_
      rintro ⟨hsame, hnone⟩
      refine ⟨hsame, fun j c hlo hhi hj => ?_⟩
      by_cases hjl : j = l
      · subst hjl
        rwa [← Option.some.inj (hc.symm.trans hj)]
      · exact hnone j c hlo (by omega) hj

end Copies

/-! ## Sessions -/

/-- From command `k` on the FEE has had of byte `x` what the mirror has. -/
structure SramAgrees (sim : Mirror) (own : Nat → Mem → Mem) (junk : Nat → Junk) (fee₀ : Mem) (S : List Cmd) (mir : Mirror)
    (x k : Nat) (s : Sys Net) : Prop where
  le : k ≤ s.env.sent.length
  agree : ∀ j, k ≤ j → j ≤ s.env.sent.length →
    sim.sramAt (gresbMem sim own junk fee₀ S j) x = mir.sramAt s.mem x

section Session

variable {cfg : RmapCfg} (hd : cfg.dpath = []) (hr : cfg.rpath = []) {sim : Mirror} (hsim : sim.Apart)
  {own : Nat → Mem → Mem} {junk : Nat → Junk} {fee₀ : Mem} {mir : Mirror} (hmir : mir.Alloc) {S : List Cmd}
  {reqs : List (Shadow.Req Nat U32)} (hS : List.Forall₂ (ReqOf cfg) reqs S) {x : Nat} (hx : x < FEE_SRAM_SIZE.toNat)
  (hown : ∀ j m, sim.sramAt (own j m) x = sim.sramAt m x) {a : Shadow.State Nat U32} {s s' : Sys Net} {rc : Int}

omit hd hr in
/-- The commands of a call, by their number. -/
theorem FeeCall.Copies.mem {c : FeeCall} {cmds : List Cmd} (h : c.Copies cfg mir rc s s' cmds) (hpre : s'.env.sent <+: S)
    {j : Nat} {cmd : Cmd} (hj : s.env.sent.length ≤ j) (hj' : j < s'.env.sent.length) (hcmd : S[j]? = some cmd) :
    cmd ∈ cmds := by
  have hsome : s'.env.sent[j]? = some cmd :=
    (List.getElem?_eq_getElem hj').trans ((Shadow.getElem?_of_isPrefix hpre (List.getElem?_eq_getElem hj')).symm.trans hcmd)
  rw [h.sent, List.getElem?_append_right hj] at hsome
  exact List.mem_of_getElem? hsome

omit hd hr in
theorem FeeCall.Copies.sramAt {c : FeeCall} {cmds : List Cmd} (h : c.Copies cfg mir rc s s' cmds) (hmir : mir.Alloc)
    (hx : x < FEE_SRAM_SIZE.toNat) (hst : ¬ c.Stores x) : mir.sramAt s'.mem x = mir.sramAt s.mem x :=
  (h.kept _ (hmir.apart.not_inRegs hx)).trans (FeeCall.sramAt_stored hst mir s.mem)

include hd hr hsim hmir hS hx hown

/-- A call keeps what agrees, unless it stores the byte anew. -/
theorem SramAgrees.step {k : Nat} (hag : SramAgrees sim own junk fee₀ S mir x k s) {c : FeeCall} {cmds : List Cmd}
    (h : c.Copies cfg mir rc s s' cmds) (hpre : s'.env.sent <+: S) (hst : ¬ c.Stores x) :
    SramAgrees sim own junk fee₀ S mir x k s' := by
  have hsame := h.sramAt hmir hx hst
  have hle : s.env.sent.length ≤ s'.env.sent.length := by
    rw [h.sent, List.length_append]
    omega
  refine ⟨hag.le.trans hle, fun j hj hj' => ?_⟩
  by_cases hlt : j ≤ s.env.sent.length
  · rw [hsame]
    exact hag.agree j hj hlt
  · rcases sramAt_copies hd hr hsim junk fee₀ hS hx hown (le_of_not_ge hlt) (hj'.trans hpre.length_le)
      (fun i cmd hi hi' hcmd => h.copies cmd (h.mem hpre hi (by omega) hcmd)) with heq | ⟨heq, -⟩
    · exact heq
    · rw [heq, hsame]
      exact hag.agree _ hag.le le_rfl

omit hmir in
/-- An upload that returns 0 makes its bytes agree. -/
theorem SramAgrees.upload (junk : Nat → Junk) (fee₀ : Mem) {c : FeeCall} {cmds : List Cmd}
    (h : c.Copies cfg mir 0 s s' cmds) (hpre : s'.env.sent <+: S)
    (hup : c.Uploads x) : SramAgrees sim own junk fee₀ S mir x s'.env.sent.length s' := by
  refine ⟨le_rfl, fun j hj hj' => ?_⟩
  obtain rfl : j = s'.env.sent.length := le_antisymm hj' hj
  have hle : s.env.sent.length ≤ s'.env.sent.length := by
    rw [h.sent, List.length_append]
    omega
  rcases sramAt_copies hd hr hsim junk fee₀ hS hx hown hle hpre.length_le
    (fun i cmd hi hi' hcmd => h.copies cmd (h.mem hpre hi hi' hcmd)) with heq | ⟨-, hnone⟩
  · exact heq
  · obtain ⟨cmd, hmem, hw, hcov⟩ := h.all rfl x hup
    obtain ⟨i, hi, rfl⟩ := List.getElem_of_mem hmem
    have hlen : s.env.sent.length + i < s'.env.sent.length := by
      rw [h.sent, List.length_append]
      omega
    have hsome : S[s.env.sent.length + i]? = some cmds[i] := by
      refine Shadow.getElem?_of_isPrefix hpre ?_
      rw [h.sent, List.getElem?_append_right (Nat.le_add_right _ _), Nat.add_sub_cancel_left, List.getElem?_eq_getElem hi]
    exact absurd ⟨hw, hcov⟩ (hnone _ _ (Nat.le_add_right _ _) hlen hsome)

theorem SramAgrees.session (h : Shadows (gresbTarget hd hr sim own junk fee₀) cfg mir a s) {k : Nat}
    (hag : SramAgrees sim own junk fee₀ S mir x k s) {calls : List FeeCall} {rcs : List Int}
    (hrun : runSession (gresbTarget hd hr sim own junk fee₀) mir s calls = some (rcs, s')) (hpre : s'.env.sent <+: S)
    (hst : ∀ c ∈ calls, ¬ c.Stores x) : SramAgrees sim own junk fee₀ S mir x k s' := by
  induction calls generalizing a s rcs with
  | nil =>
    obtain ⟨-, rfl⟩ := Prod.mk.inj (Option.some.inj hrun)
    exact hag
  | cons c calls ih =>
    rw [List.forall_mem_cons] at hst
    obtain ⟨rc, s₁, rcs', rfl, hc, hcalls⟩ := runSession_cons hrun
    have hpre₁ := (sent_runSession hcalls).trans hpre
    obtain ⟨es, cmds, a₁, -, hcopies, -, h₁⟩ := h.exec hd hr sim own junk fee₀ hmir hc hpre₁
    exact ih h₁ (hag.step hd hr hsim hmir hS hx hown hcopies hpre₁ hst.1) hcalls hst.2

omit hsim hS hx hown in
/-- The commands of a session that write to the SRAM are from uploads of the bytes. -/
theorem Shadows.session_within (h : Shadows (gresbTarget hd hr sim own junk fee₀) cfg mir a s) {calls : List FeeCall}
    {rcs : List Int} (hrun : runSession (gresbTarget hd hr sim own junk fee₀) mir s calls = some (rcs, s'))
    (hpre : s'.env.sent <+: S) {j : Nat} {cmd : Cmd} (hj : s.env.sent.length ≤ j) (hj' : j < s'.env.sent.length)
    (hcmd : S[j]? = some cmd) (hw : cmd.IsSramWrite cfg) (hcov : cmd.Covers x) : ∃ c ∈ calls, c.Uploads x := by
  induction calls generalizing a s rcs with
  | nil =>
    obtain ⟨-, rfl⟩ := Prod.mk.inj (Option.some.inj hrun)
    exact absurd hj' (not_lt.2 hj)
  | cons c calls ih =>
    obtain ⟨rc, s₁, rcs', rfl, hc, hcalls⟩ := runSession_cons hrun
    have hpre₁ := (sent_runSession hcalls).trans hpre
    obtain ⟨es, cmds, a₁, -, hcopies, -, h₁⟩ := h.exec hd hr sim own junk fee₀ hmir hc hpre₁
    by_cases hlt : j < s₁.env.sent.length
    · exact ⟨c, List.mem_cons_self, hcopies.within cmd (hcopies.mem hpre₁ hj hlt hcmd) hw x hcov⟩
    · obtain ⟨c', hc', hup⟩ := ih h₁ hcalls (not_lt.1 hlt)
      exact ⟨c', List.mem_cons_of_mem _ hc', hup⟩

end Session

section Results

variable {cfg : RmapCfg} (hd : cfg.dpath = []) (hr : cfg.rpath = []) (sim : Mirror) (hsim : sim.Apart)
  (own : Nat → Mem → Mem) (junk : Nat → Junk) (fee₀ : Mem) (mir : Mirror) (hmir : mir.Alloc) (s : Sys Net)
  (hcfg : s.cfg = cfg) (hlog : s.log.Empty) (henv : s.env.Idle) (hrx : s.rxLog = [])
include hsim hmir hcfg hlog henv hrx

/-- **What is uploaded is the same on both sides**: an upload returns 0, in a session with any calls, failures, delays and
orders of the replies, and a byte of its range is not stored anew after that. Then the FEE has what the mirror has, from
the last command of the upload on, whatever is uploaded again. -/
theorem sram_uploaded (before after : List FeeCall) (up : FeeCall) (rcs rcs' : List Int) (s₁ s₂ s₃ : Sys Net)
    (h₁ : runSession (gresbTarget hd hr sim own junk fee₀) mir s before = some (rcs, s₁))
    (hup : up.exec (gresbTarget hd hr sim own junk fee₀) mir s₁ = some (0, s₂))
    (h₃ : runSession (gresbTarget hd hr sim own junk fee₀) mir s₂ after = some (rcs', s₃)) (x : Nat)
    (hx : up.Uploads x) (hown : ∀ j m, sim.sramAt (own j m) x = sim.sramAt m x) (hafter : ∀ c ∈ after, ¬ c.Stores x)
    (j : Nat) (hj : s₂.env.sent.length ≤ j) (hj' : j ≤ s₃.env.sent.length) :
    sim.sramAt (gresbMem sim own junk fee₀ s₃.env.sent j) x = mir.sramAt s₃.mem x := by
  have hpre₂ := sent_runSession h₃
  obtain ⟨es₁, a₁, -, -, hs₁⟩ := (Shadows.start hd hr sim own junk fee₀ mir hcfg hlog henv hrx).session hd hr sim own junk
    fee₀ hmir (S := s₃.env.sent) h₁ ((FeeCall.sent_exec hup).trans hpre₂)
  obtain ⟨es₂, cmds, a₂, -, hcopies, -, hs₂⟩ := hs₁.exec hd hr sim own junk fee₀ hmir hup hpre₂
  obtain ⟨es₃, a₃, -, -, hs₃⟩ := hs₂.session hd hr sim own junk fee₀ hmir (S := s₃.env.sent) h₃ List.prefix_rfl
  obtain ⟨cmd, -, hw, hcov⟩ := hcopies.all rfl x hx
  have hlt := hcov.lt hw
  have hag := SramAgrees.upload hd hr hsim hs₃.sent hlt hown junk fee₀ hcopies hpre₂ hx
  exact (hag.session hd hr hsim hmir hs₃.sent hlt hown hs₂ h₃ List.prefix_rfl hafter).agree j hj hj'

/-- **What is not uploaded stays as it was**: no command of a session, and of no upload that fails, changes another byte of
the SRAM of the FEE. -/
theorem sram_kept (calls : List FeeCall) (rcs : List Int) (s' : Sys Net)
    (h : runSession (gresbTarget hd hr sim own junk fee₀) mir s calls = some (rcs, s')) (x : Nat)
    (hx : x < FEE_SRAM_SIZE.toNat) (hown : ∀ j m, sim.sramAt (own j m) x = sim.sramAt m x)
    (hno : ∀ c ∈ calls, ¬ c.Uploads x) (j : Nat) (hj : j ≤ s'.env.sent.length) :
    sim.sramAt (gresbMem sim own junk fee₀ s'.env.sent j) x = sim.sramAt fee₀ x := by
  have hstart := Shadows.start hd hr sim own junk fee₀ mir hcfg hlog henv hrx
  obtain ⟨es, a, -, -, hs⟩ := hstart.session hd hr sim own junk fee₀ hmir h List.prefix_rfl
  refine sramAt_untouched hd hr hsim junk fee₀ hs.sent hx hown hj fun i cmd hi hcmd => ?_
  rintro ⟨hw, hcov⟩
  obtain ⟨c, hc, hup⟩ := hstart.session_within hd hr hmir h List.prefix_rfl (by rw [henv.1]; exact Nat.zero_le i)
    (by omega) hcmd hw hcov
  exact hno c hc hup

end Results

/-- Two samples are stored and uploaded one by one; a third one follows, with all of them uploaded again. -/
theorem sram_uploaded_samples :
    let mir : Mirror := ⟨.little, 0x100, 0x1000⟩
    let sim : Mirror := ⟨.big, 0x4000, 0x10000⟩
    let junk : Nat → Junk := fun _ => ⟨fun _ => 0xEE, fun _ => 0xEE, fun _ => 0xEE⟩
    let s : Sys Net := ⟨{}, {}, fun _ => 0, [], {}⟩
    let T := @gresbTarget {} rfl rfl sim (fun _ m => m) junk fun _ => 0
    let up : FeeCall := ⟨.upload 4 FEE_SRAM_START 4 2 fun _ => by decide, {}⟩
    let after : List FeeCall := [⟨.sync .dpu2fee .vstart, {}⟩,
      ⟨.store (.samples (fun _ => 0x0506) (FEE_SRAM_START + 4) 1 (by decide)), {}⟩,
      ⟨.upload 4 FEE_SRAM_START 6 4 fun _ => by decide, {}⟩]
    ∃ s₁ s₂ s₃, runSession T mir s [⟨.store (.samples (fun i => if i = 0 then 0x0102 else 0x0304) FEE_SRAM_START 2
        (by decide)), {}⟩] = some ([4], s₁) ∧ up.exec T mir s₁ = some (0, s₂) ∧
      runSession T mir s₂ after = some ([0, 2, 0], s₃) ∧ s₂.env.sent.length = 2 ∧ s₃.env.sent.length = 5 ∧
      sim.sramAt (gresbMem sim (fun _ m => m) junk (fun _ => 0) s₃.env.sent 2) 1 = mir.sramAt s₃.mem 1 ∧
      mir.sramAt s₃.mem 1 = 2 := by
  intro mir sim junk s T up after
  have h₁ : (runSession T mir s [⟨.store (.samples (fun i => if i = 0 then 0x0102 else 0x0304) FEE_SRAM_START 2
      (by decide)), {}⟩]).map Prod.fst = some [4] := by decide +kernel
  obtain ⟨⟨rcs₁, s₁⟩, hrun₁, rfl⟩ := Option.map_eq_some_iff.1 h₁
  have h₂ : (up.exec T mir s₁).map (fun r => (r.1, r.2.env.sent.length)) = some (0, 2) := by
    obtain ⟨-, rfl⟩ := Prod.mk.inj (Option.some.inj hrun₁)
    decide +kernel
  obtain ⟨⟨rc, s₂⟩, hup, heq⟩ := Option.map_eq_some_iff.1 h₂
  obtain ⟨rfl, hlen₂⟩ := Prod.mk.inj heq
  have h₃ : (runSession T mir s₂ after).map (fun r => (r.1, r.2.env.sent.length, mir.sramAt r.2.mem 1)) =
      some ([0, 2, 0], 5, 2) := by
    have hall : ((runSession T mir s [⟨.store (.samples (fun i => if i = 0 then 0x0102 else 0x0304) FEE_SRAM_START 2
        (by decide)), {}⟩]).bind fun r => (up.exec T mir r.2).bind fun r => (runSession T mir r.2 after).map
          fun r => (r.1, r.2.env.sent.length, mir.sramAt r.2.mem 1)) = some ([0, 2, 0], 5, 2) := by decide +kernel
    rw [hrun₁, Option.bind_some, hup] at hall
    exact hall
  obtain ⟨⟨rcs₃, s₃⟩, hrun₃, heq⟩ := Option.map_eq_some_iff.1 h₃
  simp only [Prod.mk.injEq] at heq
  obtain ⟨rfl, hlen₃, hval⟩ := heq
  have hempty : TransLog.Empty {} := ⟨rfl, fun k => by simp [TransLog.holds]⟩
  have hstores : ∀ c ∈ after, ¬ c.Stores 1 := by decide
  have hsame := @sram_uploaded {} rfl rfl sim (by decide) (fun _ m => m) junk (fun _ => 0) mir
    ⟨by decide, by decide, by decide⟩ s rfl hempty ⟨rfl, rfl, rfl⟩ rfl _ after up _ _ s₁ s₂ s₃ hrun₁ hup hrun₃ 1
    ⟨by decide, by decide⟩ (fun _ _ => rfl) hstores 2 hlen₂.le (hlen₃ ▸ by decide)
  exact ⟨s₁, s₂, s₃, hrun₁, hup, hrun₃, hlen₂, hlen₃, hsame, hval⟩

/-- An upload fails, for want of memory, when its first sample has been sent. The sample behind its range is not sent. -/
theorem sram_kept_behind :
    let mir : Mirror := ⟨.little, 0x100, 0x1000⟩
    let sim : Mirror := ⟨.big, 0x4000, 0x10000⟩
    let junk : Nat → Junk := fun _ => ⟨fun _ => 0xEE, fun _ => 0xEE, fun _ => 0xEE⟩
    let s : Sys Net := ⟨{}, {}, fun _ => 7, [], {}⟩
    let T := @gresbTarget {} rfl rfl sim (fun _ m => m) junk fun _ => 9
    let calls : List FeeCall := [⟨.upload 4 FEE_SRAM_START 4 2 fun _ => by decide, { mallocs := [true, true, false] }⟩]
    ∃ s', runSession T mir s calls = some ([-1], s') ∧ s'.env.sent.length = 1 ∧
      sim.sramAt (gresbMem sim (fun _ m => m) junk (fun _ => 9) s'.env.sent 1) 0 = 7 ∧
      sim.sramAt (gresbMem sim (fun _ m => m) junk (fun _ => 9) s'.env.sent 1) 4 = sim.sramAt (fun _ => 9) 4 := by
  intro mir sim junk s T calls
  have hvals : (runSession T mir s calls).map (fun r => (r.1, r.2.env.sent.length,
      sim.sramAt (gresbMem sim (fun _ m => m) junk (fun _ => 9) r.2.env.sent 1) 0)) = some ([-1], 1, 7) := by
    decide +kernel
  obtain ⟨⟨rcs, s'⟩, hrun, heq⟩ := Option.map_eq_some_iff.1 hvals
  simp only [Prod.mk.injEq] at heq
  obtain ⟨rfl, hlen, hval⟩ := heq
  have hempty : TransLog.Empty {} := ⟨rfl, fun k => by simp [TransLog.holds]⟩
  have hno : ∀ c ∈ calls, ¬ c.Uploads 4 := by
    simp only [calls, List.forall_mem_singleton, FeeCall.Uploads]
    decide
  have hkept := @sram_kept {} rfl rfl sim (by decide) (fun _ m => m) junk (fun _ => 9) mir
    ⟨by decide, by decide, by decide⟩ s rfl hempty ⟨rfl, rfl, rfl⟩ rfl calls _ s' hrun 4 (by decide) (fun _ _ => rfl) hno 1
    hlen.ge
  exact ⟨s', hrun, hlen, hval, hkept⟩

end SmileFee
