import Mathlib.Tactic

/-!
# Shadow registers

Registers that are far away have a local *mirror*, which is changed like a variable. Requests are sent to
where the registers are and carried out in the order sent: a write takes the value of the mirror along, the
value that a read finds comes back some time after that, in any order, and replaces the one in the mirror.

`remote j` are the registers as request `j` finds them. They may change by themselves as well, so that only
`Follows` says what requests have to do with it.

**`Run.coherent`** is what reading a register is good for.
-/

namespace Shadow

variable {R V W : Type}

inductive Req (R V : Type) where
  | write (r : R) (v : V)
  | read (r : R)
  /-- A request that has nothing to do with registers. -/
  | other

structure State (R V : Type) where
  mirror : R → V
  sent : List (Req R V) := []
  /-- The requests, by number, whose values have come back. -/
  learned : List Nat := []

inductive Event (R V : Type) where
  | change (f : (R → V) → R → V)
  | write (r : R)
  | read (r : R)
  | other
  | learn (i : Nat)

inductive Step [DecidableEq R] (remote : Nat → R → V) : State R V → Event R V → State R V → Prop
  | change (s : State R V) (f : (R → V) → R → V) : Step remote s (.change f) { s with mirror := f s.mirror }
  | write (s : State R V) (r : R) : Step remote s (.write r) { s with sent := s.sent ++ [.write r (s.mirror r)] }
  | read (s : State R V) (r : R) : Step remote s (.read r) { s with sent := s.sent ++ [.read r] }
  | other (s : State R V) : Step remote s .other { s with sent := s.sent ++ [.other] }
  | learn (s : State R V) {i : Nat} {r : R} (hread : s.sent[i]? = some (.read r)) (hnew : i ∉ s.learned) :
      Step remote s (.learn i)
        { s with mirror := Function.update s.mirror r (remote i r), learned := s.learned ++ [i] }

inductive Run [DecidableEq R] (remote : Nat → R → V) : State R V → List (Event R V) → State R V → Prop
  | nil (s : State R V) : Run remote s [] s
  | cons {s s₁ s' : State R V} {e : Event R V} {es : List (Event R V)} :
      Step remote s e s₁ → Run remote s₁ es s' → Run remote s (e :: es) s'

def Event.isLearn : Event R V → Bool
  | .learn _ => true
  | _ => false

/-- What `obs` sees of a register is not changed locally. -/
def Event.Leaves (r : R) (obs : V → W) : Event R V → Prop
  | .change f => ∀ m, obs (f m r) = obs (m r)
  | _ => True

/-- The event that makes a request. -/
def Req.event : Req R V → Event R V
  | .write r _ => .write r
  | .read r => .read r
  | .other => .other

/-- What a request leaves in a register. -/
def Req.result [DecidableEq R] (r : R) (old : V) : Req R V → V
  | .write r' v => if r' = r then v else old
  | .read _ => old
  | .other => old

/-- As far as `obs` sees it, a register changes by requests only. -/
def Follows [DecidableEq R] (remote : Nat → R → V) (sent : List (Req R V)) (r : R) (obs : V → W) : Prop :=
  ∀ j q, sent[j]? = some q → obs (remote (j + 1) r) = obs (q.result r (remote j r))

variable [DecidableEq R] {remote : Nat → R → V} {s s₁ s' : State R V} {es es' : List (Event R V)}

theorem getElem?_of_isPrefix {α : Type} {l m : List α} (h : l <+: m) {i : Nat} {x : α} (hi : l[i]? = some x) :
    m[i]? = some x := by
  obtain ⟨t, rfl⟩ := h
  rw [List.getElem?_append_left (List.getElem?_eq_some_iff.1 hi).1, hi]

/-- A register that is not written keeps its value. -/
theorem Follows.const {sent : List (Req R V)} {r : R} {obs : V → W} (h : Follows remote sent r obs) {k l : Nat}
    (hkl : k ≤ l) (hl : l ≤ sent.length) (hno : ∀ j v, k ≤ j → sent[j]? ≠ some (.write r v)) :
    obs (remote l r) = obs (remote k r) := by
  induction l, hkl using Nat.le_induction with
  | base => rfl
  | succ l hkl ih =>
    have hq : sent[l]? = some sent[l] := List.getElem?_eq_getElem hl
    have hnot := hno l
    rw [h l _ hq, ← ih (Nat.le_of_succ_le hl)]
    cases heq : sent[l] with
    | read r' => rfl
    | other => rfl
    | write r' v =>
      have hne : r' ≠ r := by
        rintro rfl
        exact hnot v hkl (hq.trans (congrArg some heq))
      rw [Req.result, if_neg hne]

/-! ## Runs -/

theorem Step.sent_prefix {e : Event R V} (h : Step remote s e s') : s.sent <+: s'.sent := by
  cases h with
  | change f => exact List.prefix_rfl
  | write r => exact List.prefix_append _ _
  | read r => exact List.prefix_append _ _
  | other => exact List.prefix_append _ _
  | learn hread hnew => exact List.prefix_rfl

theorem Run.single {e : Event R V} (h : Step remote s e s') : Run remote s [e] s' := .cons h (.nil s')

theorem Run.append (h : Run remote s es s₁) (h' : Run remote s₁ es' s') : Run remote s (es ++ es') s' := by
  induction h with
  | nil => exact h'
  | cons hstep _ ih => exact .cons hstep (ih h')

theorem Run.sent_prefix (h : Run remote s es s') : s.sent <+: s'.sent := by
  induction h with
  | nil => exact List.prefix_rfl
  | cons hstep _ ih => exact hstep.sent_prefix.trans ih

/-- A request that ends a run takes the value that the mirror then has. -/
theorem Run.last_write {r : R} (h : Run remote s (es ++ [.write r]) s') :
    ∃ sent, s'.sent = sent ++ [.write r (s'.mirror r)] := by
  induction es generalizing s with
  | nil =>
    cases h with
    | cons hstep hrun =>
      cases hrun with
      | nil =>
        cases hstep with
        | write r => exact ⟨s.sent, rfl⟩
  | cons e es ih =>
    cases h with
    | cons hstep hrun => exact ih hrun

/-- The requests that a run adds are those of its events. -/
theorem Run.made (h : Run remote s es s') {j : Nat} {q : Req R V} (hj : s.sent.length ≤ j) (hq : s'.sent[j]? = some q) :
    q.event ∈ es := by
  induction h with
  | nil => rw [List.getElem?_eq_none hj] at hq; cases hq
  | @cons s s₁ s' e es hstep hrun ih =>
    by_cases hlen : s₁.sent.length ≤ j
    · exact List.mem_cons_of_mem _ (ih hlen hq)
    · rw [not_le] at hlen
      have hq₁ : s₁.sent[j]? = some q :=
        (List.getElem?_eq_getElem hlen).trans
          ((getElem?_of_isPrefix hrun.sent_prefix (List.getElem?_eq_getElem hlen)).symm.trans hq)
      have hlast : ∀ q', s₁.sent = s.sent ++ [q'] → q' = q := by
        intro q' heq
        have hlen' := congrArg List.length heq
        rw [List.length_append, List.length_singleton] at hlen'
        rw [heq, show j = s.sent.length by omega, List.getElem?_concat_length] at hq₁
        exact Option.some.inj hq₁
      cases hstep with
      | change f => exact absurd hlen (not_lt.2 hj)
      | write r => rw [← hlast _ rfl]; exact List.mem_cons_self
      | read r => rw [← hlast _ rfl]; exact List.mem_cons_self
      | other => rw [← hlast _ rfl]; exact List.mem_cons_self
      | learn hread hnew => exact absurd hlen (not_lt.2 hj)

theorem Run.asked (h : Run remote s es s') {r : R} (hread : .read r ∈ es) :
    ∃ i, s.sent.length ≤ i ∧ s'.sent[i]? = some (.read r) := by
  induction h with
  | nil => cases hread
  | @cons s s₁ s' e es hstep hrun ih =>
    rcases List.mem_cons.1 hread with rfl | hmem
    · cases hstep with
      | read r => exact ⟨s.sent.length, le_rfl, getElem?_of_isPrefix hrun.sent_prefix List.getElem?_concat_length⟩
    · obtain ⟨i, hi, hir⟩ := ih hmem
      exact ⟨i, hstep.sent_prefix.length_le.trans hi, hir⟩

/-- **The last value that has come back counts**, as long as nothing else changes the register. -/
theorem Run.last_learned (h : Run remote s es s') {r : R} {obs : V → W} (hes : ∀ e ∈ es, e.Leaves r obs) :
    (obs (s'.mirror r) = obs (s.mirror r) ∧
      ∀ i ∈ s'.learned, s'.sent[i]? = some (.read r) → i ∈ s.learned) ∨
    ∃ i, i ∉ s.learned ∧ s'.sent[i]? = some (.read r) ∧ obs (s'.mirror r) = obs (remote i r) := by
  induction h with
  | nil => exact Or.inl ⟨rfl, fun i hi _ => hi⟩
  | @cons s s₁ s' e es hstep hrun ih =>
    rw [List.forall_mem_cons] at hes
    cases hstep with
    | change f =>
      rcases ih hes.2 with ⟨hobs, hlearned⟩ | hlast
      · exact Or.inl ⟨hobs.trans (hes.1 s.mirror), hlearned⟩
      · exact Or.inr hlast
    | write r' => exact ih hes.2
    | read r' => exact ih hes.2
    | other => exact ih hes.2
    | @learn i r' hread hnew =>
      rcases ih hes.2 with ⟨hobs, hlearned⟩ | ⟨i', hi', hlast⟩
      · by_cases hr : r' = r
        · subst hr
          refine Or.inr ⟨i, hnew, getElem?_of_isPrefix hrun.sent_prefix hread, hobs.trans ?_⟩
          exact congrArg obs (Function.update_self ..)
        · refine Or.inl ⟨?_, fun j hj hjr => ?_⟩
          · exact hobs.trans (congrArg obs (Function.update_of_ne (fun h => hr h.symm) ..))
          · rcases List.mem_append.1 (hlearned j hj hjr) with hj' | hj'
            · exact hj'
            · -- the request is the read of another register
              rw [List.mem_singleton.1 hj', getElem?_of_isPrefix hrun.sent_prefix hread] at hjr
              cases hjr
              exact absurd rfl hr
      · exact Or.inr ⟨i', fun hmem => hi' (List.mem_append_left _ hmem), hlast⟩

/-- **Reading makes the mirror coherent**: from request `w` on the register is not written, and its values that were
asked for before `w` have come back at the start of a run. The run changes nothing in the mirror that `obs` sees, and a
value of the register comes back. Then the mirror has what the register has had since request `w`. -/
theorem Run.coherent (h : Run remote s es s') {r : R} {obs : V → W} (hes : ∀ e ∈ es, e.Leaves r obs)
    (hfollows : Follows remote s'.sent r obs) {w : Nat} (hstart : ∀ i < w, s'.sent[i]? = some (.read r) → i ∈ s.learned)
    (hno : ∀ j v, w ≤ j → s'.sent[j]? ≠ some (.write r v))
    (hcame : ∃ i ∈ s'.learned, i ∉ s.learned ∧ s'.sent[i]? = some (.read r)) {k : Nat} (hk : w ≤ k)
    (hk' : k ≤ s'.sent.length) : obs (s'.mirror r) = obs (remote k r) := by
  obtain ⟨i₀, hmem, hnew, hread⟩ := hcame
  rcases h.last_learned hes with ⟨-, hall⟩ | ⟨i, hi, hir, hobs⟩
  · exact absurd (hall i₀ hmem hread) hnew
  · have hlt := (List.getElem?_eq_some_iff.1 hir).1
    have hle : w ≤ i := not_lt.1 fun hlt' => hi (hstart i hlt' hir)
    have hconst {l : Nat} (hl : w ≤ l) (hl' : l ≤ s'.sent.length) : obs (remote l r) = obs (remote w r) :=
      hfollows.const hl hl' hno
    rw [hobs, hconst hle hlt.le, hconst hk hk']

/-! ## What is written -/

/-- From request `w` on the remote register has been what the mirror has, and the values asked for before have come
back. -/
structure State.Agrees (remote : Nat → R → V) (s : State R V) (r : R) (obs : V → W) (w : Nat) : Prop where
  le : w ≤ s.sent.length
  agree : ∀ k, w ≤ k → k ≤ s.sent.length → obs (remote k r) = obs (s.mirror r)
  settled : ∀ i < w, s.sent[i]? = some (.read r) → i ∈ s.learned

theorem Step.agrees {e : Event R V} (h : Step remote s e s') {r : R} {obs : V → W} {w : Nat}
    (hs : s.Agrees remote r obs w) (he : e.Leaves r obs) (hfollows : Follows remote s'.sent r obs) :
    s'.Agrees remote r obs w := by
  obtain ⟨hle, hagree, hsettled⟩ := hs
  -- a request, which leaves what it finds or is a write of the mirror
  have hrequest (q : Req R V) (hq : obs (q.result r (remote s.sent.length r)) = obs (s.mirror r))
      (hfollows : Follows remote (s.sent ++ [q]) r obs) :
      State.Agrees remote { s with sent := s.sent ++ [q] } r obs w := by
    refine ⟨by rw [List.length_append]; omega, fun k hk hk' => ?_, fun i hi hir => ?_⟩
    · rw [List.length_append, List.length_singleton] at hk'
      by_cases hlt : k ≤ s.sent.length
      · exact hagree k hk hlt
      · obtain rfl : k = s.sent.length + 1 := by omega
        exact (hfollows _ q List.getElem?_concat_length).trans hq
    · rw [List.getElem?_append_left (by omega)] at hir
      exact hsettled i hi hir
  cases h with
  | change f => exact ⟨hle, fun k hk hk' => (hagree k hk hk').trans (he s.mirror).symm, hsettled⟩
  | write r' =>
    refine hrequest _ ?_ hfollows
    rw [Req.result]
    split
    · rename_i hr
      rw [hr]
    · exact hagree _ hle le_rfl
  | read r' => exact hrequest _ (hagree _ hle le_rfl) hfollows
  | other => exact hrequest _ (hagree _ hle le_rfl) hfollows
  | @learn i r' hread hnew =>
    refine ⟨hle, fun k hk hk' => ?_, fun j hj hjr => List.mem_append_left _ (hsettled j hj hjr)⟩
    show obs (remote k r) = obs (Function.update s.mirror r' (remote i r') r)
    by_cases hr : r = r'
    · subst hr
      -- the value is one from after the write
      have hi : w ≤ i := not_lt.1 fun hlt => hnew (hsettled i hlt hread)
      have hlt := (List.getElem?_eq_some_iff.1 hread).1
      rw [Function.update_self, hagree i hi hlt.le]
      exact hagree k hk hk'
    · rw [Function.update_of_ne hr]
      exact hagree k hk hk'

/-- **What has been written stays in agreement**: neither later requests nor values that come back undo it. -/
theorem Run.agrees (h : Run remote s es s') {r : R} {obs : V → W} {w : Nat} (hs : s.Agrees remote r obs w)
    (hes : ∀ e ∈ es, e.Leaves r obs) (hfollows : Follows remote s'.sent r obs) : s'.Agrees remote r obs w := by
  induction h with
  | nil => exact hs
  | cons hstep hrun ih =>
    rw [List.forall_mem_cons] at hes
    have hfirst : Follows remote _ r obs := fun j q hq => hfollows j q (getElem?_of_isPrefix hrun.sent_prefix hq)
    exact ih (hstep.agrees hs hes.1 hfirst) hes.2 hfollows

theorem Run.learned_mono (h : Run remote s es s') {i : Nat} (hi : i ∈ s.learned) : i ∈ s'.learned := by
  induction h with
  | nil => exact hi
  | cons hstep _ ih =>
    refine ih ?_
    cases hstep with
    | learn hread hnew => exact List.mem_append_left _ hi
    | change f => exact hi
    | write r => exact hi
    | read r => exact hi
    | other => exact hi

/-- A write, when all values of the register that were asked for before it have come back. -/
theorem Run.agrees_write {r : R} (h : Run remote s (es ++ [.write r]) s') {o : V → W}
    (hfollows : Follows remote s'.sent r o) (hno : .read r ∉ es)
    (hsettled : ∀ i, s.sent[i]? = some (.read r) → i ∈ s.learned) : s'.Agrees remote r o s'.sent.length := by
  refine ⟨le_rfl, fun k hk hk' => ?_, fun i _ hi => ?_⟩
  · obtain rfl : k = s'.sent.length := le_antisymm hk' hk
    obtain ⟨sent, hlast⟩ := h.last_write
    have hwrite := hfollows sent.length (.write r (s'.mirror r)) (by rw [hlast, List.getElem?_concat_length])
    rw [Req.result, if_pos rfl] at hwrite
    rw [hlast, List.length_append]
    exact hwrite
  · by_cases hlt : i < s.sent.length
    · have hsome := List.getElem?_eq_getElem hlt
      exact h.learned_mono (hsettled i (hsome.trans ((getElem?_of_isPrefix h.sent_prefix hsome).symm.trans hi)))
    · rcases List.mem_append.1 (h.made (not_lt.1 hlt) hi) with hmem | hmem
      · exact absurd hmem hno
      · cases List.mem_singleton.1 hmem

end Shadow
