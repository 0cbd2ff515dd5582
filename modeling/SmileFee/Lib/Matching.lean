import Mathlib.Data.Set.Function

/-!
# Matching replies to requests by reusable identifiers

Requests carry an identifier that is also the index of a slot of a table; a reply finds by the
identifier it repeats what was registered for its request. `Ok` says when that is sound:
whatever is live, its slot holds what was registered for it, and no other live request has the
same identifier. Identifiers are used again as soon as their slot is free, so soundness is kept
only as long as a slot is freed by the reply to its own request and by nothing else.
-/

namespace Matching

variable {ι κ α : Type*}

/-- `holds k` is what slot `k` registers, `none` when it is free; `id r` and `reg r` are the
identifier and the registered value of request `r`. -/
structure Ok (holds : κ → Option α) (id : ι → κ) (reg : ι → α) (live : Set ι) : Prop where
  held : ∀ r ∈ live, holds (id r) = some (reg r)
  inj : Set.InjOn id live

variable {holds holds' : κ → Option α} {id : ι → κ} {reg : ι → α} {live live' : Set ι}

/-- Nothing is live, nothing can go wrong. -/
theorem Ok.empty : Ok holds id reg ∅ := ⟨fun _ h => h.elim, Set.injOn_empty id⟩

/-- The identifier of a free slot is carried by no live request. -/
theorem Ok.id_ne_of_free (h : Ok holds id reg live) {k : κ} (hk : holds k = none) {r : ι} (hr : r ∈ live) :
    id r ≠ k := by
  rintro rfl
  rw [h.held r hr] at hk
  cases hk

theorem Ok.mono (h : Ok holds id reg live) (hl : live' ⊆ live) : Ok holds id reg live' :=
  ⟨fun r hr => h.held r (hl hr), h.inj.mono hl⟩

/-- Only the slots of live requests matter, and only the identifiers and values of these. -/
theorem Ok.congr (h : Ok holds id reg live) (id' : ι → κ) (reg' : ι → α)
    (hh : ∀ r ∈ live, holds' (id r) = holds (id r)) (hid : ∀ r ∈ live, id' r = id r)
    (hreg : ∀ r ∈ live, reg' r = reg r) : Ok holds' id' reg' live where
  held r hr := by rw [hid r hr, hreg r hr, hh r hr, h.held r hr]
  inj := fun r hr q hq heq => h.inj hr hq (by rw [← hid r hr, ← hid q hq, heq])

/-- Issuing a request whose slot no live request uses. -/
theorem Ok.issue (h : Ok holds id reg live) {r : ι} (hheld : holds (id r) = some (reg r))
    (hfresh : ∀ q ∈ live, id q ≠ id r) : Ok holds id reg (insert r live) where
  held q hq := by
    rcases hq with rfl | hq
    · exact hheld
    · exact h.held q hq
  inj := by
    rintro p (rfl | hp) q (rfl | hq) heq
    · rfl
    · exact absurd heq.symm (hfresh q hq)
    · exact absurd heq (hfresh p hp)
    · exact h.inj hp hq heq

/-- When every slot is free, every request has been answered. -/
theorem Ok.drained (h : Ok holds id reg live) (hfree : ∀ k, holds k = none) : live = ∅ := by
  refine Set.eq_empty_iff_forall_notMem.2 fun r hr => ?_
  have := h.held r hr
  rw [hfree] at this
  cases this

variable [DecidableEq κ]

/-- Taking a free slot. -/
theorem Ok.take (h : Ok holds id reg live) {k : κ} (hk : holds k = none) (a : α) :
    Ok (Function.update holds k (some a)) id reg live :=
  h.congr id reg (fun _ hr => Function.update_of_ne (h.id_ne_of_free hk hr) _ _) (fun _ _ => rfl) fun _ _ => rfl

/-- The reply to a live request frees its slot and ends the request. -/
theorem Ok.complete (h : Ok holds id reg live) {r : ι} (hr : r ∈ live) :
    Ok (Function.update holds (id r) none) id reg (live \ {r}) := by
  refine (h.mono Set.sdiff_subset).congr id reg (fun q hq => Function.update_of_ne (fun heq => ?_) _ _)
    (fun _ _ => rfl) fun _ _ => rfl
  exact hq.2 (h.inj hq.1 hr heq)

end Matching
