import Mathlib.Data.List.Basic
import Mathlib.Tactic.Common

/-!
# Packets on a stream

A stream has no boundaries. `Framing` is how packets are told apart in it: the first `hdr` elements of
a packet say how long it is. What has been received so far is then cut into packets in one way only,
whatever the pieces were in which it came: **`Framing.isPrefix_of_flatten`**.
-/

variable {α : Type*}

structure Framing (α : Type*) where
  hdr : Nat
  /-- The length of the packet that the stream begins with. -/
  size : List α → Nat
  hdr_pos : 0 < hdr
  hdr_le : ∀ s, hdr ≤ size s
  size_append : ∀ s t, hdr ≤ s.length → size (s ++ t) = size s

namespace Framing

variable (F : Framing α)

/-- A packet, and nothing behind it. -/
def IsFrame (p : List α) : Prop := p.length = F.size p

instance (p : List α) : Decidable (F.IsFrame p) := inferInstanceAs (Decidable (_ = _))

variable {F} {p q : List α}

theorem IsFrame.hdr_le (hp : F.IsFrame p) : F.hdr ≤ p.length := hp.symm ▸ F.hdr_le p

theorem IsFrame.ne_nil (hp : F.IsFrame p) : p ≠ [] := by
  have h := Nat.lt_of_lt_of_le F.hdr_pos hp.hdr_le
  exact List.ne_nil_of_length_pos h

/-- The size is that of the packet at the head, whatever follows. -/
theorem IsFrame.size_append (hp : F.IsFrame p) (rest : List α) : F.size (p ++ rest) = p.length := by
  rw [F.size_append p rest hp.hdr_le, hp]

theorem IsFrame.take_append (hp : F.IsFrame p) (rest : List α) :
    (p ++ rest).take (F.size (p ++ rest)) = p := by
  rw [hp.size_append, List.take_left]

/-- What is cut off the head of a stream that is long enough is a packet. -/
theorem isFrame_take {s : List α} (h : F.size s ≤ s.length) : F.IsFrame (s.take (F.size s)) := by
  have hlen : (s.take (F.size s)).length = F.size s := by rw [List.length_take, Nat.min_eq_left h]
  have hsize : F.size (s.take (F.size s) ++ s.drop (F.size s)) = F.size (s.take (F.size s)) :=
    F.size_append _ _ (by rw [hlen]; exact F.hdr_le s)
  rw [List.take_append_drop] at hsize
  exact hlen.trans hsize

/-- No packet begins another one. -/
theorem IsFrame.eq_of_append (hp : F.IsFrame p) (hq : F.IsFrame q) {s t : List α} (h : p ++ s = q ++ t) :
    p = q ∧ s = t := by
  have hpq : p = q := by rw [← hp.take_append s, h, hq.take_append t]
  subst hpq
  exact ⟨rfl, List.append_cancel_left h⟩

/-- Packets that have been taken out of a stream of packets are the first ones of it. -/
theorem append_flatten_eq {ps qs : List (List α)} (hps : ∀ p ∈ ps, F.IsFrame p) (hqs : ∀ q ∈ qs, F.IsFrame q)
    {rest : List α} (h : ps.flatten ++ rest = qs.flatten) : ∃ qs', qs = ps ++ qs' ∧ rest = qs'.flatten := by
  induction ps generalizing qs with
  | nil => exact ⟨qs, rfl, h⟩
  | cons p ps ih =>
    have hp := hps p List.mem_cons_self
    cases qs with
    | nil =>
      rw [List.flatten_cons, List.append_assoc, List.flatten_nil, List.append_eq_nil_iff] at h
      exact absurd h.1 hp.ne_nil
    | cons q qs =>
      rw [List.flatten_cons, List.append_assoc, List.flatten_cons] at h
      obtain ⟨rfl, htail⟩ := hp.eq_of_append (hqs q List.mem_cons_self) h
      obtain ⟨qs', rfl, hrest⟩ := ih (fun p' h' => hps p' (List.mem_cons_of_mem _ h'))
        (fun q' h' => hqs q' (List.mem_cons_of_mem _ h')) htail
      exact ⟨qs', rfl, hrest⟩

/-- **The cut is unique**: of a stream of packets that has arrived in part, the packets taken out are the
first ones. -/
theorem isPrefix_of_flatten {ps qs : List (List α)} (hps : ∀ p ∈ ps, F.IsFrame p) (hqs : ∀ q ∈ qs, F.IsFrame q)
    (h : ps.flatten <+: qs.flatten) : ps <+: qs := by
  obtain ⟨rest, h⟩ := h
  obtain ⟨qs', rfl, -⟩ := append_flatten_eq hps hqs h
  exact List.prefix_append ps qs'

end Framing
