import Mathlib.Data.Finset.Basic
import Mathlib.Logic.Function.Basic
import Mathlib.Tactic.Common

/-!
# Writers that go from place to place

Writers `σ` hand out items, each to one place after the other in the order of their numbers, while places
come and go. A writer has one item at a time under way, but nothing keeps the writers apart: two places can
get the items of two writers in different orders.

`Rounds` keeps what was handed out and what has come to each place. **`Inv.got`**: a place has got, of each
writer, the items that have passed it since it came, in their order and once.
-/

variable {σ α β : Type*}

/-- A writer with an item under way has come to the place of its `cursor`. -/
@[ext] structure Rounds (σ α : Type*) where
  places : Finset Nat
  last : Nat
  items : σ → List α
  cursor : σ → Option (Nat × α)
  got : Nat → List (σ × α)
  /-- How many items of a writer had passed a place when it came. -/
  joined : Nat → σ → Nat

namespace Rounds

section

variable (r : Rounds σ α) (w : σ) (p : Nat)

/-- How many items have passed a place: not the one under way that has yet to come to it. -/
def passed : Nat :=
  match r.cursor w with
  | some (c, _) => if c ≤ p then (r.items w).length - 1 else (r.items w).length
  | none => (r.items w).length

/-- What has passed a place since it came. -/
def due : List α := ((r.items w).take (r.passed w p)).drop (r.joined p w)

variable {r w p}

theorem passed_le : r.passed w p ≤ (r.items w).length := by
  rw [passed]
  split
  · split <;> omega
  · exact le_rfl

theorem due_prefix : r.due w p <+: (r.items w).drop (r.joined p w) := by
  rw [due, List.drop_take]
  exact List.take_prefix _ _

/-- Nothing under way: all items have passed. -/
theorem passed_of_idle (h : r.cursor w = none) : r.passed w p = (r.items w).length := by
  rw [passed, h]

end

variable [DecidableEq σ]

/-- What one of the writers has put into a place. -/
def sentBy (w : σ) (l : List (σ × α)) : List α := (l.filter fun x => x.1 = w).map Prod.snd

@[simp] theorem sentBy_nil (w : σ) : sentBy w ([] : List (σ × α)) = [] := rfl

theorem sentBy_concat (w w' : σ) (l : List (σ × α)) (x : α) :
    sentBy w (l ++ [(w', x)]) = if w' = w then sentBy w l ++ [x] else sentBy w l := by
  rw [sentBy, List.filter_append, List.map_append]
  split
  · rename_i h
    simp [sentBy, h]
  · rename_i h
    simp [sentBy, h]

variable (r : Rounds σ α) (w : σ) (p : Nat)

/-! ## Steps -/

/-- A writer takes the next item. -/
def begin (x : α) : Rounds σ α :=
  { r with
    items := Function.update r.items w (r.items w ++ [x])
    cursor := Function.update r.cursor w (some (0, x)) }

/-- A writer has come to the place `c`. -/
def put (c : Nat) (x : α) : Rounds σ α :=
  { r with
    got := if c ∈ r.places then Function.update r.got c (r.got c ++ [(w, x)]) else r.got
    cursor := Function.update r.cursor w (some (c + 1, x)) }

/-- A writer has been to the last place. -/
def stop : Rounds σ α := { r with cursor := Function.update r.cursor w none }

def turn : Rounds σ α :=
  match r.cursor w with
  | none => r
  | some (c, x) => if c ≤ r.last then r.put w c x else r.stop w

/-- A new place. -/
def join : Rounds σ α :=
  { r with
    places := insert p r.places
    last := max p r.last
    got := Function.update r.got p []
    joined := Function.update r.joined p fun w => r.passed w p }

def leave : Rounds σ α := { r with places := r.places.erase p }

/-- What holds of any run of the writers. -/
structure Inv (r : Rounds σ α) : Prop where
  le_last : ∀ p ∈ r.places, p ≤ r.last
  under : ∀ w c x, r.cursor w = some (c, x) → ∃ l, r.items w = l ++ [x]
  joined_le : ∀ p w, r.joined p w ≤ r.passed w p
  got : ∀ p ∈ r.places, ∀ w, sentBy w (r.got p) = r.due w p
  /-- A place that has gone has got the first ones. -/
  got_prefix : ∀ p w, sentBy w (r.got p) <+: (r.items w).drop (r.joined p w)

variable {r w p}

/-! ### A writer takes an item -/

theorem passed_begin (h : r.cursor w = none) (x : α) (w' : σ) : (r.begin w x).passed w' p = r.passed w' p := by
  rcases eq_or_ne w' w with rfl | hne
  · simp [passed, begin, h]
  · simp [passed, begin, hne]

theorem due_begin (h : r.cursor w = none) (x : α) (w' : σ) : (r.begin w x).due w' p = r.due w' p := by
  rw [due, passed_begin h, due]
  rcases eq_or_ne w' w with rfl | hne
  · have hlen : r.passed w' p ≤ (r.items w').length := passed_le
    simp only [begin, Function.update_self, List.take_append_of_le_length hlen]
  · simp only [begin, Function.update_of_ne hne]

theorem Inv.begin (hr : r.Inv) (h : r.cursor w = none) (x : α) : (r.begin w x).Inv where
  le_last := hr.le_last
  under w' c y hc := by
    simp only [Rounds.begin] at hc ⊢
    rcases eq_or_ne w' w with rfl | hne
    · rw [Function.update_self] at hc ⊢
      obtain ⟨-, rfl⟩ := Prod.mk.inj (Option.some.inj hc)
      exact ⟨_, rfl⟩
    · rw [Function.update_of_ne hne] at hc ⊢
      exact hr.under w' c y hc
  joined_le p w' := by
    rw [passed_begin h]
    exact hr.joined_le p w'
  got p hp w' := by
    rw [due_begin h]
    exact hr.got p hp w'
  got_prefix p w' := by
    refine (hr.got_prefix p w').trans ?_
    simp only [Rounds.begin]
    rcases eq_or_ne w' w with rfl | hne
    · rw [Function.update_self, List.drop_append_of_le_length ((hr.joined_le p w').trans passed_le)]
      exact List.prefix_append _ _
    · rw [Function.update_of_ne hne]

/-! ### A writer comes to a place -/

section

variable {c : Nat} {x : α}

@[simp] theorem items_put : (r.put w c x).items = r.items := rfl

@[simp] theorem joined_put : (r.put w c x).joined = r.joined := rfl

/-- The item under way passes the place, and no other one. -/
theorem passed_put (h : r.cursor w = some (c, x)) (w' : σ) :
    (r.put w c x).passed w' p = if w' = w ∧ p = c then (r.items w').length else r.passed w' p := by
  rcases eq_or_ne w' w with rfl | hne
  · simp only [passed, put, h, Function.update_self, true_and]
    split_ifs <;> omega
  · simp only [passed, put, Function.update_of_ne hne, hne, false_and, if_false]

theorem got_put : (r.put w c x).got p = if p = c ∧ c ∈ r.places then r.got p ++ [(w, x)] else r.got p := by
  simp only [put]
  rcases eq_or_ne p c with rfl | hne
  · by_cases hin : p ∈ r.places
    · simp only [hin, if_true, Function.update_self, and_self]
    · simp only [hin, if_false, and_false]
  · have hnot : ¬ (p = c ∧ c ∈ r.places) := fun h => hne h.1
    rw [if_neg hnot]
    split
    · rw [Function.update_of_ne hne]
    · rfl

theorem sentBy_put (w' : σ) : sentBy w' ((r.put w c x).got p) =
    if w' = w ∧ p = c ∧ c ∈ r.places then sentBy w' (r.got p) ++ [x] else sentBy w' (r.got p) := by
  rw [got_put]
  by_cases hin : p = c ∧ c ∈ r.places
  · simp only [hin, and_self, if_true, sentBy_concat, and_true, eq_comm]
  · simp only [hin, if_false, and_false]

theorem due_put_of_not (h : r.cursor w = some (c, x)) {w' : σ} (hnot : ¬ (w' = w ∧ p = c)) :
    (r.put w c x).due w' p = r.due w' p := by
  rw [due, passed_put h, if_neg hnot, due, items_put, joined_put]

/-- What the place has to have grows by the item. -/
theorem Inv.due_put (hr : r.Inv) (h : r.cursor w = some (c, x)) : (r.put w c x).due w c = r.due w c ++ [x] := by
  obtain ⟨l, hl⟩ := hr.under w c x h
  have hpassed : r.passed w c = l.length := by simp [passed, h, hl]
  have hjoined := hr.joined_le c w
  rw [hpassed] at hjoined
  rw [due, due, passed_put h, if_pos ⟨rfl, rfl⟩, items_put, joined_put, List.take_length, hpassed, hl,
    List.take_left, List.drop_append_of_le_length hjoined]

/-- The cursor of one writer has moved, or is gone; the items are those they were. -/
theorem Inv.under_update (hr : r.Inv) {c' : Option (Nat × α)} (hc : ∀ k y, c' = some (k, y) → ∃ l, r.items w = l ++ [y])
    (w' : σ) (k : Nat) (y : α) (h : Function.update r.cursor w c' w' = some (k, y)) : ∃ l, r.items w' = l ++ [y] := by
  rcases eq_or_ne w' w with rfl | hne
  · rw [Function.update_self] at h
    exact hc k y h
  · rw [Function.update_of_ne hne] at h
    exact hr.under w' k y h

theorem Inv.put (hr : r.Inv) (h : r.cursor w = some (c, x)) : (r.put w c x).Inv where
  le_last := hr.le_last
  under := hr.under_update fun k y hk => by
    obtain ⟨-, rfl⟩ := Prod.mk.inj (Option.some.inj hk)
    exact hr.under w c _ h
  joined_le p w' := by
    rw [passed_put h]
    refine (hr.joined_le p w').trans ?_
    split
    · exact passed_le
    · exact le_rfl
  got p hp w' := by
    rw [sentBy_put, hr.got p hp]
    by_cases hnew : w' = w ∧ p = c
    · obtain ⟨rfl, rfl⟩ := hnew
      rw [if_pos ⟨rfl, rfl, hp⟩, hr.due_put h]
    · rw [if_neg (fun hc => hnew ⟨hc.1, hc.2.1⟩), due_put_of_not h hnew]
  got_prefix p w' := by
    rw [sentBy_put]
    split
    · rename_i hnew
      obtain ⟨rfl, rfl, hp⟩ := hnew
      have hdue : (r.put w' p x).due w' p <+: _ := due_prefix
      rw [hr.due_put h] at hdue
      rwa [hr.got p hp]
    · exact hr.got_prefix p w'

theorem passed_stop (h : r.cursor w = some (c, x)) (w' : σ) :
    (r.stop w).passed w' p = if w' = w then (r.items w').length else r.passed w' p := by
  rcases eq_or_ne w' w with rfl | hne
  · simp only [passed, stop, Function.update_self, if_true]
  · simp only [passed, stop, Function.update_of_ne hne, hne, if_false]

/-- Behind the last place nothing is left to pass. -/
theorem Inv.stop (hr : r.Inv) (h : r.cursor w = some (c, x)) (hlast : r.last < c) : (r.stop w).Inv where
  le_last := hr.le_last
  under := hr.under_update fun k y hk => by cases hk
  joined_le p w' := by
    rw [passed_stop h]
    refine (hr.joined_le p w').trans ?_
    split
    · exact passed_le
    · exact le_rfl
  got p hp w' := by
    have hpassed : (r.stop w).passed w' p = r.passed w' p := by
      rw [passed_stop h]
      split
      · rename_i hw
        have hle := hr.le_last p hp
        simp only [passed, hw, h]
        rw [if_neg (by omega)]
      · rfl
    rw [due, hpassed]
    exact hr.got p hp w'
  got_prefix := hr.got_prefix

theorem Inv.turn (hr : r.Inv) (w : σ) : (r.turn w).Inv := by
  rw [Rounds.turn]
  split
  · exact hr
  · rename_i c x h
    split
    · exact hr.put h
    · rename_i hlast
      exact hr.stop h (Nat.lt_of_not_le hlast)

end

/-! ### Places come and go -/

omit [DecidableEq σ] in
theorem passed_join (q : Nat) : (r.join p).passed w q = r.passed w q := rfl

theorem Inv.join (hr : r.Inv) (p : Nat) : (r.join p).Inv where
  le_last q hq := by
    rcases Finset.mem_insert.1 hq with rfl | hq
    · exact le_max_left _ _
    · exact (hr.le_last q hq).trans (le_max_right _ _)
  under := hr.under
  joined_le q w := by
    rw [passed_join]
    simp only [Rounds.join]
    rcases eq_or_ne q p with rfl | hne
    · rw [Function.update_self]
    · rw [Function.update_of_ne hne]
      exact hr.joined_le q w
  got q hq w := by
    rw [due, passed_join]
    simp only [Rounds.join]
    rcases eq_or_ne q p with rfl | hne
    · rw [Function.update_self, Function.update_self, sentBy_nil, List.drop_eq_nil_of_le (List.length_take_le _ _)]
    · rw [Function.update_of_ne hne, Function.update_of_ne hne]
      exact hr.got q ((Finset.mem_insert.1 hq).resolve_left hne) w
  got_prefix q w := by
    simp only [Rounds.join]
    rcases eq_or_ne q p with rfl | hne
    · rw [Function.update_self]
      exact List.nil_prefix
    · rw [Function.update_of_ne hne, Function.update_of_ne hne]
      exact hr.got_prefix q w

theorem Inv.leave (hr : r.Inv) (p : Nat) : (r.leave p).Inv where
  le_last q hq := hr.le_last q (Finset.mem_of_mem_erase hq)
  under := hr.under
  joined_le := hr.joined_le
  got q hq := hr.got q (Finset.mem_of_mem_erase hq)
  got_prefix := hr.got_prefix

/-! ## The items of several writers in one place -/

end Rounds
