import Mathlib.Data.List.Forall2

/-!
# Feeding a consumer, and data that arrives in segments

A consumer takes one item at a time and answers each. The items are made of what was sent, in ways
that `Arrives` leaves open. `Yields` is the triple for a whole sequence: from any state of `P`, and
however the items arrive, the answers are `rs` and the final state is one of `Q`.

A sender cuts its data into segments of a fixed size and marks the last one, which may be shorter.
`Segmented.yields` is the induction for the consumer's side: what holds of the data received so far
is extended by every segment, and the last segment alone is answered differently.
-/

namespace Feed

variable {σ α β γ ρ : Type*}

/-- The answers to the items, in order, and the final state. -/
def feed (step : σ → α → ρ × σ) : σ → List α → List ρ × σ
  | s, [] => ([], s)
  | s, a :: as => ((step s a).1 :: (feed step (step s a).2 as).1, (feed step (step s a).2 as).2)

theorem feed_append (step : σ → α → ρ × σ) (s : σ) (as bs : List α) :
    feed step s (as ++ bs) =
      ((feed step s as).1 ++ (feed step (feed step s as).2 bs).1, (feed step (feed step s as).2 bs).2) := by
  induction as generalizing s with
  | nil => rfl
  | cons a as ih => simp only [List.cons_append, feed, ih]

@[simp] theorem length_feed (step : σ → α → ρ × σ) (s : σ) (as : List α) : (feed step s as).1.length = as.length := by
  induction as generalizing s with
  | nil => rfl
  | cons a as ih => simp [feed, ih]

/-- `P` holds of every step of a run, in the state before it. -/
def Along (step : σ → α → ρ × σ) (P : σ → α → Prop) : σ → List α → Prop
  | _, [] => True
  | s, a :: as => P s a ∧ Along step P (step s a).2 as

/-- Two properties of steps that agree in the states of an invariant agree along whole runs, if the
steps of one of them keep the invariant. -/
theorem along_congr {step : σ → α → ρ × σ} {I : σ → Prop} {P Q : σ → α → Prop}
    (hiff : ∀ s a, I s → (P s a ↔ Q s a)) (hkeep : ∀ s a, I s → Q s a → I (step s a).2) {s : σ} (hs : I s)
    (as : List α) : Along step P s as ↔ Along step Q s as := by
  induction as generalizing s with
  | nil => exact Iff.rfl
  | cons a as ih =>
    rw [Along, Along, hiff s a hs]
    exact and_congr_right fun hq => ih (hkeep s a hs hq)

theorem along_append {step : σ → α → ρ × σ} {P : σ → α → Prop} {s : σ} (as bs : List α) :
    Along step P s (as ++ bs) ↔ Along step P s as ∧ Along step P (feed step s as).2 bs := by
  induction as generalizing s with
  | nil => simp [Along, feed]
  | cons a as ih => rw [List.cons_append, Along, Along, feed, ih, and_assoc]

/-- An invariant with a memory: `I done` holds after the items `done`, and `A done` of the answer to the
last of them. -/
theorem feed_history {step : σ → α → ρ × σ} {I : List α → σ → Prop} {A : List α → ρ → Prop} (as : List α)
    (hstep : ∀ done a s, done ++ [a] <+: as → I done s →
      A (done ++ [a]) (step s a).1 ∧ I (done ++ [a]) (step s a).2) {s : σ} (hs : I [] s) :
    I as (feed step s as).2 ∧ ∀ k r, (feed step s as).1[k]? = some r → A (as.take (k + 1)) r := by
  suffices hgen : ∀ rest done s, done ++ rest = as → I done s →
      I as (feed step s rest).2 ∧ ∀ k r, (feed step s rest).1[k]? = some r → A (as.take (done.length + (k + 1))) r by
    simpa using hgen as [] s rfl hs
  intro rest
  induction rest with
  | nil =>
    intro done s hdone hI
    rw [List.append_nil] at hdone
    subst hdone
    exact ⟨hI, by simp [feed]⟩
  | cons a rest ih =>
    intro done s hdone hI
    rw [List.append_cons] at hdone
    obtain ⟨hA, hI'⟩ := hstep done a s ⟨rest, hdone⟩ hI
    obtain ⟨hfin, hans⟩ := ih (done ++ [a]) _ hdone hI'
    refine ⟨hfin, fun k r hk => ?_⟩
    cases k with
    | zero =>
      simp only [feed, List.getElem?_cons_zero, Option.some.injEq] at hk
      rw [← hk, ← hdone, List.take_left' (by simp)]
      exact hA
    | succ k =>
      have := hans k r (by simpa [feed] using hk)
      rwa [List.length_append, List.length_singleton, Nat.add_assoc, Nat.add_comm 1] at this

/-- What belongs to the two parts of a list, item by item. -/
theorem forall₂_of_append {r : γ → α → Prop} {cs ds : List γ} {as : List α} (h : List.Forall₂ r (cs ++ ds) as) :
    List.Forall₂ r cs (as.take cs.length) ∧ List.Forall₂ r ds (as.drop cs.length) := by
  have h₁ := List.forall₂_take cs.length h
  have h₂ := List.forall₂_drop cs.length h
  rw [List.take_left] at h₁
  rw [List.drop_left] at h₂
  exact ⟨h₁, h₂⟩

/-- From `P`, what was sent as `cs` is answered by `rs` and leads to `Q`. -/
def Yields (Arrives : γ → α → Prop) (step : σ → α → ρ × σ) (P : σ → Prop) (cs : List γ) (rs : List ρ) (Q : σ → Prop) :
    Prop :=
  ∀ as, List.Forall₂ Arrives cs as → ∀ s, P s → (feed step s as).1 = rs ∧ Q (feed step s as).2

variable {Arrives : γ → α → Prop} {step : σ → α → ρ × σ} {P Q R : σ → Prop}

theorem Yields.nil (h : ∀ s, P s → Q s) : Yields Arrives step P [] [] Q := by
  intro as has s hs
  cases has
  exact ⟨rfl, h s hs⟩

theorem Yields.cons {c : γ} {cs : List γ} {r : ρ} {rs : List ρ}
    (h : ∀ a s, Arrives c a → P s → (step s a).1 = r ∧ R (step s a).2) (ht : Yields Arrives step R cs rs Q) :
    Yields Arrives step P (c :: cs) (r :: rs) Q := by
  intro as has s hs
  cases has with
  | @cons _ a _ as ha has =>
    obtain ⟨hr, hR⟩ := h a s ha hs
    obtain ⟨hrs, hQ⟩ := ht as has _ hR
    exact ⟨by rw [feed, hr, hrs], hQ⟩

theorem Yields.append {cs ds : List γ} {rs qs : List ρ} (h : Yields Arrives step P cs rs R)
    (h' : Yields Arrives step R ds qs Q) : Yields Arrives step P (cs ++ ds) (rs ++ qs) Q := by
  intro as has s hs
  obtain ⟨h₁, h₂⟩ := forall₂_of_append has
  obtain ⟨hr, hR⟩ := h _ h₁ s hs
  obtain ⟨hq, hQ⟩ := h' _ h₂ _ hR
  rw [← List.take_append_drop cs.length as, feed_append]
  exact ⟨by rw [hr, hq], hQ⟩

/-! ## Segments -/

/-- The items carry the data in segments of `L`, the last one marked and at most as long. `Carries
segment last item` says what an item carries. -/
inductive Segmented (Carries : List β → Bool → γ → Prop) (L : Nat) : List β → List γ → Prop
  | last {c : List β} {x : γ} : c ≠ [] → c.length ≤ L → Carries c true x → Segmented Carries L c [x]
  | more {c rest : List β} {x : γ} {xs : List γ} : c.length = L → rest ≠ [] → Carries c false x →
      Segmented Carries L rest xs → Segmented Carries L (c ++ rest) (x :: xs)

variable {Carries : List β → Bool → γ → Prop} {L : Nat} {data : List β} {xs : List γ}

theorem Segmented.ne_nil (h : Segmented Carries L data xs) : xs ≠ [] := by
  cases h <;> exact List.cons_ne_nil _ _

/-- All answers are `r₀`, except the last one. -/
def answers (xs : List γ) (r₀ r₁ : ρ) : List ρ := List.replicate (xs.length - 1) r₀ ++ [r₁]

theorem answers_cons (x : γ) (h : xs ≠ []) (r₀ r₁ : ρ) : answers (x :: xs) r₀ r₁ = r₀ :: answers xs r₀ r₁ := by
  obtain ⟨k, hk⟩ := Nat.exists_eq_add_one.2 (List.length_pos_of_ne_nil h)
  simp [answers, hk, List.replicate_succ]

theorem answers_append {ys : List γ} (hx : xs ≠ []) (hy : ys ≠ []) (r₀ r₁ : ρ) :
    answers xs r₀ r₀ ++ answers ys r₀ r₁ = answers (xs ++ ys) r₀ r₁ := by
  induction xs with
  | nil => exact absurd rfl hx
  | cons x xs ih =>
    rcases eq_or_ne xs [] with rfl | hne
    · exact (answers_cons x hy r₀ r₁).symm
    · rw [answers_cons x hne, List.cons_append, ih hne, List.cons_append,
        answers_cons x (List.append_ne_nil_of_left_ne_nil hne ys)]

/-- An `r₁` before the last answer spoils the answers. -/
theorem Yields.ne_answers {cs ds : List γ} {rs : List ρ} {r₀ r₁ : ρ} (h : Yields Arrives step P cs (rs ++ [r₁]) Q)
    (hds : ds ≠ []) (hne : r₁ ≠ r₀) {as : List α} (has : List.Forall₂ Arrives (cs ++ ds) as) {s : σ} (hs : P s) :
    (feed step s as).1 ≠ answers (cs ++ ds) r₀ r₁ := by
  intro heq
  obtain ⟨h₁, h₂⟩ := forall₂_of_append has
  rw [← List.take_append_drop cs.length as, feed_append, (h _ h₁ s hs).1] at heq
  have htail : (feed step (feed step s (as.take cs.length)).2 (as.drop cs.length)).1 ≠ [] := by
    rw [← List.length_pos_iff_ne_nil, length_feed, ← h₂.length_eq]
    exact List.length_pos_of_ne_nil hds
  -- without the last answer, the left side still has `r₁` and the right side has not
  have hinit := congrArg List.dropLast heq
  rw [List.dropLast_append_of_ne_nil htail, answers, List.dropLast_concat] at hinit
  have hmem : r₁ ∈ List.replicate ((cs ++ ds).length - 1) r₀ := by
    rw [← hinit]
    simp
  exact hne (List.eq_of_mem_replicate hmem)

/-- **The consumer's induction.** `I done` holds after the data `done` has been received; where the
size of the segments is a multiple of `k`, so is the length of what has been received. -/
theorem Segmented.yields {I : List β → σ → Prop} {r₀ r₁ : ρ} (h : Segmented Carries L data xs) (k : Nat) (hL : k ∣ L)
    (hmore : ∀ done c x a s, k ∣ done.length → done.length + c.length < data.length → Carries c false x → Arrives x a →
      I done s → (step s a).1 = r₀ ∧ I (done ++ c) (step s a).2)
    (hlast : ∀ done c x a s, k ∣ done.length → done.length < data.length → done ++ c = data → Carries c true x →
      Arrives x a → I done s → (step s a).1 = r₁ ∧ Q (step s a).2) :
    Yields Arrives step (I []) xs (answers xs r₀ r₁) Q := by
  suffices hgen : ∀ rest xs, Segmented Carries L rest xs → ∀ done, k ∣ done.length → done ++ rest = data →
      Yields Arrives step (I done) xs (answers xs r₀ r₁) Q from hgen data xs h [] (Nat.dvd_zero k) rfl
  intro rest xs h
  induction h with
  | @last c x hne _ hc =>
    intro done hk hdone
    have hlt : done.length < data.length := by
      rw [← hdone, List.length_append]
      exact Nat.lt_add_of_pos_right (List.length_pos_of_ne_nil hne)
    exact .cons (fun a s ha hs => hlast done c x a s hk hlt hdone hc ha hs) (.nil fun _ hq => hq)
  | @more c rest x xs hlen hne hc htail ih =>
    intro done hk hdone
    rw [← List.append_assoc] at hdone
    have hlt : done.length + c.length < data.length := by
      rw [← hdone, List.length_append, List.length_append]
      exact Nat.lt_add_of_pos_right (List.length_pos_of_ne_nil hne)
    have hk' : k ∣ (done ++ c).length := by
      rw [List.length_append, hlen]
      exact Nat.dvd_add hk hL
    rw [answers_cons x htail.ne_nil]
    exact .cons (fun a s ha hs => hmore done c x a s hk hlt hc ha hs) (ih (done ++ c) hk' hdone)

end Feed
