/-!
# Progress of a run

A run does steps of which some count. As long as the goal is not met, a step that counts lowers a rank and
no other step raises it. So a run with more steps that count than the rank at its start has met the goal.
-/

namespace Progress

variable {σ ι : Type} (step : σ → ι → σ) (cost : σ → ι → Nat)

/-- How many steps of a run count. -/
def total : σ → List ι → Nat
  | _, [] => 0
  | x, i :: is => cost x i + total (step x i) is

/-- A step of the run meets the goal. -/
def Meets (Goal : σ → ι → Prop) : σ → List ι → Prop
  | _, [] => False
  | x, i :: is => Goal x i ∨ Meets Goal (step x i) is

variable {step cost} {Goal : σ → ι → Prop} {Allowed : ι → Prop} {Ready : σ → Prop} {rank : σ → Nat}

/-- **The rank rule**: `Ready` is kept until the goal is met. -/
theorem meets_of_rank
    (hstep : ∀ x i, Ready x → Allowed i → Goal x i ∨ Ready (step x i) ∧ cost x i + rank (step x i) ≤ rank x)
    {x : σ} (hx : Ready x) {is : List ι} (his : ∀ i ∈ is, Allowed i) (hlen : rank x < total step cost x is) :
    Meets step Goal x is := by
  induction is generalizing x with
  | nil => exact absurd hlen (Nat.not_lt_zero _)
  | cons i is ih =>
    rw [List.forall_mem_cons] at his
    rcases hstep x i hx his.1 with hgoal | ⟨hready, hrank⟩
    · exact Or.inl hgoal
    · simp only [total] at hlen
      exact Or.inr (ih hready his.2 (by omega))

/-- What a step that meets the goal brings about, when no later step undoes it. -/
theorem Meets.holds {Done : σ → Prop} {x : σ} {is : List ι} (h : Meets step Goal x is)
    (his : ∀ i ∈ is, Allowed i) (hgoal : ∀ x i, Goal x i → Done (step x i))
    (hkeep : ∀ x i, Allowed i → Done x → Done (step x i)) : Done (is.foldl step x) := by
  have hrun (is : List ι) (his : ∀ i ∈ is, Allowed i) (x : σ) (hx : Done x) : Done (is.foldl step x) := by
    induction is generalizing x with
    | nil => exact hx
    | cons i is ih =>
      rw [List.forall_mem_cons] at his
      exact ih his.2 (step x i) (hkeep x i his.1 hx)
  induction is generalizing x with
  | nil => exact h.elim
  | cons i is ih =>
    rw [List.forall_mem_cons] at his
    rcases h with hg | h
    · exact hrun is his.2 _ (hgoal x i hg)
    · exact ih h his.2

end Progress
