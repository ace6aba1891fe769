import Mathlib.Data.List.Induction

/-! Runs of a machine whose operations are total and report an outcome. A failing
operation is an operation like any other: it reports its failure. -/
namespace Ananke.Machine

open List

variable {σ α β : Type}

/-- The state after the operations `xs`, oldest first. -/
def run (exec : σ → α → σ × β) (s : σ) (xs : List α) : σ :=
  xs.foldl (fun s x => (exec s x).1) s

/-- What the operations report, one after the other. -/
def outcomes (exec : σ → α → σ × β) : σ → List α → List β
  | _, [] => []
  | s, x :: xs => (exec s x).2 :: outcomes exec (exec s x).1 xs

/-- Every operation of the run meets `G` in the state it is applied to. -/
def Meets (exec : σ → α → σ × β) (G : σ → α → Prop) : σ → List α → Prop
  | _, [] => True
  | s, x :: xs => G s x ∧ Meets exec G (exec s x).1 xs

variable {exec : σ → α → σ × β} {s : σ} {x : α} {xs ys : List α}

@[simp] theorem run_nil : run exec s [] = s := rfl

@[simp] theorem run_cons : run exec s (x :: xs) = run exec (exec s x).1 xs := rfl

theorem run_cons_of {s' : σ} {b : β} (h : exec s x = (s', b)) :
    run exec s (x :: xs) = run exec s' xs := by
  rw [run_cons, h]

theorem run_append : run exec s (xs ++ ys) = run exec (run exec s xs) ys := by
  simp [run]

theorem run_snoc : run exec s (xs ++ [x]) = (exec (run exec s xs) x).1 := by
  simp [run_append]

variable {I : σ → Prop}

/-- The rule every safety result uses: one step preserves, so a run does. -/
theorem invariant_run (hstep : ∀ s x, I s → I (exec s x).1) (hs : I s) : I (run exec s xs) := by
  induction xs generalizing s with
  | nil => exact hs
  | cons x xs ih => exact ih (hstep s x hs)

/-- The same rule where only the operations of the run preserve. -/
theorem invariant_mem (hstep : ∀ s, ∀ x ∈ xs, I s → I (exec s x).1) (hs : I s) :
    I (run exec s xs) := by
  induction xs generalizing s with
  | nil => exact hs
  | cons x xs ih =>
    exact ih (fun s y hy => hstep s y (mem_cons_of_mem _ hy)) (hstep s x (by simp) hs)

variable {G : σ → α → Prop}

/-- The same rule for runs whose steps all meet a condition. -/
theorem invariant_meets
    (hstep : ∀ s x, I s → G s x → I (exec s x).1) (hm : Meets exec G s xs) (hs : I s) :
    I (run exec s xs) := by
  induction xs generalizing s with
  | nil => exact hs
  | cons x xs ih => exact ih hm.2 (hstep s x hs hm.1)

/-- A run meets a condition exactly when each of its operations does where it happens. -/
theorem meets_append :
    Meets exec G s (xs ++ ys) ↔ Meets exec G s xs ∧ Meets exec G (run exec s xs) ys := by
  induction xs generalizing s with
  | nil => simp [Meets]
  | cons x xs ih => simp [Meets, ih, and_assoc]

theorem meets_cons_of {s' : σ} {b : β} (h : exec s x = (s', b)) (hx : G s x)
    (hxs : Meets exec G s' xs) : Meets exec G s (x :: xs) := by
  refine ⟨hx, ?_⟩
  rw [h]
  exact hxs

/-- Where each step keeps `I` exactly when it meets `G`, the runs that stay within `I` are
the runs that meet `G`; `J` is what holds anyway. -/
theorem meets_iff {J : σ → Prop} (hJ : ∀ s x, J s → J (exec s x).1)
    (hstep : ∀ s x, J s → I s → (I (exec s x).1 ↔ G s x)) (hj : J s) (hi : I s) :
    (∀ pre, pre <+: xs → I (run exec s pre)) ↔ Meets exec G s xs := by
  induction xs generalizing s with
  | nil => simp [Meets, hi]
  | cons x xs ih =>
    constructor
    · intro h
      have hx : I (exec s x).1 := h [x] ⟨xs, rfl⟩
      refine ⟨(hstep s x hj hi).mp hx, (ih (hJ s x hj) hx).mp ?_⟩
      intro pre hpre
      exact h (x :: pre) (cons_prefix_cons.mpr ⟨rfl, hpre⟩)
    · rintro ⟨hg, hm⟩ pre hpre
      have hx := (hstep s x hj hi).mpr hg
      cases pre with
      | nil => exact hi
      | cons y pre =>
        obtain ⟨rfl, hrest⟩ := cons_prefix_cons.mp hpre
        exact (ih (hJ s y hj) hx).mpr hm pre hrest

/-- Induction on the history, for properties that mention the operations so far. -/
theorem history_run {P : List α → σ → Prop} (h0 : P [] s)
    (hstep : ∀ xs x, P xs (run exec s xs) → P (xs ++ [x]) (exec (run exec s xs) x).1) :
    P xs (run exec s xs) := by
  induction xs using List.reverseRecOn with
  | nil => exact h0
  | append_singleton xs x ih => simpa [run_snoc] using hstep xs x ih

/-- Where the operations in `p` do to what `π` keeps of a state what they do to the state, and the
others leave it alone, a run seen through `π` is the run of the operations in `p`. -/
theorem run_filter {π : σ → σ} {p : α → Bool}
    (hown : ∀ s x, p x = true → exec (π s) x = (exec s x).map π id)
    (hother : ∀ s x, p x = false → π (exec s x).1 = π s) :
    run exec (π s) (xs.filter p) = π (run exec s xs) ∧ outcomes exec (π s) (xs.filter p) =
        ((xs.zip (outcomes exec s xs)).filter (p ·.1)).map Prod.snd := by
  induction xs generalizing s with
  | nil => exact ⟨rfl, rfl⟩
  | cons x xs ih =>
    cases hx : p x with
    | true => simpa [outcomes, hx, hown s x hx] using ih
    | false => simpa [outcomes, hx, hother s x hx] using @ih (exec s x).1

end Ananke.Machine
