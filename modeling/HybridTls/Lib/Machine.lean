import Mathlib.Init

/-!
# Runs of a deterministic machine

A machine is a state to start from and a step that takes one input; a run is
the left fold of the step along a list of inputs. What is proved of a step is
carried to runs once and for all:

* `Transition.Machine.invariant` – what holds at the start and is kept by every
  step holds wherever a run ends, and `Transition.Machine.invariant_of_inputs`
  the same for runs whose inputs are all of a given kind;
* `Transition.Machine.related` – what relates the two ends of every step, by a
  reflexive and transitive relation, relates the two ends of every run. This is
  the rule for statements about *any two* states of one run, such as that
  nothing is ever taken back.
-/

namespace Transition

variable {σ ι : Type*}

/-- A deterministic machine over states `σ` and inputs `ι`. -/
structure Machine (σ ι : Type*) where
  /-- The state every run starts from. -/
  init : σ
  /-- One step. -/
  step : σ → ι → σ

namespace Machine

variable (M : Machine σ ι)

/-- The state a run from `s` ends in. -/
def runFrom (s : σ) (is : List ι) : σ := is.foldl M.step s

/-- The state a run from the start ends in. -/
def run (is : List ι) : σ := M.runFrom M.init is

@[simp] theorem runFrom_nil (s : σ) : M.runFrom s [] = s := rfl

@[simp] theorem runFrom_cons (s : σ) (i : ι) (is : List ι) :
    M.runFrom s (i :: is) = M.runFrom (M.step s i) is := rfl

theorem runFrom_append (s : σ) (is js : List ι) :
    M.runFrom s (is ++ js) = M.runFrom (M.runFrom s is) js :=
  List.foldl_append

theorem run_append (is js : List ι) : M.run (is ++ js) = M.runFrom (M.run is) js :=
  M.runFrom_append _ is js

variable {M}

/-- **The invariant rule**, for runs whose inputs are all of a given kind. -/
theorem invariant_of_inputs {P : σ → Prop} {Q : ι → Prop} (hinit : P M.init)
    (hstep : ∀ s i, Q i → P s → P (M.step s i)) {is : List ι} (his : ∀ i ∈ is, Q i) :
    P (M.run is) := by
  suffices h : ∀ s, P s → P (M.runFrom s is) from h _ hinit
  induction is with
  | nil => exact fun s hs => hs
  | cons i is ih =>
    intro s hs
    exact ih (fun j hj => his j (List.mem_cons_of_mem _ hj)) _
      (hstep s i (his i List.mem_cons_self) hs)

/-- **The invariant rule.** -/
theorem invariant {P : σ → Prop} (hinit : P M.init)
    (hstep : ∀ s i, P s → P (M.step s i)) (is : List ι) : P (M.run is) :=
  invariant_of_inputs (Q := fun _ => True) hinit (fun s i _ => hstep s i) fun _ _ => trivial

/-- **The relation rule**: what relates the two ends of every step relates the
two ends of every run. -/
theorem related {R : σ → σ → Prop} (hrefl : ∀ s, R s s)
    (htrans : ∀ {s t u}, R s t → R t u → R s u) (hstep : ∀ s i, R s (M.step s i)) (s : σ)
    (is : List ι) : R s (M.runFrom s is) := by
  induction is generalizing s with
  | nil => exact hrefl s
  | cons i is ih => exact htrans (hstep s i) (ih _)

end Machine

end Transition
