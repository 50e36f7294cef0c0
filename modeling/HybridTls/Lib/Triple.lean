import HybridTls.Lib.Session

/-!
# Triples with an exit

A computation that may raise has two ends, and a triple says what holds at each of them:
`Raising.Triple P x Q E` is to start `x` where `P` holds and to be where `Q` holds when it
returns, and where `E` holds when it raises. A jump to one label from many places is such
an exit: the rule of sequence (`Raising.Triple.bind`) asks the same `E` of both parts, so
that what is to hold behind the label is proved once for each jump, and never for the
parts that the jump skips.
-/

namespace Raising

variable {ε σ α β : Type}

/-- **A triple**: started where `P` holds, the computation returns where `Q` holds, or
raises where `E` holds. -/
def Triple (P : σ → Prop) (x : EStateM ε σ α) (Q : α → σ → Prop) (E : σ → Prop) : Prop :=
  ∀ s, P s → match x s with
    | .ok a s' => Q a s'
    | .error _ s' => E s'

variable {P P' : σ → Prop} {Q Q' : α → σ → Prop} {R : β → σ → Prop} {E : σ → Prop}

/-- **The rule of sequence.** -/
theorem Triple.bind {x : EStateM ε σ α} {f : α → EStateM ε σ β} (hx : Triple P x Q E)
    (hf : ∀ a, Triple (Q a) (f a) R E) : Triple P (x >>= f) R E := by
  intro s hs
  have hxs := hx s hs
  change match EStateM.bind x f s with
    | .ok b s' => R b s'
    | .error _ s' => E s'
  unfold EStateM.bind
  cases hres : x s with
  | ok a s₁ =>
    rw [hres] at hxs
    exact hf a s₁ hxs
  | error e s₁ =>
    rw [hres] at hxs
    exact hxs

/-- **The rule of consequence.** -/
theorem Triple.mono {x : EStateM ε σ α} (hx : Triple P x Q E) (hP : ∀ s, P' s → P s)
    (hQ : ∀ a s, Q a s → Q' a s) : Triple P' x Q' E := by
  intro s hs
  have hxs := hx s (hP s hs)
  cases hres : x s with
  | ok a s₁ =>
    rw [hres] at hxs
    exact hQ a s₁ hxs
  | error e s₁ =>
    rw [hres] at hxs
    exact hxs

/-- **What holds at the end**, wherever that is. -/
theorem Triple.final {x : EStateM ε σ α} (hx : Triple P x Q E) {s : σ} (hs : P s) :
    (∃ a, Q a (final x s)) ∨ E (final x s) := by
  have hxs := hx s hs
  rw [Raising.final]
  cases hres : x s with
  | ok a s₁ =>
    rw [hres] at hxs
    exact Or.inl ⟨a, hxs⟩
  | error e s₁ =>
    rw [hres] at hxs
    exact Or.inr hxs

theorem triple_pure {a : α} (h : ∀ s, P s → Q a s) : Triple P (pure a : EStateM ε σ α) Q E :=
  fun s hs => h s hs

theorem triple_throw {e : ε} (h : ∀ s, P s → E s) : Triple P (throw e : EStateM ε σ α) Q E :=
  fun s hs => h s hs

theorem triple_modify {f : σ → σ} {Q : Unit → σ → Prop} (h : ∀ s, P s → Q () (f s)) :
    Triple P (modify f : EStateM ε σ Unit) Q E :=
  fun s hs => h s hs

/-- What is read is the state. -/
theorem triple_get_bind {f : σ → EStateM ε σ β}
    (hf : ∀ s, P s → Triple (fun s' => s' = s) (f s) R E) : Triple P (get >>= f) R E :=
  Triple.bind (Q := fun a s => s = a ∧ P a) (fun _ hs => ⟨rfl, hs⟩) fun a s hs =>
    hf a hs.2 s hs.1

end Raising
