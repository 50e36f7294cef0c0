import HybridTls.Lib.Session
import Mathlib.Logic.Function.Iterate

/-!
# Computations that remember their result

A computation that fills a cache when it finds none, and returns what is in the
cache from then on. If it may raise, it matters when the cache is assigned: here it
is assigned before it is filled (`Memo.memo`), so that a call that raises leaves a
cache behind, and the calls after it return what had got into it.

The calls therefore agree with each other exactly when filling does not raise
(`Memo.transparent_memo_iff`).
-/

namespace Memo

open Raising

variable {ε σ α : Type}

/-! ### Calling again and again -/

/-- How a computation ends. -/
def outcome (x : EStateM ε σ α) (s : σ) : Except ε α :=
  match x s with
  | .ok a _ => .ok a
  | .error e _ => .error e

section Outcome

variable {β : Type} {x : EStateM ε σ α} {f : α → EStateM ε σ β} {s : σ}

theorem outcome_bind :
    outcome (x >>= f) s = outcome x s >>= fun a => outcome (f a) (final x s) := by
  change (match EStateM.bind x f s with | .ok a _ => Except.ok a | .error e _ => .error e) = _
  unfold EStateM.bind outcome final
  cases x s <;> rfl

@[simp] theorem outcome_pure {a : α} : outcome (pure a : EStateM ε σ α) s = .ok a := rfl

@[simp] theorem outcome_ofExcept {x : Except ε α} :
    outcome (ofExcept x : EStateM ε σ α) s = x := by
  cases x <;> rfl

theorem outcome_adaptExcept {ε' : Type} {g : ε → ε'} :
    outcome (x.adaptExcept g) s = (outcome x s).mapError g := by
  unfold outcome EStateM.adaptExcept
  cases x s <;> rfl

end Outcome

/-- How the call behind `n` others ends. -/
def call (x : EStateM ε σ α) (s : σ) (n : ℕ) : Except ε α := outcome x ((final x)^[n] s)

/-- **The calls agree with each other**: they all return the same, or they all
raise. -/
def Transparent (x : EStateM ε σ α) (s : σ) : Prop :=
  (∃ a, ∀ n, call x s n = .ok a) ∨ ∀ n, ∃ e, call x s n = .error e

/-- A computation that returns, and leaves a state behind in which it returns the
same and leaves the same behind. -/
theorem call_of_fixed {x : EStateM ε σ α} {s s' : σ} {a : α} (h : x s = .ok a s')
    (h' : x s' = .ok a s') (n : ℕ) : call x s n = .ok a := by
  cases n with
  | zero => simp [call, outcome, h]
  | succ n =>
    have hstate : (final x)^[n + 1] s = s' := by
      rw [Function.iterate_succ_apply, final, h]
      exact Function.iterate_fixed (by rw [final, h']) n
    rw [call, hstate, outcome, h']

/-! ### A cache that is assigned before it is filled -/

/-- Fill the cache if there is none, and return it. -/
def memo (init : α) (fill : EStateM ε (Option α) Unit) : EStateM ε (Option α) α := do
  if (← get).isNone then
    set (some init)
    fill
  return (← get).getD init

section Memo

variable {init a : α} {fill : EStateM ε (Option α) Unit} {s s' : Option α} {e : ε}

@[simp] theorem memo_some : memo init fill (some a) = .ok a (some a) := rfl

theorem memo_none : memo init fill none =
    match fill (some init) with
    | .ok _ s => .ok (s.getD init) s
    | .error e s => .error e s := by
  change EStateM.bind fill (fun _ s => .ok (s.getD init) s) (some init) = _
  unfold EStateM.bind
  cases fill (some init) <;> rfl

/-- A computation does not take the cache away. -/
def KeepsCache {β : Type} (x : EStateM ε (Option α) β) : Prop :=
  Keeps (fun s s' => s.isSome → s'.isSome) x

theorem keepsCache_pure {β : Type} (b : β) : KeepsCache (pure b : EStateM ε (Option α) β) :=
  fun _ hs => hs

theorem keepsCache_ofExcept {β : Type} (x : Except ε β) :
    KeepsCache (ofExcept x : EStateM ε (Option α) β) := by
  cases x with
  | ok b => exact fun _ hs => hs
  | error e => exact fun _ hs => hs

theorem keepsCache_get : KeepsCache (get : EStateM ε (Option α) (Option α)) := fun _ hs => hs

theorem keepsCache_modify {f : α → α} :
    KeepsCache (modify (Option.map f) : EStateM ε (Option α) Unit) := by
  intro s hs
  change (s.map f).isSome
  rwa [Option.isSome_map]

/-- **The rule of a sequence.** -/
theorem KeepsCache.bind {β γ : Type} {x : EStateM ε (Option α) β}
    {f : β → EStateM ε (Option α) γ} (hx : KeepsCache x) (hf : ∀ b, KeepsCache (f b)) :
    KeepsCache (x >>= f) :=
  Keeps.bind (R := fun (s s' : Option α) => s.isSome → s'.isSome)
    (fun _ _ _ h h' hs => h' (h hs)) hx hf

theorem KeepsCache.forM {β : Type} {f : β → EStateM ε (Option α) Unit}
    (hf : ∀ b, KeepsCache (f b)) (bs : List β) : KeepsCache (bs.forM f) := by
  induction bs with
  | nil => exact keepsCache_pure ()
  | cons b bs ih => exact (hf b).bind fun _ => ih

/-- Where a call returns, the cache is what it has returned. -/
theorem memo_eq_ok (hkeeps : KeepsCache fill) (h : memo init fill s = .ok a s') : s' = some a := by
  cases s with
  | some b =>
    rw [memo_some] at h
    cases h
    rfl
  | none =>
    rw [memo_none] at h
    split at h
    next s₁ hfill =>
      cases h
      obtain ⟨b, rfl⟩ := Option.isSome_iff_exists.mp (hkeeps.ok hfill rfl)
      rfl
    next => cases h

/-- **When the calls agree.** If filling raises, the first call does, and the second
returns what is in the cache by then. -/
theorem transparent_memo_iff (hkeeps : KeepsCache fill) :
    Transparent (memo init fill) none ↔ ∃ s, fill (some init) = .ok () s := by
  cases hfill : fill (some init) with
  | ok u s =>
    obtain ⟨a, rfl⟩ := Option.isSome_iff_exists.mp (hkeeps.ok hfill rfl)
    have hfirst : memo init fill none = .ok a (some a) := by rw [memo_none, hfill]; rfl
    refine ⟨fun _ => ⟨some a, rfl⟩, fun _ => Or.inl ⟨a, fun n => ?_⟩⟩
    exact call_of_fixed hfirst memo_some n
  | error e s =>
    obtain ⟨a, rfl⟩ := Option.isSome_iff_exists.mp (hkeeps.error hfill rfl)
    have hfirst : memo init fill none = .error e (some a) := by rw [memo_none, hfill]
    have hzero : call (memo init fill) none 0 = .error e := by simp [call, outcome, hfirst]
    have hone : call (memo init fill) none 1 = .ok a := by simp [call, outcome, final, hfirst]
    constructor
    · rintro (⟨b, hall⟩ | hall)
      · cases hzero.symm.trans (hall 0)
      · obtain ⟨e', he'⟩ := hall 1
        cases hone.symm.trans he'
    · rintro ⟨s, hs⟩
      cases hs

end Memo

end Memo
