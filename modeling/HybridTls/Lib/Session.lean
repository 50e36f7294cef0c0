import Mathlib.Data.Nat.Notation

/-!
# Sessions with a transactional store

A computation that may raise carries its state through the exception: what it
did before raising stays done unless something undoes it. This file has the two
rules such computations are reasoned with – the inversion of a sequence
(`Raising.bind_eq_ok`) and the frame rule `Raising.Keeps`, a relation between
the state before and the state after that holds *however* the computation ends –
and then the computations a client of a transactional store performs.

A session (`Session`) sees the store twice: `file` is what has been committed
and what every other session sees, `image` is the uncommitted content of the
transaction this session has open, if any. The environment (`Env`) supplies the
clock, and decides for every call to the store whether it fails for a reason of
its own: a locked database, a full disk, a lost connection. Nothing is assumed
about which calls fail.

Only `Session.commit` writes `file`; that is `Session.Frame`, kept by every
other computation here.
-/

namespace Raising

variable {ε σ α β : Type}

/-- **Inversion of a sequence** that returns. -/
theorem bind_eq_ok {x : EStateM ε σ α} {f : α → EStateM ε σ β} {s s' : σ} {b : β} :
    (x >>= f) s = .ok b s' ↔ ∃ a s₁, x s = .ok a s₁ ∧ f a s₁ = .ok b s' := by
  change EStateM.bind x f s = .ok b s' ↔ _
  unfold EStateM.bind
  cases x s with
  | ok a s₁ =>
    constructor
    · exact fun h => ⟨a, s₁, rfl, h⟩
    · rintro ⟨_, _, ⟨⟩, h⟩
      exact h
  | error e s₁ => simp

/-- A sequence of which the first part returns goes on with the second. -/
theorem bind_of_ok {x : EStateM ε σ α} {f : α → EStateM ε σ β} {s s' : σ} {a : α}
    (h : x s = .ok a s') : (x >>= f) s = f a s' := by
  change EStateM.bind x f s = f a s'
  unfold EStateM.bind
  rw [h]

@[simp] theorem pure_eq_ok {a b : α} {s s' : σ} :
    (pure a : EStateM ε σ α) s = .ok b s' ↔ a = b ∧ s = s' := by
  change EStateM.Result.ok a s = .ok b s' ↔ _
  simp

@[simp] theorem throw_eq_ok {e : ε} {b : α} {s s' : σ} :
    (throw e : EStateM ε σ α) s = .ok b s' ↔ False := by
  change EStateM.Result.error e s = .ok b s' ↔ _
  simp

@[simp] theorem ofExcept_eq_ok {x : Except ε α} {a : α} {s s' : σ} :
    (ofExcept x : EStateM ε σ α) s = .ok a s' ↔ x = .ok a ∧ s = s' := by
  cases x with
  | ok b =>
    rw [Except.ok.injEq]
    exact pure_eq_ok
  | error e =>
    change EStateM.Result.error e s = .ok a s' ↔ _
    simp

/-- Renaming an exception does not turn it into a return. -/
theorem adaptExcept_eq_ok {ε' : Type} {f : ε → ε'} {x : EStateM ε σ α} {a : α} {s s' : σ} :
    x.adaptExcept f s = .ok a s' ↔ x s = .ok a s' := by
  unfold EStateM.adaptExcept
  cases x s <;> simp

/-- **Inversion of a sequence** that raises: its first part does, or its second
part after the first has returned. -/
theorem bind_eq_error {x : EStateM ε σ α} {f : α → EStateM ε σ β} {s s' : σ} {e : ε} :
    (x >>= f) s = .error e s' ↔
      x s = .error e s' ∨ ∃ a s₁, x s = .ok a s₁ ∧ f a s₁ = .error e s' := by
  change EStateM.bind x f s = .error e s' ↔ _
  unfold EStateM.bind
  cases x s with
  | ok a s₁ =>
    constructor
    · exact fun h => Or.inr ⟨a, s₁, rfl, h⟩
    · rintro (h | ⟨_, _, ⟨⟩, h⟩)
      · cases h
      · exact h
  | error e₁ s₁ => simp

/-- Cleaning up after an exception and raising it again does not turn it into a
return. -/
theorem tryCatch_rethrow_eq_ok {x : EStateM ε σ α} {c : ε → EStateM ε σ β} {s s' : σ} {a : α} :
    tryCatch x (fun e => c e >>= fun _ => throw e) s = .ok a s' ↔ x s = .ok a s' := by
  change EStateM.tryCatch x _ s = .ok a s' ↔ _
  unfold EStateM.tryCatch
  cases hx : x s with
  | ok b s₁ => simp
  | error e s₁ => simp [bind_eq_ok]

/-- A guarded computation that raises does so in its handler. -/
theorem tryCatch_eq_error {x : EStateM ε σ α} {h : ε → EStateM ε σ α} {s s' : σ} {e : ε} :
    tryCatch x h s = .error e s' ↔ ∃ e₁ s₁, x s = .error e₁ s₁ ∧ h e₁ s₁ = .error e s' := by
  change EStateM.tryCatch x h s = .error e s' ↔ _
  unfold EStateM.tryCatch
  cases x s with
  | ok b s₁ => simp
  | error e₁ s₁ =>
    constructor
    · exact fun he => ⟨e₁, s₁, rfl, he⟩
    · rintro ⟨_, _, ⟨⟩, he⟩
      exact he

/-- The state a computation ends in, whether it returns or raises. -/
def final (x : EStateM ε σ α) (s : σ) : σ :=
  match x s with
  | .ok _ s' => s'
  | .error _ s' => s'

/-- **The state a sequence ends in**: that of its first part if this raises, and else that
of its second part. -/
theorem final_bind (x : EStateM ε σ α) (f : α → EStateM ε σ β) (s : σ) :
    final (x >>= f) s =
      match x s with
      | .ok a s₁ => final (f a) s₁
      | .error _ s₁ => s₁ := by
  change (match EStateM.bind x f s with | .ok _ s' => s' | .error _ s' => s') = _
  unfold EStateM.bind
  cases x s <;> rfl

@[simp] theorem final_ofExcept {x : Except ε α} {s : σ} :
    final (ofExcept x : EStateM ε σ α) s = s := by
  cases x <;> rfl

@[simp] theorem final_adaptExcept {ε' : Type} {f : ε → ε'} {x : EStateM ε σ α} {s : σ} :
    final (x.adaptExcept f) s = final x s := by
  unfold final EStateM.adaptExcept
  cases x s <;> rfl

/-- A computation with a final part returns when both do. -/
theorem tryFinally_eq_ok {x : EStateM ε σ α} {c : EStateM ε σ β} {s s' : σ} {a : α} :
    tryFinally x c s = .ok a s' ↔ ∃ s₁ b, x s = .ok a s₁ ∧ c s₁ = .ok b s' := by
  simp only [tryFinally, tryFinally', Functor.map, EStateM.map]
  cases x s with
  | ok b s₁ => cases hc : c s₁ <;> grind
  | error e s₁ => cases hc : c s₁ <;> simp [hc]

/-- A computation that raises ends in the state its final part leaves behind;
if the final part never raises, it is the computation that did. -/
theorem tryFinally_eq_error {x : EStateM ε σ α} {c : EStateM ε σ β} {s s' : σ} {e : ε}
    (hc : ∀ s₁, ∃ b s₂, c s₁ = .ok b s₂) :
    tryFinally x c s = .error e s' ↔ ∃ s₁, x s = .error e s₁ ∧ final c s₁ = s' := by
  simp only [tryFinally, tryFinally', Functor.map, EStateM.map, final]
  cases x s with
  | ok b s₁ =>
    obtain ⟨b', s₂, hb⟩ := hc s₁
    simp [hb]
  | error e₁ s₁ =>
    obtain ⟨b', s₂, hb⟩ := hc s₁
    simp only [hb]
    grind

/-- **A computation keeps a relation** between the state before and the state
after, however it ends. -/
def Keeps (R : σ → σ → Prop) (x : EStateM ε σ α) : Prop := ∀ s, R s (final x s)

variable {R : σ → σ → Prop}

theorem Keeps.ok {x : EStateM ε σ α} (h : Keeps R x) {s s' : σ} {a : α} (hx : x s = .ok a s') :
    R s s' := by
  have := h s
  rwa [final, hx] at this

theorem Keeps.error {x : EStateM ε σ α} (h : Keeps R x) {s s' : σ} {e : ε}
    (hx : x s = .error e s') : R s s' := by
  have := h s
  rwa [final, hx] at this

theorem keeps_pure (hrefl : ∀ s, R s s) (a : α) : Keeps R (pure a : EStateM ε σ α) :=
  fun s => hrefl s

theorem keeps_throw (hrefl : ∀ s, R s s) (e : ε) : Keeps R (throw e : EStateM ε σ α) :=
  fun s => hrefl s

theorem keeps_modify {f : σ → σ} (h : ∀ s, R s (f s)) : Keeps R (modify f : EStateM ε σ Unit) :=
  fun s => h s

theorem keeps_get (hrefl : ∀ s, R s s) : Keeps R (get : EStateM ε σ σ) := fun s => hrefl s

/-- **The frame rule of a sequence.** -/
theorem Keeps.bind (htrans : ∀ s t u, R s t → R t u → R s u) {x : EStateM ε σ α}
    {f : α → EStateM ε σ β} (hx : Keeps R x) (hf : ∀ a, Keeps R (f a)) : Keeps R (x >>= f) := by
  intro s
  rw [final_bind]
  cases hxs : x s with
  | ok a s₁ => exact htrans _ _ _ (hx.ok hxs) (hf a s₁)
  | error e s₁ => exact hx.error hxs

/-- What holds when the first part of a sequence has ended, and is kept by the second part,
holds when the sequence has ended. -/
theorem final_bind_of_keeps {P : σ → Prop} {x : EStateM ε σ α} {f : α → EStateM ε σ β} {s : σ}
    (hx : P (final x s)) (hf : ∀ a, Keeps (fun s s' => P s → P s') (f a)) :
    P (final (x >>= f) s) := by
  rw [final_bind]
  unfold final at hx
  cases hxs : x s with
  | ok a s₁ =>
    rw [hxs] at hx
    exact hf a s₁ hx
  | error e s₁ =>
    rw [hxs] at hx
    exact hx

end Raising

/-- A session with a store `S`: the committed content, the uncommitted content
of the open transaction, and how often the clock was read and the store called. -/
structure Session (S : Type) where
  /-- What has been committed, and all that other sessions see. -/
  file : S
  /-- What the open transaction has made of it. -/
  image : Option S
  /-- Clock readings so far. -/
  readings : ℕ
  /-- Calls to the store so far. -/
  calls : ℕ

namespace Session

open Raising

/-- What a session meets: the `n`-th reading of the clock, and the error the
`n`-th call to the store raises by itself, if any. -/
structure Env (T E : Type) where
  now : ℕ → T
  fault : ℕ → Option E

variable {S T E : Type}

/-! ### What a session can do -/

/-- Read the clock. -/
def now (env : Env T E) : EStateM E (Session S) T := fun σ =>
  .ok (env.now σ.readings) { σ with readings := σ.readings + 1 }

/-- Call the store, which may fail by itself. -/
def call (env : Env T E) : EStateM E (Session S) Unit := fun σ =>
  match env.fault σ.calls with
  | none => .ok () { σ with calls := σ.calls + 1 }
  | some e => .error e { σ with calls := σ.calls + 1 }

/-- Open a transaction on the committed content. -/
def start (env : Env T E) : EStateM E (Session S) Unit := do
  call env
  modify fun σ => { σ with image := some σ.file }

/-- What a statement does to the open transaction. One that fails leaves no
trace of its own, and leaves the transaction open. -/
def apply (stmt : S → Except E S) : EStateM E (Session S) Unit := fun σ =>
  match stmt (σ.image.getD σ.file) with
  | .ok s => .ok () { σ with image := some s }
  | .error e => .error e σ

/-- Execute a statement. -/
def execute (env : Env T E) (stmt : S → Except E S) : EStateM E (Session S) Unit := do
  call env
  apply stmt

/-- Commit the open transaction. -/
def commit (env : Env T E) : EStateM E (Session S) Unit := do
  call env
  modify fun σ => { σ with file := σ.image.getD σ.file, image := none }

/-- Roll the open transaction back. -/
def rollback (env : Env T E) : EStateM E (Session S) Unit := do
  call env
  modify fun σ => { σ with image := none }

/-- Close the session, dropping what it has not committed. -/
def close : EStateM E (Session S) Unit := modify fun σ => { σ with image := none }

/-! ### Inversion -/

variable {env : Env T E} {σ σ' : Session S} {stmt : S → Except E S} {u : Unit}

@[simp] theorem now_eq_ok {t : T} :
    now env σ = .ok t σ' ↔ t = env.now σ.readings ∧ σ' = { σ with readings := σ.readings + 1 } := by
  simp [now, eq_comm]

@[simp] theorem call_eq_ok :
    call env σ = .ok u σ' ↔
      env.fault σ.calls = none ∧ σ' = { σ with calls := σ.calls + 1 } := by
  unfold call
  cases env.fault σ.calls <;> simp [eq_comm]

@[simp] theorem modify_eq_ok {f : Session S → Session S} :
    (modify f : EStateM E (Session S) Unit) σ = .ok u σ' ↔ σ' = f σ := by
  change EStateM.Result.ok () (f σ) = .ok () σ' ↔ _
  simp [eq_comm]

@[simp] theorem start_eq_ok :
    start env σ = .ok u σ' ↔ env.fault σ.calls = none ∧
      σ' = { σ with image := some σ.file, calls := σ.calls + 1 } := by
  simp only [start, bind_eq_ok, call_eq_ok, modify_eq_ok]
  constructor
  · rintro ⟨-, -, ⟨h, rfl⟩, rfl⟩
    exact ⟨h, rfl⟩
  · rintro ⟨h, rfl⟩
    exact ⟨(), _, ⟨h, rfl⟩, rfl⟩

@[simp] theorem apply_eq_ok :
    apply stmt σ = .ok u σ' ↔
      ∃ s, stmt (σ.image.getD σ.file) = .ok s ∧ σ' = { σ with image := some s } := by
  unfold apply
  cases stmt (σ.image.getD σ.file) <;> simp [eq_comm]

@[simp] theorem execute_eq_ok :
    execute env stmt σ = .ok u σ' ↔ env.fault σ.calls = none ∧
      ∃ s, stmt (σ.image.getD σ.file) = .ok s ∧
        σ' = { σ with image := some s, calls := σ.calls + 1 } := by
  simp only [execute, bind_eq_ok, call_eq_ok, apply_eq_ok]
  constructor
  · rintro ⟨-, -, ⟨h, rfl⟩, s, hs, rfl⟩
    exact ⟨h, s, hs, rfl⟩
  · rintro ⟨h, s, hs, rfl⟩
    exact ⟨(), _, ⟨h, rfl⟩, s, hs, rfl⟩

@[simp] theorem commit_eq_ok :
    commit env σ = .ok u σ' ↔ env.fault σ.calls = none ∧
      σ' = { σ with file := σ.image.getD σ.file, image := none, calls := σ.calls + 1 } := by
  simp only [commit, bind_eq_ok, call_eq_ok, modify_eq_ok]
  constructor
  · rintro ⟨-, -, ⟨h, rfl⟩, rfl⟩
    exact ⟨h, rfl⟩
  · rintro ⟨h, rfl⟩
    exact ⟨(), _, ⟨h, rfl⟩, rfl⟩

/-! ### The frame -/

/-- **The frame of everything but a commit**: the committed content stays, and
the clock only advances. -/
structure Frame (σ σ' : Session S) : Prop where
  file : σ'.file = σ.file
  readings : σ.readings ≤ σ'.readings

theorem Frame.refl (σ : Session S) : Frame σ σ := ⟨rfl, Nat.le_refl _⟩

theorem Frame.trans {σ₁ σ₂ σ₃ : Session S} (h : Frame σ₁ σ₂) (h' : Frame σ₂ σ₃) :
    Frame σ₁ σ₃ := ⟨h'.file.trans h.file, Nat.le_trans h.readings h'.readings⟩

theorem frame_bind {α β : Type} {x : EStateM E (Session S) α} {f : α → EStateM E (Session S) β}
    (hx : Keeps Frame x) (hf : ∀ a, Keeps Frame (f a)) : Keeps Frame (x >>= f) :=
  Keeps.bind (R := Frame) (fun _ _ _ => Frame.trans) hx hf

theorem frame_now : Keeps Frame (now env : EStateM E (Session S) T) := fun _ =>
  ⟨rfl, Nat.le_succ _⟩

theorem frame_call : Keeps Frame (call env : EStateM E (Session S) Unit) := by
  intro σ
  unfold final call
  cases env.fault σ.calls <;> exact ⟨rfl, Nat.le_refl _⟩

theorem frame_start : Keeps Frame (start env : EStateM E (Session S) Unit) :=
  frame_bind frame_call fun _ _ => ⟨rfl, Nat.le_refl _⟩

theorem frame_rollback : Keeps Frame (rollback env : EStateM E (Session S) Unit) :=
  frame_bind frame_call fun _ _ => ⟨rfl, Nat.le_refl _⟩

/-- A commit that raises has written nothing. -/
theorem frame_commit_error {e : E} (h : commit env σ = .error e σ') : Frame σ σ' := by
  rcases bind_eq_error.mp h with h | ⟨-, σ₁, -, h⟩
  · exact frame_call.error h
  · cases h

theorem frame_close : Keeps Frame (close : EStateM E (Session S) Unit) := fun _ =>
  ⟨rfl, Nat.le_refl _⟩

theorem frame_execute : Keeps Frame (execute env stmt) := by
  refine frame_bind frame_call fun _ σ => ?_
  unfold final apply
  cases stmt (σ.image.getD σ.file) <;> exact ⟨rfl, Nat.le_refl _⟩

end Session
