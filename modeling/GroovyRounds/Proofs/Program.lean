import Mathlib.Order.Defs.Unbundled

/-!
# Programs that may fail

Actions that change a state and may end in a failure, as actions on files and
steps of a build do. What such an action does is read off its run from a state:
one equation for each way to put actions together, the inversion of a sequence
that succeeded, and the relations between states that whole programs keep
because their parts do.
-/

namespace GroovyRounds

/-- An action that changes a state and may fail. What it changed before it failed stays
changed. -/
abbrev Program (ε σ α : Type) := ExceptT ε (StateM σ) α

namespace Program

variable {ε σ α β : Type}

-- ---------------------------------------------------------------------------
-- Runs
-- ---------------------------------------------------------------------------

@[simp] theorem run_pure (a : α) (s : σ) : (pure a : Program ε σ α) s = (.ok a, s) := rfl

@[simp] theorem run_throw (e : ε) (s : σ) : (throw e : Program ε σ α) s = (.error e, s) := rfl

@[simp] theorem run_get (s : σ) : (get : Program ε σ σ) s = (.ok s, s) := rfl

@[simp] theorem run_set (t s : σ) : (set t : Program ε σ PUnit) s = (.ok ⟨⟩, t) := rfl

@[simp] theorem run_modify (f : σ → σ) (s : σ) :
    (modify f : Program ε σ PUnit) s = (.ok ⟨⟩, f s) := rfl

theorem run_bind (x : Program ε σ α) (f : α → Program ε σ β) (s : σ) :
    (x >>= f) s = match x s with
      | (.ok a, t) => f a t
      | (.error e, t) => (.error e, t) := by
  show (ExceptT.bind x f : Program ε σ β) s = _
  simp only [ExceptT.bind, ExceptT.mk, bind, StateT.bind]
  cases h : x s with
  | mk result t => cases result <;> rfl

theorem run_tryCatch (x : Program ε σ α) (handle : ε → Program ε σ α) (s : σ) :
    (tryCatch x handle : Program ε σ α) s = match x s with
      | (.ok a, t) => (.ok a, t)
      | (.error e, t) => handle e t := by
  show (ExceptT.tryCatch x handle : Program ε σ α) s = _
  simp only [ExceptT.tryCatch, ExceptT.mk, bind, StateT.bind]
  cases h : x s with
  | mk result t => cases result <;> rfl

/-- A sequence goes on where its first part ended. -/
theorem run_bind_of_ok {x : Program ε σ α} {f : α → Program ε σ β} {s t : σ} {a : α}
    (h : x s = (.ok a, t)) : (x >>= f) s = f a t := by
  rw [run_bind, h]

theorem run_bind_of_error {x : Program ε σ α} {f : α → Program ε σ β} {s t : σ} {e : ε}
    (h : x s = (.error e, t)) : (x >>= f) s = (.error e, t) := by
  rw [run_bind, h]

/-- A sequence that succeeded is two successes. -/
theorem bind_eq_ok_iff {x : Program ε σ α} {f : α → Program ε σ β} {s u : σ} {b : β} :
    (x >>= f) s = (.ok b, u) ↔ ∃ a t, x s = (.ok a, t) ∧ f a t = (.ok b, u) := by
  rw [run_bind]
  constructor
  · intro h
    cases hx : x s with
    | mk result t =>
      cases result with
      | ok a => exact ⟨a, t, rfl, by simpa only [hx] using h⟩
      | error e => simp only [hx] at h; cases h
  · rintro ⟨a, t, hx, hf⟩
    simpa only [hx] using hf

/-- A success that was tried is one at once, or one of the handler. -/
theorem tryCatch_eq_ok_iff {x : Program ε σ α} {handle : ε → Program ε σ α} {s u : σ} {a : α} :
    (tryCatch x handle : Program ε σ α) s = (.ok a, u) ↔
      x s = (.ok a, u) ∨ ∃ e t, x s = (.error e, t) ∧ handle e t = (.ok a, u) := by
  rw [run_tryCatch]
  cases hx : x s with
  | mk result t =>
    cases result with
    | ok b =>
      constructor
      · exact .inl
      · rintro (h | ⟨_, _, h, -⟩)
        · exact h
        · cases h
    | error e =>
      constructor
      · exact fun h => .inr ⟨e, t, rfl, h⟩
      · rintro (h | ⟨_, _, h, hhandle⟩)
        · cases h
        · cases h
          exact hhandle

/-- A result that is a value, found by computing it. -/
theorem ok_of_toOption {result : Except ε α} {a : α} (h : result.toOption = some a) :
    result = .ok a := by
  cases result with
  | ok b =>
    cases h
    rfl
  | error e => cases h

/-- A run that comes to a value, found by computing it. -/
theorem eq_ok_of_toOption {x : Program ε σ α} {s : σ} {a : α}
    (h : (x s).1.toOption = some a) : ∃ t, x s = (.ok a, t) :=
  ⟨(x s).2, Prod.ext (ok_of_toOption h) rfl⟩

-- ---------------------------------------------------------------------------
-- Relations that a program keeps
-- ---------------------------------------------------------------------------

/-- However the program ends, the states before and after it are related. -/
def Keeps (R : σ → σ → Prop) (x : Program ε σ α) : Prop :=
  ∀ s, R s (x s).2

namespace Keeps

variable {R S : σ → σ → Prop} {x : Program ε σ α} {f : α → Program ε σ β}

theorem of_eq {s t : σ} {result : Except ε α} (h : Keeps R x) (hx : x s = (result, t)) :
    R s t := by
  have := h s
  rwa [hx] at this

theorem mono (h : Keeps R x) (hRS : ∀ s t, R s t → S s t) : Keeps S x :=
  fun s => hRS _ _ (h s)

theorem modify {change : σ → σ} (h : ∀ s, R s (change s)) :
    Keeps R (modify change : Program ε σ PUnit) :=
  h

/-- A sequence whose second part looks at the state it starts from. -/
theorem get_bind {f : σ → Program ε σ β} (h : ∀ s, R s (f s s).2) :
    Keeps R ((MonadState.get : Program ε σ σ) >>= f) :=
  h

section
variable [Std.Refl R]

theorem pure (a : α) : Keeps R (pure a : Program ε σ α) :=
  fun s => Std.Refl.refl s

theorem throw (e : ε) : Keeps R (throw e : Program ε σ α) :=
  fun s => Std.Refl.refl s

theorem get : Keeps R (get : Program ε σ σ) :=
  fun s => Std.Refl.refl s

end

theorem bind [IsTrans σ R] (hx : Keeps R x) (hf : ∀ a, Keeps R (f a)) : Keeps R (x >>= f) := by
  intro s
  have hs := hx s
  rw [run_bind]
  cases h : x s with
  | mk result t =>
    rw [h] at hs
    cases result with
    | ok a => exact IsTrans.trans _ _ _ hs (hf a t)
    | error e => exact hs

theorem tryCatch [IsTrans σ R] {handle : ε → Program ε σ α} (hx : Keeps R x)
    (hh : ∀ e, Keeps R (handle e)) : Keeps R (tryCatch x handle : Program ε σ α) := by
  intro s
  have hs := hx s
  rw [run_tryCatch]
  cases h : x s with
  | mk result t =>
    rw [h] at hs
    cases result with
    | ok a => exact hs
    | error e => exact IsTrans.trans _ _ _ hs (hh e t)

section
variable {γ : Type} {items : List γ} [Std.Refl R] [IsTrans σ R]

theorem forM {act : γ → Program ε σ PUnit} (h : ∀ item ∈ items, Keeps R (act item)) :
    Keeps R (items.forM act) := by
  induction items with
  | nil => exact pure _
  | cons item items ih =>
    exact bind (h item List.mem_cons_self)
      fun _ => ih fun other hother => h other (List.mem_cons_of_mem _ hother)

theorem mapM {act : γ → Program ε σ α} (h : ∀ item ∈ items, Keeps R (act item)) :
    Keeps R (items.mapM act) := by
  induction items with
  | nil => exact pure _
  | cons item items ih =>
    rw [List.mapM_cons]
    refine bind (h item List.mem_cons_self) fun _ => ?_
    exact bind (ih fun other hother => h other (List.mem_cons_of_mem _ hother))
      fun _ => pure _

theorem foldlM {step : α → γ → Program ε σ α} (h : ∀ a, ∀ item ∈ items, Keeps R (step a item))
    (a : α) : Keeps R (items.foldlM step a) := by
  induction items generalizing a with
  | nil => exact pure _
  | cons item items ih =>
    exact bind (h a item List.mem_cons_self)
      fun b => ih (fun c other hother => h c other (List.mem_cons_of_mem _ hother)) b

end

end Keeps

end Program

end GroovyRounds
