import Mathlib.Data.List.Forall2

/-!
# Results of readers

A reader gives a value or a fault. What is known of either is put together from
the parts of the reader, one rule for each way in which it is built.
-/

namespace GroovyRounds

/-- The value is one of these, or the fault is one of those. -/
def Ends {ε α : Type} (Q : α → Prop) (P : ε → Prop) : Except ε α → Prop
  | .ok a => Q a
  | .error e => P e

/-- The value, if there is one, is one of these. -/
abbrev Yields {ε α : Type} (Q : α → Prop) (x : Except ε α) : Prop :=
  Ends Q (fun _ => True) x

namespace Ends

variable {ε α β : Type} {P : ε → Prop} {Q : α → Prop} {x : Except ε α}

theorem pure {a : α} (h : Q a) : Ends Q P (pure a) :=
  h

theorem throw {e : ε} (h : P e) : Ends Q P (throw e : Except ε α) :=
  h

theorem of_error (h : Ends Q P x) {e : ε} (hx : x = .error e) : P e := by
  rw [hx] at h
  exact h

theorem of_ok (h : Ends Q P x) {a : α} (hx : x = .ok a) : Q a := by
  rw [hx] at h
  exact h

/-- The value is what the reader gives. -/
theorem given (x : Except ε α) : Yields (x = .ok ·) x := by
  cases x with
  | ok a => rfl
  | error e => trivial

theorem mono {P' : ε → Prop} {Q' : α → Prop} (h : Ends Q P x) (hQ : ∀ a, Q a → Q' a)
    (hP : ∀ e, P e → P' e) : Ends Q' P' x := by
  cases x with
  | ok a => exact hQ a h
  | error e => exact hP e h

theorem imp {Q' : α → Prop} (h : Ends Q P x) (hQ : ∀ a, Q a → Q' a) : Ends Q' P x :=
  h.mono hQ fun _ h => h

theorem yields (h : Ends Q P x) : Yields Q x :=
  h.mono (fun _ h => h) fun _ _ => trivial

theorem bind {R : β → Prop} {f : α → Except ε β} (hx : Ends Q P x)
    (hf : ∀ a, Q a → Ends R P (f a)) : Ends R P (x >>= f) := by
  cases x with
  | ok a => exact hf a hx
  | error e => exact hx

section
variable {γ : Type} {items : List γ}

/-- Every item is read as one value, in order. -/
theorem mapM_each {act : γ → Except ε α} {R : γ → α → Prop}
    (h : ∀ item ∈ items, Ends (R item) P (act item)) :
    Ends (List.Forall₂ R items) P (items.mapM act) := by
  induction items with
  | nil => exact pure .nil
  | cons item items ih =>
    obtain ⟨hitem, hrest⟩ := List.forall_mem_cons.mp h
    rw [List.mapM_cons]
    exact bind hitem fun a ha => bind (ih hrest) fun rest hall => pure (.cons ha hall)

theorem mapM {act : γ → Except ε α} (h : ∀ item ∈ items, Ends Q P (act item)) :
    Ends (fun results => ∀ result ∈ results, Q result) P (items.mapM act) := by
  refine (mapM_each h).imp fun results hall => ?_
  induction hall with
  | nil => exact List.forall_mem_nil _
  | cons hone _ ih => exact List.forall_mem_cons.mpr ⟨hone, ih fun _ hm => h _ (.tail _ hm)⟩

/-- What is known of the items that were taken so far holds of all of them at the end. -/
theorem foldlM_each {step : α → γ → Except ε α} {R : List γ → α → Prop}
    (h : ∀ taken a, R taken a → ∀ item ∈ items, Ends (R (taken ++ [item])) P (step a item))
    (taken : List γ) {a : α} (ha : R taken a) :
    Ends (R (taken ++ items)) P (items.foldlM step a) := by
  induction items generalizing taken a with
  | nil => exact pure (by rwa [List.append_nil])
  | cons item items ih =>
    rw [List.foldlM_cons, List.append_cons]
    refine bind (h taken a ha item List.mem_cons_self) fun b hb => ?_
    exact ih (fun taken c hc other hother =>
      h taken c hc other (List.mem_cons_of_mem _ hother)) _ hb

theorem foldlM {step : α → γ → Except ε α}
    (h : ∀ a, Q a → ∀ item ∈ items, Ends Q P (step a item)) {a : α} (ha : Q a) :
    Ends Q P (items.foldlM step a) :=
  foldlM_each (R := fun _ => Q) (fun _ => h) [] ha

end

end Ends

end GroovyRounds
