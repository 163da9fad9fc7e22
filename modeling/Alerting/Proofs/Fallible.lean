/-!
# Steps that may fail

Successes of composed steps come from successes of all their parts, and faults
from the first part that fails.
-/
namespace Alerting.Fallible

variable {ε ε' α β : Type}

@[simp] theorem ok_bind (a : α) (f : α → Except ε β) : (Except.ok a >>= f) = f a := rfl

@[simp] theorem error_bind (e : ε) (f : α → Except ε β) :
    ((Except.error e : Except ε α) >>= f) = .error e := rfl

@[simp] theorem pure_eq (a : α) : (pure a : Except ε α) = .ok a := rfl

@[simp] theorem throw_eq (e : ε) : (throw e : Except ε α) = .error e := rfl

@[simp] theorem map_ok (f : α → β) (a : α) : (Except.ok a : Except ε α).map f = .ok (f a) := rfl

@[simp] theorem map_error (f : α → β) (e : ε) :
    (Except.error e : Except ε α).map f = .error e := rfl

@[simp] theorem mapError_ok (f : ε → ε') (a : α) :
    (Except.ok a : Except ε α).mapError f = .ok a := rfl

@[simp] theorem mapError_error (f : ε → ε') (e : ε) :
    (Except.error e : Except ε α).mapError f = .error (f e) := rfl

theorem bind_eq_ok {x : Except ε α} {f : α → Except ε β} {b : β} :
    x >>= f = .ok b ↔ ∃ a, x = .ok a ∧ f a = .ok b := by
  cases x <;> simp

theorem bind_eq_error {x : Except ε α} {f : α → Except ε β} {e : ε} :
    x >>= f = .error e ↔ x = .error e ∨ ∃ a, x = .ok a ∧ f a = .error e := by
  cases x <;> simp

theorem map_eq_ok {x : Except ε α} {f : α → β} {b : β} :
    x.map f = .ok b ↔ ∃ a, x = .ok a ∧ f a = b := by
  cases x <;> simp

theorem mapError_eq_ok {x : Except ε α} {f : ε → ε'} {a : α} :
    x.mapError f = .ok a ↔ x = .ok a := by
  cases x <;> simp

theorem map_eq_error {x : Except ε α} {f : α → β} {e : ε} : x.map f = .error e ↔ x = .error e := by
  cases x <;> simp

theorem mapError_eq_error {x : Except ε α} {f : ε → ε'} {e : ε'} :
    x.mapError f = .error e ↔ ∃ e', x = .error e' ∧ f e' = e := by
  cases x <;> simp

theorem mapM_cons (f : α → Except ε β) (x : α) (xs : List α) :
    (x :: xs).mapM f = (do
      let b ← f x
      let bs ← xs.mapM f
      .ok (b :: bs)) := by
  rw [List.mapM_cons]
  rfl

/-- A list of steps succeeds exactly when each step does. -/
theorem mapM_eq_ok {f : α → Except ε β} {xs : List α} {bs : List β} :
    xs.mapM f = .ok bs ↔ xs.map f = bs.map .ok := by
  induction xs generalizing bs with
  | nil => cases bs <;> simp
  | cons x xs ih =>
    simp only [mapM_cons, bind_eq_ok, ih]
    cases bs with
    | nil => simp
    | cons b bs => simp

/-! ## Two runs -/

variable {α' β' : Type}

/-- Two steps give results that are related, or both fail with the same fault. -/
inductive Alike (R : α → β → Prop) : Except ε α → Except ε β → Prop where
  | ok {a : α} {b : β} : R a b → Alike R (.ok a) (.ok b)
  | error (e : ε) : Alike R (.error e) (.error e)

theorem Alike.refl {R : α → α → Prop} (hR : ∀ a, R a a) (x : Except ε α) : Alike R x x := by
  cases x with
  | ok a => exact .ok (hR a)
  | error e => exact .error e

theorem Alike.eq {x y : Except ε α} (h : Alike Eq x y) : x = y := by
  cases h with
  | ok heq => rw [heq]
  | error e => rfl

theorem Alike.imp {R S : α → β → Prop} {x : Except ε α} {y : Except ε β} (h : Alike R x y)
    (himp : ∀ a b, x = .ok a → R a b → S a b) : Alike S x y := by
  cases h with
  | ok hab => exact .ok (himp _ _ rfl hab)
  | error e => exact .error e

theorem Alike.bind {R : α → β → Prop} {S : α' → β' → Prop} {x : Except ε α} {y : Except ε β}
    {f : α → Except ε α'} {g : β → Except ε β'} (h : Alike R x y)
    (hfg : ∀ a b, R a b → Alike S (f a) (g b)) : Alike S (x >>= f) (y >>= g) := by
  cases h with
  | ok hab => exact hfg _ _ hab
  | error e => exact .error e

theorem Alike.bind_left {R : α → β → Prop} {S : α' → β → Prop} {x : Except ε α} {y : Except ε β}
    {f : α → Except ε α'} (h : Alike R x y) (hf : ∀ a b, R a b → Alike S (f a) (.ok b)) :
    Alike S (x >>= f) y := by
  cases h with
  | ok hab => exact hf _ _ hab
  | error e => exact .error e

theorem Alike.bind_right {R : α → β → Prop} {S : α → β' → Prop} {x : Except ε α} {y : Except ε β}
    {g : β → Except ε β'} (h : Alike R x y) (hg : ∀ a b, R a b → Alike S (.ok a) (g b)) :
    Alike S x (y >>= g) := by
  cases h with
  | ok hab => exact hg _ _ hab
  | error e => exact .error e

theorem Alike.map {R : α → β → Prop} {S : α' → β' → Prop} {x : Except ε α} {y : Except ε β}
    {f : α → α'} {g : β → β'} (h : Alike R x y) (hfg : ∀ a b, R a b → S (f a) (g b)) :
    Alike S (x.map f) (y.map g) := by
  cases h with
  | ok hab => exact .ok (hfg _ _ hab)
  | error e => exact .error e

theorem Alike.mapError {R : α → β → Prop} {x : Except ε α} {y : Except ε β} (h : Alike R x y)
    (f : ε → ε') : Alike R (x.mapError f) (y.mapError f) := by
  cases h with
  | ok hab => exact .ok hab
  | error e => exact .error (f e)

end Alerting.Fallible
