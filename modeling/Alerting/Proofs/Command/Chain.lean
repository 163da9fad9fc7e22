import Alerting.Command

/-!
# The closed form of a chain of flags

Flags joined from left to right are true exactly when some true flag that starts
the chain or joins it by `or` is followed by no false flag that joins by `and`.
-/
namespace Alerting.Command

/-- Some true flag starts the chain or joins it by `or`, and each later flag that joins by `and`
is true. -/
def Prevails (flags : List (Operator × Bool)) : Prop :=
  ∃ (k : Nat) (op : Operator), flags[k]? = some (op, true) ∧ (k = 0 ∨ op = .or) ∧
    ∀ (j : Nat) (flag : Bool), k < j → flags[j]? = some (Operator.and, flag) → flag = true

/-- No false flag joins by `and`. -/
def Holds (flags : List (Operator × Bool)) : Prop := (Operator.and, false) ∉ flags

/-- Some true flag joins by `or`, and the flags after it hold. -/
def Revives (flags : List (Operator × Bool)) : Prop :=
  ∃ k, flags[k]? = some (Operator.or, true) ∧ Holds (flags.drop (k + 1))

theorem holds_cons (op : Operator) (flag : Bool) (flags : List (Operator × Bool)) :
    Holds ((op, flag) :: flags) ↔ (op = .and → flag = true) ∧ Holds flags := by
  rw [Holds, List.mem_cons, not_or]
  apply and_congr_left'
  cases op <;> cases flag <;> simp

theorem holds_drop_iff (flags : List (Operator × Bool)) (k : Nat) :
    Holds (flags.drop k) ↔
      ∀ (j : Nat) (flag : Bool), k ≤ j → flags[j]? = some (Operator.and, flag) → flag = true := by
  constructor
  · intro h j flag hj hflag
    cases flag with
    | true => rfl
    | false =>
      refine absurd (List.mem_of_getElem? (i := j - k) ?_) h
      rw [List.getElem?_drop, ← hflag, Nat.add_sub_cancel' hj]
  · intro h hmem
    obtain ⟨i, hi⟩ := List.getElem?_of_mem hmem
    rw [List.getElem?_drop] at hi
    exact absurd (h (k + i) false (Nat.le_add_right k i) hi) Bool.false_ne_true

theorem revives_cons (op : Operator) (flag : Bool) (flags : List (Operator × Bool)) :
    Revives ((op, flag) :: flags) ↔ (op = .or ∧ flag = true ∧ Holds flags) ∨ Revives flags := by
  constructor
  · rintro ⟨k, hk, hafter⟩
    cases k with
    | zero =>
      cases hk
      exact .inl ⟨rfl, rfl, hafter⟩
    | succ k => exact .inr ⟨k, hk, hafter⟩
  · rintro (⟨rfl, rfl, hafter⟩ | ⟨k, hk, hafter⟩)
    · exact ⟨0, rfl, hafter⟩
    · exact ⟨k + 1, hk, hafter⟩

theorem prevails_cons (op : Operator) (flag : Bool) (flags : List (Operator × Bool)) :
    Prevails ((op, flag) :: flags) ↔ (flag = true ∧ Holds flags) ∨ Revives flags := by
  constructor
  · rintro ⟨k, op', hk, hop, hafter⟩
    have hrest : Holds (((op, flag) :: flags).drop (k + 1)) :=
      (holds_drop_iff _ _).mpr fun j x hj => hafter j x hj
    cases k with
    | zero =>
      cases hk
      exact .inl ⟨rfl, hrest⟩
    | succ k =>
      obtain rfl : op' = .or := hop.resolve_left (Nat.succ_ne_zero k)
      exact .inr ⟨k, hk, hrest⟩
  · rintro (⟨rfl, hrest⟩ | ⟨k, hk, hrest⟩)
    · exact ⟨0, op, rfl, .inl rfl, (holds_drop_iff ((op, true) :: flags) 1).mp hrest⟩
    · exact ⟨k + 1, .or, hk, .inr rfl, (holds_drop_iff ((op, flag) :: flags) (k + 2)).mp hrest⟩

/-- What the flags after the first make of it. The induction goes over the suffixes of the chain,
with the joined flag of all before them as the start. -/
theorem foldl_apply_iff (flags : List (Operator × Bool)) (first : Bool) :
    flags.foldl (fun flag (op, next) => op.apply flag next) first = true ↔
      (first = true ∧ Holds flags) ∨ Revives flags := by
  induction flags generalizing first with
  | nil => simp [Holds, Revives]
  | cons head flags ih =>
    obtain ⟨op, flag⟩ := head
    rw [List.foldl_cons, ih, holds_cons, revives_cons]
    cases op with
    | and =>
      simp only [Operator.apply, Bool.and_eq_true, reduceCtorEq, false_and, false_or, true_implies]
      rw [and_assoc]
    | or =>
      simp only [Operator.apply, Bool.or_eq_true, reduceCtorEq, false_implies, true_and]
      rw [or_and_right, or_assoc]

theorem chain_eq_true_iff (flags : List (Operator × Bool)) :
    chain flags = true ↔ Prevails flags := by
  cases flags with
  | nil => simp [chain, Prevails]
  | cons head flags =>
    obtain ⟨op, flag⟩ := head
    rw [prevails_cons]
    exact foldl_apply_iff flags flag

end Alerting.Command
