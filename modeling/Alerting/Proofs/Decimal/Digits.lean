import Alerting.Decimal.Basic
import Mathlib.Algebra.Group.Nat.Defs

/-!
# Decimal digits

The digits of a whole number spell the number, and only zero begins with a zero.
-/
namespace Alerting.Decimal

theorem valueOf_append (l m : List Char) :
    valueOf (l ++ m) = 10 ^ m.length * valueOf l + valueOf m := by
  change Nat.ofDigitChars 10 (l ++ m) 0 = _
  rw [Nat.ofDigitChars_append, Nat.ofDigitChars_eq_ofDigitChars_zero]
  rfl

theorem valueOf_toDigits (n : Nat) : valueOf (Nat.toDigits 10 n) = n :=
  Nat.ofDigitChars_ten_toDigits

theorem valueOf_replicate_zero (n : Nat) : valueOf (List.replicate n '0') = 0 := by
  change Nat.ofDigitChars 10 (List.replicate n '0') 0 = 0
  rw [Nat.ofDigitChars_replicate_zero, Nat.mul_zero]

theorem isDigit_of_mem_toDigits {n : Nat} {c : Char} (hc : c ∈ Nat.toDigits 10 n) :
    c.isDigit = true := Nat.isDigit_of_mem_toDigits (by decide) (by decide) hc

theorem isDigit_of_mem_replicate_zero {n : Nat} {c : Char} (hc : c ∈ List.replicate n '0') :
    c.isDigit = true := by
  rw [List.eq_of_mem_replicate hc]
  rfl

theorem head?_toDigits {n : Nat} (hn : 0 < n) : (Nat.toDigits 10 n).head? ≠ some '0' := by
  induction n using Nat.strongRecOn with
  | ind n ih =>
    rw [Nat.toDigits_eq_if (by decide)]
    by_cases hsmall : n < 10
    · rw [if_pos hsmall]
      have hdigit : ∀ k : Fin 10, 0 < k.val → [k.val.digitChar].head? ≠ some '0' := by decide
      exact hdigit ⟨n, hsmall⟩ hn
    · have hsome : (Nat.toDigits 10 (n / 10)).head?.isSome = true := by
        rw [List.isSome_head?]
        exact Nat.toDigits_ne_nil
      rw [if_neg hsmall, List.head?_append, Option.or_of_isSome hsome]
      exact ih (n / 10) (by omega) (by omega)

/-! ## Runs of digits -/

section
variable {digits rest : List Char} (hdigits : ∀ c ∈ digits, c.isDigit = true)
  (hrest : ∀ c, rest.head? = some c → c.isDigit = false)
include hdigits hrest

theorem takeWhile_digits : (digits ++ rest).takeWhile Char.isDigit = digits := by
  rw [List.takeWhile_append_of_pos hdigits]
  cases rest with
  | nil => simp
  | cons c rest => simp [hrest c rfl]

theorem dropWhile_digits : (digits ++ rest).dropWhile Char.isDigit = rest := by
  rw [List.dropWhile_append_of_pos hdigits]
  cases rest with
  | nil => rfl
  | cons c rest => simp [hrest c rfl]

end

end Alerting.Decimal
