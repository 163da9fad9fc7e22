import Alerting.Decimal.Shortest
import Alerting.Proofs.Decimal.Digits
import Alerting.Proofs.Decimal.Value

/-!
# The shortest decimal reads back

Whichever grid the shortest decimal of a double is found on, it has the magnitude
of the double as its double.
-/
namespace Alerting.Decimal
open Double
open Float.Model.UnpackedFloat (Sign)

/-! ## Zeros at the end -/

theorem pow_dvd_of_trailing (n : ℕ) :
    10 ^ ((Nat.toDigits 10 n).reverse.takeWhile (· = '0')).length ∣ n := by
  have hzeros : (Nat.toDigits 10 n).reverse.takeWhile (· = '0') =
      List.replicate ((Nat.toDigits 10 n).reverse.takeWhile (· = '0')).length '0' := by
    rw [List.eq_replicate_iff]
    refine ⟨rfl, fun c hc => ?_⟩
    simpa using List.mem_takeWhile_imp hc
  have hsplit : Nat.toDigits 10 n =
      ((Nat.toDigits 10 n).reverse.dropWhile (· = '0')).reverse ++
        List.replicate ((Nat.toDigits 10 n).reverse.takeWhile (· = '0')).length '0' := by
    conv_lhs => rw [← List.reverse_reverse (Nat.toDigits 10 n),
      ← List.takeWhile_append_dropWhile (p := (· = '0')) (l := (Nat.toDigits 10 n).reverse),
      List.reverse_append]
    rw [hzeros]
    simp
  have hvalue := congrArg valueOf hsplit
  rw [valueOf_toDigits, valueOf_append, valueOf_replicate_zero, List.length_replicate,
    Nat.add_zero] at hvalue
  exact ⟨_, hvalue⟩

theorem value_trim (d : Decimal) : d.trim.value = d.value := by
  rw [trim]
  by_cases hd : d.digits = 0
  · rw [if_pos hd, value_eq_zero.mpr hd, value_eq_zero.mpr rfl]
  · obtain ⟨k, hk⟩ := pow_dvd_of_trailing d.digits
    rw [if_neg hd, value, value]
    dsimp only
    generalize ((Nat.toDigits 10 d.digits).reverse.takeWhile (· = '0')).length = zeros at hk ⊢
    have hquotient : d.digits / Nat.pow 10 zeros = k := by
      rw [hk]
      exact Nat.mul_div_cancel_left k (Nat.pow_pos (by decide))
    rw [hquotient, hk, zpow_add₀ (by norm_num), zpow_natCast]
    push_cast
    ring

theorem exponent_trim {d : Decimal} (h : d.trim.digits = 0) : d.trim.exponent = 0 := by
  have hd : d.digits = 0 := by rwa [← value_eq_zero, value_trim, value_eq_zero] at h
  rw [trim, if_pos hd]

/-! ## All digits -/

theorem value_exact {x : Float} {m : ℕ} {e : ℤ} (hx : significand x = (m, e)) :
    (exact x).value = m * 2 ^ e := by
  rw [exact, hx]
  dsimp only
  by_cases he : 0 ≤ e
  · have hpower : (2 : ℚ) ^ e = (2 ^ e.toNat : ℕ) := by
      push_cast
      rw [← zpow_natCast, Int.toNat_of_nonneg he]
    rw [if_pos he, value, hpower, zpow_zero, mul_one, Nat.cast_mul]
    rfl
  · have hpower (b : ℚ) : b ^ e = (b ^ (-e).toNat)⁻¹ := by
      rw [← zpow_natCast, Int.toNat_of_nonneg (by omega), zpow_neg, inv_inv]
    have hten : (10 : ℚ) = 5 * 2 := by norm_num
    have hfive : Nat.pow 5 (-e).toNat = 5 ^ (-e).toNat := rfl
    rw [if_neg he, value, hpower 2, hten, hpower, mul_pow, hfive]
    push_cast
    field_simp

/-! ## Grids -/

theorem choose_eq (tie : Tie) (below above : Decimal) (side : Ordering) :
    tie.choose below above side = below ∨ tie.choose below above side = above := by
  cases side with
  | lt => exact .inl rfl
  | gt => exact .inr rfl
  | eq =>
    cases tie with
    | up => exact .inr rfl
    | even =>
      by_cases h : below.digits % 2 = 0
      · exact .inl (if_pos h)
      · exact .inr (if_neg h)

theorem toFloat_onGrid? {tie : Tie} {x : Float} {k : ℤ} {d : Decimal}
    (h : onGrid? tie x k = some d) : (d.toFloat == x) = true := by
  rw [onGrid?] at h
  generalize ratio x = r at h
  obtain ⟨num, den⟩ := r
  dsimp only at h
  generalize neighbours num den k = n at h
  obtain ⟨below, above, side⟩ := n
  dsimp only at h
  split at h
  · rename_i hbelow habove
    obtain rfl := Option.some.inj h
    rcases choose_eq tie below above side with heq | heq
    · rw [heq, hbelow]
    · rw [heq, habove]
  · rename_i hbelow _
    obtain rfl := Option.some.inj h
    exact hbelow
  · rename_i _ habove
    obtain rfl := Option.some.inj h
    exact habove
  · cases h

theorem ratio_ne_zero {x : Float} {m : ℕ} {e : ℤ} (hm : m ≠ 0) (hx : significand x = (m, e)) :
    (ratio x).1 ≠ 0 := by
  rw [ratio, hx]
  dsimp only
  split
  · exact Nat.mul_ne_zero hm (Nat.pow_pos (by decide)).ne'
  · exact hm

/-- The shortest decimal of a finite double has its magnitude as its double. -/
theorem toFloat_shortest (tie : Tie) {x : Float} (hx : x.isFinite = true) :
    (shortest tie x).toFloat = x.abs := by
  obtain ⟨num, den, hratio⟩ : ∃ num den, ratio x.abs = (num, den) := ⟨_, _, rfl⟩
  have hnum : (ratio x.abs).1 = num := by rw [hratio]
  rw [shortest, hratio]
  dsimp only
  rcases parts_of_isFinite hx with ⟨s, h⟩ | ⟨s, m, e, hpos, h⟩
  · have habs : parts x.abs = .zero .positive := by rw [parts_abs, h]; rfl
    have hzero : num = 0 := by
      rw [← hnum, ratio, (bits_of_zero habs).1]
      rfl
    rw [if_pos hzero]
    apply eq_of_parts_eq
    rw [habs]
    rfl
  · have habs : parts x.abs = .finite .positive m e hpos := by rw [parts_abs, h]; rfl
    have hsignificand := (bits_of_finite habs).1
    have hzero : num ≠ 0 := hnum ▸ ratio_ne_zero hpos.ne' hsignificand
    rw [if_neg hzero, toFloat_congr (value_trim _)]
    cases hgrid : (List.range 17).findSome? fun (n : Nat) =>
        onGrid? tie x.abs (leadingPower num den - n) with
    | none => exact toFloat_of_value habs (value_exact hsignificand)
    | some d =>
      obtain ⟨n, -, hn⟩ := List.exists_of_findSome?_eq_some hgrid
      exact eq_of_beq habs (toFloat_onGrid? hn)

/-- The shortest decimal of zero has no power of ten. -/
theorem exponent_shortest {tie : Tie} {x : Float} (h : (shortest tie x).digits = 0) :
    (shortest tie x).exponent = 0 := by
  rw [shortest] at h ⊢
  dsimp only at h ⊢
  split at h
  · rename_i hnum
    rw [if_pos hnum]
  · rename_i hnum
    rw [if_neg hnum]
    exact exponent_trim h

end Alerting.Decimal
