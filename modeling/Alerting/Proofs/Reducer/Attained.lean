import Alerting.Proofs.Condition.Shuffled

/-!
# Extremes that the points attain

The extremes start from an infinity, which is no point of the series. A number among the points
takes its place, and what comes out then is a point of the series that bounds the numbers among
them. Without a number the infinity itself comes out.
-/
namespace Alerting.Reducer
open Double
open Float.Model (UnpackedFloat)
open Float.Model.UnpackedFloat (Sign)

/-- `m` is one of the doubles, but for the sign of a zero, and is related to all numbers among
them. -/
structure IsExtreme (r : Float → Float → Prop) (xs : List Float) (m : Float) : Prop where
  attained : ∃ x ∈ xs, SameNumber m x
  bound : ∀ x ∈ xs, x.isNaN = false → r m x

/-! ## Choices -/

/-- A choice of one of two doubles which keeps the place that `r` puts before the other, and which
has nothing before `start`. -/
structure Picks (pick : Float → Float → Float) (op : ℤ → ℤ → ℤ) (r : ℤ → ℤ → Prop)
    (start : Float) : Prop where
  goesBy : GoesBy pick op
  choice : ∀ x y, pick x y = x ∨ pick x y = y
  skip : ∀ x y, y.isNaN = true → pick x y = x
  left : ∀ a b, r (op a b) a
  right : ∀ a b, r (op a b) b
  refl : ∀ a, r a a
  trans : ∀ a b c, r a b → r b c → r a c
  number : start.isNaN = false
  last : ∀ x, x.isNaN = false → r (level start) (level x) → x = start

section
variable {pick : Float → Float → Float} {op : ℤ → ℤ → ℤ} {r : ℤ → ℤ → Prop} {start : Float}
  (h : Picks pick op r start)
include h

theorem Picks.foldl_mem (xs : List Float) (x : Float) :
    xs.foldl pick x = x ∨ xs.foldl pick x ∈ xs := by
  induction xs generalizing x with
  | nil => exact .inl rfl
  | cons y xs ih =>
    rw [List.foldl_cons]
    rcases ih (pick x y) with hkept | hmem
    · rw [hkept]
      refine (h.choice x y).imp_right fun hy => ?_
      rw [hy]
      exact List.mem_cons_self
    · exact .inr (List.mem_cons_of_mem y hmem)

theorem Picks.foldl_bound (ks : List ℤ) (k : ℤ) :
    r (ks.foldl op k) k ∧ ∀ l ∈ ks, r (ks.foldl op k) l := by
  induction ks generalizing k with
  | nil => exact ⟨h.refl k, by simp⟩
  | cons l ks ih =>
    obtain ⟨hfirst, hrest⟩ := ih (op k l)
    refine ⟨h.trans _ _ _ hfirst (h.left k l), ?_⟩
    rintro l' hl'
    rcases List.mem_cons.mp hl' with rfl | hl'
    · exact h.trans _ _ _ hfirst (h.right k l')
    · exact hrest l' hl'

/-- What is picked is a number at least as far out as all numbers of the list. -/
theorem Picks.level_foldl (xs : List Float) : (xs.foldl pick start).isNaN = false ∧
    ∀ x ∈ xs, x.isNaN = false → r (level (xs.foldl pick start)) (level x) := by
  obtain ⟨hnumber, hlevel⟩ := foldl_goesBy h.goesBy xs h.number
  refine ⟨hnumber, fun x hx hxn => ?_⟩
  have hmem : x ∈ xs.filter fun x => !x.isNaN := List.mem_filter.mpr ⟨hx, by rw [hxn]; rfl⟩
  rw [hlevel]
  exact (h.foldl_bound _ _).2 _ (List.mem_map_of_mem hmem)

/-- A number in the list takes the place of the start. -/
theorem Picks.foldl_mem_of_number {xs : List Float} (hxs : ∃ x ∈ xs, x.isNaN = false) :
    xs.foldl pick start ∈ xs := by
  obtain ⟨x, hx, hxn⟩ := hxs
  rcases h.foldl_mem xs start with hstart | hmem
  · have hbound := (h.level_foldl xs).2 x hx hxn
    rw [hstart] at hbound ⊢
    exact h.last x hxn hbound ▸ hx
  · exact hmem

theorem Picks.foldl_of_isNaN {xs : List Float} (hxs : ∀ x ∈ xs, x.isNaN = true) :
    xs.foldl pick start = start := by
  induction xs with
  | nil => rfl
  | cons x xs ih =>
    rw [List.foldl_cons, h.skip start x (hxs x List.mem_cons_self)]
    exact ih fun y hy => hxs y (List.mem_cons_of_mem x hy)

/-- What is picked is an extreme of the list exactly if there is a number in it. -/
theorem Picks.isExtreme_iff {R : Float → Float → Prop} (hR : ∀ x y, R x y ↔
    x.isNaN = false ∧ y.isNaN = false ∧ r (level x) (level y)) (xs : List Float) :
    IsExtreme R xs (xs.foldl pick start) ↔ ∃ x ∈ xs, x.isNaN = false := by
  obtain ⟨hnumber, hbound⟩ := h.level_foldl xs
  constructor
  · rintro ⟨⟨x, hx, rfl | hsame⟩, -⟩
    · exact ⟨_, hx, hnumber⟩
    · exact ⟨x, hx, (beq_iff.mp hsame).2.1⟩
  · intro hxs
    exact ⟨⟨_, h.foldl_mem_of_number hxs, .inl rfl⟩,
      fun x hx hxn => (hR _ _).mpr ⟨hnumber, hxn, hbound x hx hxn⟩⟩

end

/-! ## The least and the greatest -/

theorem eq_of_level_eq {x y : Float} (hx : x.isNaN = false) (hy : y.isNaN = false)
    (hzero : (y == 0.0) = false) (h : level x = level y) : x = y := by
  rcases eq_or_zero_of_beq (beq_iff.mpr ⟨hx, hy, h⟩) with heq | ⟨-, hzero'⟩
  · exact heq
  · rw [hzero] at hzero'
    cases hzero'

theorem lesser_picks : Picks lesser Min.min (· ≤ ·) Decimal.infinity where
  goesBy := lesser_goesBy
  choice x y := by
    rw [lesser]
    split_ifs <;> simp
  skip x y hy := if_pos hy
  left := min_le_left
  right := min_le_right
  refl := le_refl
  trans _ _ _ := le_trans
  number := by decide
  last x hx hle := eq_of_level_eq hx (by decide) (by decide) (le_antisymm (level_le x) hle)

theorem greater_picks : Picks greater Max.max (· ≥ ·) (-Decimal.infinity) where
  goesBy := greater_goesBy
  choice x y := by
    rw [greater]
    split_ifs <;> simp
  skip x y hy := if_pos hy
  left := le_max_left
  right := le_max_right
  refl := le_refl
  trans _ _ _ := ge_trans
  number := by decide
  last x hx hge := eq_of_level_eq hx (by decide) (by decide) (le_antisymm hge (neg_le_level x))

theorem isExtreme_lesser_iff (xs : List Float) :
    IsExtreme (· ≤ ·) xs (xs.foldl lesser Decimal.infinity) ↔ ∃ x ∈ xs, x.isNaN = false :=
  lesser_picks.isExtreme_iff (fun _ _ => le_iff) xs

theorem isExtreme_greater_iff (xs : List Float) :
    IsExtreme (· ≥ ·) xs (xs.foldl greater (-Decimal.infinity)) ↔ ∃ x ∈ xs, x.isNaN = false := by
  refine greater_picks.isExtreme_iff (fun x y => ?_) xs
  rw [ge_iff_le, le_iff, and_left_comm]

/-! ## Series -/

theorem doubles_ne_nil {s : Series} (h : s.values ≠ []) : s.doubles ≠ [] :=
  List.map_eq_nil_iff.not.mp h

theorem min_reduce {s : Series} (h : s.doubles ≠ []) :
    min.reduce s = some (s.values.foldl lesser Decimal.infinity) := by
  obtain ⟨first, rest, hdoubles⟩ := List.exists_cons_of_ne_nil h
  rw [reduce, Series.values, hdoubles]
  rfl

theorem max_reduce {s : Series} (h : s.doubles ≠ []) :
    max.reduce s = some (s.values.foldl greater (-Decimal.infinity)) := by
  obtain ⟨first, rest, hdoubles⟩ := List.exists_cons_of_ne_nil h
  rw [reduce, Series.values, hdoubles]
  rfl

/-- An extreme that is no zero is a double of the list. -/
theorem IsExtreme.mem {r : Float → Float → Prop} {xs : List Float} {m : Float}
    (h : IsExtreme r xs m) (hzero : (m == 0.0) = false) : m ∈ xs := by
  obtain ⟨x, hx, rfl | hsame⟩ := h.attained
  · exact hx
  · rcases eq_or_zero_of_beq hsame with rfl | ⟨hzero', -⟩
    · exact hx
    · rw [hzero] at hzero'
      cases hzero'

/-- The extremes of a series are points of it, but for the sign of a zero, and bound all numbers
among them, exactly if there is a number among them. Then the infinities that they start from come
out only if they are points themselves. Without a number they do come out. -/
theorem reduce_attained (s : Series) (h : s.values ≠ []) :
    ∃ lo hi, min.reduce s = some lo ∧ max.reduce s = some hi ∧
      (IsExtreme (· ≤ ·) s.values lo ↔ ∃ x ∈ s.values, x.isNaN = false) ∧
      (IsExtreme (· ≥ ·) s.values hi ↔ ∃ x ∈ s.values, x.isNaN = false) ∧
      ((∃ x ∈ s.values, x.isNaN = false) →
        (lo = Decimal.infinity → Decimal.infinity ∈ s.values) ∧
        (hi = -Decimal.infinity → -Decimal.infinity ∈ s.values)) ∧
      ((∀ x ∈ s.values, x.isNaN = true) →
        lo = Decimal.infinity ∧ hi = -Decimal.infinity) := by
  have hne := doubles_ne_nil h
  refine ⟨_, _, min_reduce hne, max_reduce hne, isExtreme_lesser_iff _, isExtreme_greater_iff _,
    fun hnumber => ⟨fun hlo => ?_, fun hhi => ?_⟩, fun hnan => ⟨?_, ?_⟩⟩
  · rw [← hlo]
    exact lesser_picks.foldl_mem_of_number hnumber
  · rw [← hhi]
    exact greater_picks.foldl_mem_of_number hnumber
  · exact lesser_picks.foldl_of_isNaN hnan
  · exact greater_picks.foldl_of_isNaN hnan

/-! A point that is no number comes first, and an infinity is a point as well. -/

def gusts : Series :=
  ⟨none, none, [⟨.newYear2024, some (.ofFloat Float.nan)⟩, ⟨.newYear2024, some (.ofFloat 3.0)⟩,
    ⟨.newYear2024, none⟩, ⟨.newYear2024, some (.ofFloat Decimal.infinity)⟩,
    ⟨.newYear2024, some (.ofFloat (-0.0))⟩]⟩

theorem reduce_attained_gusts : gusts.values ≠ [] ∧
    ∃ lo hi, min.reduce gusts = some lo ∧ max.reduce gusts = some hi ∧
      IsExtreme (· ≤ ·) gusts.values lo ∧ IsExtreme (· ≥ ·) gusts.values hi ∧
      (hi = -Decimal.infinity → -Decimal.infinity ∈ gusts.values) := by
  have hvalues : gusts.values ≠ [] := by decide
  have hnumber : ∃ x ∈ gusts.values, x.isNaN = false := by decide
  obtain ⟨lo, hi, hlo, hhi, hlower, hupper, hstart, -⟩ := reduce_attained gusts hvalues
  exact ⟨hvalues, lo, hi, hlo, hhi, hlower.mpr hnumber, hupper.mpr hnumber, (hstart hnumber).2⟩

/-! A point that is no number, and nothing else. -/

def outOfOrder : Series := ⟨none, none, [⟨.newYear2024, some (.ofFloat Float.nan)⟩]⟩

theorem reduce_not_attained : outOfOrder.values = [Float.nan] ∧
    min.reduce outOfOrder = some Decimal.infinity ∧
    max.reduce outOfOrder = some (-Decimal.infinity) ∧
    Decimal.infinity ∉ outOfOrder.values ∧ -Decimal.infinity ∉ outOfOrder.values ∧
    ¬IsExtreme (· ≤ ·) outOfOrder.values Decimal.infinity ∧
    ¬IsExtreme (· ≥ ·) outOfOrder.values (-Decimal.infinity) := by
  have hvalues : outOfOrder.values = [Float.nan] := by decide
  have hnan : ¬∃ x ∈ outOfOrder.values, x.isNaN = false := by decide
  have hmem {x : Float} (hx : x ≠ Float.nan) : x ∉ outOfOrder.values := by
    rwa [hvalues, List.mem_singleton]
  exact ⟨hvalues, by decide, by decide, hmem (by decide), hmem (by decide),
    mt (isExtreme_lesser_iff outOfOrder.values).mp hnan,
    mt (isExtreme_greater_iff outOfOrder.values).mp hnan⟩

end Alerting.Reducer
