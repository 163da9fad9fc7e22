import Alerting.Json.Token
import Alerting.Proofs.Decimal.Digits
import Alerting.Proofs.Decimal.Shortest

/-!
# Written numbers read back

The written form of a number is one token of the number, whatever may follow a
number in a document.
-/
namespace Alerting.Json

/-- A number that a document can hold: a whole number of 64 bits or a finite double. -/
def Numeral.Valid : Numeral → Prop
  | whole n => -0x8000000000000000 ≤ n ∧ n < 0x10000000000000000
  | real x => x.isFinite = true

/-- A number of a document is a finite double. -/
theorem Numeral.Valid.isFinite_toFloat {n : Numeral} (h : n.Valid) : n.toFloat.isFinite = true := by
  cases n with
  | real x => exact h
  | whole n =>
    have hunits : (Decimal.toFloat ⟨n.natAbs, 0⟩).isFinite = true := by
      obtain ⟨hlower, hupper⟩ := h
      exact Decimal.isFinite_toFloat (by omega)
    rw [toFloat]
    split
    · rw [Double.isFinite_neg, hunits]
    · exact hunits

namespace Token
open Decimal

/-- What follows does not go on with a number. -/
def Ends (rest : List Char) : Prop :=
  ∀ c, rest.head? = some c → c.isDigit = false ∧ c ≠ '.' ∧ c ≠ 'e' ∧ c ≠ 'E'

/-! ## The parts of a number -/

theorem scanNumber_eq {whole rest : List Char} (hdigits : ∀ c ∈ whole, c.isDigit = true)
    (hwhole : whole ≠ []) (hzero : whole.head? = some '0' → whole.length = 1)
    (hrest : ∀ c, rest.head? = some c → c.isDigit = false) (negative : Bool) :
    scanNumber negative (whole ++ rest) = scanAfterWhole negative whole rest := by
  rw [scanNumber, takeWhile_digits hdigits hrest, dropWhile_digits hdigits hrest]
  split
  · exact absurd rfl hwhole
  · simp at hzero
  · rfl

theorem scanAfterWhole_point {fraction rest : List Char}
    (hdigits : ∀ c ∈ fraction, c.isDigit = true) (hfraction : fraction ≠ [])
    (hrest : ∀ c, rest.head? = some c → c.isDigit = false) (negative : Bool) (whole : List Char) :
    scanAfterWhole negative whole ('.' :: (fraction ++ rest)) =
      scanAfterFraction negative whole fraction rest := by
  have hempty : fraction.isEmpty = false := by simpa using hfraction
  simp only [scanAfterWhole, takeWhile_digits hdigits hrest, dropWhile_digits hdigits hrest, hempty]
  rfl

theorem scanAfterFraction_ends {rest : List Char} (hrest : Ends rest) (negative : Bool)
    (whole fraction : List Char) :
    scanAfterFraction negative whole fraction rest = real negative whole fraction 0 rest := by
  unfold scanAfterFraction
  split
  · exact absurd rfl (hrest 'e' rfl).2.2.1
  · exact absurd rfl (hrest 'E' rfl).2.2.2
  · rfl

theorem scanAfterWhole_ends {rest : List Char} (hrest : Ends rest) (negative : Bool)
    (whole : List Char) {n : Numeral}
    (hn : Numeral.ofUnits negative (valueOf whole) = some n) :
    scanAfterWhole negative whole rest = (⟨.ok n, .ok ()⟩, rest) := by
  unfold scanAfterWhole
  split
  · exact absurd rfl (hrest '.' rfl).2.1
  · exact absurd rfl (hrest 'e' rfl).2.2.1
  · exact absurd rfl (hrest 'E' rfl).2.2.2
  · rw [hn]

theorem scanExponent_eq {rest : List Char} (hrest : Ends rest) (negative below : Bool)
    (whole fraction : List Char) (power : Nat) :
    scanExponent negative whole fraction
        ((if below then '-' else '+') :: (Nat.toDigits 10 power ++ rest)) =
      real negative whole fraction (if below then -power else power) rest := by
  have hdigits : ∀ c ∈ Nat.toDigits 10 power, c.isDigit = true :=
    fun c hc => isDigit_of_mem_toDigits hc
  have hafter : ∀ c, rest.head? = some c → c.isDigit = false := fun c hc => (hrest c hc).1
  have hempty : (Nat.toDigits 10 power).isEmpty = false := by simp
  have hsign : splitSign ((if below then '-' else '+') :: (Nat.toDigits 10 power ++ rest)) =
      (below, Nat.toDigits 10 power ++ rest) := by
    cases below <;> rfl
  simp only [scanExponent, hsign, takeWhile_digits hdigits hafter, dropWhile_digits hdigits hafter,
    hempty, valueOf_toDigits]
  rfl

/-! ## Decimals -/

theorem real_eq {negative : Bool} {whole fraction : List Char} {exponent : Int} {d : Decimal}
    (hd : (⟨valueOf (whole ++ fraction), exponent - fraction.length⟩ : Decimal).value = d.value)
    (hfinite : d.toFloat.isInf = false) (rest : List Char) :
    real negative whole fraction exponent rest =
      (⟨.ok (.real (if negative then -d.toFloat else d.toFloat)), .ok ()⟩, rest) := by
  simp only [real, Numeral.ofDecimal, toFloat_congr hd, hfinite]
  rfl

/-- A number with a point. -/
theorem scanNumber_point {whole fraction rest : List Char} {d : Decimal}
    (hwhole : ∀ c ∈ whole, c.isDigit = true) (hwhole' : whole ≠ [])
    (hzero : whole.head? = some '0' → whole.length = 1)
    (hfraction : ∀ c ∈ fraction, c.isDigit = true) (hfraction' : fraction ≠ [])
    (hd : (⟨valueOf (whole ++ fraction), 0 - fraction.length⟩ : Decimal).value = d.value)
    (hfinite : d.toFloat.isInf = false) (hrest : Ends rest) (negative : Bool) :
    scanNumber negative (whole ++ '.' :: fraction ++ rest) =
      (⟨.ok (.real (if negative then -d.toFloat else d.toFloat)), .ok ()⟩, rest) := by
  have hpoint : ∀ c, ('.' :: (fraction ++ rest)).head? = some c → c.isDigit = false := by
    rintro c ⟨⟩
    rfl
  rw [List.append_assoc, List.cons_append, scanNumber_eq hwhole hwhole' hzero hpoint,
    scanAfterWhole_point hfraction hfraction' (fun c hc => (hrest c hc).1),
    scanAfterFraction_ends hrest, real_eq hd hfinite]

/-- The digits of a whole number begin with a zero only if they are one zero. -/
theorem length_of_head?_toDigits {n : Nat} (h : (Nat.toDigits 10 n).head? = some '0') : n = 0 := by
  by_contra hn
  exact head?_toDigits (Nat.pos_of_ne_zero hn) h

theorem valueOf_zero : valueOf ['0'] = 0 := rfl

theorem isDigit_of_mem_zero : ∀ c ∈ ['0'], c.isDigit = true := by simp

/-- The places after the point, as an exponent. -/
theorem exponent_eq_neg {d : Decimal} (he : d.exponent < 0) :
    d.exponent = 0 - ((-d.exponent).toNat : ℤ) := by
  rw [Int.toNat_of_nonneg (by omega)]
  omega

section
variable {d : Decimal} (hfinite : d.toFloat.isInf = false) {rest : List Char} (hrest : Ends rest)
include hfinite hrest

/-! ## The positional form -/

/-- The digits with zeros up to the point and one zero after it. -/
theorem scanNumber_whole (hzero : d.digits = 0 → d.exponent = 0) (he : 0 ≤ d.exponent)
    (negative : Bool) :
    scanNumber negative
        (Nat.toDigits 10 d.digits ++ List.replicate d.exponent.toNat '0' ++ ['.', '0'] ++ rest) =
      (⟨.ok (.real (if negative then -d.toFloat else d.toFloat)), .ok ()⟩, rest) := by
  refine scanNumber_point ?_ (by simp) ?_ isDigit_of_mem_zero (List.cons_ne_nil _ _) ?_ hfinite
    hrest negative
  · intro c hc
    rcases List.mem_append.mp hc with hc | hc
    · exact isDigit_of_mem_toDigits hc
    · exact isDigit_of_mem_replicate_zero hc
  · intro h
    have hsome : (Nat.toDigits 10 d.digits).head?.isSome = true := by simp
    rw [List.head?_append, Option.or_of_isSome hsome] at h
    have hn := length_of_head?_toDigits h
    simp [hn, hzero hn]
  · have hpower : (10 : ℚ) ^ d.exponent = 10 ^ d.exponent.toNat := by
      rw [← zpow_natCast, Int.toNat_of_nonneg he]
    rw [value, value, valueOf_append, valueOf_append, valueOf_toDigits, valueOf_replicate_zero,
      valueOf_zero, List.length_replicate, hpower]
    simp
    ring

/-- The digits with the point among them. -/
theorem scanNumber_between (hzero : d.digits = 0 → d.exponent = 0) (he : d.exponent < 0)
    {whole : ℕ} (hpos : 0 < whole)
    (hlength : (Nat.toDigits 10 d.digits).length = whole + (-d.exponent).toNat) (negative : Bool) :
    scanNumber negative ((Nat.toDigits 10 d.digits).take whole ++
        '.' :: (Nat.toDigits 10 d.digits).drop whole ++ rest) =
      (⟨.ok (.real (if negative then -d.toFloat else d.toFloat)), .ok ()⟩, rest) := by
  refine scanNumber_point ?_ ?_ ?_ ?_ ?_ ?_ hfinite hrest negative
  · exact fun c hc => isDigit_of_mem_toDigits (List.mem_of_mem_take hc)
  · simp [List.take_eq_nil_iff, hpos.ne']
  · intro h
    rw [List.head?_take, if_neg hpos.ne'] at h
    have hn := hzero (length_of_head?_toDigits h)
    omega
  · exact fun c hc => isDigit_of_mem_toDigits (List.mem_of_mem_drop hc)
  · rw [ne_eq, List.drop_eq_nil_iff]
    omega
  · rw [value, value, List.take_append_drop, valueOf_toDigits, List.length_drop, hlength,
      Nat.add_sub_cancel_left, ← exponent_eq_neg he]

/-- The digits behind zeros after the point. -/
theorem scanNumber_below (he : d.exponent < 0) {zeros : ℕ}
    (hlength : zeros + (Nat.toDigits 10 d.digits).length = (-d.exponent).toNat) (negative : Bool) :
    scanNumber negative
        (['0'] ++ '.' :: (List.replicate zeros '0' ++ Nat.toDigits 10 d.digits) ++ rest) =
      (⟨.ok (.real (if negative then -d.toFloat else d.toFloat)), .ok ()⟩, rest) := by
  refine scanNumber_point isDigit_of_mem_zero (List.cons_ne_nil _ _) (fun _ => rfl) ?_ (by simp) ?_
    hfinite hrest negative
  · intro c hc
    rcases List.mem_append.mp hc with hc | hc
    · exact isDigit_of_mem_replicate_zero hc
    · exact isDigit_of_mem_toDigits hc
  · rw [value, value, valueOf_append, valueOf_append, valueOf_toDigits, valueOf_replicate_zero,
      valueOf_zero, List.length_append, List.length_replicate, hlength, ← exponent_eq_neg he]
    simp

theorem scanNumber_positionalForm (hzero : d.digits = 0 → d.exponent = 0) (negative : Bool) :
    scanNumber negative (Layout.positionalForm ['.', '0'] d ++ rest) =
      (⟨.ok (.real (if negative then -d.toFloat else d.toFloat)), .ok ()⟩, rest) := by
  rw [Layout.positionalForm]
  by_cases he : 0 ≤ d.exponent
  · rw [if_pos he]
    exact scanNumber_whole hfinite hrest hzero he negative
  · have hneg : d.exponent < 0 := not_le.mp he
    rw [if_neg he]
    dsimp only
    split
    · exact scanNumber_between hfinite hrest hzero hneg (by omega) (by omega) negative
    · exact scanNumber_below hfinite hrest hneg (by omega) negative

/-! ## The exponent form -/

/-- Digits with the power of ten of the first one, behind the sign of the power. -/
theorem scanExponent_leading {c : Char} {tail : List Char}
    (hdigits : Nat.toDigits 10 d.digits = c :: tail) (negative : Bool) :
    scanExponent negative [c] tail
        ((if d.leading < 0 then '-' else '+') :: (Nat.toDigits 10 d.leading.natAbs ++ rest)) =
      (⟨.ok (.real (if negative then -d.toFloat else d.toFloat)), .ok ()⟩, rest) := by
  have hvalue : valueOf ([c] ++ tail) = d.digits := by
    rw [List.singleton_append, ← hdigits, valueOf_toDigits]
  have hcount : (digitCount d.digits : ℤ) = tail.length + 1 := by
    rw [digitCount, hdigits]
    rfl
  have hexponent : d.leading - tail.length = d.exponent := by
    rw [leading]
    omega
  have hd : (⟨valueOf ([c] ++ tail), d.leading - tail.length⟩ : Decimal).value = d.value := by
    rw [value, value, hexponent, hvalue]
  have hpower : (if decide (d.leading < 0) = true then -(d.leading.natAbs : ℤ)
      else d.leading.natAbs) = d.leading := by
    by_cases h : d.leading < 0
    · rw [if_pos (decide_eq_true h)]
      omega
    · rw [if_neg (by simpa using h)]
      omega
  have hsign : (if d.leading < 0 then '-' else '+') =
      if decide (d.leading < 0) = true then '-' else '+' := by simp
  rw [hsign, scanExponent_eq hrest, hpower, real_eq hd hfinite]

theorem scanNumber_exponentForm (negative : Bool) :
    scanNumber negative (Layout.exponentForm d ++ rest) =
      (⟨.ok (.real (if negative then -d.toFloat else d.toFloat)), .ok ()⟩, rest) := by
  obtain ⟨c, tail, hdigits⟩ :=
    List.exists_cons_of_ne_nil (Nat.toDigits_ne_nil (b := 10) (n := d.digits))
  have hmem : ∀ c' ∈ c :: tail, c'.isDigit = true := by
    intro c' hc'
    rw [← hdigits] at hc'
    exact isDigit_of_mem_toDigits hc'
  have hc : ∀ c' ∈ [c], c'.isDigit = true := by simpa using hmem c List.mem_cons_self
  have hone : [c].head? = some '0' → [c].length = 1 := fun _ => rfl
  have hmark {mark : Char} (hdigit : mark.isDigit = false) (text : List Char) :
      ∀ c', (mark :: text).head? = some c' → c'.isDigit = false := by
    rintro c' ⟨⟩
    exact hdigit
  rw [Layout.exponentForm, hdigits]
  cases tail with
  | nil =>
    apply (scanNumber_eq hc (List.cons_ne_nil c []) hone (hmark rfl _) negative).trans
    exact scanExponent_leading hfinite hrest hdigits negative
  | cons c₁ tail =>
    have htail : ∀ c' ∈ c₁ :: tail, c'.isDigit = true :=
      fun c' hc' => hmem c' (List.mem_cons_of_mem c hc')
    have hlong : ¬(c :: c₁ :: tail).length ≤ 1 := by simp
    rw [if_neg hlong, List.append_assoc, List.append_assoc]
    simp only [List.take_succ_cons, List.take_zero, List.drop_succ_cons, List.drop_zero,
      List.cons_append]
    apply (scanNumber_eq hc (List.cons_ne_nil c []) hone (hmark rfl _) negative).trans
    apply (scanAfterWhole_point htail (List.cons_ne_nil c₁ tail) (hmark rfl _) negative [c]).trans
    exact scanExponent_leading hfinite hrest hdigits negative

end

/-- The magnitude of a finite double. -/
theorem scanNumber_magnitude {x : Float} (hx : x.isFinite = true) {rest : List Char}
    (hrest : Ends rest) (negative : Bool) :
    scanNumber negative (Layout.interchange.magnitude x ++ rest) =
      (⟨.ok (.real (if negative then -x.abs else x.abs)), .ok ()⟩, rest) := by
  have hshortest := toFloat_shortest Tie.even hx
  have hfinite : (shortest .even x).toFloat.isInf = false := by
    rw [hshortest]
    exact Double.isInf_abs hx
  rw [Layout.magnitude, ← hshortest]
  by_cases hplace : Layout.interchange.positional (shortest .even x).leading = true
  · exact (if_pos hplace).symm ▸
      scanNumber_positionalForm hfinite hrest exponent_shortest negative
  · exact (if_neg hplace).symm ▸ scanNumber_exponentForm hfinite hrest negative

/-! ## Tokens of numbers -/

theorem scan_digit {c : Char} (hc : c.isDigit = true) (rest : List Char) :
    scan (c :: rest) = .number (scanNumber false (c :: rest)).1 ::
      scan (scanNumber false (c :: rest)).2 := by
  have hspace : isSpace c = false := by
    by_contra h
    simp only [isSpace, Bool.not_eq_false, Bool.or_eq_true, decide_eq_true_iff] at h
    rcases h with ((rfl | rfl) | rfl) | rfl
    all_goals exact absurd hc (by decide)
  have hone : scanOne c rest =
      (.number (scanNumber false (c :: rest)).1, (scanNumber false (c :: rest)).2) := by
    unfold scanOne
    split
    case h_12 => rw [if_pos hc]
    all_goals exact absurd hc (by decide)
  rw [scan, hspace, hone]
  rfl

theorem scan_minus (rest : List Char) :
    scan ('-' :: rest) = .number (scanNumber true rest).1 :: scan (scanNumber true rest).2 := by
  rw [scan]
  rfl

/-- A number without sign begins with a digit. -/
theorem scan_of_scanNumber {text rest : List Char} {n : Numeral} {skip : Except Fault Unit}
    (h : scanNumber false text = (⟨.ok n, skip⟩, rest)) :
    scan text = .number ⟨.ok n, skip⟩ :: scan rest := by
  cases text with
  | nil => cases h
  | cons c text =>
    by_cases hc : c.isDigit = true
    · rw [scan_digit hc, h]
    · rw [scanNumber, List.takeWhile_cons_of_neg hc] at h
      cases h

section
variable {rest : List Char} (hrest : Ends rest)
include hrest

theorem scan_whole {n : ℤ} (hn : (Numeral.whole n).Valid) :
    scan ((Numeral.whole n).chars ++ rest) = .number ⟨.ok (.whole n), .ok ()⟩ :: scan rest := by
  have hafter : ∀ c, rest.head? = some c → c.isDigit = false := fun c hc => (hrest c hc).1
  have hwhole (negative : Bool) (hunits : Numeral.ofUnits negative n.natAbs = some (.whole n)) :
      scanNumber negative (Nat.toDigits 10 n.natAbs ++ rest) =
        (⟨.ok (.whole n), .ok ()⟩, rest) := by
    rw [← valueOf_toDigits n.natAbs] at hunits
    rw [scanNumber_eq (fun c hc => isDigit_of_mem_toDigits hc) Nat.toDigits_ne_nil ?_ hafter,
      scanAfterWhole_ends hrest _ _ hunits]
    intro h
    rw [length_of_head?_toDigits h]
    rfl
  obtain ⟨hlower, hupper⟩ := hn
  rw [Numeral.chars]
  by_cases hneg : n < 0
  · have hunits : Numeral.ofUnits true n.natAbs = some (.whole n) := by
      rw [Numeral.ofUnits, if_pos rfl, if_neg (by omega)]
      congr 2
      omega
    rw [if_pos hneg, List.cons_append, scan_minus, hwhole true hunits]
  · have hunits : Numeral.ofUnits false n.natAbs = some (.whole n) := by
      rw [Numeral.ofUnits, if_neg (by decide), if_pos (by omega)]
      congr 2
      omega
    rw [if_neg hneg, scan_of_scanNumber (hwhole false hunits)]

theorem scan_real {x : Float} (hx : x.isFinite = true) :
    scan ((Numeral.real x).chars ++ rest) = .number ⟨.ok (.real x), .ok ()⟩ :: scan rest := by
  have hsigned := Double.signed_abs hx
  rw [Numeral.chars, Layout.finite]
  by_cases hneg : signBit x = true
  · rw [if_pos hneg] at hsigned
    rw [if_pos hneg, List.cons_append, scan_minus, scanNumber_magnitude hx hrest, if_pos rfl,
      hsigned]
  · rw [if_neg hneg] at hsigned
    rw [if_neg hneg, scan_of_scanNumber (scanNumber_magnitude hx hrest false),
      if_neg (by decide), hsigned]

end

/-- The written form of a number is its token. -/
theorem scan_chars {n : Numeral} (hn : n.Valid) {rest : List Char} (hrest : Ends rest) :
    scan (n.chars ++ rest) = .number ⟨.ok n, .ok ()⟩ :: scan rest := by
  cases n with
  | whole n => exact scan_whole hrest hn
  | real x => exact scan_real hrest hn

end Token
end Alerting.Json
