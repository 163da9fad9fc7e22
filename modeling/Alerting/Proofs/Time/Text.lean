import Alerting.Proofs.Decimal.Digits
import Alerting.Proofs.Fallible
import Alerting.Time.Text

/-!
# Written instants read back

The written form of an instant has all its parts in their full width, so a reader finds each part
where it looks for it. The second of a leap second is written as 60.
-/
namespace Alerting.Time
open Decimal Fallible Text

/-! ## Padded numbers -/

theorem isDigit_of_mem_padded {width n : Nat} {c : Char} (hc : c ∈ padded width n) :
    c.isDigit = true := by
  rcases List.mem_append.mp hc with hc | hc
  · exact isDigit_of_mem_replicate_zero hc
  · exact isDigit_of_mem_toDigits hc

theorem padded_ne_nil (width n : Nat) : padded width n ≠ [] := by
  simp [padded]

theorem valueOf_padded (width n : Nat) : valueOf (padded width n) = n := by
  rw [padded, valueOf_append, valueOf_replicate_zero, valueOf_toDigits, Nat.mul_zero, Nat.zero_add]

theorem length_padded {width n : Nat} (hwidth : 0 < width) (hn : n < 10 ^ width) :
    (padded width n).length = width := by
  have hdigits : (Nat.toDigits 10 n).length ≤ width :=
    (Nat.length_toDigits_le_iff (by decide) hwidth).mpr hn
  rw [padded, List.length_append, List.length_replicate]
  omega

theorem exists_padded (width n : Nat) : ∃ c cs, padded width n = c :: cs ∧ c.isDigit = true := by
  obtain ⟨c, cs, hpadded⟩ := List.exists_cons_of_ne_nil (padded_ne_nil width n)
  exact ⟨c, cs, hpadded, isDigit_of_mem_padded (hpadded ▸ List.mem_cons_self)⟩

/-- No digit is a blank. -/
theorem isBlank_of_isDigit {c : Char} (hc : c.isDigit = true) : isBlank c = false := by
  have hrange : 48 ≤ c.toNat ∧ c.toNat ≤ 57 := by
    simp only [Char.isDigit, Bool.and_eq_true, decide_eq_true_iff, UInt32.le_iff_toNat_le] at hc
    exact hc
  rw [isBlank]
  generalize c.toNat = n at hrange
  simp only [Bool.or_eq_false_iff, Bool.and_eq_false_iff, decide_eq_false_iff_not]
  omega

theorem dropBlanks_cons {c : Char} (hc : isBlank c = false) (rest : List Char) :
    dropBlanks (c :: rest) = c :: rest := by
  rw [dropBlanks, List.dropWhile_cons_of_neg (by simp [hc])]

@[simp] theorem dropBlanks_padded (width n : Nat) (rest : List Char) :
    dropBlanks (padded width n ++ rest) = padded width n ++ rest := by
  obtain ⟨c, cs, hpadded, hc⟩ := exists_padded width n
  rw [hpadded, List.cons_append, dropBlanks_cons (isBlank_of_isDigit hc)]

/-! ## Readers -/

theorem readDigits_eq {most : Nat} {digits rest : List Char} (hne : digits ≠ [])
    (hdigits : ((digits ++ rest).take most).takeWhile Char.isDigit = digits) :
    readDigits most (digits ++ rest) = .ok (digits, rest) := by
  rw [readDigits, hdigits]
  cases digits with
  | nil => exact absurd rfl hne
  | cons c cs => simp

theorem takeWhile_padded (width n : Nat) :
    (padded width n).takeWhile Char.isDigit = padded width n := by
  have hdigits : ∀ c ∈ padded width n, c.isDigit = true := fun c hc => isDigit_of_mem_padded hc
  have hend : (padded width n ++ []).takeWhile Char.isDigit = padded width n :=
    takeWhile_digits hdigits (by simp)
  rwa [List.append_nil] at hend

/-- A number of a known width. -/
theorem readDigits_padded {most width n : Nat} (hwidth : 0 < width) (hn : n < 10 ^ width)
    {rest : List Char}
    (hrest : width = most ∨ width ≤ most ∧ ∀ c, rest.head? = some c → c.isDigit = false) :
    readDigits most (padded width n ++ rest) = .ok (padded width n, rest) := by
  have hlength := length_padded hwidth hn
  apply readDigits_eq (padded_ne_nil width n)
  rcases hrest with rfl | ⟨hle, hrest⟩
  · rw [List.take_append_of_le_length (Nat.le_of_eq hlength.symm),
      List.take_of_length_le (Nat.le_of_eq hlength),
      takeWhile_padded]
  · rw [List.take_append, List.take_of_length_le (Nat.le_trans (Nat.le_of_eq hlength) hle)]
    apply takeWhile_digits fun c hc => isDigit_of_mem_padded hc
    intro c hc
    rw [List.head?_take] at hc
    split at hc
    · cases hc
    · exact hrest c hc

theorem readPart_padded {width low high n : Nat} (hwidth : 0 < width) (hn : n < 10 ^ width)
    (hlow : low ≤ n) (hhigh : n ≤ high) (rest : List Char) :
    readPart width low high (padded width n ++ rest) = .ok (n, rest) := by
  rw [readPart, readDigits_padded hwidth hn (.inl rfl), ok_bind]
  simp [valueOf_padded, hlow, hhigh]

/-- A year outside of the years with four digits. -/
theorem readPart_rest {high n : Nat} (hhigh : n ≤ high) (rest : List Char) :
    readPart (padded 4 n ++ '-' :: rest).length 0 high (padded 4 n ++ '-' :: rest) =
      .ok (n, '-' :: rest) := by
  have hdigits : ∀ c ∈ padded 4 n, c.isDigit = true := fun c hc => isDigit_of_mem_padded hc
  have hrest : ∀ c, ('-' :: rest).head? = some c → c.isDigit = false := by
    rintro c ⟨⟩
    rfl
  rw [readPart, readDigits_eq (padded_ne_nil 4 n)
    (by rw [List.take_length, takeWhile_digits hdigits hrest]), ok_bind]
  simp [valueOf_padded, hhigh]

theorem readYear_yearText {year : Int} (hfirst : firstYear ≤ year) (hlast : year ≤ lastYear)
    (rest : List Char) : readYear (yearText year ++ '-' :: rest) = .ok (year, '-' :: rest) := by
  rw [firstYear] at hfirst
  rw [lastYear] at hlast
  have hdone {y : Int} (hy : y = year) :
      (.ok (y, '-' :: rest) : Except TextFault (Int × List Char)) = .ok (year, '-' :: rest) := by
    rw [hy]
  rw [yearText]
  by_cases hplain : 0 ≤ year ∧ year ≤ 9999
  · obtain ⟨c, cs, hpadded, hc⟩ := exists_padded 4 year.toNat
    have hpart : readPart 4 0 9999 (padded 4 year.toNat ++ '-' :: rest) =
        .ok (year.toNat, '-' :: rest) :=
      readPart_padded (by decide) (by omega) (Nat.zero_le _) (by omega) _
    have hyear : ((year.toNat : Nat) : Int) = year := Int.toNat_of_nonneg hplain.1
    rw [if_pos (by simpa using hplain)]
    rw [hpadded, List.cons_append] at hpart ⊢
    unfold readYear
    split
    · rename_i hsign
      cases hsign
      exact absurd hc (by decide)
    · rename_i hsign
      cases hsign
      exact absurd hc (by decide)
    · rw [hpart, ok_bind]
      exact hdone hyear
  · rw [if_neg (by simpa using hplain), List.cons_append]
    by_cases hneg : year < 0
    · have hyear : -((year.natAbs : Nat) : Int) = year := by omega
      rw [if_pos hneg, readYear, readPart_rest (by omega), ok_bind]
      exact hdone hyear
    · have hyear : ((year.natAbs : Nat) : Int) = year := by omega
      rw [if_neg hneg, readYear, readPart_rest (by omega), ok_bind]
      exact hdone hyear

theorem dropBlanks_yearText (year : Int) (rest : List Char) :
    dropBlanks (yearText year ++ rest) = yearText year ++ rest := by
  rw [yearText]
  split
  · exact dropBlanks_padded 4 _ rest
  · split <;> rfl

theorem readFraction_fractionText {nanos : Nat} (hnanos : nanos < 1000000000) :
    readFraction (fractionText nanos ++ ['Z']) = .ok (nanos, ['Z']) := by
  have hgroup {width n : Nat} (hwidth : 0 < width) (hle : width ≤ 9) (hn : n < 10 ^ width) :
      readFraction (('.' :: padded width n) ++ ['Z']) = .ok (n * 10 ^ (9 - width), ['Z']) := by
    rw [List.cons_append, readFraction, readDigits_padded hwidth hn (.inr ⟨hle, by simp⟩), ok_bind]
    dsimp only
    rw [valueOf_padded, length_padded hwidth hn]
    rfl
  rw [fractionText]
  by_cases hzero : nanos = 0
  · subst hzero
    rfl
  · rw [if_neg hzero]
    by_cases hmillis : nanos % 1000000 = 0
    · rw [if_pos hmillis, hgroup (by decide) (by decide) (by omega)]
      congr 2
      omega
    · rw [if_neg hmillis]
      by_cases hmicros : nanos % 1000 = 0
      · rw [if_pos hmicros, hgroup (by decide) (by decide) (by omega)]
        congr 2
        omega
      · rw [if_neg hmicros, hgroup (by decide) (by decide) (by omega)]
        simp

namespace Instant

theorem of?_eq (t : Instant) : of? t.day t.second t.nanos = some t :=
  dif_pos ⟨t.second_lt, t.fraction⟩

theorem ofLocal?_zero (t : Instant) : ofLocal? t.day t.second t.nanos 0 = some t := by
  have hlt := t.second_lt
  rw [ofLocal?]
  simp only [Int.mul_zero, Int.sub_zero, Int.toNat_natCast]
  rw [if_neg (by omega), if_pos (by omega), of?_eq]

theorem monthLength_le (year : Int) (month : Nat) : monthLength year month ≤ 31 := by
  unfold monthLength
  split
  · split <;> decide
  all_goals decide

theorem toList_text (t : Instant) :
    t.text.toList = yearText t.day.year ++ '-' :: (padded 2 t.day.month ++ '-' ::
      (padded 2 t.day.day ++ 'T' :: (padded 2 (t.second / 3600) ++ ':' ::
      (padded 2 (t.second / 60 % 60) ++ ':' ::
      (padded 2 (t.second % 60 + t.nanos / 1000000000) ++
      (fractionText (t.nanos % 1000000000) ++ ['Z'])))))) := by
  simp [text, chars]

/-- The written second is past 59 exactly in a leap second, which the reader takes back. -/
theorem second_of_written (t : Instant) {second : Nat}
    (h : t.second % 60 + t.nanos / 1000000000 = second) :
    3600 * (t.second / 3600) + 60 * (t.second / 60 % 60) +
        (second - if second = 60 then 1 else 0) = t.second ∧
      t.nanos % 1000000000 + 1000000000 * (if second = 60 then 1 else 0) = t.nanos := by
  have hlt : t.second < 86400 := t.second_lt
  have hfraction := t.fraction
  split <;> omega

/-- The written form of an instant reads back as the instant. -/
theorem readInstant_text (t : Instant) : readInstant t.text = .ok t := by
  obtain ⟨hfirst, hlast, hmonth₁, hmonth₂, hday₁, hday₂⟩ := t.day.isDay
  have hlt : t.second < 86400 := t.second_lt
  have hfraction := t.fraction
  have hlength := monthLength_le t.day.year t.day.month
  obtain ⟨second, hsecond⟩ : ∃ second, t.second % 60 + t.nanos / 1000000000 = second := ⟨_, rfl⟩
  obtain ⟨hclock, hnanos⟩ := t.second_of_written hsecond
  have hfractionText : readFraction (fractionText (t.nanos % 1000000000) ++ ['Z']) =
      .ok (t.nanos % 1000000000, ['Z']) := readFraction_fractionText (by omega)
  have hparts {low high n : Nat} (hlow : low ≤ n) (hhigh : n ≤ high) (hn : high < 100)
      (rest : List Char) : readPart 2 low high (padded 2 n ++ rest) = .ok (n, rest) :=
    readPart_padded (by decide) (by omega) hlow hhigh rest
  have hmonth := hparts hmonth₁ hmonth₂ (by decide)
  have hday := hparts hday₁ (Nat.le_trans hday₂ hlength) (by decide)
  have hhour := hparts (Nat.zero_le (t.second / 3600)) (by omega : _ ≤ 23) (by decide)
  have hminute := hparts (Nat.zero_le (t.second / 60 % 60)) (by omega : _ ≤ 59) (by decide)
  have hsixty := hparts (Nat.zero_le second) (by omega : _ ≤ 60) (by decide)
  have hseparator (rest : List Char) : readSeparator ('T' :: rest) = .ok ((), rest) := rfl
  have hoffset : readOffset (dropBlanks ['Z']) = .ok (0, []) := rfl
  have hdate : Day.of? t.day.year t.day.month t.day.day = some t.day := dif_pos t.day.isDay
  have hend : (dropBlanks []).isEmpty = true := rfl
  have hzone : Int.natAbs 0 < 24 * 60 := by decide
  simp only [readInstant, toList_text, hsecond, dropBlanks_yearText,
    readYear_yearText hfirst hlast, ok_bind, dropBlanks_cons (c := '-') rfl,
    dropBlanks_cons (c := ':') rfl, readMark, if_pos, dropBlanks_padded, hmonth, hday, hhour,
    hminute, hsixty, hseparator, hfractionText, hoffset, hclock, hnanos]
  rw [if_pos hend, hdate]
  dsimp only
  rw [if_pos hzone, ofLocal?_zero]
  rfl

end Instant
end Alerting.Time
