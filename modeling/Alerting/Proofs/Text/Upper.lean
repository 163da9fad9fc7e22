import Alerting.Text.Upper
import Mathlib.Data.List.Basic
import Mathlib.Data.Nat.Bitwise

/-!
# Upper case of upper case

No capital has a capital of its own, so a text in upper case stays as it is when it is put in upper
case again. The tables are compared as sets of code points, each of which is one number with a bit
for every member.
-/
namespace Alerting.Text

/-! ## Sets of numbers -/

/-- The number whose bits are at the places in a list. -/
def mask : List Nat → Nat
  | [] => 0
  | n :: ns => 1 <<< n ||| mask ns

theorem testBit_mask (ns : List Nat) (m : Nat) : (mask ns).testBit m = decide (m ∈ ns) := by
  induction ns with
  | nil => simp [mask]
  | cons n ns ih =>
    rw [mask, Nat.testBit_or, ih, Nat.one_shiftLeft, Nat.testBit_two_pow]
    simp [eq_comm]

theorem not_mem_of_mask {ms ns : List Nat} (h : mask ms &&& mask ns = 0) {m : Nat} (hm : m ∈ ms) :
    m ∉ ns := by
  have hbit : (mask ms &&& mask ns).testBit m = false := by rw [h, Nat.zero_testBit]
  rw [Nat.testBit_and, testBit_mask, testBit_mask] at hbit
  simpa [hm] using hbit

/-! ## Letters and their capitals -/

def members (first last step : Nat) : List Nat :=
  (List.range ((last - first) / step + 1)).map fun k => first + step * k

theorem mem_members {first last step n : Nat} (hle : first ≤ n) (hlast : n ≤ last)
    (hstep : (n - first) % step = 0) : n ∈ members first last step := by
  rw [members, List.mem_map]
  refine ⟨(n - first) / step, List.mem_range.mpr ?_, ?_⟩
  · exact Nat.lt_succ_of_le (Nat.div_le_div_right (by omega))
  · rw [Nat.mul_div_cancel' (Nat.dvd_of_mod_eq_zero hstep)]
    omega

/-- The code points of the characters that have capitals. -/
def letters : List Nat :=
  members 0x61 0x7A 1 ++ wideCapitals.map Prod.fst ++
    capitalRuns.flatMap fun (first, last, step, _) => members first last step

def capitals : List Nat :=
  members 0x41 0x5A 1 ++ wideCapitals.flatMap (fun e => e.2.map fun n => (Char.ofNat n).toNat) ++
    capitalRuns.flatMap fun (first, last, step, distance) =>
      (members first last step).map fun (n : Nat) => (Char.ofNat (n + distance).toNat).toNat

theorem mask_capitals : mask capitals &&& mask letters = 0 := by
  decide +kernel

theorem toNat_toUpper {c : Char} (h : 0x61 ≤ c.toNat ∧ c.toNat ≤ 0x7A) :
    c.toUpper.toNat + 32 = c.toNat := by
  have hval : 'a'.val ≤ c.val ∧ c.val ≤ 'z'.val := h
  obtain ⟨_, hupper⟩ : ∃ h, c.toUpper = ⟨c.val + ('A'.val - 'a'.val), h⟩ := ⟨_, dif_pos hval⟩
  rw [hupper]
  change (c.val + ('A'.val - 'a'.val)).toNat + 32 = c.val.toNat
  have hdiff : ('A'.val - 'a'.val).toNat = 2 ^ 32 - 32 := rfl
  have hlow : 0x61 ≤ c.val.toNat := h.1
  have hhigh : c.val.toNat ≤ 0x7A := h.2
  rw [UInt32.toNat_add, hdiff]
  omega

theorem toUpper_of_lower {c : Char} (h : 0x61 ≤ c.toNat ∧ c.toNat ≤ 0x7A) :
    c.toUpper.toNat ∈ members 0x41 0x5A 1 := by
  have hupper := toNat_toUpper h
  exact mem_members (by omega) (by omega) (Nat.mod_one _)

theorem toUpper_of_not_lower {c : Char} (h : ¬(0x61 ≤ c.toNat ∧ c.toNat ≤ 0x7A)) :
    c.toUpper = c :=
  dif_neg h

/-- A character that is no letter stays as it is. -/
theorem upperChar_of_not_mem {c : Char} (h : c.toNat ∉ letters) : upperChar c = [c] := by
  simp only [letters, List.mem_append, not_or] at h
  obtain ⟨⟨hascii, hwide⟩, hrun⟩ := h
  have hfind : wideCapitals.find? (fun e => e.1 = c.toNat) = none := by
    rw [List.find?_eq_none]
    intro e he heq
    exact hwide (List.mem_map.mpr ⟨e, he, of_decide_eq_true heq⟩)
  have hfind' : (capitalRuns.find? fun (first, last, step, _) =>
      first ≤ c.toNat && c.toNat ≤ last && (c.toNat - first) % step = 0) = none := by
    rw [List.find?_eq_none]
    rintro ⟨first, last, step, distance⟩ hr hinside
    simp only [Bool.and_eq_true, decide_eq_true_iff] at hinside
    obtain ⟨⟨hfirst, hlast⟩, hstep⟩ := hinside
    exact hrun (List.mem_flatMap.mpr ⟨_, hr, mem_members hfirst hlast hstep⟩)
  rw [upperChar]
  dsimp only
  split
  · rw [toUpper_of_not_lower fun hlower => hascii (mem_members hlower.1 hlower.2 (Nat.mod_one _))]
  · rw [hfind]
    dsimp only
    rw [hfind']

/-- A character stays as it is or is replaced by capitals. -/
theorem upperChar_cases (c : Char) :
    upperChar c = [c] ∨ ∀ d ∈ upperChar c, d.toNat ∈ capitals := by
  simp only [capitals, List.mem_append]
  rw [upperChar]
  dsimp only
  split
  · by_cases hlower : 0x61 ≤ c.toNat ∧ c.toNat ≤ 0x7A
    · right
      intro d hd
      rw [List.mem_singleton.mp hd]
      exact .inl (.inl (toUpper_of_lower hlower))
    · exact .inl (by rw [toUpper_of_not_lower hlower])
  · split
    · rename_i key parts hfind
      right
      intro d hd
      obtain ⟨n, hn, rfl⟩ := List.mem_map.mp hd
      refine .inl (.inr (List.mem_flatMap.mpr ⟨_, List.mem_of_find?_eq_some hfind, ?_⟩))
      exact List.mem_map_of_mem hn
    · split
      · rename_i first last step distance hfind
        right
        intro d hd
        rw [List.mem_singleton.mp hd]
        have hinside := List.find?_some hfind
        simp only [Bool.and_eq_true, decide_eq_true_iff] at hinside
        obtain ⟨⟨hfirst, hlast⟩, hstep⟩ := hinside
        refine .inr (List.mem_flatMap.mpr ⟨_, List.mem_of_find?_eq_some hfind, ?_⟩)
        exact List.mem_map_of_mem (mem_members hfirst hlast hstep)
      · exact .inl rfl

/-- Capitals have no capitals of their own. -/
theorem upperChar_of_mem {c d : Char} (h : d ∈ upperChar c) : upperChar d = [d] := by
  rcases upperChar_cases c with heq | hcapitals
  · rw [heq] at h
    rw [List.mem_singleton.mp h, heq]
  · exact upperChar_of_not_mem (not_mem_of_mask mask_capitals (hcapitals d h))

theorem flatMap_upperChar (c : Char) : (upperChar c).flatMap upperChar = upperChar c := by
  conv_rhs => rw [← List.flatMap_singleton' (upperChar c)]
  exact List.flatMap_congr fun d hd => upperChar_of_mem hd

theorem upper_upper (text : String) : upper (upper text) = upper text := by
  rw [upper, upper, String.toList_ofList, List.flatMap_assoc]
  exact congrArg String.ofList (List.flatMap_congr fun c _ => flatMap_upperChar c)

theorem upper_empty : upper "" = "" := rfl

end Alerting.Text
