import Mathlib.Data.List.Basic
import Mathlib.Tactic.SplitIfs

/-!
# The order of texts and of their bytes

Texts compare by their code points as their UTF-8 bytes do: the encodings of different characters
part at some byte before either ends, and the byte of the greater character is the greater one.
-/
namespace Alerting

def Text.bytes (s : String) : List UInt8 := s.toUTF8.data.toList

namespace Text

theorem bytes_eq_flatMap (s : String) : bytes s = s.toList.flatMap String.utf8EncodeChar := by
  have hencode : s.toUTF8 = s.toList.utf8Encode := String.utf8Encode_toList.symm
  rw [bytes, hencode, List.utf8Encode, List.toList_data_toByteArray]

theorem ofNat_cons_lt {m n : ℕ} (hm : m < 256) (hn : n < 256) {xs ys : List UInt8} :
    UInt8.ofNat m :: xs < UInt8.ofNat n :: ys ↔ m < n ∨ m = n ∧ xs < ys := by
  rw [List.cons_lt_cons_iff, UInt8.lt_iff_toNat_lt, ← UInt8.toNat_inj, UInt8.toNat_ofNat',
    UInt8.toNat_ofNat', Nat.mod_eq_of_lt hm, Nat.mod_eq_of_lt hn]

theorem utf8EncodeChar_lt {c d : Char} (h : c < d) (xs ys : List UInt8) :
    String.utf8EncodeChar c ++ xs < String.utf8EncodeChar d ++ ys := by
  have hlt : c.val.toNat < d.val.toNat := h
  have hlimit : d.val.toNat < 0x110000 := by
    rcases d.valid with hsmall | hlarge
    · omega
    · exact hlarge.2
  unfold String.utf8EncodeChar
  generalize c.val.toNat = m at hlt ⊢
  generalize d.val.toNat = n at hlt hlimit ⊢
  have hm : m / 262144 % 8 = m / 64 / 64 / 64 ∧ m / 4096 = m / 64 / 64 := by omega
  have hn : n / 262144 % 8 = n / 64 / 64 / 64 ∧ n / 4096 = n / 64 / 64 := by omega
  dsimp only
  rw [hm.1, hm.2, hn.1, hn.2]
  -- One case for each pair of lengths. A longer encoding starts with a greater byte.
  split_ifs <;>
    simp (disch := omega) only [List.cons_append, List.nil_append, ofNat_cons_lt] <;> omega

theorem flatMap_utf8EncodeChar_lt {cs ds : List Char} (h : cs < ds) :
    cs.flatMap String.utf8EncodeChar < ds.flatMap String.utf8EncodeChar := by
  induction cs generalizing ds with
  | nil =>
    cases ds with
    | nil => exact absurd h (List.lt_irrefl [])
    | cons d ds =>
      obtain ⟨b, bs, hbytes⟩ := List.exists_cons_of_ne_nil (String.utf8EncodeChar_ne_nil (c := d))
      rw [List.flatMap_cons, hbytes]
      exact List.nil_lt_cons _ _
  | cons c cs ih =>
    cases ds with
    | nil => cases h
    | cons d ds =>
      rw [List.flatMap_cons, List.flatMap_cons]
      rcases List.cons_lt_cons_iff.mp h with hlt | ⟨rfl, hlt⟩
      · exact utf8EncodeChar_lt hlt _ _
      · exact List.append_left_lt (ih hlt)

theorem bytes_lt_bytes {s t : String} : bytes s < bytes t ↔ s < t := by
  have hmono {s t : String} (h : s < t) : bytes s < bytes t := by
    rw [bytes_eq_flatMap, bytes_eq_flatMap]
    exact flatMap_utf8EncodeChar_lt h
  refine ⟨fun h => ?_, hmono⟩
  by_cases hts : t < s
  · exact absurd (hmono hts) (List.lt_asymm h)
  · by_contra hst
    obtain rfl : s = t := String.le_antisymm (String.not_lt.mp hts) (String.not_lt.mp hst)
    exact List.lt_irrefl _ h

end Text
end Alerting
