import Alerting.Json.Token
import Alerting.Json.Value
import Alerting.Proofs.Fallible

/-!
# Written texts read back

The written form of a text is one token of the text. Each character is one piece,
which stands for the character.
-/
namespace Alerting.Json.Token
open Fallible

def pieceOf (c : Char) : Piece :=
  if c.toNat < 0x20 ∧ c ∉ ['\x08', '\x0c', '\n', '\r', '\t'] then .unit c.toNat else .char c

theorem hexDigits_eq : ∀ n : Fin 0x20,
    hexDigits n = ['0', '0', Nat.digitChar (n / 16), Nat.digitChar (n % 16)] ∧
      Text.hexValue? ['0', '0', Nat.digitChar (n / 16), Nat.digitChar (n % 16)] = some n.val := by
  decide

theorem pieces_escapedChar (c : Char) (rest : List Char) :
    pieces (escapedChar c ++ rest) =
      (pieceOf c :: (pieces rest).1, (pieces rest).2.1, (pieces rest).2.2) := by
  unfold escapedChar
  split
  all_goals try rfl
  rename_i hquote hbackslash h8 hc hn hr ht
  by_cases hcontrol : c.toNat < 0x20
  · have hpiece : pieceOf c = .unit c.toNat := by
      rw [pieceOf, if_pos]
      simp_all
    obtain ⟨hdigits, hvalue⟩ := hexDigits_eq ⟨c.toNat, hcontrol⟩
    rw [if_pos hcontrol, hdigits, hpiece]
    simp only [List.cons_append, List.nil_append, pieces, hvalue]
  · have hpiece : pieceOf c = .char c := if_neg fun h => hcontrol h.1
    rw [if_neg hcontrol, hpiece, List.singleton_append, pieces, if_neg hcontrol]
    all_goals simp_all

theorem assemble_pieceOf (c : Char) (ps : List Piece) :
    assemble .closed (pieceOf c :: ps) = (assemble .closed ps).map (c :: ·) := by
  rw [pieceOf]
  split
  · rename_i h
    have hlow : isLowSurrogate c.toNat = false := by
      simp [isLowSurrogate]
      omega
    have hhigh : isHighSurrogate c.toNat = false := by
      simp [isHighSurrogate]
      omega
    rw [assemble.eq_def]
    simp only [hlow, hhigh, Char.ofNat_toNat]
    rfl
  · rfl

/-- The pieces of a written text stand for its characters. -/
theorem pieces_flatMap (text rest : List Char) :
    ∃ ps, pieces (text.flatMap escapedChar ++ '"' :: rest) = (ps, .closed, rest) ∧
      assemble .closed ps = .ok text := by
  induction text with
  | nil => exact ⟨[], by simp [pieces], rfl⟩
  | cons c text ih =>
    obtain ⟨ps, hpieces, htext⟩ := ih
    refine ⟨pieceOf c :: ps, ?_, ?_⟩
    · rw [List.flatMap_cons, List.append_assoc, pieces_escapedChar, hpieces]
    · rw [assemble_pieceOf, htext]
      rfl

/-- The written form of a text is its token. -/
theorem scan_textChars (s : String) (rest : List Char) :
    scan (textChars s ++ rest) = .text ⟨.ok s, .ok ()⟩ :: scan rest := by
  obtain ⟨ps, hpieces, htext⟩ := pieces_flatMap s.toList rest
  have htoken :
      scanText (s.toList.flatMap escapedChar ++ '"' :: rest) = (⟨.ok s, .ok ()⟩, rest) := by
    rw [scanText, hpieces]
    simp only [htext, map_ok, String.ofList_toList]
    rfl
  have hform : textChars s ++ rest = '"' :: (s.toList.flatMap escapedChar ++ '"' :: rest) := by
    rw [textChars, List.cons_append, List.append_assoc, List.singleton_append]
  have hone : scanOne '"' (s.toList.flatMap escapedChar ++ '"' :: rest) =
      (.text ⟨.ok s, .ok ()⟩, rest) := by
    rw [scanOne, htoken]
  rw [hform, scan, hone]
  rfl

end Alerting.Json.Token
