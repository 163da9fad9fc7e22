import Alerting.Proofs.Json.Yields
import Alerting.Proofs.Sample.RoundTrip

/-!
# Accepted vars

The scalars of vars that are read from a text are finite. So they can be written and read again
without a loss.
-/
namespace Alerting
open Json

theorem yields_scalar : Yields (readOption readFloat) IsFiniteScalar := yields_readFloat.readOption

theorem Evidence.yields_read : Yields Evidence.read Evidence.IsFinite := by
  have hslots : ∀ slot ∈ slots, slot.Keeps fun s => IsFiniteScalar s.value.join := by
    simp only [slots, List.forall_mem_cons, List.not_mem_nil, false_imp_iff, implies_true, and_true]
    refine ⟨yields_scalar.keeps ?_ _ _ _, (yields_true _).keeps ?_ _ _ _,
      (yields_true _).keeps ?_ _ _ _⟩
    · exact fun o s ho _ => ho
    · exact fun _ _ _ hs => hs
    · exact fun _ _ _ hs => hs
  refine yields_readRecord hslots (by simp [IsFiniteScalar]) ?_ _
  rintro s _ ⟨⟩ hs
  exact hs

theorem Point.yields_read : Yields Point.read Point.IsFinite := by
  have hslots : ∀ slot ∈ slots, slot.Keeps fun s => IsFiniteScalar s.value.join := by
    simp only [slots, List.forall_mem_cons, List.not_mem_nil, false_imp_iff, implies_true, and_true]
    refine ⟨(yields_true _).keeps ?_ _ _ _, yields_scalar.keeps ?_ _ _ _⟩
    · exact fun _ _ _ hs => hs
    · exact fun o s ho _ => ho
  refine yields_readRecord hslots (by simp [IsFiniteScalar]) ?_ _
  intro s p hp hs
  obtain ⟨time, -, hp⟩ := Fallible.bind_eq_ok.mp hp
  cases hp
  have hvalue : (s.value.join.map Binary64.ofFloat).map Binary64.toFloat = s.value.join := by
    rw [Option.map_map]
    exact (Option.map_congr fun x _ => Binary64.toFloat_ofFloat x).trans Option.map_id'
  rw [IsFinite, hvalue]
  exact hs

theorem Series.yields_read : Yields Series.read Series.IsFinite := by
  have hslots : ∀ slot ∈ slots, slot.Keeps fun s => ∀ p ∈ s.points.getD [], p.IsFinite := by
    simp only [slots, List.forall_mem_cons, List.not_mem_nil, false_imp_iff, implies_true, and_true]
    refine ⟨(yields_true _).keeps ?_ _ _ _, (yields_true _).keeps ?_ _ _ _,
      Point.yields_read.readList.keeps ?_ _ _ _⟩
    · exact fun _ _ _ hs => hs
    · exact fun _ _ _ hs => hs
    · exact fun points s hpoints _ => hpoints
  refine yields_readRecord hslots (by simp) ?_ _
  rintro s _ ⟨⟩ hs
  exact hs

theorem Number.yields_read : Yields Number.read Number.IsFinite := by
  have hslots : ∀ slot ∈ slots, slot.Keeps fun s =>
      IsFiniteScalar s.value.join ∧ ∀ es ∈ s.evidence.join, ∀ e ∈ es, e.IsFinite := by
    simp only [slots, List.forall_mem_cons, List.not_mem_nil, false_imp_iff, implies_true, and_true]
    refine ⟨(yields_true _).keeps ?_ _ _ _, (yields_true _).keeps ?_ _ _ _,
      yields_scalar.keeps ?_ _ _ _, Evidence.yields_read.readList.readOption.keeps ?_ _ _ _⟩
    · exact fun _ _ _ hs => hs
    · exact fun _ _ _ hs => hs
    · exact fun o s ho hs => ⟨ho, hs.2⟩
    · exact fun o s ho hs => ⟨hs.1, ho⟩
  refine yields_readRecord hslots (by simp [IsFiniteScalar]) ?_ _
  rintro s _ ⟨⟩ hs
  exact hs

theorem Value.yields_read : Yields Value.read Value.IsFinite := by
  refine yields_readVariant fun kind content hcontent v hv => ?_
  unfold ofKind at hv
  split at hv
  · obtain ⟨s, hs, rfl⟩ := Fallible.map_eq_ok.mp hv
    exact Series.yields_read _ (hcontent _ rfl) s hs
  · obtain ⟨n, hn, rfl⟩ := Fallible.map_eq_ok.mp hv
    exact Number.yields_read _ (hcontent _ rfl) n hn
  · obtain ⟨-, -, rfl⟩ := Fallible.map_eq_ok.mp hv
    trivial
  · cases hv
    trivial
  · split at hv <;> cases hv

namespace Vars

/-- Vars of an accepted text have only finite scalars. -/
theorem isFinite_of_ofText {text : String} {vars : Vars} (h : ofText text = .ok vars) :
    vars.IsFinite :=
  Value.yields_read.readList.readDictionary.readText h

/-- Vars read back from any of their texts without the scalars that are not finite, and so they
read back as they are if all their scalars are finite. Vars from an accepted text are of this
kind. -/
theorem ofText_writtenAs (vars : Vars) :
    (∀ text, vars.WrittenAs text → ofText text = .ok vars.stored) ∧
    (vars.IsFinite → ∀ text, vars.WrittenAs text → ofText text = .ok vars) ∧
    (∀ text, ofText text = .ok vars → ∀ text', vars.WrittenAs text' → ofText text' = .ok vars) ∧
    vars.WrittenAs vars.toJson.compact := by
  have hfinite : vars.IsFinite → ∀ text, vars.WrittenAs text → ofText text = .ok vars := by
    intro h text htext
    rw [ofText_of_writtenAs htext, stored_eq_self h]
  exact ⟨fun _ => ofText_of_writtenAs, hfinite, fun _ h => hfinite (isFinite_of_ofText h),
    vars.writtenAs_toJson⟩

end Vars
end Alerting
