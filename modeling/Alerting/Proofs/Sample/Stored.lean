import Alerting.Proofs.Binary64
import Alerting.Proofs.Dictionary
import Alerting.Sample

/-!
# What documents store of samples

A document has no numbers that are not finite, so they are stored as null. A sample whose scalars
are all finite is stored as it is.
-/
namespace Alerting

def IsFiniteScalar (o : Option Float) : Prop := ∀ x ∈ o, x.isFinite = true

def storedScalar (o : Option Float) : Option Float := o.filter Float.isFinite

theorem storedScalar_eq_self_iff {o : Option Float} : storedScalar o = o ↔ IsFiniteScalar o := by
  cases o <;> simp [storedScalar, IsFiniteScalar]

theorem storedScalar_eq_self {o : Option Float} (h : IsFiniteScalar o) : storedScalar o = o :=
  storedScalar_eq_self_iff.mpr h

theorem map_storedScalar_join (o : Option Float) :
    (o.map fun x => storedScalar (some x)).join = storedScalar o := by
  cases o <;> rfl

theorem map_eq_self {α : Type} {f : α → α} {as : List α} (h : ∀ a ∈ as, f a = a) :
    as.map f = as := by
  rw [List.map_congr_left h, List.map_id']

namespace Evidence

def IsFinite (e : Evidence) : Prop := IsFiniteScalar e.value

def stored (e : Evidence) : Evidence := { e with value := storedScalar e.value }

theorem stored_eq_self {e : Evidence} (h : e.IsFinite) : e.stored = e := by
  rw [stored, storedScalar_eq_self h]

end Evidence

namespace Point

def IsFinite (p : Point) : Prop := IsFiniteScalar (p.value.map Binary64.toFloat)

def stored (p : Point) : Point := { p with value := p.value.filter fun x => x.toFloat.isFinite }

theorem stored_eq_self {p : Point} (h : p.IsFinite) : p.stored = p := by
  have hvalue : p.value.filter (fun x => x.toFloat.isFinite) = p.value := by
    cases hp : p.value with
    | none => rfl
    | some x =>
      rw [IsFinite, hp] at h
      exact Option.filter_some_pos (h x.toFloat rfl)
  rw [stored, hvalue]

/-- The value of a finite double has all its bits. -/
theorem stored_value (p : Point) :
    p.stored.value = (storedScalar (p.value.map Binary64.toFloat)).map Binary64.ofFloat := by
  rw [storedScalar, Option.filter_map, Option.map_map]
  have hbits : ∀ x ∈ p.stored.value, (Binary64.ofFloat ∘ Binary64.toFloat) x = x := by
    intro x hx
    have hfinite := (Option.filter_eq_some_iff.mp hx).2
    exact Binary64.ofFloat_toFloat (Double.isNaN_of_isFinite hfinite)
  exact ((Option.map_congr hbits).trans Option.map_id').symm

end Point

namespace Series

def IsFinite (s : Series) : Prop := ∀ p ∈ s.points, p.IsFinite

def stored (s : Series) : Series := { s with points := s.points.map Point.stored }

theorem stored_eq_self {s : Series} (h : s.IsFinite) : s.stored = s := by
  rw [stored, map_eq_self fun p hp => Point.stored_eq_self (h p hp)]

end Series

namespace Number

def IsFinite (n : Number) : Prop :=
  IsFiniteScalar n.value ∧ ∀ es ∈ n.evidence, ∀ e ∈ es, e.IsFinite

def stored (n : Number) : Number :=
  { n with value := storedScalar n.value, evidence := n.evidence.map (List.map Evidence.stored) }

theorem stored_evidence (n : Number) :
    n.stored.evidence.getD [] = (n.evidence.getD []).map Evidence.stored := by
  cases h : n.evidence <;> simp [stored, h]

theorem stored_eq_self {n : Number} (h : n.IsFinite) : n.stored = n := by
  obtain ⟨name, labels, value, evidence⟩ := n
  obtain ⟨hvalue, hevidence⟩ := h
  rw [stored, storedScalar_eq_self hvalue]
  cases evidence with
  | none => rfl
  | some es =>
    rw [Option.map_some, map_eq_self fun e he => Evidence.stored_eq_self (hevidence es rfl e he)]

end Number

namespace Value

def IsFinite : Value → Prop
  | series s => s.IsFinite
  | number n => n.IsFinite
  | noData => True

def stored : Value → Value
  | series s => .series s.stored
  | number n => .number n.stored
  | noData => .noData

theorem stored_eq_self {v : Value} (h : v.IsFinite) : v.stored = v := by
  cases v with
  | series s => rw [stored, Series.stored_eq_self h]
  | number n => rw [stored, Number.stored_eq_self h]
  | noData => rfl

end Value

namespace Batch

def IsFinite (batch : Batch) : Prop := ∀ v ∈ batch, v.IsFinite

def stored (batch : Batch) : Batch := batch.map Value.stored

theorem stored_eq_self {batch : Batch} (h : IsFinite batch) : stored batch = batch :=
  map_eq_self fun v hv => Value.stored_eq_self (h v hv)

end Batch

namespace Vars

def IsFinite (vars : Vars) : Prop := ∀ e ∈ vars.entries, Batch.IsFinite e.2

def stored (vars : Vars) : Vars := vars.map Batch.stored

theorem stored_eq_self {vars : Vars} (h : vars.IsFinite) : vars.stored = vars := by
  apply Dictionary.ext
  refine map_eq_self fun e he => ?_
  rw [Batch.stored_eq_self (h e he)]

end Vars

end Alerting
