import Alerting.Proofs.Condition.Outcome
import Alerting.Proofs.Double.Order

/-!
# Complementary conditions

No double passes a test and its complement, and every double passes one of them, but for what is no
number in a comparison by order. So two conditions that put complementary tests to one batch share
its values out between them: merged in order, their evidence has one entry for each value with a
number.
-/
namespace Alerting

/-! ## Tests -/

namespace Comparison

def complement : Comparison → Comparison
  | gt => le
  | lt => ge
  | ge => lt
  | le => gt
  | eq => ne
  | ne => eq

/-- Whether the comparison is one of the order of numbers, in which what is no number has no
place. -/
def isOrder : Comparison → Bool
  | gt | lt | ge | le => true
  | eq | ne => false

end Comparison

def RangeSide.complement : RangeSide → RangeSide
  | within => outside
  | outside => within

namespace Evaluator

/-- The test for the other numbers, with the same limits. -/
def complement : Evaluator → Evaluator
  | threshold comparison limit => threshold comparison.complement limit
  | range side lower upper => range side.complement lower upper

/-- Whether a double passes the test or its complement: only a comparison by order leaves some out,
namely all if the limit is no number, and what is no number in any case. -/
def decides : Evaluator → Float → Bool
  | threshold comparison limit, x => !comparison.isOrder || (!limit.isNaN && !x.isNaN)
  | range .., _ => true

variable (e : Evaluator) (x : Float)

theorem holds_or_complement : (e.holds x || e.complement.holds x) = e.decides x := by
  cases e with
  | threshold comparison limit =>
    cases comparison with
    | gt => exact Double.lt_or_le_eq limit x
    | lt => exact (Double.lt_or_le_eq x limit).trans (Bool.and_comm ..)
    | ge => exact (Bool.or_comm ..).trans ((Double.lt_or_le_eq x limit).trans (Bool.and_comm ..))
    | le => exact (Bool.or_comm ..).trans (Double.lt_or_le_eq limit x)
    | eq => exact Bool.or_not_self _
    | ne => exact Bool.not_or_self _
  | range side lower upper =>
    cases side with
    | within => exact Bool.or_not_self _
    | outside => exact Bool.not_or_self _

theorem holds_and_complement : (e.holds x && e.complement.holds x) = false := by
  cases e with
  | threshold comparison limit =>
    cases comparison with
    | gt => exact Double.lt_and_le_eq limit x
    | lt => exact Double.lt_and_le_eq x limit
    | ge => exact (Bool.and_comm ..).trans (Double.lt_and_le_eq x limit)
    | le => exact (Bool.and_comm ..).trans (Double.lt_and_le_eq limit x)
    | eq => exact Bool.and_not_self _
    | ne => exact Bool.not_and_self _
  | range side lower upper =>
    cases side with
    | within => exact Bool.and_not_self _
    | outside => exact Bool.not_and_self _

end Evaluator

/-! ## Merged lists -/

/-- The third list is made of the first two, each kept in its order. -/
inductive Merged {α : Type} : List α → List α → List α → Prop where
  | nil : Merged [] [] []
  | left (a : α) {as bs cs : List α} : Merged as bs cs → Merged (a :: as) bs (a :: cs)
  | right (b : α) {as bs cs : List α} : Merged as bs cs → Merged as (b :: bs) (b :: cs)

namespace Merged

variable {α β : Type}

theorem length {as bs cs : List α} (h : Merged as bs cs) : cs.length = as.length + bs.length := by
  induction h with
  | nil => rfl
  | left a _ ih =>
    rw [List.length_cons, List.length_cons, ih]
    omega
  | right b _ ih =>
    rw [List.length_cons, List.length_cons, ih]
    omega

theorem map (f : α → β) {as bs cs : List α} (h : Merged as bs cs) :
    Merged (as.map f) (bs.map f) (cs.map f) := by
  induction h with
  | nil => exact .nil
  | left a _ ih => exact .left (f a) ih
  | right b _ ih => exact .right (f b) ih

/-- Tests that never hold together share out what passes either of them. -/
theorem filter {p q r : α → Bool} (hor : ∀ a, (p a || q a) = r a)
    (hand : ∀ a, (p a && q a) = false) (as : List α) :
    Merged (as.filter p) (as.filter q) (as.filter r) := by
  induction as with
  | nil => exact .nil
  | cons a as ih =>
    have hr := hor a
    have hpq := hand a
    rw [List.filter_cons, List.filter_cons, List.filter_cons, ← hr]
    cases hp : p a <;> cases hq : q a
    · exact ih
    · exact .right a ih
    · exact .left a ih
    · simp [hp, hq] at hpq

end Merged

/-! ## Conditions -/

namespace Condition

/-- The conditions put complementary tests to the same numbers. -/
structure Complements (c d : Condition) : Prop where
  input : d.input = c.input
  reducer : d.reducer = c.reducer
  evaluator : d.evaluator = c.evaluator.complement

/-- Every number of the batch passes the test of the condition or its complement. -/
def Decides (c : Condition) (batch : Batch) : Prop :=
  ∀ v ∈ batch, ∀ x ∈ c.reducer.reduceValue v, c.evaluator.decides x = true

instance (c : Condition) (batch : Batch) : Decidable (c.Decides batch) :=
  inferInstanceAs (Decidable (∀ v ∈ batch, ∀ x ∈ c.reducer.reduceValue v, _))

def entry (c : Condition) (v : Value) : Evidence := ⟨c.reducer.reduceValue v, v.name, v.labels⟩

/-- The entries that all values of a batch with a number would have, in the order of the batch. -/
def entries (c : Condition) (batch : Batch) : List Evidence :=
  (batch.filter fun v => (c.reducer.reduceValue v).isSome).map c.entry

variable (c : Condition) (batch : Batch)

theorem map_reduced : ((c.reduced batch).map fun e => evidenceOf e.1 e.2) = c.entries batch := by
  induction batch with
  | nil => rfl
  | cons v batch ih =>
    rw [reduced, entries] at ih ⊢
    rw [List.filterMap_cons, List.filter_cons]
    cases hx : c.reducer.reduceValue v with
    | none => simpa [hx] using ih
    | some x => simpa [hx, entry, evidenceOf] using ih

theorem decides_iff : c.Decides batch ↔ ∀ e ∈ c.reduced batch, c.evaluator.decides e.2 = true := by
  simp only [Decides, reduced, List.mem_filterMap, Option.map_eq_some_iff]
  constructor
  · rintro h _ ⟨v, hv, x, hx, rfl⟩
    exact h v hv x hx
  · exact fun h v hv x hx => h (v, x) ⟨v, hv, x, hx, rfl⟩

namespace Complements

variable {c} {d : Condition} (h : c.Complements d)
include h

theorem evidence_merged : Merged (c.evidence batch) (d.evidence batch)
    (((c.reduced batch).filter fun e => c.evaluator.decides e.2).map
      fun e => evidenceOf e.1 e.2) := by
  rw [evidence, evidence, reduced_congr h.reducer, h.evaluator]
  exact (Merged.filter (fun (e : Value × Float) => c.evaluator.holds_or_complement e.2)
    (fun e => c.evaluator.holds_and_complement e.2) _).map _

/-- The evidence is one entry for each value with a number exactly if every number is decided. -/
theorem merged_iff :
    c.Decides batch ↔ Merged (c.evidence batch) (d.evidence batch) (c.entries batch) := by
  have hmerged := h.evidence_merged batch
  rw [c.decides_iff, ← c.map_reduced]
  constructor
  · intro hall
    rwa [List.filter_eq_self.mpr hall] at hmerged
  · intro hentries
    -- The lists of evidence are as long together as the numbers are many, and as those decided.
    have hlength := hentries.length.trans hmerged.length.symm
    rw [List.length_map, List.length_map] at hlength
    exact List.length_filter_eq_length_iff.mp hlength.symm

theorem exists_evidence (hdecides : c.Decides batch) (hdata : (c.reduced batch).isEmpty = false) :
    (c.evidence batch).isEmpty = false ∨ (d.evidence batch).isEmpty = false := by
  have hmerged := (h.merged_iff batch).mp hdecides
  rw [← c.map_reduced] at hmerged
  by_contra hnone
  simp only [not_or, Bool.not_eq_false, List.isEmpty_iff] at hnone
  have hlength := hmerged.length
  rw [hnone.1, hnone.2, List.length_map] at hlength
  rw [List.length_eq_zero_iff.mp hlength] at hdata
  cases hdata

end Complements

/-- Conditions with complementary tests have data for the same batches. If every number is decided,
one of them fires whenever there is data. The evidence of both, merged in order, is then one entry
for each value with a number, and only then. -/
theorem evaluate_complement {c d : Condition} (h : c.Complements d) (vars : Vars) :
    (c.evaluate vars).noData = (d.evaluate vars).noData ∧
    (c.Decides ((vars.get? c.input).getD []) → (c.evaluate vars).noData = false →
      (c.evaluate vars).firing = true ∨ (d.evaluate vars).firing = true) ∧
    (c.Decides ((vars.get? c.input).getD []) ↔
      Merged (c.evaluate vars).evidence (d.evaluate vars).evidence
        (c.entries ((vars.get? c.input).getD []))) := by
  simp only [evaluate, h.input, outcome_noData, outcome_firing, outcome_evidence,
    reduced_congr h.reducer, Bool.not_eq_true', true_and]
  exact ⟨h.exists_evidence _, h.merged_iff _⟩

/-! Rooms with and without a reading, and one whose reading is no number. -/

def overheated : Condition := ⟨"rooms", .last, .and, .threshold .gt 25.0⟩

def comfortable : Condition := ⟨"rooms", .last, .or, .threshold .le 25.0⟩

def room (reading : Option Float) : Value := .number ⟨none, none, reading, none⟩

def rooms (readings : List (Option Float)) : Vars :=
  Dictionary.ofList [("rooms", readings.map room)]

def measured : Vars := rooms [some 30.0, none, some 25.0, some 31.0]

def disturbed : Vars := rooms [some 30.0, some Float.nan]

def reading (x : Float) : Evidence := ⟨some x, none, none⟩

theorem evaluate_complement_rooms : overheated.Complements comfortable ∧
    (overheated.evaluate measured).noData = (comfortable.evaluate measured).noData ∧
    (overheated.evaluate measured).noData = false ∧
    ((overheated.evaluate measured).firing = true ∨
      (comfortable.evaluate measured).firing = true) ∧
    Merged (overheated.evaluate measured).evidence (comfortable.evaluate measured).evidence
      [reading 30.0, reading 25.0, reading 31.0] ∧
    ¬Merged (overheated.evaluate disturbed).evidence (comfortable.evaluate disturbed).evidence
      [reading 30.0, reading Float.nan] := by
  have hcomplements : overheated.Complements comfortable := ⟨rfl, rfl, rfl⟩
  obtain ⟨hnoData, hfires, hmerged⟩ := evaluate_complement hcomplements measured
  obtain ⟨-, -, hlost⟩ := evaluate_complement hcomplements disturbed
  have hdata : (overheated.evaluate measured).noData = false := by decide
  exact ⟨hcomplements, hnoData, hdata, hfires (by decide) hdata, hmerged.mp (by decide),
    mt hlost.mpr (by decide)⟩

end Condition
end Alerting
