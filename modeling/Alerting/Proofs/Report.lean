import Alerting.Proofs.Command.Verdict
import Alerting.Proofs.Double.Value
import Alerting.Proofs.Sample.RoundTrip

/-!
# Both forms of a report

The text and the document of a verdict tell the same verdict and list the same entries of evidence.
They part where the value of an entry is not finite: the text shows it and the document stores null.
-/
namespace Alerting

/-- A double that is not finite is shown as a word. -/
theorem Decimal.display_of_not_isFinite {x : Float} (h : ¬x.isFinite = true) :
    display x = "NaN" ∨ display x = "inf" ∨ display x = "-inf" := by
  rw [display]
  split
  · exact .inl rfl
  · rename_i hnan
    split
    · cases signBit x
      · exact .inr (.inl rfl)
      · exact .inr (.inr rfl)
    · rename_i hinf
      refine absurd ?_ h
      change (Double.parts x).isFinite = true
      change ¬(Double.parts x).isNaN = true at hnan
      change ¬(Double.parts x).isInf = true at hinf
      cases hx : Double.parts x with
      | zero | finite => rfl
      | infinity => exact absurd (by rw [hx]; rfl) hinf
      | notANumber => exact absurd (by rw [hx]; rfl) hnan

namespace Evidence

variable {e : Evidence}

theorem exists_of_not_isFinite (h : ¬e.IsFinite) :
    ∃ x, e.value = some x ∧ e.stored.value = none ∧ ¬x.isFinite = true := by
  simp only [IsFinite, IsFiniteScalar, not_forall] at h
  obtain ⟨x, hx, hfinite⟩ := h
  refine ⟨x, hx, ?_, hfinite⟩
  rw [stored, storedScalar, Option.mem_def.mp hx, Option.filter_some, if_neg hfinite]

theorem isNoData_stored :
    e.stored.isNoData = e.isNoData ↔ e.IsFinite ∨ e.metric ≠ some noDataMetric := by
  by_cases h : e.IsFinite
  · simp [stored_eq_self h, h]
  · obtain ⟨x, hx, hlost, -⟩ := exists_of_not_isFinite h
    have hmetric : e.stored.metric = e.metric := rfl
    simp [isNoData, hx, hlost, hmetric, h]

/-- The display of an entry whose value is not finite parts from that of the stored entry within the
first characters, whatever follows. -/
theorem display_stored_ne (h : ¬e.IsFinite) (rest rest' : List Char) :
    e.stored.display.toList ++ rest ≠ e.display.toList ++ rest' := by
  obtain ⟨x, hx, hlost, hfinite⟩ := exists_of_not_isFinite h
  have hshown (more : List Char) : ∃ tail, e.display.toList ++ more =
      "value=".toList ++ ((Decimal.display x).toList ++ tail) := by
    have hdata : ¬e.isNoData = true := by simp [isNoData, hx]
    rw [display, if_neg hdata, hx, Option.elim]
    simp only [String.toList_append, List.append_assoc]
    exact ⟨_, rfl⟩
  have hstored (more : List Char) : ∃ tail, e.stored.display.toList ++ more = 'N' :: tail ∨
      e.stored.display.toList ++ more = "value=".toList ++ 'n' :: tail := by
    rw [display]
    split
    · exact ⟨_, .inl rfl⟩
    · rw [hlost]
      simp only [String.toList_append, List.append_assoc, Option.elim]
      exact ⟨_, .inr rfl⟩
  obtain ⟨tail, hshown⟩ := hshown rest'
  obtain ⟨tail', hstored⟩ := hstored rest
  rw [hshown]
  rcases hstored with hstored | hstored
  · rw [hstored]
    rintro ⟨⟩
  · rw [hstored, ne_eq, List.append_cancel_left_eq]
    rcases Decimal.display_of_not_isFinite hfinite with hword | hword | hword
    all_goals
      rw [hword]
      rintro ⟨⟩

end Evidence

namespace Report

def entryLine (e : Evidence) : List Char := "  ".toList ++ (e.display.toList ++ ['\n'])

/-- Lines are printed one after another, each with a newline behind it. -/
theorem toList_joined (lines : List String) : ("".intercalate (lines.map (· ++ "\n"))).toList =
    lines.flatMap fun line => line.toList ++ ['\n'] := by
  induction lines with
  | nil => rfl
  | cons line lines ih =>
    rw [List.flatMap_cons, ← ih, List.map_cons]
    cases lines with
    | nil => simp
    | cons line' lines => simp

theorem toList_text (n : Number) : (text n).toList =
    (Verdict.ofNumber n).display.toList ++ '\n' :: (n.evidence.getD []).flatMap entryLine := by
  have hline : (fun e : Evidence => ("  " ++ e.display).toList ++ ['\n']) = entryLine := by
    funext e
    rw [String.toList_append, List.append_assoc, entryLine]
  rw [text, lines, toList_joined, List.flatMap_cons, List.append_assoc, List.flatMap_map, hline]
  rfl

/-- Lists of entries are shown alike before and after they are stored exactly if nothing is lost:
the first entry that loses its value makes the difference. -/
theorem flatMap_entryLine_stored (es : List Evidence) :
    (es.map Evidence.stored).flatMap entryLine = es.flatMap entryLine ↔ ∀ e ∈ es, e.IsFinite := by
  induction es with
  | nil => simp
  | cons e es ih =>
    rw [List.map_cons, List.flatMap_cons, List.flatMap_cons, List.forall_mem_cons]
    by_cases h : e.IsFinite
    · rw [Evidence.stored_eq_self h, List.append_cancel_left_eq, ih]
      simp [h]
    · refine iff_of_false ?_ fun hall => h hall.1
      simp only [entryLine, List.append_assoc, List.append_cancel_left_eq]
      exact Evidence.display_stored_ne h _ _

theorem text_stored {n : Number} (hvalue : n.stored.value = n.value) :
    text n.stored = text n ↔ ∀ e ∈ n.evidence.getD [], e.IsFinite := by
  have hverdict : Verdict.ofNumber n.stored = Verdict.ofNumber n := by
    rw [Verdict.ofNumber, Verdict.ofNumber, hvalue]
  rw [← String.toList_inj, toList_text, toList_text, hverdict, Number.stored_evidence,
    List.append_cancel_left_eq, List.cons.injEq, and_iff_right rfl, flatMap_entryLine_stored]

end Report

namespace Command

variable (cmd : Command) (now : Time.Instant) (vars : Vars)

/-- The value of a verdict is stored as it is. -/
theorem stored_verdict_value :
    (cmd.verdict now vars).stored.value = (cmd.verdict now vars).value := by
  refine storedScalar_eq_self ?_
  rw [verdict_value]
  cases cmd.hasNoData vars <;> cases cmd.isFiring vars <;> rintro _ ⟨⟩ <;> decide

end Command

namespace Report

/-- The document of a report always reads back, with the same verdict and as many entries of
evidence. An entry changes its display, and an entry with the metric of the marker becomes the
marker, exactly if its value is not finite. -/
theorem document_text (cmd : Command) (now : Time.Instant) (vars : Vars) :
    ∃ n decoded n', verdictNumber? (cmd.execute now vars) = some n ∧
      Json.readText Batch.read (document (cmd.execute now vars)) = .ok decoded ∧
      verdictNumber? decoded = some n' ∧
      Verdict.ofNumber n' = Verdict.ofNumber n ∧
      List.Forall₂ (fun e e' => e'.metric = e.metric ∧ e'.labels = e.labels ∧
          (e'.value = e.value ↔ e.IsFinite) ∧
          (e'.isNoData = e.isNoData ↔ e.IsFinite ∨ e.metric ≠ some noDataMetric))
        (n.evidence.getD []) (n'.evidence.getD []) ∧
      (text n' = text n ↔ ∀ e ∈ n.evidence.getD [], e.IsFinite) := by
  have hvalue := cmd.stored_verdict_value now vars
  refine ⟨cmd.verdict now vars, _, (cmd.verdict now vars).stored, rfl, Batch.readText_document _,
    rfl, ?_, ?_, text_stored hvalue⟩
  · rw [Verdict.ofNumber, Verdict.ofNumber, hvalue]
  · rw [Number.stored_evidence, List.forall₂_map_right_iff, List.forall₂_same]
    exact fun e _ => ⟨rfl, rfl, storedScalar_eq_self_iff, Evidence.isNoData_stored⟩

/-! The change from zero is infinite, so its text shows an infinity that its document loses. If the
series has the name of the marker, the entry even turns into the marker. -/

def riseAlert : Command := ⟨"", [⟨"A", .percentDiff, .and, .threshold .gt 0.0⟩]⟩

def riseFromZero : Vars := Dictionary.ofList [
  ("A", [.series ⟨some "NoData", none,
    [⟨.newYear2024, some (.ofFloat 0.0)⟩, ⟨.newYear2024, some (.ofFloat 5.0)⟩]⟩])]

theorem document_text_ne : ∃ n decoded n',
    verdictNumber? (riseAlert.execute .newYear2024 riseFromZero) = some n ∧
    Json.readText Batch.read (document (riseAlert.execute .newYear2024 riseFromZero)) =
      .ok decoded ∧
    verdictNumber? decoded = some n' ∧
    text n = "firing\n  value=inf metric=NoData\n" ∧ text n' = "firing\n  NoData\n" ∧
    (n.evidence.getD []).map Evidence.isNoData = [false] ∧
    (n'.evidence.getD []).map Evidence.isNoData = [true] := by
  refine ⟨_, _, _, rfl, Batch.readText_document _, rfl, ?_, ?_, ?_, ?_⟩
  · decide
  · decide
  · decide
  · decide

end Report
end Alerting
