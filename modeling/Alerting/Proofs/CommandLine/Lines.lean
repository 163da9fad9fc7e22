import Alerting.Proofs.Command.Inputs
import Alerting.Proofs.CommandLine.Run
import Alerting.Proofs.Decimal.Digits
import Alerting.Proofs.Report

/-!
# Output line by line

Texts are printed as they are, one to a line, so the lines can be told apart exactly if no text that
is printed has a newline of its own. Numbers never have one. Names, labels and reference IDs may.
-/
namespace Alerting

/-! ## Lines of a text -/

theorem not_mem_of_mem_splitOn {α : Type} [BEq α] [LawfulBEq α] {mark : α} {xs piece : List α}
    (h : piece ∈ xs.splitOn mark) : mark ∉ piece := by
  induction xs generalizing piece with
  | nil =>
    rw [List.splitOn_nil, List.mem_singleton] at h
    exact h ▸ List.not_mem_nil
  | cons x xs ih =>
    rw [List.splitOn_cons_eq_if_modifyHead] at h
    split at h
    · rcases List.mem_cons.mp h with rfl | h
      · exact List.not_mem_nil
      · exact ih h
    · rename_i hx
      obtain ⟨first, rest, hsplit⟩ := List.exists_cons_of_ne_nil (List.splitOn_ne_nil mark xs)
      rw [hsplit, List.modifyHead_cons, List.mem_cons] at h
      rw [hsplit] at ih
      rcases h with rfl | h
      · rw [List.mem_cons, not_or]
        exact ⟨fun hmark => hx (by simp [hmark]), ih List.mem_cons_self⟩
      · exact ih (List.mem_cons_of_mem _ h)

/-- A text of lines, each with a newline behind it, is split into these lines at its newlines
exactly if there are no newlines in them. -/
theorem splitOn_lines_iff (lines : List (List Char)) :
    (lines.flatMap (· ++ ['\n'])).splitOn '\n' = lines ++ [[]] ↔ ∀ line ∈ lines, '\n' ∉ line := by
  constructor
  · intro hsplit line hline
    exact not_mem_of_mem_splitOn (hsplit ▸ List.mem_append_left _ hline)
  · intro h
    induction lines with
    | nil => rfl
    | cons line lines ih =>
      obtain ⟨hline, hlines⟩ := List.forall_mem_cons.mp h
      rw [List.flatMap_cons, List.append_assoc, List.singleton_append,
        List.splitOn_append_cons_self_of_not_mem hline, ih hlines, List.cons_append]

/-! ## What is shown of an entry -/

theorem Decimal.mem_positionalForm {wholeEnd : List Char} {d : Decimal} {c : Char}
    (hc : c ∈ Layout.positionalForm wholeEnd d) :
    c.isDigit = true ∨ c = '.' ∨ c ∈ wholeEnd := by
  simp only [Layout.positionalForm] at hc
  split at hc
  · rcases List.mem_append.mp hc with hc | hc
    · rcases List.mem_append.mp hc with hc | hc
      · exact .inl (isDigit_of_mem_toDigits hc)
      · exact .inl (isDigit_of_mem_replicate_zero hc)
    · exact .inr (.inr hc)
  · split at hc
    · rcases List.mem_append.mp hc with hc | hc
      · exact .inl (isDigit_of_mem_toDigits (List.mem_of_mem_take hc))
      · rcases List.mem_cons.mp hc with hc | hc
        · exact .inr (.inl hc)
        · exact .inl (isDigit_of_mem_toDigits (List.mem_of_mem_drop hc))
    · simp only [List.mem_cons, List.mem_append] at hc
      rcases hc with rfl | hc | hc | hc
      · exact .inl rfl
      · exact .inr (.inl hc)
      · exact .inl (isDigit_of_mem_replicate_zero hc)
      · exact .inl (isDigit_of_mem_toDigits hc)

theorem Decimal.newline_not_mem_display (x : Float) : '\n' ∉ (display x).toList := by
  have hmagnitude : '\n' ∉ Layout.plain.magnitude x := by
    intro hc
    have hchar : '\n'.isDigit = true ∨ '\n' = '.' ∨ '\n' ∈ [] := mem_positionalForm hc
    revert hchar
    decide
  unfold display
  split
  · decide
  · split
    · cases signBit x <;> decide
    · rw [String.toList_ofList, Layout.finite]
      split
      · exact List.not_mem_cons_of_ne_of_not_mem (by decide) hmagnitude
      · exact hmagnitude

theorem not_mem_intercalate {α : Type} {c : α} {mark : List α} (hc : c ∉ mark)
    (pieces : List (List α)) : c ∉ mark.intercalate pieces ↔ ∀ piece ∈ pieces, c ∉ piece := by
  induction pieces with
  | nil => simp
  | cons piece pieces ih =>
    cases pieces with
    | nil => simp
    | cons piece' pieces =>
      rw [List.forall_mem_cons, List.intercalate_cons_cons, List.mem_append, List.mem_append,
        or_iff_left hc, not_or, ih]

theorem Labels.newline_not_mem_display {labels : Labels} : '\n' ∉ labels.display.toList ↔
    ∀ l ∈ labels.entries, '\n' ∉ l.1.toList ∧ '\n' ∉ l.2.toList := by
  rw [display, String.toList_intercalate, not_mem_intercalate (by decide), List.forall_mem_map,
    List.forall_mem_map]
  simp only [String.toList_append, List.mem_append, not_or]
  refine forall₂_congr fun l _ => ?_
  rw [and_iff_left (a := '\n' ∉ l.1.toList) (by decide)]

namespace Evidence

/-- The entry is shown in one line: its name and labels have no newlines, unless it is the marker,
which is shown without them. -/
def IsOneLine (e : Evidence) : Prop :=
  e.isNoData = true ∨ (∀ metric ∈ e.metric, '\n' ∉ metric.toList) ∧
    ∀ labels ∈ e.labels, ∀ l ∈ labels.entries, '\n' ∉ l.1.toList ∧ '\n' ∉ l.2.toList

instance (e : Evidence) : Decidable e.IsOneLine := inferInstanceAs (Decidable (_ ∨ _))

theorem newline_not_mem_labelsDisplay {labels : Option Labels} :
    '\n' ∉ (labelsDisplay labels).toList ↔
      ∀ ls ∈ labels, ∀ l ∈ ls.entries, '\n' ∉ l.1.toList ∧ '\n' ∉ l.2.toList := by
  cases labels with
  | none => simp [labelsDisplay]
  | some labels =>
    simp only [Option.mem_some_iff, forall_eq', labelsDisplay]
    split
    · rename_i hempty
      have hnil : labels.entries = [] := by simpa [Dictionary.isEmpty] using hempty
      simp [hnil]
    · simp [Labels.newline_not_mem_display]

theorem newline_not_mem_display {e : Evidence} : '\n' ∉ e.display.toList ↔ e.IsOneLine := by
  have hvalue : '\n' ∉ ("value=" ++ e.value.elim "null" Decimal.display).toList := by
    rw [String.toList_append, List.mem_append, not_or]
    refine ⟨by decide, ?_⟩
    cases e.value with
    | none => decide
    | some x => exact Decimal.newline_not_mem_display x
  have hmetric : '\n' ∉ (e.metric.elim "" (" metric=" ++ ·)).toList ↔
      ∀ metric ∈ e.metric, '\n' ∉ metric.toList := by
    cases e.metric <;> simp
  rw [display, IsOneLine]
  split
  · rename_i h
    exact iff_of_true (by decide) (.inl h)
  · rename_i h
    rw [or_iff_right h, ← newline_not_mem_labelsDisplay, ← hmetric, String.toList_append,
      String.toList_append, List.mem_append, List.mem_append, or_iff_right hvalue, not_or]

end Evidence

namespace CommandLine

theorem splitOn_joined_iff (lines : List String) :
    ("".intercalate (lines.map (· ++ "\n"))).toList.splitOn '\n' =
      lines.map String.toList ++ [[]] ↔ ∀ line ∈ lines, '\n' ∉ line.toList := by
  have hlines := splitOn_lines_iff (lines.map String.toList)
  rw [List.flatMap_map, List.forall_mem_map] at hlines
  rw [Report.toList_joined]
  exact hlines

theorem splitOn_text_iff (n : Number) :
    (Report.text n).toList.splitOn '\n' = (Report.lines n).map String.toList ++ [[]] ↔
      ∀ e ∈ n.evidence.getD [], e.IsOneLine := by
  have hverdict : '\n' ∉ (Verdict.ofNumber n).display.toList := by
    cases Verdict.ofNumber n <;> decide
  have hentry (e : Evidence) : '\n' ∉ ("  " ++ e.display).toList ↔ e.IsOneLine := by
    rw [String.toList_append, List.mem_append, or_iff_right (by decide),
      Evidence.newline_not_mem_display]
  rw [Report.text, splitOn_joined_iff, Report.lines, List.forall_mem_cons, and_iff_right hverdict,
    List.forall_mem_map]
  exact forall₂_congr fun e _ => hentry e

/-- A report splits at its newlines into the verdict and a line for each entry of evidence exactly
if all entries are shown in one line. A list of inputs splits into the reference IDs exactly if they
have no newlines, which no definition is refused for. -/
theorem output_lines_iff (n : Number) (disk : Disk) (settings : Settings) (path : String)
    (refId : Option String) :
    ((Report.text n).toList.splitOn '\n' = (Verdict.ofNumber n).display.toList ::
        (n.evidence.getD []).map (fun e => ("  " ++ e.display).toList) ++ [[]] ↔
      ∀ e ∈ n.evidence.getD [], e.IsOneLine) ∧
    ∀ cs : List Condition, HoldsConditions disk path cs → ∃ output : String,
      (Request.needsVars path refId).output disk settings = .ok output ∧
      (output.toList.splitOn '\n' =
          (Command.needsVars ⟨refId.getD settings.refId, cs⟩).map String.toList ++ [[]] ↔
        ∀ c ∈ cs, '\n' ∉ c.input.toList) := by
  constructor
  · rw [← splitOn_text_iff, Report.lines, List.map_cons, List.map_map]
    rfl
  · intro cs h
    refine ⟨_, output_needsVars h, ?_⟩
    rw [splitOn_joined_iff]
    simp only [Command.mem_needsVars, forall_exists_index, and_imp, forall_apply_eq_imp_iff₂]

/-! Neither a definition nor vars are refused for newlines in their texts, so one entry may take two
lines, and one reference ID may look like two. -/

def newlineRule : Command := ⟨"", [⟨"A\nB", .last, .and, .threshold .gt 0.0⟩]⟩

def newlineVars : Vars :=
  Dictionary.ofList [("A\nB", [.number ⟨some "two\nlines", none, some 1.0, none⟩])]

def newlineDisk : Disk
  | "rule.json" => .ok ("\x7b\"conditions\": [\x7b\"query\": \x7b\"params\": [\"A\\nB\"]\x7d, " ++
      "\"reducer\": \x7b\"type\": \"last\"\x7d, " ++
      "\"evaluator\": \x7b\"type\": \"gt\", \"params\": [0]\x7d\x7d]\x7d")
  | "vars.json" => .ok
      "\x7b\"A\\nB\": [\x7b\"number\": \x7b\"name\": \"two\\nlines\", \"value\": 1\x7d\x7d]\x7d"
  | _ => .error .missing

theorem exists_newlineDisk : ∃ cs, HoldsConditions newlineDisk "rule.json" cs ∧
    cs.map Condition.input = ["A\nB"] := by
  have hinputs : (loadConditions newlineDisk "rule.json" "").toOption.map
      (fun cmd => cmd.conditions.map Condition.input) = some ["A\nB"] := by decide +kernel
  obtain ⟨cmd, hcmd, hinputs⟩ := Option.map_eq_some_iff.mp hinputs
  cases hload : loadConditions newlineDisk "rule.json" "" with
  | error failure =>
    rw [hload] at hcmd
    cases hcmd
  | ok cmd' =>
    obtain rfl : cmd' = cmd := by
      rw [hload] at hcmd
      exact Option.some.inj hcmd
    exact ⟨cmd'.conditions, (loadConditions_eq_ok.mp hload).2, hinputs⟩

theorem output_lines_newlineDisk :
    (∃ n : Number, newlineRule.execute .newYear2024 newlineVars = [.number n] ∧
      (Report.text n).toList.splitOn '\n' ≠ (Verdict.ofNumber n).display.toList ::
        (n.evidence.getD []).map (fun e => ("  " ++ e.display).toList) ++ [[]]) ∧
    ∃ cs output, HoldsConditions newlineDisk "rule.json" cs ∧
      (Request.needsVars "rule.json" (some "")).output newlineDisk
        (Settings.ofEnvironment Dictionary.empty) = .ok output ∧
      output.toList.splitOn '\n' ≠ (Command.needsVars ⟨"", cs⟩).map String.toList ++ [[]] := by
  obtain ⟨cs, hcs, hinputs⟩ := exists_newlineDisk
  obtain ⟨hentries, hids⟩ := output_lines_iff (newlineRule.verdict .newYear2024 newlineVars)
    newlineDisk (Settings.ofEnvironment Dictionary.empty) "rule.json" (some "")
  obtain ⟨output, houtput, hsplit⟩ := hids cs hcs
  refine ⟨⟨_, newlineRule.execute_eq .., fun h => ?_⟩, cs, output, hcs, houtput, fun h => ?_⟩
  · revert hentries
    simp only [h, true_iff]
    decide
  · have hnone : ∀ input ∈ cs.map Condition.input, '\n' ∉ input.toList :=
      List.forall_mem_map.mpr (hsplit.mp h)
    rw [hinputs] at hnone
    revert hnone
    decide

theorem output_lines_ne :
    (∃ n : Number, newlineRule.execute .newYear2024 newlineVars = [.number n] ∧
      Report.text n = "firing\n  value=1 metric=two\nlines\n" ∧
      (Report.text n).toList.splitOn '\n' ≠ (Verdict.ofNumber n).display.toList ::
        (n.evidence.getD []).map (fun e => ("  " ++ e.display).toList) ++ [[]]) ∧
    run newlineDisk Dictionary.empty ["eval", "rule.json", "vars.json"] =
      { code := 0, output := "firing\n  value=1 metric=two\nlines\n" } ∧
    run newlineDisk Dictionary.empty ["needs-vars", "rule.json"] =
      { code := 0, output := "A\nB\n" } ∧
    newlineRule.needsVars = ["A\nB"] ∧
    "A\nB\n".toList.splitOn '\n' ≠ newlineRule.needsVars.map String.toList ++ [[]] := by
  refine ⟨⟨_, rfl, ?_, ?_⟩, ?_, ?_, ?_, ?_⟩
  · decide
  · decide
  · decide +kernel
  · decide +kernel
  · decide
  · decide

end CommandLine
end Alerting
