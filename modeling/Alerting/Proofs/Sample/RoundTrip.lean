import Alerting.Proofs.Json.Written
import Alerting.Proofs.Sample.Stored
import Alerting.Report

/-!
# Samples read back

Every sample can be written, and it reads back as it is stored. The readers are followed member by
member, from the points and the entries of evidence up to the vars.
-/
namespace Alerting
open Json Fallible

/-! ## What can be written -/

theorem Labels.printable_toJson (labels : Labels) : Printable 1 labels.toJson :=
  printable_entries (Printable.text 0) labels.entries

theorem Evidence.printable_toJson (e : Evidence) : Printable 2 e.toJson := by
  refine .object ?_
  simp only [List.forall_mem_append]
  exact ⟨⟨printable_member? (printable_ofFloat 1) _ _, printable_member? (Printable.text 1) _ _⟩,
    printable_member? Labels.printable_toJson _ _⟩

theorem Point.printable_toJson (p : Point) : Printable 1 p.toJson := by
  refine .object ?_
  simp only [List.forall_mem_cons, List.not_mem_nil, false_imp_iff, implies_true, and_true]
  exact ⟨.text 0 _, printable_ofOption (printable_ofFloat 0) _⟩

theorem Series.printable_toJson (s : Series) : Printable 3 s.toJson := by
  have hlabels (labels : Labels) : Printable 2 labels.toJson :=
    labels.printable_toJson.mono (by decide)
  refine .object ?_
  simp only [List.forall_mem_append, List.forall_mem_singleton]
  exact ⟨⟨printable_member? (Printable.text 2) _ _, printable_member? hlabels _ _⟩,
    printable_list Point.printable_toJson s.points⟩

theorem Number.printable_toJson (n : Number) : Printable 4 n.toJson := by
  have hlabels (labels : Labels) : Printable 3 labels.toJson :=
    labels.printable_toJson.mono (by decide)
  refine .object ?_
  simp only [List.forall_mem_append, List.forall_mem_singleton]
  exact ⟨⟨⟨printable_member? (Printable.text 3) _ _, printable_member? hlabels _ _⟩,
    printable_ofOption (printable_ofFloat 3) _⟩,
    printable_member? (printable_list Evidence.printable_toJson) _ _⟩

theorem Value.printable_toJson (v : Value) : Printable 5 v.toJson := by
  cases v with
  | series s =>
    refine .object ?_
    rw [List.forall_mem_singleton]
    exact s.printable_toJson.mono (by decide)
  | number n =>
    refine .object ?_
    rw [List.forall_mem_singleton]
    exact n.printable_toJson
  | noData => exact .text 5 _

theorem Batch.printable_toJson (batch : Batch) : Printable 6 (Batch.toJson batch) :=
  printable_list Value.printable_toJson batch

theorem Vars.printable_entries (entries : List (String × Batch)) :
    Printable Document.depthLimit (.object (entries.map fun e => (e.1, Batch.toJson e.2))) :=
  (Json.printable_entries Batch.printable_toJson entries).mono (by decide)

/-! ## What is read back -/

theorem Labels.read_toJson (labels : Labels) : Labels.read labels.toJson.draft = .ok labels := by
  have hread : readDictionary readString labels.toJson.draft = .ok (labels.map id) :=
    readDictionary_perm (fun _ _ => rfl) (List.Perm.refl labels.entries)
  rw [Labels.read, hread]
  simp [Dictionary.map]

theorem Labels.readOption_toJson (labels : Labels) :
    readOption Labels.read labels.toJson.draft = .ok (some labels) :=
  readOption_draft (by simp [Labels.toJson]) labels.read_toJson

theorem Evidence.read_toJson (e : Evidence) : Evidence.read e.toJson.draft = .ok e.stored := by
  obtain ⟨value, metric, labels⟩ := e
  have hvalue (members : List (String × Json)) :
      fillMembers slots (drafts (member? "value" ofFloat value ++ members)) ⟨none, none, none⟩ =
        fillMembers slots (drafts members)
          ⟨value.map fun x => storedScalar (some x), none, none⟩ :=
    fillMembers_member? rfl rfl (fun o => Form.mk o none none) rfl
      (fun x => congrArg (Except.map _) (readOption_ofFloat (some x))) members
  have hmetric (v) (members : List (String × Json)) :
      fillMembers slots (drafts (member? "metric" .text metric ++ members)) ⟨v, none, none⟩ =
        fillMembers slots (drafts members) ⟨v, metric.map some, none⟩ :=
    fillMembers_member? rfl rfl (fun o => Form.mk v o none) rfl (fun _ => rfl) members
  have hlabels (v m) (members : List (String × Json)) :
      fillMembers slots (drafts (member? "labels" Labels.toJson labels ++ members)) ⟨v, m, none⟩ =
        fillMembers slots (drafts members) ⟨v, m, labels.map some⟩ :=
    fillMembers_member? rfl rfl (fun o => Form.mk v m o) rfl
      (fun labels => congrArg (Except.map _) labels.readOption_toJson) members
  rw [Evidence.read, toJson, readRecord_draft, ← List.append_nil (_ ++ _ ++ _), List.append_assoc,
    List.append_assoc, hvalue, hmetric, hlabels, stored, ← map_storedScalar_join value]
  cases metric <;> cases labels <;> rfl

theorem Point.read_toJson (p : Point) : Point.read p.toJson.draft = .ok p.stored := by
  obtain ⟨time, value⟩ := p
  have htime {text : String} (htext : readTime (Json.text text).draft = .ok time)
      (members : List (String × Json)) :
      fillMembers slots (drafts (("time", .text text) :: members)) ⟨none, none⟩ =
        fillMembers slots (drafts members) ⟨some time, none⟩ :=
    fillMembers_draft rfl rfl (congrArg (Except.map _) htext) members
  have hvalue (scalar : Option Float) (members : List (String × Json)) :
      fillMembers slots (drafts (("value", ofOption ofFloat scalar) :: members)) ⟨some time, none⟩ =
        fillMembers slots (drafts members) ⟨some time, some (storedScalar scalar)⟩ :=
    fillMembers_draft rfl rfl (congrArg (Except.map _) (readOption_ofFloat scalar)) members
  rw [Point.read, toJson, readRecord_draft, htime (readTime_text time), hvalue]
  exact congrArg (fun o => Except.ok (Point.mk time o)) (stored_value ⟨time, value⟩).symm

theorem Series.read_toJson (s : Series) : Series.read s.toJson.draft = .ok s.stored := by
  obtain ⟨name, labels, points⟩ := s
  have hname (members : List (String × Json)) :
      fillMembers slots (drafts (member? "name" .text name ++ members)) ⟨none, none, none⟩ =
        fillMembers slots (drafts members) ⟨name.map some, none, none⟩ :=
    fillMembers_member? rfl rfl (fun o => Form.mk o none none) rfl (fun _ => rfl) members
  have hlabels (n) (members : List (String × Json)) :
      fillMembers slots (drafts (member? "labels" Labels.toJson labels ++ members))
          ⟨n, none, none⟩ =
        fillMembers slots (drafts members) ⟨n, labels.map some, none⟩ :=
    fillMembers_member? rfl rfl (fun o => Form.mk n o none) rfl
      (fun labels => congrArg (Except.map _) labels.readOption_toJson) members
  have hpoints (n l) (members : List (String × Json)) :
      fillMembers slots (drafts (("points", .list (points.map Point.toJson)) :: members))
          ⟨n, l, none⟩ =
        fillMembers slots (drafts members) ⟨n, l, some (points.map Point.stored)⟩ :=
    fillMembers_draft rfl rfl
      (congrArg (Except.map _) (readList_map fun p _ => p.read_toJson)) members
  rw [Series.read, toJson, readRecord_draft, List.append_assoc, hname, hlabels, hpoints]
  cases name <;> cases labels <;> rfl

theorem Number.read_toJson (n : Number) : Number.read n.toJson.draft = .ok n.stored := by
  obtain ⟨name, labels, value, evidence⟩ := n
  have hname (members : List (String × Json)) :
      fillMembers slots (drafts (member? "name" .text name ++ members)) ⟨none, none, none, none⟩ =
        fillMembers slots (drafts members) ⟨name.map some, none, none, none⟩ :=
    fillMembers_member? rfl rfl (fun o => Form.mk o none none none) rfl (fun _ => rfl) members
  have hlabels (n) (members : List (String × Json)) :
      fillMembers slots (drafts (member? "labels" Labels.toJson labels ++ members))
          ⟨n, none, none, none⟩ =
        fillMembers slots (drafts members) ⟨n, labels.map some, none, none⟩ :=
    fillMembers_member? rfl rfl (fun o => Form.mk n o none none) rfl
      (fun labels => congrArg (Except.map _) labels.readOption_toJson) members
  have hvalue (n l) (members : List (String × Json)) :
      fillMembers slots (drafts (("value", ofOption ofFloat value) :: members)) ⟨n, l, none, none⟩ =
        fillMembers slots (drafts members) ⟨n, l, some (storedScalar value), none⟩ :=
    fillMembers_draft rfl rfl (congrArg (Except.map _) (readOption_ofFloat value)) members
  have hevidence (n l v) (members : List (String × Json)) :
      fillMembers slots
          (drafts (member? "meta" (fun es => .list (es.map Evidence.toJson)) evidence ++ members))
          ⟨n, l, v, none⟩ =
        fillMembers slots (drafts members)
          ⟨n, l, v, evidence.map fun es => some (es.map Evidence.stored)⟩ :=
    fillMembers_member? rfl rfl (fun o => Form.mk n l v o) rfl
      (fun es => congrArg (Except.map _)
        (readOption_draft (by simp) (readList_map fun e _ => e.read_toJson))) members
  rw [Number.read, toJson, readRecord_draft, ← List.append_nil (_ ++ _ ++ _ ++ _),
    List.append_assoc, List.append_assoc, List.append_assoc, hname, hlabels, List.singleton_append,
    hvalue, hevidence]
  cases name <;> cases labels <;> cases evidence <;> rfl

theorem Value.read_toJson (v : Value) : Value.read v.toJson.draft = .ok v.stored := by
  cases v with
  | series s =>
    have hread : Value.read (Value.series s).toJson.draft =
        (Series.read s.toJson.draft).map .series >>= fun v => pure v := rfl
    rw [hread, s.read_toJson]
    rfl
  | number n =>
    have hread : Value.read (Value.number n).toJson.draft =
        (Number.read n.toJson.draft).map .number >>= fun v => pure v := rfl
    rw [hread, n.read_toJson]
    rfl
  | noData => rfl

theorem Batch.read_toJson (batch : Batch) :
    Batch.read (Batch.toJson batch).draft = .ok (Batch.stored batch) :=
  readList_map fun v _ => v.read_toJson

/-- A batch that has been reported as a document reads back as it is kept there. -/
theorem Batch.readText_document (batch : Batch) :
    readText Batch.read (Report.document batch) = .ok (Batch.stored batch) := by
  have hprintable : Printable Document.depthLimit (Batch.toJson batch) :=
    (Batch.printable_toJson batch).mono (by decide)
  rw [Report.document, readText_eq _ hprintable (.inr rfl), Batch.read_toJson]

namespace Vars

/-- The text is a document of the vars, compact or pretty, with the batches in any order. -/
def WrittenAs (vars : Vars) (text : String) : Prop :=
  ∃ entries : List (String × Batch), entries.Perm vars.entries ∧
    (text = (Json.object (entries.map fun e => (e.1, Batch.toJson e.2))).compact ∨
      text = (Json.object (entries.map fun e => (e.1, Batch.toJson e.2))).pretty)

/-- The one text that lists the batches by their reference IDs. -/
theorem writtenAs_toJson (vars : Vars) : vars.WrittenAs vars.toJson.compact :=
  ⟨vars.entries, .refl _, .inl rfl⟩

theorem ofText_of_writtenAs {vars : Vars} {text : String} (h : vars.WrittenAs text) :
    ofText text = .ok vars.stored := by
  obtain ⟨entries, hentries, htext⟩ := h
  rw [ofText, readText_eq _ (printable_entries entries) htext]
  exact readDictionary_perm (fun e _ => Batch.read_toJson e.2) hentries

end Vars
end Alerting
