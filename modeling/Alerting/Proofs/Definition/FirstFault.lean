import Alerting.Proofs.Definition.Grammar

/-!
# The first fault of a definition

The conditions of a definition do not disturb each other: each is read as if it stood alone, and
the definition is refused for the first one that would be refused alone. Of the faults of one
condition the first is reported, in the order in which they are listed here.
-/
namespace Alerting.Definition
open Json Fallible

def Fault.atIndex (index : Nat) : Fault → Fault
  | malformed _ reason => malformed index reason
  | unsupportedReducer _ tag => unsupportedReducer index tag
  | unsupportedEvaluator _ tag => unsupportedEvaluator index tag
  | json fault => json fault
  | yaml => yaml

@[simp] theorem Fault.atIndex_malformed (index index' : Nat) (reason : Malformation) :
    (malformed index' reason).atIndex index = malformed index reason := rfl

@[simp] theorem Fault.atIndex_unsupportedReducer (index index' : Nat) (tag : String) :
    (unsupportedReducer index' tag).atIndex index = unsupportedReducer index tag := rfl

@[simp] theorem Fault.atIndex_ofEvaluator (index index' : Nat) (fault : Evaluator.Fault) :
    (ofEvaluator index' fault).atIndex index = ofEvaluator index fault := by
  cases fault <;> rfl

@[simp] theorem Fault.index?_ofEvaluator (index : Nat) (fault : Evaluator.Fault) :
    (ofEvaluator index fault).index? = some index := by
  cases fault <;> rfl

def evaluatorFaults (tag : String) (params : List Float) : List Evaluator.Fault :=
  if tag ∈ Tagged.tags Comparison then
    if 1 ≤ params.length then [] else [.tooFewParams tag 1]
  else if tag ∈ Tagged.tags RangeSide then
    if 2 ≤ params.length then [] else [.tooFewParams tag 2]
  else [.unknownTag tag]

/-- The faults of the condition at `index`, if its shape is sound. Each is listed when it applies,
whatever the others. -/
def ConditionPart.faults (index : Nat) (p : ConditionPart) : List Fault :=
  (if p.query.params.head?.getD "" = "" then [.malformed index .noInput] else []) ++
  (if p.reducer.type ∈ Tagged.tags Reducer then []
    else [.unsupportedReducer index p.reducer.type]) ++
  (match p.operator.bind OperatorPart.type with
    | some tag =>
      if tag ∈ Tagged.tags Operator then [] else [.malformed index (.unknownOperator tag)]
    | none => []) ++
  (evaluatorFaults p.evaluator.type p.evaluator.params).map (Fault.ofEvaluator index)

/-- The faults of the stored condition at `index`. One of the wrong shape is not looked at any
further. -/
def faults (index : Nat) (raw : Json) : List Fault :=
  match ConditionPart.read raw with
  | .error fault => [.malformed index (.shape fault)]
  | .ok p => p.faults index

/-! ## One condition -/

theorem ofParams_eq_error {tag : String} {params : List Float} {fault : Evaluator.Fault} :
    Evaluator.ofParams tag params = .error fault ↔
      (evaluatorFaults tag params).head? = some fault := by
  rw [Evaluator.ofParams, evaluatorFaults]
  cases hc : (Tagged.ofTag? tag : Option Comparison) with
  | some comparison =>
    rw [if_pos (Tagged.exists_ofTag?.mp ⟨comparison, hc⟩)]
    cases params <;> simp
  | none =>
    rw [if_neg (Tagged.ofTag?_eq_none.mp hc)]
    cases hs : (Tagged.ofTag? tag : Option RangeSide) with
    | some side =>
      rw [if_pos (Tagged.exists_ofTag?.mp ⟨side, hs⟩)]
      rcases params with _ | ⟨lower, _ | ⟨upper, rest⟩⟩ <;> simp
    | none =>
      rw [if_neg (Tagged.ofTag?_eq_none.mp hs)]
      simp

/-- The parts of a condition are looked at in the order of the lists of faults. -/
theorem ConditionPart.condition_eq_error {index : Nat} {p : ConditionPart} {fault : Fault} :
    p.condition index = .error fault ↔ (p.faults index).head? = some fault := by
  have hinput : p.query.params.head?.filter (!·.isEmpty) = none ↔
      p.query.params.head?.getD "" = "" := by
    cases p.query.params.head? <;> simp
  have hevaluator : (Evaluator.ofParams p.evaluator.type p.evaluator.params).mapError
        (Fault.ofEvaluator index) = .error fault ↔
      ((evaluatorFaults p.evaluator.type p.evaluator.params).map
        (Fault.ofEvaluator index)).head? = some fault := by
    simp only [mapError_eq_error, ofParams_eq_error, List.head?_map, Option.map_eq_some_iff]
  rw [condition, faults]
  cases hid : p.query.params.head?.filter (!·.isEmpty) with
  | none => simp [hinput.mp hid]
  | some id =>
    have hnamed : p.query.params.head?.getD "" ≠ "" := by simp [← hinput, hid]
    rw [if_neg hnamed]
    cases hr : (Tagged.ofTag? p.reducer.type : Option Reducer) with
    | none => simp [Tagged.ofTag?_eq_none.mp hr]
    | some r =>
      rw [if_pos (Tagged.exists_ofTag?.mp ⟨r, hr⟩)]
      cases p.operator.bind OperatorPart.type with
      | none => simpa [bind_eq_error] using hevaluator
      | some tag =>
        cases ho : (Tagged.ofTag? tag : Option Operator) with
        | none => simp [ho, Tagged.ofTag?_eq_none.mp ho]
        | some o =>
          have hknown := Tagged.exists_ofTag?.mp ⟨o, ho⟩
          simpa [ho, hknown, bind_eq_error] using hevaluator

theorem parseCondition_eq_error {index : Nat} {raw : Json} {fault : Fault} :
    parseCondition index raw = .error fault ↔ (faults index raw).head? = some fault := by
  rw [parseCondition, faults]
  cases ConditionPart.read raw with
  | error shape => simp
  | ok p => exact p.condition_eq_error

theorem faults_eq_map (index : Nat) (raw : Json) :
    faults index raw = (faults 0 raw).map (Fault.atIndex index) := by
  rw [faults, faults]
  cases ConditionPart.read raw with
  | error shape => rfl
  | ok p =>
    simp only [ConditionPart.faults]
    cases p.operator.bind OperatorPart.type <;>
      simp [apply_ite (List.map (Fault.atIndex index))]

theorem index?_of_mem_faults {index : Nat} {raw : Json} {fault : Fault}
    (h : fault ∈ faults index raw) : fault.index? = some index := by
  rw [faults] at h
  cases hp : ConditionPart.read raw with
  | error shape =>
    rw [hp, List.mem_singleton] at h
    rw [h]
    rfl
  | ok p =>
    simp only [hp, ConditionPart.faults, List.mem_append] at h
    obtain ((hinput | hreducer) | hoperator) | hevaluator := h
    · simp only [List.mem_ite_nil_right, List.mem_singleton] at hinput
      rw [hinput.2]
      rfl
    · simp only [List.mem_ite_nil_left, List.mem_singleton] at hreducer
      rw [hreducer.2]
      rfl
    · cases ho : p.operator.bind OperatorPart.type with
      | none => simp [ho] at hoperator
      | some tag =>
        simp only [ho, List.mem_ite_nil_left, List.mem_singleton] at hoperator
        rw [hoperator.2]
        rfl
    · obtain ⟨f, -, rfl⟩ := List.mem_map.mp hevaluator
      exact Fault.index?_ofEvaluator index f

/-- Where a condition stands makes a difference only to the place that its refusal names. -/
theorem parseCondition_eq_mapError (index : Nat) (raw : Json) :
    parseCondition index raw = (parseCondition 0 raw).mapError (Fault.atIndex index) := by
  cases h : parseCondition 0 raw with
  | ok c => exact parseCondition_eq_ok.mpr (parseCondition_eq_ok.mp h)
  | error fault =>
    rw [mapError_error, parseCondition_eq_error, faults_eq_map, List.head?_map,
      parseCondition_eq_error.mp h, Option.map_some]

/-! ## Lists of conditions -/

theorem parseConditions_eq_ok_alone {index : Nat} {raws : List Json} {cs : List Condition} :
    parseConditions index raws = .ok cs ↔
      List.Forall₂ (fun raw c => parseCondition 0 raw = .ok c) raws cs := by
  simp only [parseCondition_eq_ok, parseConditions_eq_ok]

/-- The conditions before the first one that is refused are accepted, and those after it play no
part. -/
theorem parseConditions_eq_error {index : Nat} {raws : List Json} {fault : Fault} :
    parseConditions index raws = .error fault ↔ ∃ before raw after alone,
      raws = before ++ raw :: after ∧ (∀ b ∈ before, ∃ c, parseCondition 0 b = .ok c) ∧
      parseCondition 0 raw = .error alone ∧ fault = alone.atIndex (index + before.length) := by
  have hfirst {before after : List Json} {raw : Json} {alone : Fault}
      (hbefore : ∀ b ∈ before, ∃ c, parseCondition 0 b = .ok c)
      (hraw : parseCondition 0 raw = .error alone) :
      parseConditions index (before ++ raw :: after) =
        .error (alone.atIndex (index + before.length)) := by
    refine parseConditions_error (fun b hb => ?_) ?_
    · obtain ⟨c, hc⟩ := hbefore b hb
      obtain ⟨p, hp, hgives⟩ := parseCondition_eq_ok.mp hc
      exact ⟨p, hp, c, hgives⟩
    · rw [parseCondition_eq_mapError, hraw, mapError_error]
  constructor
  · intro h
    have hrefused : ∃ raw ∈ raws, ¬∃ c, parseCondition 0 raw = .ok c := by
      by_contra hall
      push Not at hall
      obtain ⟨cs, hcs⟩ := exists_forall₂.mpr hall
      cases h.symm.trans (parseConditions_eq_ok_alone.mpr hcs)
    obtain ⟨before, raw, after, rfl, hbefore, hraw⟩ := exists_first hrefused
    cases halone : parseCondition 0 raw with
    | ok c => exact absurd ⟨c, halone⟩ hraw
    | error alone =>
      simp only [not_not] at hbefore
      exact ⟨before, raw, after, alone, rfl, hbefore, halone,
        Except.error.inj (h.symm.trans (hfirst hbefore halone))⟩
  · rintro ⟨before, raw, after, alone, rfl, hbefore, hraw, rfl⟩
    exact hfirst hbefore hraw

theorem ofJson_outline (raws : List Json) (refId : String) :
    ofJson (Outline.toJson ⟨raws⟩) refId = (parseConditions 0 raws).map (Command.mk refId) := by
  have hread : Outline.read (Outline.toJson ⟨raws⟩) = .ok ⟨raws⟩ := by
    rw [Outline.read_eq_ok]
    exact ⟨by simp [IsRecord, valuesOf, Outline.toJson], _, rfl, readList_ok_eq_ok.mpr rfl⟩
  rw [ofJson, hread, mapError_ok, ok_bind]
  cases parseConditions 0 raws <;> rfl

theorem ofJson_alone (raw : Json) (refId : String) :
    ofJson (Outline.toJson ⟨[raw]⟩) refId =
      (parseCondition 0 raw).map fun c => ⟨refId, [c]⟩ := by
  rw [ofJson_outline, parseConditions]
  cases parseCondition 0 raw <;> rfl

/-- A definition is accepted when each of its conditions is accepted alone, with the same
conditions. Otherwise it is refused as the first condition that is refused alone, at its place, and
that is for the first of the faults of the condition. -/
theorem ofJson_first_fault (raws : List Json) (refId : String) :
    ((∃ cmd, ofJson (Outline.toJson ⟨raws⟩) refId = .ok cmd) ↔
      ∀ raw ∈ raws, ∃ cmd, ofJson (Outline.toJson ⟨[raw]⟩) refId = .ok cmd) ∧
    (∀ cmd, ofJson (Outline.toJson ⟨raws⟩) refId = .ok cmd ↔ cmd.refId = refId ∧
      List.Forall₂ (fun raw c => ofJson (Outline.toJson ⟨[raw]⟩) refId = .ok ⟨refId, [c]⟩)
        raws cmd.conditions) ∧
    (∀ fault, ofJson (Outline.toJson ⟨raws⟩) refId = .error fault ↔
      ∃ before raw after alone, raws = before ++ raw :: after ∧
        (∀ b ∈ before, ∃ cmd, ofJson (Outline.toJson ⟨[b]⟩) refId = .ok cmd) ∧
        ofJson (Outline.toJson ⟨[raw]⟩) refId = .error alone ∧ alone.index? = some 0 ∧
        fault = alone.atIndex before.length) ∧
    ∀ raw fault, ofJson (Outline.toJson ⟨[raw]⟩) refId = .error fault ↔
      (faults 0 raw).head? = some fault := by
  have haccepted (raw : Json) : (∃ cmd, ofJson (Outline.toJson ⟨[raw]⟩) refId = .ok cmd) ↔
      ∃ c, parseCondition 0 raw = .ok c := by
    simp only [ofJson_alone, map_eq_ok]
    exact ⟨fun ⟨_, c, hc, _⟩ => ⟨c, hc⟩, fun ⟨c, hc⟩ => ⟨_, c, hc, rfl⟩⟩
  have hrefused (raw : Json) (fault : Fault) :
      ofJson (Outline.toJson ⟨[raw]⟩) refId = .error fault ↔
        parseCondition 0 raw = .error fault := by
    rw [ofJson_alone, map_eq_error]
  have hcommand (cmd : Command) : ofJson (Outline.toJson ⟨raws⟩) refId = .ok cmd ↔
      cmd.refId = refId ∧ parseConditions 0 raws = .ok cmd.conditions := by
    rw [ofJson_outline, map_eq_ok]
    constructor
    · rintro ⟨cs, hcs, rfl⟩
      exact ⟨rfl, hcs⟩
    · rintro ⟨rfl, hcs⟩
      exact ⟨_, hcs, rfl⟩
  refine ⟨?_, fun cmd => ?_, fun fault => ?_, fun raw fault => ?_⟩
  · simp only [haccepted, hcommand, parseConditions_eq_ok_alone, ← exists_forall₂]
    exact ⟨fun ⟨cmd, _, hcs⟩ => ⟨_, hcs⟩, fun ⟨cs, hcs⟩ => ⟨⟨refId, cs⟩, rfl, hcs⟩⟩
  · rw [hcommand, parseConditions_eq_ok_alone]
    simp [ofJson_alone, map_eq_ok]
  · rw [ofJson_outline, map_eq_error, parseConditions_eq_error]
    simp only [haccepted, hrefused, Nat.zero_add]
    constructor
    · rintro ⟨before, raw, after, alone, hraws, hbefore, hraw, hfault⟩
      have hplace := index?_of_mem_faults (List.mem_of_head? (parseCondition_eq_error.mp hraw))
      exact ⟨before, raw, after, alone, hraws, hbefore, hraw, hplace, hfault⟩
    · rintro ⟨before, raw, after, alone, hraws, hbefore, hraw, -, hfault⟩
      exact ⟨before, raw, after, alone, hraws, hbefore, hraw, hfault⟩
  · rw [hrefused, parseCondition_eq_error]

end Alerting.Definition
