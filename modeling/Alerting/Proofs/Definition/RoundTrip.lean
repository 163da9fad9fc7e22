import Alerting.Proofs.Definition.Parse
import Alerting.Proofs.Definition.Parts
import Alerting.Proofs.Json.Compact

/-!
# Stored commands read back

A command that is stored and read again is the same command, unless one of its
conditions has no input or a parameter that is not finite. The first such
condition is then refused.
-/
namespace Alerting

/-- Whether a condition tests against something that is not a finite number. -/
def Condition.HasNonFinite (c : Condition) : Prop := ∃ x ∈ c.evaluator.params, x.isFinite = false

def Condition.Bad (c : Condition) : Prop := c.input = "" ∨ c.HasNonFinite

namespace Definition
open Json Fallible

/-! ## The parts of a stored condition -/

def partsOf (c : Condition) : ConditionPart :=
  ⟨⟨c.evaluator.tag, c.evaluator.params⟩, some ⟨some c.operator.tag⟩, ⟨[c.input]⟩,
    ⟨c.reducer.tag, []⟩, some "query"⟩

theorem ofTag?_reducer (r : Reducer) : Tagged.ofTag? r.tag = some r := by
  cases r <;> rfl

theorem ofTag?_operator (o : Operator) : Tagged.ofTag? o.tag = some o := by
  cases o <;> rfl

theorem ofParams_tag (e : Evaluator) : Evaluator.ofParams e.tag e.params = .ok e := by
  cases e with
  | threshold comparison limit => cases comparison <;> rfl
  | range side lower upper => cases side <;> rfl

theorem gives_partsOf {c : Condition} (h : c.input ≠ "") : (partsOf c).Gives c where
  input := rfl
  named := h
  reducer := ofTag?_reducer c.reducer
  operator := ofTag?_operator c.operator
  evaluator := ofParams_tag c.evaluator

theorem readList_ofFloat {params : List Float} (h : ∀ x ∈ params, x.isFinite = true) :
    readList readFloat (Json.list (params.map Json.ofFloat)) = .ok params := by
  rw [readList_readFloat_eq_ok]
  refine ⟨params.map .real, ?_, ?_⟩
  · rw [List.map_map]
    apply congrArg Json.list
    apply List.map_congr_left
    intro x hx
    rw [Json.ofFloat, if_pos (h x hx)]
    rfl
  · rw [List.map_map]
    exact List.map_id params

/-- A list with a double that is not finite is refused for its null. -/
theorem readList_ofFloat_error {params : List Float} (h : ∃ x ∈ params, x.isFinite = false) :
    readList readFloat (Json.list (params.map Json.ofFloat)) = .error (.wrongType .null "f64") := by
  have hitems : (params.map Json.ofFloat).mapM readFloat = .error (.wrongType .null "f64") := by
    induction params with
    | nil => simp at h
    | cons x params ih =>
      rw [List.map_cons, mapM_cons]
      cases hx : x.isFinite with
      | false =>
        rw [Json.ofFloat, hx]
        rfl
      | true =>
        have hrest : ∃ y ∈ params, y.isFinite = false := by simpa [hx] using h
        rw [Json.ofFloat, hx, ih hrest]
        rfl
  change (params.map Json.ofFloat).mapM readFloat >>= _ = _
  rw [hitems, error_bind]

def evaluatorJson (e : Evaluator) : Json :=
  .object [("params", .list (e.params.map Json.ofFloat)), ("type", .text e.tag)]

theorem read_evaluatorJson {e : Evaluator} (h : ∀ x ∈ e.params, x.isFinite = true) :
    EvaluatorPart.read (evaluatorJson e) = .ok ⟨e.tag, e.params⟩ := by
  rw [EvaluatorPart.read_eq_ok]
  exact ⟨by simp [IsRecord, valuesOf, evaluatorJson], ⟨_, rfl, rfl⟩,
    .inr ⟨_, rfl, readList_ofFloat h⟩⟩

theorem read_evaluatorJson_error {e : Evaluator} (h : ∃ x ∈ e.params, x.isFinite = false) :
    EvaluatorPart.read (evaluatorJson e) = .error (.wrongType .null "f64") := by
  have hfind : (@EvaluatorPart.slots Json _).find? (fun slot => slot.name = "params") =
      EvaluatorPart.slots[1]? := rfl
  rw [evaluatorJson, EvaluatorPart.read, readRecord_object, keyed_cons, fillMembers_of_known hfind]
  change ((readList readFloat _).map _ >>= _) >>= _ = _
  rw [readList_ofFloat_error h]
  rfl

theorem read_conditionJson {c : Condition} (h : ¬c.HasNonFinite) :
    ConditionPart.read (conditionJson c) = .ok (partsOf c) := by
  have hparams : ∀ x ∈ c.evaluator.params, x.isFinite = true := by
    intro x hx
    by_contra hfinite
    exact h ⟨x, hx, by simpa using hfinite⟩
  rw [ConditionPart.read_eq_ok]
  refine ⟨by simp [IsRecord, valuesOf, conditionJson, ConditionPart.names],
    ⟨_, rfl, read_evaluatorJson hparams⟩, .inr ⟨_, rfl, ?_⟩, ⟨_, rfl, ?_⟩, ⟨_, rfl, ?_⟩,
    .inr ⟨_, rfl, rfl⟩⟩
  · rw [readOption_eq_ok]
    refine .inr ⟨by simp, _, ?_, rfl⟩
    rw [OperatorPart.read_eq_ok]
    exact ⟨by simp [IsRecord, valuesOf], .inr ⟨_, rfl, rfl⟩⟩
  · rw [QueryPart.read_eq_ok]
    exact ⟨by simp [IsRecord, valuesOf], .inr ⟨_, rfl, rfl⟩⟩
  · rw [ReducerPart.read_eq_ok]
    exact ⟨by simp [IsRecord, valuesOf], ⟨_, rfl, rfl⟩, .inr ⟨_, rfl, rfl⟩⟩

/-- The members are read in their order, so the evaluator comes before all other parts. -/
theorem read_conditionJson_error {c : Condition} (h : c.HasNonFinite) :
    ConditionPart.read (conditionJson c) = .error (.wrongType .null "f64") := by
  have hfind : (@ConditionPart.slots Json _).find? (fun slot => slot.name = "evaluator") =
      ConditionPart.slots.head? := rfl
  rw [conditionJson, ConditionPart.read, readRecord_object, keyed_cons, fillMembers_of_known hfind]
  change ((EvaluatorPart.read (evaluatorJson c.evaluator)).map _ >>= _) >>= _ = _
  rw [read_evaluatorJson_error h]
  rfl

/-! ## Stored conditions -/

theorem parseCondition_conditionJson {index : Nat} {c : Condition} (hfinite : ¬c.HasNonFinite) :
    parseCondition index (conditionJson c) = (partsOf c).condition index := by
  rw [parseCondition, read_conditionJson hfinite]
  rfl

/-- A condition without input is refused for that when its parameters are finite. -/
theorem parseCondition_unnamed {index : Nat} {c : Condition} (hinput : c.input = "")
    (hfinite : ¬c.HasNonFinite) :
    parseCondition index (conditionJson c) = .error (.malformed index .noInput) := by
  have hhead : ((partsOf c).query.params.head?).filter (!·.isEmpty) = none := by
    simp [partsOf, hinput]
  rw [parseCondition_conditionJson hfinite, ConditionPart.condition, hhead]
  rfl

theorem parseCondition_nonFinite {index : Nat} {c : Condition} (h : c.HasNonFinite) :
    parseCondition index (conditionJson c) =
      .error (.malformed index (.shape (.wrongType .null "f64"))) := by
  rw [parseCondition, read_conditionJson_error h, mapError_error, error_bind]

theorem read_toJson (cmd : Command) :
    Outline.read (toJson cmd) = .ok ⟨cmd.conditions.map conditionJson⟩ := by
  rw [Outline.read_eq_ok]
  exact ⟨by simp [IsRecord, valuesOf, toJson], _, rfl, readList_ok_eq_ok.mpr rfl⟩

/-- The parts of a stored condition that is not bad. -/
theorem exists_read_conditionJson {c : Condition} (h : ¬c.Bad) :
    ∃ p, ConditionPart.read (conditionJson c) = .ok p ∧ p.Gives c :=
  ⟨partsOf c, read_conditionJson fun hc => h (.inr hc), gives_partsOf fun hc => h (.inl hc)⟩

theorem ofJson_of_good {cmd : Command} (h : ∀ c ∈ cmd.conditions, ¬c.Bad) (refId : String) :
    ofJson (toJson cmd) refId = .ok ⟨refId, cmd.conditions⟩ := by
  rw [ofJson_eq_ok]
  refine ⟨rfl, _, read_toJson cmd, ?_⟩
  rw [List.forall₂_map_left_iff, List.forall₂_same]
  exact fun c hc => exists_read_conditionJson (h c hc)

/-- The first bad condition of a command decides how its stored form is refused. -/
theorem ofJson_of_bad {cmd : Command} {before after : List Condition} {c : Condition}
    (hcmd : cmd.conditions = before ++ c :: after) (hbefore : ∀ b ∈ before, ¬b.Bad)
    (refId : String) {fault : Fault}
    (hc : parseCondition before.length (conditionJson c) = .error fault) :
    ofJson (toJson cmd) refId = .error fault := by
  have hconditions : parseConditions 0 (cmd.conditions.map conditionJson) = .error fault := by
    rw [hcmd, List.map_append, List.map_cons]
    refine parseConditions_error (List.forall_mem_map.mpr fun b hb => ?_) ?_
    · obtain ⟨p, hp, hgives⟩ := exists_read_conditionJson (hbefore b hb)
      exact ⟨p, hp, b, hgives⟩
    · rwa [List.length_map, Nat.zero_add]
  rw [ofJson, read_toJson, mapError_ok, ok_bind, hconditions, error_bind]

/-! ## The text of a stored command -/

theorem sound_ofFloat (depth : Nat) (x : Float) : Sound depth (Json.ofFloat x) := by
  rw [Json.ofFloat]
  split
  · rename_i hx
    exact .number depth hx
  · exact .null depth

theorem sound_conditionJson (depth : Nat) (c : Condition) :
    Sound (depth + 3) (conditionJson c) := by
  have hparams : Sound (depth + 1) (Json.list (c.evaluator.params.map Json.ofFloat)) :=
    .list (List.forall_mem_map.mpr fun x _ => sound_ofFloat depth x)
  refine .object_of_keys ConditionPart.names (by decide) rfl ?_
  simp only [List.forall_mem_cons, List.not_mem_nil, false_imp_iff, implies_true, and_true]
  refine ⟨.object_of_keys ["params", "type"] (by decide) rfl ?_,
    .object_of_keys ["type"] (by decide) rfl ?_, .object_of_keys ["params"] (by decide) rfl ?_,
    .object_of_keys ["params", "type"] (by decide) rfl ?_, .text _ _⟩
  · simpa using ⟨hparams, .text _ _⟩
  · simpa using .text _ _
  · simpa using .list (by simpa using .text _ _)
  · simpa using ⟨.list (by simp), .text _ _⟩

theorem sound_toJson (depth : Nat) (cmd : Command) : Sound (depth + 5) (toJson cmd) := by
  have hconditions : Sound (depth + 4) (Json.list (cmd.conditions.map conditionJson)) :=
    .list (List.forall_mem_map.mpr fun c _ => sound_conditionJson depth c)
  exact .object_of_keys ["conditions"] (by decide) rfl (by simpa using hconditions)

/-- The text of a stored command is read as its stored form. -/
theorem ofText_toJson (cmd : Command) (refId : String) :
    ofText (toJson cmd).compact refId = ofJson (toJson cmd) refId := by
  rw [ofText, ofText_compact (sound_toJson 122 cmd)]
  rfl

/-! ## Accepted commands -/

/-- The fields of a value that a document may hold are such values. -/
theorem sound_field {depth : Nat} {raw v : Json} {names : List String} {name : String}
    (hraw : Sound depth raw) (hv : field? names raw name = some v) : ∃ depth, Sound depth v := by
  cases hraw with
  | null | bool | number | text => cases hv
  | @list depth items h =>
    obtain ⟨before, after, hzip, -⟩ := List.lookup_eq_some_iff.mp hv
    have hmem : (name, v) ∈ names.zip items := by
      rw [hzip]
      simp
    exact ⟨depth, h v (List.of_mem_zip hmem).2⟩
  | @object depth members hkeys h =>
    obtain ⟨m, hm, rfl⟩ := List.mem_map.mp (List.mem_of_head? hv)
    exact ⟨depth, h m (List.mem_of_mem_filter hm)⟩

theorem isFinite_of_read {depth : Nat} {raw : Json} (hraw : Sound depth raw) {p : EvaluatorPart}
    (hp : EvaluatorPart.read raw = .ok p) : ∀ x ∈ p.params, x.isFinite = true := by
  obtain ⟨-, -, ⟨-, hparams⟩ | ⟨v, hv, hparams⟩⟩ := (EvaluatorPart.read_eq_ok raw p).mp hp
  · simp [hparams]
  · obtain ⟨depth, hsound⟩ := sound_field hraw hv
    obtain ⟨numbers, rfl, hnumbers⟩ := readList_readFloat_eq_ok.mp hparams
    rw [← hnumbers, List.forall_mem_map]
    intro n hn
    cases hsound with
    | list h =>
      cases h (.number n) (List.mem_map_of_mem hn) with
      | number _ hvalid => exact hvalid.isFinite_toFloat

/-- An evaluator takes its parameters from those it is given. -/
theorem params_subset {tag : String} {params : List Float} {e : Evaluator}
    (h : Evaluator.ofParams tag params = .ok e) : e.params ⊆ params := by
  rw [Evaluator.ofParams] at h
  split at h
  · split at h
    · cases h
      simp [Evaluator.params]
    · cases h
  · split at h
    · cases h
      simp [Evaluator.params]
    · cases h
  · cases h

theorem not_bad_of_gives {depth : Nat} {raw : Json} (hraw : Sound depth raw) {p : ConditionPart}
    (hp : ConditionPart.read raw = .ok p) {c : Condition} (hc : p.Gives c) : ¬c.Bad := by
  rintro (hinput | ⟨x, hx, hfinite⟩)
  · exact hc.named hinput
  · obtain ⟨-, ⟨v, hv, hevaluator⟩, -⟩ := (ConditionPart.read_eq_ok raw p).mp hp
    obtain ⟨depth, hsound⟩ := sound_field hraw hv
    have hgiven := isFinite_of_read hsound hevaluator x (params_subset hc.evaluator hx)
    rw [hfinite] at hgiven
    cases hgiven

theorem not_bad_of_ofJson {depth : Nat} {raw : Json} (hraw : Sound depth raw) {refId : String}
    {cmd : Command} (hcmd : ofJson raw refId = .ok cmd) : ∀ c ∈ cmd.conditions, ¬c.Bad := by
  obtain ⟨-, d, hd, hconditions⟩ := ofJson_eq_ok.mp hcmd
  obtain ⟨-, v, hv, hitems⟩ := (Outline.read_eq_ok raw d).mp hd
  obtain ⟨depth, hsound⟩ := sound_field hraw hv
  rw [readList_ok_eq_ok] at hitems
  subst hitems
  intro c hc
  obtain ⟨⟨i, hi⟩, rfl⟩ := List.get_of_mem hc
  have hlength : i < d.conditions.length := hconditions.length_eq ▸ hi
  obtain ⟨p, hp, hgives⟩ := hconditions.get hlength hi
  cases hsound with
  | list h => exact not_bad_of_gives (h _ (List.get_mem _ _)) hp hgives

/-- A stored command is read back as the same command when none of its conditions is bad, and
otherwise it is refused for the first bad one. No command that was read has a bad condition. -/
theorem ofJson_toJson (cmd : Command) (refId : String) :
    ((∀ c ∈ cmd.conditions, ¬c.Bad) →
      ofJson (toJson cmd) refId = .ok ⟨refId, cmd.conditions⟩ ∧
      ofText (toJson cmd).compact refId = .ok ⟨refId, cmd.conditions⟩) ∧
    ((∃ c ∈ cmd.conditions, c.Bad) → ∃ before c after reason,
      cmd.conditions = before ++ c :: after ∧ (∀ b ∈ before, ¬b.Bad) ∧ c.Bad ∧
      ofJson (toJson cmd) refId = .error (.malformed before.length reason) ∧
      (c.HasNonFinite → reason.message = "invalid type: null, expected f64") ∧
      (¬c.HasNonFinite → reason.message = "query.params must name an input ref ID")) ∧
    ∀ depth raw, Sound depth raw → ofJson raw refId = .ok cmd →
      (∀ c ∈ cmd.conditions, ¬c.Bad) ∧ ofJson (toJson cmd) refId = .ok cmd ∧
      ofText (toJson cmd).compact refId = .ok cmd := by
  rw [ofText_toJson]
  refine ⟨fun hgood => ?_, fun hbad => ?_, fun depth raw hraw hcmd => ?_⟩
  · exact ⟨ofJson_of_good hgood refId, ofJson_of_good hgood refId⟩
  · obtain ⟨before, c, after, hcmd, hbefore, hc⟩ := exists_first hbad
    by_cases hfinite : c.HasNonFinite
    · have herror := ofJson_of_bad hcmd hbefore refId (parseCondition_nonFinite hfinite)
      exact ⟨before, c, after, _, hcmd, hbefore, hc, herror, fun _ => by decide,
        fun h => absurd hfinite h⟩
    · have hinput : c.input = "" := hc.resolve_right hfinite
      have herror := ofJson_of_bad hcmd hbefore refId (parseCondition_unnamed hinput hfinite)
      exact ⟨before, c, after, _, hcmd, hbefore, hc, herror, fun h => absurd h hfinite,
        fun _ => rfl⟩
  · have hgood := not_bad_of_ofJson hraw hcmd
    have hrefId : cmd.refId = refId := (ofJson_eq_ok.mp hcmd).1
    have hread := ofJson_of_good hgood refId
    rw [← hrefId] at hread ⊢
    exact ⟨hgood, hread, hread⟩

end Definition
end Alerting
