import Alerting.Json.Draft
import Alerting.Proofs.Dictionary
import Alerting.Proofs.Fallible

/-!
# Members in another order

A value lists the members of an object by their names. So members of different names may stand in
any order in a text, at every level of nesting.
-/
namespace Alerting.Json
open Fallible

/-- The second tree is the first one with members of objects exchanged, each time two neighbours of
different names. -/
inductive Draft.Reordered : Draft → Draft → Prop where
  | refl (d : Draft) : Reordered d d
  | trans {d e f : Draft} : Reordered d e → Reordered e f → Reordered d f
  | item {d e : Draft} (deep : Bool) (before after : List Draft) (ending : Ending) :
    Reordered d e →
    Reordered (.list deep (before ++ d :: after) ending) (.list deep (before ++ e :: after) ending)
  | member {d e : Draft} (deep : Bool) (before after : List (Draft × Draft)) (key : Draft)
    (ending : Ending) : Reordered d e →
    Reordered (.object deep (before ++ (key, d) :: after) ending)
      (.object deep (before ++ (key, e) :: after) ending)
  | swap {m m' : Draft × Draft} {name name' : String} (deep : Bool)
    (before after : List (Draft × Draft)) (ending : Ending) :
    m.1.key = .ok name → m'.1.key = .ok name' → name ≠ name' →
    Reordered (.object deep (before ++ m :: m' :: after) ending)
      (.object deep (before ++ m' :: m :: after) ending)

namespace Draft

theorem json_list_eq_ok {deep : Bool} {items : List Draft} {ending : Ending} {v : Json} :
    (list deep items ending).json = .ok v ↔ deep = false ∧ ending.closeList = .ok () ∧
      ∃ vs, jsonItems items = .ok vs ∧ v = .list vs := by
  cases deep with
  | true => simp [json]
  | false => cases ending <;> simp [json, bind_eq_ok, Ending.closeList, @eq_comm _ v]

theorem json_object_eq_ok {deep : Bool} {members : List (Draft × Draft)} {ending : Ending}
    {v : Json} : (object deep members ending).json = .ok v ↔
      deep = false ∧ ending.closeObject = .ok () ∧
        ∃ ms, jsonMembers members [] = .ok ms ∧ v = .object ms := by
  cases deep with
  | true => simp [json]
  | false => cases ending <;> simp [json, bind_eq_ok, Ending.closeObject, @eq_comm _ v]

theorem jsonItems_append (before after : List Draft) :
    jsonItems (before ++ after) = (do
      let vs ← jsonItems before
      let ws ← jsonItems after
      .ok (vs ++ ws)) := by
  induction before with
  | nil => cases h : jsonItems after <;> simp [jsonItems, h]
  | cons d before ih =>
    rw [List.cons_append, jsonItems, jsonItems, ih]
    cases d.json with
    | error fault => rfl
    | ok v =>
      cases jsonItems before with
      | error fault => rfl
      | ok vs => cases jsonItems after <;> rfl

theorem jsonMembers_append (before after : List (Draft × Draft)) (done : List (String × Json)) :
    jsonMembers (before ++ after) done = jsonMembers before done >>= jsonMembers after := by
  induction before generalizing done with
  | nil => rw [List.nil_append, jsonMembers, ok_bind]
  | cons m before ih =>
    obtain ⟨key, d⟩ := m
    rw [List.cons_append, jsonMembers, jsonMembers]
    cases key.key with
    | error fault => rfl
    | ok name =>
      cases d.json with
      | error fault => rfl
      | ok v => exact ih _

theorem jsonMembers_cons_eq_ok {key d : Draft} {rest : List (Draft × Draft)}
    {done ms : List (String × Json)} : jsonMembers ((key, d) :: rest) done = .ok ms ↔
      ∃ name, key.key = .ok name ∧ ∃ v, d.json = .ok v ∧
        jsonMembers rest (insertEntry name v done) = .ok ms := by
  rw [jsonMembers, bind_eq_ok]
  simp only [bind_eq_ok]

theorem ascending_jsonMembers {members : List (Draft × Draft)} {done ms : List (String × Json)}
    (h : jsonMembers members done = .ok ms) (hdone : Ascending done) : Ascending ms := by
  induction members generalizing done with
  | nil =>
    obtain rfl : done = ms := by simpa [jsonMembers] using h
    exact hdone
  | cons m members ih =>
    obtain ⟨key, d⟩ := m
    obtain ⟨name, -, v, -, h⟩ := jsonMembers_cons_eq_ok.mp h
    exact ih h (ascending_insertEntry name v hdone)

theorem insertEntry_comm {name name' : String} (h : name ≠ name') (v v' : Json)
    {done : List (String × Json)} (hdone : Ascending done) :
    insertEntry name' v' (insertEntry name v done) =
      insertEntry name v (insertEntry name' v' done) :=
  congrArg Dictionary.entries (Dictionary.insert_comm ⟨done, hdone⟩ h v v')

section
variable {deep : Bool} {ending : Ending} {v : Json}

theorem json_item_congr {d e : Draft} {before after : List Draft}
    (h : ∀ w, d.json = .ok w → e.json = .ok w)
    (hd : (Draft.list deep (before ++ d :: after) ending).json = .ok v) :
    (Draft.list deep (before ++ e :: after) ending).json = .ok v := by
  obtain ⟨hdeep, hending, vs, hvs, rfl⟩ := json_list_eq_ok.mp hd
  refine json_list_eq_ok.mpr ⟨hdeep, hending, vs, ?_, rfl⟩
  rw [jsonItems_append, bind_eq_ok] at hvs ⊢
  obtain ⟨us, hus, hvs⟩ := hvs
  refine ⟨us, hus, ?_⟩
  rw [jsonItems] at hvs ⊢
  cases hw : d.json with
  | error fault => simp [hw] at hvs
  | ok w =>
    rw [h w hw]
    rwa [hw] at hvs

variable {before after : List (Draft × Draft)}

theorem json_member_congr {d e key : Draft} (h : ∀ w, d.json = .ok w → e.json = .ok w)
    (hd : (Draft.object deep (before ++ (key, d) :: after) ending).json = .ok v) :
    (Draft.object deep (before ++ (key, e) :: after) ending).json = .ok v := by
  obtain ⟨hdeep, hending, ms, hms, rfl⟩ := json_object_eq_ok.mp hd
  refine json_object_eq_ok.mpr ⟨hdeep, hending, ms, ?_, rfl⟩
  rw [jsonMembers_append, bind_eq_ok] at hms ⊢
  obtain ⟨done, hdone, hms⟩ := hms
  obtain ⟨name, hname, w, hw, hms⟩ := jsonMembers_cons_eq_ok.mp hms
  exact ⟨done, hdone, jsonMembers_cons_eq_ok.mpr ⟨name, hname, w, h w hw, hms⟩⟩

theorem json_swap {m m' : Draft × Draft} {name name' : String} (hname : m.1.key = .ok name)
    (hname' : m'.1.key = .ok name') (hne : name ≠ name')
    (hd : (Draft.object deep (before ++ m :: m' :: after) ending).json = .ok v) :
    (Draft.object deep (before ++ m' :: m :: after) ending).json = .ok v := by
  obtain ⟨hdeep, hending, ms, hms, rfl⟩ := json_object_eq_ok.mp hd
  refine json_object_eq_ok.mpr ⟨hdeep, hending, ms, ?_, rfl⟩
  rw [jsonMembers_append, bind_eq_ok] at hms ⊢
  obtain ⟨done, hdone, hms⟩ := hms
  obtain ⟨_, hn, w, hw, hms⟩ := jsonMembers_cons_eq_ok.mp hms
  obtain rfl := Except.ok.inj (hname.symm.trans hn)
  obtain ⟨_, hn', w', hw', hms⟩ := jsonMembers_cons_eq_ok.mp hms
  obtain rfl := Except.ok.inj (hname'.symm.trans hn')
  have hascending : Ascending done := ascending_jsonMembers hdone .nil
  rw [insertEntry_comm hne w w' hascending] at hms
  exact ⟨done, hdone, jsonMembers_cons_eq_ok.mpr
    ⟨_, hname', w', hw', jsonMembers_cons_eq_ok.mpr ⟨_, hname, w, hw, hms⟩⟩⟩

end

/-- Members in another order make the same value. -/
theorem Reordered.json {d e : Draft} (h : Reordered d e) {v : Json} (hd : d.json = .ok v) :
    e.json = .ok v := by
  induction h generalizing v with
  | refl => exact hd
  | trans _ _ ihd ihe => exact ihe (ihd hd)
  | item _ _ _ _ _ ih => exact json_item_congr (fun w => ih) hd
  | member _ _ _ _ _ _ ih => exact json_member_congr (fun w => ih) hd
  | swap _ _ _ _ hname hname' hne => exact json_swap hname hname' hne hd

end Draft

theorem ofText_eq_ok {text : String} {v : Json} :
    ofText text = .ok v ↔ (Document.ofText text).root.json = .ok v ∧
      (Document.ofText text).trailing = false := by
  rw [ofText, readText]
  cases (Document.ofText text).root.json with
  | error fault => simp
  | ok w => cases (Document.ofText text).trailing <;> simp

/-- Texts that differ only in the order of members have the same value. -/
theorem ofText_of_reordered {text text' : String} {v v' : Json} (h : ofText text = .ok v)
    (h' : ofText text' = .ok v')
    (hroots : (Document.ofText text).root.Reordered (Document.ofText text').root) : v = v' := by
  obtain ⟨hroot, -⟩ := ofText_eq_ok.mp h
  obtain ⟨hroot', -⟩ := ofText_eq_ok.mp h'
  exact Except.ok.inj ((hroots.json hroot).symm.trans hroot')

end Alerting.Json
