import Alerting.Json.Record
import Alerting.Proofs.Json.Pretty
import Alerting.Proofs.Time.Text

/-!
# Written values read back

What the readers make of the trees of written values. A reader of a list, a dictionary or a record
goes on to the parts, so its lemma takes what is known of the parts.
-/
namespace Alerting.Json
open Fallible

variable {β γ σ : Type}

/-! ## What can be written -/

theorem printable_ofFloat (depth : Nat) (x : Float) : Printable depth (ofFloat x) := by
  rw [ofFloat]
  split
  · rename_i hx
    exact .number depth hx
  · exact .null depth

section
variable {depth : Nat} {encode : γ → Json} (h : ∀ c, Printable depth (encode c))
include h

theorem printable_ofOption (o : Option γ) : Printable depth (ofOption encode o) := by
  cases o with
  | none => exact .null depth
  | some c => exact h c

theorem printable_member? (name : String) (o : Option γ) :
    ∀ m ∈ member? name encode o, Printable depth m.2 := by
  intro m hm
  cases o with
  | none => cases hm
  | some c =>
    obtain rfl := List.mem_singleton.mp hm
    exact h c

theorem printable_list (cs : List γ) : Printable (depth + 1) (.list (cs.map encode)) := by
  refine .list fun v hv => ?_
  obtain ⟨c, -, rfl⟩ := List.mem_map.mp hv
  exact h c

theorem printable_entries (entries : List (String × γ)) :
    Printable (depth + 1) (.object (entries.map fun e => (e.1, encode e.2))) := by
  refine .object fun m hm => ?_
  obtain ⟨e, -, rfl⟩ := List.mem_map.mp hm
  exact h e.2

end

/-! ## What the readers see -/

/-- The members of a written object, as the readers get them. -/
def drafts (members : List (String × Json)) : List (Except Fault String × Draft) :=
  members.map fun (k, v) => (.ok k, v.draft)

theorem shape_list (items : List Json) :
    Readable.shape (Json.list items).draft = .list (items.map draft) .closed := by
  have hitems : itemDrafts items = items.map draft := by
    induction items with
    | nil => rfl
    | cons v items ih => rw [itemDrafts, ih, List.map_cons]
  rw [draft, hitems]
  rfl

theorem shape_object (members : List (String × Json)) :
    Readable.shape (Json.object members).draft = .object (drafts members) .closed := by
  have hmembers : (memberDrafts members).map (fun m => (m.1.key, m.2)) = drafts members := by
    induction members with
    | nil => rfl
    | cons m members ih =>
      rw [memberDrafts, List.map_cons, ih]
      rfl
  rw [draft, ← hmembers]
  rfl

/-! ## Plain values -/

theorem readTime_text (t : Time.Instant) : readTime (Json.text t.text).draft = .ok t := by
  have htext : readTime (Json.text t.text).draft =
      (Time.readInstant t.text).mapError .badTime := rfl
  rw [htext, Time.Instant.readInstant_text, mapError_ok]

/-- A double that is not finite reads back as null. -/
theorem readOption_ofFloat (o : Option Float) :
    readOption readFloat (ofOption ofFloat o).draft = .ok (o.filter Float.isFinite) := by
  cases o with
  | none => rfl
  | some x =>
    rw [ofOption, ofFloat, Option.filter_some]
    split <;> rfl

theorem readOption_draft {read : Draft → Except Fault β} {v : Json} (hv : v ≠ .null) {b : β}
    (h : read v.draft = .ok b) : readOption read v.draft = .ok (some b) := by
  cases v with
  | null => exact absurd rfl hv
  | bool | number | text | list | object =>
    simp only [readOption, h]
    rfl

/-! ## Lists and dictionaries -/

theorem readList_map {read : Draft → Except Fault β} {encode : γ → Json} {value : γ → β}
    {cs : List γ} (h : ∀ c ∈ cs, read (encode c).draft = .ok (value c)) :
    readList read (Json.list (cs.map encode)).draft = .ok (cs.map value) := by
  have hitems : ((cs.map encode).map draft).mapM read = .ok (cs.map value) := by
    rw [mapM_eq_ok, List.map_map, List.map_map, List.map_map]
    exact List.map_congr_left h
  rw [readList, shape_list]
  simp only [hitems, ok_bind]
  rfl

theorem readEntries_map {read : Draft → Except Fault β} {encode : γ → Json} {value : γ → β}
    {entries : List (String × γ)} (h : ∀ e ∈ entries, read (encode e.2).draft = .ok (value e.2))
    (done : Dictionary β) :
    readEntries read (drafts (entries.map fun e => (e.1, encode e.2))) done =
      .ok (entries.foldl (fun d e => d.insert e.1 (value e.2)) done) := by
  induction entries generalizing done with
  | nil => rfl
  | cons e entries ih =>
    have hrest := ih (fun e' he' => h e' (List.mem_cons_of_mem e he')) (done.insert e.1 (value e.2))
    rw [drafts, List.map_cons, List.map_cons, readEntries, ok_bind, h e List.mem_cons_self, ok_bind,
      List.foldl_cons, ← hrest]
    rfl

/-- The entries of a dictionary may be written in any order. -/
theorem readDictionary_perm {read : Draft → Except Fault β} {encode : γ → Json} {value : γ → β}
    {d : Dictionary γ} (h : ∀ e ∈ d.entries, read (encode e.2).draft = .ok (value e.2))
    {entries : List (String × γ)} (hentries : entries.Perm d.entries) :
    readDictionary read (Json.object (entries.map fun e => (e.1, encode e.2))).draft =
      .ok (d.map value) := by
  have hread := readEntries_map (fun e he => h e (hentries.mem_iff.mp he)) .empty
  have hbindings : entries.foldl (fun d e => d.insert e.1 (value e.2)) .empty = d.map value := by
    rw [← Dictionary.ofList_of_perm (d := d.map value) (hentries.map _), Dictionary.ofList,
      List.foldl_map]
  rw [readDictionary, shape_object]
  simp only [hread, hbindings, ok_bind]
  rfl

/-! ## Records -/

theorem readRecord_draft {title : String} {slots : List (Slot Draft σ)} {start : σ}
    {finish : σ → Except Fault β} (members : List (String × Json)) :
    readRecord title slots start finish (Json.object members).draft =
      fillMembers slots (drafts members) start >>= finish := by
  rw [readRecord, shape_object]
  rfl

section
variable {slots : List (Slot Draft σ)} {name : String} {slot : Slot Draft σ}
  (hfind : slots.find? (fun slot => slot.name = name) = some slot)
  {s : σ} (hopen : slot.isFilled s = false)
include hfind hopen

theorem fillMembers_draft {v : Json} {t : σ} (h : slot.fill v.draft s = .ok t)
    (members : List (String × Json)) :
    fillMembers slots (drafts ((name, v) :: members)) s = fillMembers slots (drafts members) t := by
  rw [drafts, List.map_cons, fillMembers, ok_bind, hfind]
  simp only [hopen, h, ok_bind]
  rfl

/-- A member that may be left out is filled into the form `put`, which has an empty place for it. -/
theorem fillMembers_member? {encode : γ → Json} {o : Option γ} {value : γ → β} (put : Option β → σ)
    (hempty : put none = s)
    (h : ∀ c, slot.fill (encode c).draft s = .ok (put (some (value c))))
    (members : List (String × Json)) :
    fillMembers slots (drafts (member? name encode o ++ members)) s =
      fillMembers slots (drafts members) (put (o.map value)) := by
  cases o with
  | none => rw [member?, List.nil_append, Option.map_none, hempty]
  | some c =>
    rw [member?, List.singleton_append, fillMembers_draft hfind hopen (h c), Option.map_some]

end

end Alerting.Json
