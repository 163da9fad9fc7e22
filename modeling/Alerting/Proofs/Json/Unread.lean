import Alerting.Proofs.Json.Field

/-!
# Parts of values that nobody reads

Readers of records skip members that are not fields, and some items of lists have no influence on
what is made of them. Values that differ only in such parts are read alike: with related results or
with the same fault.
-/
namespace Alerting.Json
open Fallible

/-! ## Lists -/

/-- The lists have related items in the same order, but for items that pass `P`, which either list
may have anywhere. -/
inductive AlikeBut {α : Type} (P : α → Prop) (R : α → α → Prop) : List α → List α → Prop where
  | nil : AlikeBut P R [] []
  | cons {a b : α} {as bs : List α} : R a b → AlikeBut P R as bs → AlikeBut P R (a :: as) (b :: bs)
  | left {a : α} {as bs : List α} : P a → AlikeBut P R as bs → AlikeBut P R (a :: as) bs
  | right {b : α} {as bs : List α} : P b → AlikeBut P R as bs → AlikeBut P R as (b :: bs)

/-- The values are the same, or they are lists that have the same `k` items first and after them the
same items but for those that pass `P`. -/
inductive ListAlike (P : Json → Prop) (k : Nat) : Json → Json → Prop where
  | same (v : Json) : ListAlike P k v v
  | list {items items' : List Json} : items.take k = items'.take k →
    AlikeBut P Eq (items.drop k) (items'.drop k) → ListAlike P k (.list items) (.list items')

section
variable {P : Json → Prop} {β : Type} {read : Json → Except Fault β}

theorem mapM_alike (hP : ∀ v, P v → ∃ b, read v = .ok b) {items items' : List Json}
    (h : AlikeBut P Eq items items') :
    Alike (fun _ _ => True) (items.mapM read) (items'.mapM read) := by
  induction h with
  | nil => exact .refl (fun _ => trivial) _
  | @cons v w vs ws heq _ ih =>
    subst heq
    rw [mapM_cons, mapM_cons]
    exact (Alike.refl (fun _ => rfl) (read v)).bind fun b c _ => ih.bind fun bs cs _ => .ok trivial
  | @left v vs ws hv _ ih =>
    obtain ⟨b, hb⟩ := hP v hv
    rw [mapM_cons, hb, ok_bind]
    exact ih.bind_left fun _ _ _ => .ok trivial
  | @right w vs ws hw _ ih =>
    obtain ⟨c, hc⟩ := hP w hw
    rw [mapM_cons, hc, ok_bind]
    exact ih.bind_right fun _ _ _ => .ok trivial

theorem mapM_take_alike (hP : ∀ v, P v → ∃ b, read v = .ok b) {k : Nat} {items items' : List Json}
    (htake : items.take k = items'.take k) (hdrop : AlikeBut P Eq (items.drop k) (items'.drop k)) :
    Alike (fun bs cs => bs.take k = cs.take k) (items.mapM read) (items'.mapM read) := by
  induction k generalizing items items' with
  | zero => exact (mapM_alike hP hdrop).imp fun _ _ _ _ => rfl
  | succ k ih =>
    match items, items', htake with
    | [], [], _ => exact Alike.refl (fun _ => by rfl) _
    | v :: vs, w :: ws, htake =>
      obtain ⟨rfl, hvs⟩ := List.cons.inj htake
      rw [mapM_cons, mapM_cons]
      refine (Alike.refl (fun _ => rfl) (read v)).bind fun b c hbc => ?_
      subst hbc
      refine (ih hvs hdrop).bind fun bs cs hbs => .ok ?_
      rw [List.take_succ_cons, List.take_succ_cons, hbs]

/-- Items that can be read make no difference to the first items that are read. -/
theorem readList_alike (hP : ∀ v, P v → ∃ b, read v = .ok b) {k : Nat} {v w : Json}
    (h : ListAlike P k v w) :
    Alike (fun bs cs => bs.take k = cs.take k) (readList read v) (readList read w) := by
  cases h with
  | same => exact Alike.refl (fun _ => by rfl) _
  | list htake hdrop => exact (mapM_take_alike hP htake hdrop).bind fun _ _ hbs => .ok hbs

end

/-! ## Records -/

inductive ItemsAlike (R : String → Json → Json → Prop) :
    List String → List Json → List Json → Prop where
  | nil (names : List String) : ItemsAlike R names [] []
  | field {name : String} {names : List String} {v w : Json} {vs ws : List Json} :
    R name v w → ItemsAlike R names vs ws → ItemsAlike R (name :: names) (v :: vs) (w :: ws)
  | surplus (vs : List Json) : ItemsAlike R [] vs vs

/-- The values are the same, or they are records of the same form whose fields are related. Objects
may have any other members besides. -/
inductive RecordAlike (names : List String) (R : String → Json → Json → Prop) :
    Json → Json → Prop where
  | same (v : Json) : RecordAlike names R v v
  | object {members members' : List (String × Json)} :
    AlikeBut (fun m => m.1 ∉ names) (fun m m' => m.1 = m'.1 ∧ R m.1 m.2 m'.2) members members' →
    RecordAlike names R (.object members) (.object members')
  | list {items items' : List Json} : ItemsAlike R names items items' →
    RecordAlike names R (.list items) (.list items')

variable {σ β γ : Type}

/-- A slot that makes related forms of related forms when it is filled with related values. -/
structure Slot.Relates (R : String → Json → Json → Prop) (S : σ → σ → Prop) (slot : Slot Json σ) :
    Prop where
  filled : ∀ s t, S s t → slot.isFilled s = slot.isFilled t
  fill : ∀ v w s t, R slot.name v w → S s t → Alike S (slot.fill v s) (slot.fill w t)

theorem Slot.relates_of {R : String → Json → Json → Prop} {S : σ → σ → Prop} {T : β → β → Prop}
    {name : String} {read : Json → Except Fault β} {get : σ → Option β} {set : β → σ → σ}
    {may : Bool} (hread : ∀ v w, R name v w → Alike T (read v) (read w))
    (hget : ∀ s t, S s t → (get s).isSome = (get t).isSome)
    (hset : ∀ a b s t, T a b → S s t → S (set a s) (set b t)) :
    (Slot.of name read get set may).Relates R S where
  filled := hget
  fill v w s t hvw hst := (hread v w hvw).map fun a b hab => hset a b s t hab hst

theorem Slot.relates_of_eq {R : String → Json → Json → Prop} {S : σ → σ → Prop} {name : String}
    {read : Json → Except Fault β} {get : σ → Option β} {set : β → σ → σ} {may : Bool}
    (hR : ∀ v w, R name v w → v = w) (hget : ∀ s t, S s t → (get s).isSome = (get t).isSome)
    (hset : ∀ b s t, S s t → S (set b s) (set b t)) :
    (Slot.of name read get set may).Relates R S := by
  refine Slot.relates_of (T := Eq) (fun v w hvw => ?_) hget ?_
  · rw [hR v w hvw]
    exact .refl (fun _ => rfl) _
  · rintro b _ s t rfl hst
    exact hset b s t hst

section
variable {R : String → Json → Json → Prop} {S : σ → σ → Prop} {slots : List (Slot Json σ)}

theorem find?_slot_eq_none {key : String} :
    slots.find? (fun slot => slot.name = key) = none ↔ key ∉ slots.map Slot.name := by
  simp [List.find?_eq_none]

theorem fillMembers_alike (hslots : ∀ slot ∈ slots, slot.Relates R S)
    {members members' : List (String × Json)}
    (h : AlikeBut (fun m => m.1 ∉ slots.map Slot.name) (fun m m' => m.1 = m'.1 ∧ R m.1 m.2 m'.2)
      members members') {s t : σ} (hst : S s t) :
    Alike S (fillMembers slots (keyed members) s) (fillMembers slots (keyed members') t) := by
  induction h generalizing s t with
  | nil => exact .ok hst
  | @cons m m' _ _ hm _ ih =>
    obtain ⟨key, v⟩ := m
    obtain ⟨key', w⟩ := m'
    obtain ⟨rfl, hvw⟩ : key = key' ∧ R key v w := hm
    rw [keyed_cons, keyed_cons]
    cases hfind : slots.find? fun slot => slot.name = key with
    | none =>
      rw [fillMembers_of_unknown hfind, fillMembers_of_unknown hfind]
      exact ih hst
    | some slot =>
      have hrelates := hslots slot (List.mem_of_find?_eq_some hfind)
      obtain rfl : slot.name = key := by simpa using List.find?_some hfind
      rw [fillMembers_of_known hfind, fillMembers_of_known hfind, hrelates.filled s t hst]
      split
      · exact .error _
      · exact (hrelates.fill v w s t hvw hst).bind fun _ _ => ih
  | left hkey _ ih =>
    rw [keyed_cons, fillMembers_of_unknown (find?_slot_eq_none.mpr hkey)]
    exact ih hst
  | right hkey _ ih =>
    rw [keyed_cons, fillMembers_of_unknown (find?_slot_eq_none.mpr hkey)]
    exact ih hst

theorem fillItems_alike (hslots : ∀ slot ∈ slots, slot.Relates R S) {items items' : List Json}
    (h : ItemsAlike R (slots.map Slot.name) items items') {s t : σ} (hst : S s t) :
    Alike (fun r r' => S r.1 r'.1 ∧ r.2 = r'.2) (fillItems slots items s)
      (fillItems slots items' t) := by
  induction slots generalizing items items' s t with
  | nil =>
    cases h with
    | nil | surplus => exact .ok ⟨hst, rfl⟩
  | cons slot slots ih =>
    cases h with
    | nil => exact .ok ⟨hst, rfl⟩
    | field hvw hitems =>
      obtain ⟨hslot, hrest⟩ := List.forall_mem_cons.mp hslots
      rw [fillItems, fillItems]
      exact (hslot.fill _ _ s t hvw hst).bind fun _ _ => ih hrest hitems

theorem ItemsAlike.length_eq {names : List String} {items items' : List Json}
    (h : ItemsAlike R names items items') : items.length = items'.length := by
  induction h with
  | nil | surplus => rfl
  | field _ _ ih => rw [List.length_cons, List.length_cons, ih]

/-- Records whose fields are related are read alike. -/
theorem readRecord_alike {T : β → β → Prop} {title : String} {start : σ}
    {finish : σ → Except Fault β} (hslots : ∀ slot ∈ slots, slot.Relates R S) (hstart : S start start)
    (hfinish : ∀ s t, S s t → Alike T (finish s) (finish t)) (hT : ∀ b, T b b) {raw raw' : Json}
    (h : RecordAlike (slots.map Slot.name) R raw raw') :
    Alike T (readRecord title slots start finish raw) (readRecord title slots start finish raw') := by
  cases h with
  | same => exact .refl hT _
  | object hmembers =>
    rw [readRecord_object, readRecord_object]
    exact (fillMembers_alike hslots hmembers hstart).bind hfinish
  | list hitems =>
    rw [readRecord_list, readRecord_list, hitems.length_eq]
    refine (fillItems_alike hslots hitems hstart).bind ?_
    rintro ⟨s, unfilled, surplus⟩ ⟨t, _, _⟩ ⟨hst, heq⟩
    obtain ⟨rfl, rfl⟩ := Prod.mk.inj heq
    dsimp only
    split
    · split
      · exact hfinish s t hst
      · exact .error _
    · cases unfilled.findIdx? fun slot => !slot.mayEndBefore with
      | none => exact hfinish s t hst
      | some i => exact .error _

end

/-- Records that are alike are both there or both null. -/
theorem RecordAlike.readOption_eq {names : List String} {R : String → Json → Json → Prop}
    {read : Json → Except Fault β} {v w : Json} (h : RecordAlike names R v w)
    (hread : read v = read w) : readOption read v = readOption read w := by
  cases h with
  | same => rfl
  | object | list => exact congrArg (Except.map some) hread

/-- The value of a required field shows of the field what any function shows of it. -/
theorem required_alike {f : β → γ} {name : String} {o o' : Option β} (h : o.map f = o'.map f) :
    Alike (fun b c => f b = f c) (required name o) (required name o') := by
  cases o with
  | none =>
    cases o' with
    | none => exact .error _
    | some c => cases h
  | some b =>
    cases o' with
    | none => cases h
    | some c => exact .ok (Option.some.inj h)

end Alerting.Json
