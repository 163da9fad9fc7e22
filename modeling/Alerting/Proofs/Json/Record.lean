import Alerting.Json.Record
import Alerting.Proofs.Fallible
import Mathlib.Data.List.Pairwise

/-!
# Records by their fields

A record read from a value is what its fields give, filled in the order of the
slots. The order in which an object lists its members plays no part, because the
slots fill different places of the form.
-/
namespace Alerting.Json
open Fallible

def valuesOf (name : String) (members : List (String × Json)) : List Json :=
  (members.filter fun m => m.1 = name).map Prod.snd

/-- The value of a field: in an object the member with its name, in a list the item at its place
among the fields. -/
def field? (names : List String) : Json → String → Option Json
  | .object members, name => (valuesOf name members).head?
  | .list items, name => (names.zip items).lookup name
  | _, _ => none

/-- A record is an object that has each field at most once, or a list without surplus items. -/
def IsRecord (names : List String) : Json → Prop
  | .object members => ∀ name ∈ names, (valuesOf name members).length ≤ 1
  | .list items => items.length ≤ names.length
  | _ => False

theorem valuesOf_cons_self (name : String) (v : Json) (members : List (String × Json)) :
    valuesOf name ((name, v) :: members) = v :: valuesOf name members := by
  simp [valuesOf]

theorem valuesOf_cons_of_ne {name key : String} (h : key ≠ name) (v : Json)
    (members : List (String × Json)) :
    valuesOf name ((key, v) :: members) = valuesOf name members := by
  simp [valuesOf, h]

variable {σ β : Type}

/-! ## Slots that fill different places -/

namespace Slot

/-- Two slots with different names that fill different places, so that their order is free. -/
structure Apart (a b : Slot Json σ) : Prop where
  names : a.name ≠ b.name
  left : ∀ v s t, a.fill v s = .ok t → b.isFilled t = b.isFilled s
  right : ∀ v s t, b.fill v s = .ok t → a.isFilled t = a.isFilled s
  commute : ∀ v w s u, (∃ t, a.fill v s = .ok t ∧ b.fill w t = .ok u) ↔
    ∃ t, b.fill w s = .ok t ∧ a.fill v t = .ok u

theorem Apart.symm {a b : Slot Json σ} (h : Apart a b) : Apart b a where
  names := h.names.symm
  left := h.right
  right := h.left
  commute v w s u := (h.commute w v s u).symm

instance : Std.Symm (@Apart σ) := ⟨fun _ _ => Apart.symm⟩

/-- Slots whose places in the form are set apart from each other. -/
theorem apart_of {γ : Type} {name name' : String} {read : Json → Except Fault β}
    {read' : Json → Except Fault γ} {get : σ → Option β} {get' : σ → Option γ}
    {set : β → σ → σ} {set' : γ → σ → σ} {may may' : Bool} (hname : name ≠ name')
    (hget : ∀ b s, get' (set b s) = get' s) (hget' : ∀ c s, get (set' c s) = get s)
    (hset : ∀ b c s, set' c (set b s) = set b (set' c s)) :
    Apart (Slot.of name read get set may) (Slot.of name' read' get' set' may') where
  names := hname
  left v s t h := by
    obtain ⟨b, -, rfl⟩ := map_eq_ok.mp h
    exact congrArg Option.isSome (hget b s)
  right v s t h := by
    obtain ⟨c, -, rfl⟩ := map_eq_ok.mp h
    exact congrArg Option.isSome (hget' c s)
  commute v w s u := by
    simp only [Slot.of, map_eq_ok]
    constructor
    · rintro ⟨-, ⟨b, hb, rfl⟩, c, hc, rfl⟩
      exact ⟨_, ⟨c, hc, rfl⟩, b, hb, (hset b c s).symm⟩
    · rintro ⟨-, ⟨c, hc, rfl⟩, b, hb, rfl⟩
      exact ⟨_, ⟨b, hb, rfl⟩, c, hc, hset b c s⟩

theorem isFilled_of_fill {name : String} {read : Json → Except Fault β} {get : σ → Option β}
    {set : β → σ → σ} {may : Bool} (hget : ∀ b s, get (set b s) = some b) (v : Json) (s t : σ)
    (h : (Slot.of name read get set may).fill v s = .ok t) :
    (Slot.of name read get set may).isFilled t = true := by
  obtain ⟨b, -, rfl⟩ := map_eq_ok.mp h
  exact congrArg Option.isSome (hget b s)

end Slot

/-- Slots of different places, each of which is filled once it has been filled. -/
structure Independent (slots : List (Slot Json σ)) : Prop where
  filled : ∀ slot ∈ slots, ∀ v s t, slot.fill v s = .ok t → slot.isFilled t = true
  apart : slots.Pairwise Slot.Apart

theorem Independent.tail {slot : Slot Json σ} {slots : List (Slot Json σ)}
    (h : Independent (slot :: slots)) : Independent slots where
  filled s hs := h.filled s (List.mem_cons_of_mem _ hs)
  apart := h.apart.tail

theorem Independent.eq_or_apart {slots : List (Slot Json σ)} (h : Independent slots)
    {a b : Slot Json σ} (ha : a ∈ slots) (hb : b ∈ slots) : a = b ∨ a.Apart b := by
  by_cases hab : a = b
  · exact .inl hab
  · exact .inr (h.apart.forall ha hb hab)

/-! ## Filling fields in the order of the slots -/

/-- Fills the slots in order with the values that `field` has for their names. -/
def fillFields (field : String → Option Json) : List (Slot Json σ) → σ → Except Fault σ
  | [], s => .ok s
  | slot :: slots, s => do
    let t ← (field slot.name).elim (.ok s) fun v => slot.fill v s
    fillFields field slots t

theorem fillFields_congr {field field' : String → Option Json} {slots : List (Slot Json σ)}
    (h : ∀ slot ∈ slots, field slot.name = field' slot.name) (s : σ) :
    fillFields field slots s = fillFields field' slots s := by
  induction slots generalizing s with
  | nil => rfl
  | cons slot slots ih =>
    have hrest := fun t => ih (fun a ha => h a (List.mem_cons_of_mem _ ha)) t
    simp only [fillFields, h slot List.mem_cons_self, hrest]

theorem fillFields_none {field : String → Option Json} {slots : List (Slot Json σ)}
    (h : ∀ slot ∈ slots, field slot.name = none) (s : σ) : fillFields field slots s = .ok s := by
  induction slots with
  | nil => rfl
  | cons slot slots ih =>
    rw [fillFields, h slot List.mem_cons_self]
    exact ih fun a ha => h a (List.mem_cons_of_mem _ ha)

/-- A slot may as well be filled before all others. -/
theorem fillFields_insert {slots : List (Slot Json σ)} (h : Independent slots)
    {slot : Slot Json σ} (hslot : slot ∈ slots) {field : String → Option Json}
    (hfield : field slot.name = none) (v : Json) (s u : σ) :
    fillFields (fun n => if slot.name = n then some v else field n) slots s = .ok u ↔
      ∃ t, slot.fill v s = .ok t ∧ fillFields field slots t = .ok u := by
  induction slots generalizing s with
  | nil => cases hslot
  | cons head slots ih =>
    rcases List.mem_cons.mp hslot with rfl | htail
    · have hrest (t : σ) : fillFields (fun n => if slot.name = n then some v else field n) slots t =
          fillFields field slots t := by
        refine fillFields_congr (fun a ha => if_neg ?_) t
        exact ((List.pairwise_cons.mp h.apart).1 a ha).names
      simp only [fillFields, if_true, Option.elim, bind_eq_ok, hrest, hfield, Except.ok.injEq,
        exists_eq_left']
    · have hapart : head.Apart slot := (List.pairwise_cons.mp h.apart).1 slot htail
      simp only [fillFields, if_neg hapart.names.symm, bind_eq_ok, ih h.tail htail]
      cases field head.name with
      | none => simp only [Option.elim, Except.ok.injEq, exists_eq_left']
      | some w =>
        simp only [Option.elim]
        constructor
        · rintro ⟨t, ht, r, hr, hu⟩
          obtain ⟨t', ht', hr'⟩ := (hapart.commute w v s r).mp ⟨t, ht, hr⟩
          exact ⟨t', ht', r, hr', hu⟩
        · rintro ⟨t, ht, r, hr, hu⟩
          obtain ⟨t', ht', hr'⟩ := (hapart.commute w v s r).mpr ⟨t, ht, hr⟩
          exact ⟨t', ht', r, hr', hu⟩

/-! ## Objects -/

theorem fillMembers_of_unknown {slots : List (Slot Json σ)} {key : String}
    (hfind : slots.find? (fun slot => slot.name = key) = none) (v : Json)
    (rest : List (Except Fault String × Json)) (s : σ) :
    fillMembers slots ((.ok key, v) :: rest) s = fillMembers slots rest s := by
  rw [fillMembers, ok_bind, hfind]
  rfl

theorem fillMembers_of_known {slots : List (Slot Json σ)} {key : String} {slot : Slot Json σ}
    (hfind : slots.find? (fun slot => slot.name = key) = some slot) (v : Json)
    (rest : List (Except Fault String × Json)) (s : σ) :
    fillMembers slots ((.ok key, v) :: rest) s =
      if slot.isFilled s then .error (.repeatedField key)
      else slot.fill v s >>= fillMembers slots rest := by
  rw [fillMembers, ok_bind, hfind]
  cases hfilled : slot.isFilled s <;> simp [hfilled]

def keyed (members : List (String × Json)) : List (Except Fault String × Json) :=
  members.map fun (k, v) => (.ok k, v)

theorem keyed_cons (key : String) (v : Json) (members : List (String × Json)) :
    keyed ((key, v) :: members) = (.ok key, v) :: keyed members := rfl

/-- Every slot has at most one member, and none if it is filled already. -/
def HasRoom (slots : List (Slot Json σ)) (members : List (String × Json)) (s : σ) : Prop :=
  ∀ slot ∈ slots, (valuesOf slot.name members).length ≤ if slot.isFilled s then 0 else 1

section
variable {slots : List (Slot Json σ)} {key : String} {v : Json} {members : List (String × Json)}

theorem hasRoom_cons_of_unknown (hne : ∀ slot ∈ slots, key ≠ slot.name) (s : σ) :
    HasRoom slots ((key, v) :: members) s ↔ HasRoom slots members s := by
  refine forall₂_congr fun slot hslot => ?_
  rw [valuesOf_cons_of_ne (hne slot hslot)]

theorem fillFields_cons_of_unknown (hne : ∀ slot ∈ slots, key ≠ slot.name) (s : σ) :
    fillFields (fun n => (valuesOf n ((key, v) :: members)).head?) slots s =
      fillFields (fun n => (valuesOf n members).head?) slots s :=
  fillFields_congr
    (fun slot hslot => congrArg List.head? (valuesOf_cons_of_ne (hne slot hslot) v members)) s

theorem head?_valuesOf_cons (key : String) (v : Json) (members : List (String × Json)) :
    (fun n => (valuesOf n ((key, v) :: members)).head?) =
      fun n => if key = n then some v else (valuesOf n members).head? := by
  funext n
  by_cases hn : key = n
  · subst hn
    rw [valuesOf_cons_self, if_pos rfl, List.head?_cons]
  · rw [valuesOf_cons_of_ne hn, if_neg hn]

variable {slot : Slot Json σ} (hslot : slot ∈ slots)
include hslot

theorem not_hasRoom_of_filled {s : σ} (hfilled : slot.isFilled s = true) :
    ¬HasRoom slots ((slot.name, v) :: members) s := by
  intro hroom
  have hlength := hroom slot hslot
  rw [valuesOf_cons_self, if_pos hfilled] at hlength
  exact absurd hlength (Nat.not_succ_le_zero _)

/-- A member takes the place of its slot, so that no other one comes for it. -/
theorem head?_eq_none_of_hasRoom {s : σ} (hroom : HasRoom slots ((slot.name, v) :: members) s) :
    (valuesOf slot.name members).head? = none := by
  have hlength := hroom slot hslot
  rw [valuesOf_cons_self, List.length_cons] at hlength
  rw [List.head?_eq_none_iff, ← List.length_eq_zero_iff]
  split at hlength <;> omega

/-- A member takes the one place of its slot and leaves the other slots as they are. -/
theorem hasRoom_of_fill (h : Independent slots) {s t : σ} (ht : slot.fill v s = .ok t)
    (hopen : ¬slot.isFilled s = true) :
    HasRoom slots members t ↔ HasRoom slots ((slot.name, v) :: members) s := by
  refine forall₂_congr fun a ha => ?_
  rcases h.eq_or_apart hslot ha with rfl | hapart
  · rw [valuesOf_cons_self, List.length_cons, h.filled slot hslot v s t ht, if_pos rfl,
      if_neg hopen]
    omega
  · rw [valuesOf_cons_of_ne hapart.names, hapart.left v s t ht]

/-- Filling a slot first and the fields of the other members after it is filling all fields. -/
theorem fillFields_cons_of_known (h : Independent slots) {s u : σ}
    (hopen : ¬slot.isFilled s = true) :
    (∃ t, slot.fill v s = .ok t ∧ HasRoom slots members t ∧
        fillFields (fun n => (valuesOf n members).head?) slots t = .ok u) ↔
      HasRoom slots ((slot.name, v) :: members) s ∧
        fillFields (fun n => (valuesOf n ((slot.name, v) :: members)).head?) slots s = .ok u := by
  rw [head?_valuesOf_cons]
  constructor
  · rintro ⟨t, ht, hroom, hu⟩
    have hroom' := (hasRoom_of_fill hslot h ht hopen).mp hroom
    have hnone := head?_eq_none_of_hasRoom hslot hroom'
    exact ⟨hroom', (fillFields_insert h hslot hnone v s u).mpr ⟨t, ht, hu⟩⟩
  · rintro ⟨hroom, hu⟩
    have hnone := head?_eq_none_of_hasRoom hslot hroom
    obtain ⟨t, ht, hu⟩ := (fillFields_insert h hslot hnone v s u).mp hu
    exact ⟨t, ht, (hasRoom_of_fill hslot h ht hopen).mpr hroom, hu⟩

end

/-- Members fill a form exactly when no slot has to be filled twice and the slots can be filled in
their own order. -/
theorem fillMembers_eq_ok {slots : List (Slot Json σ)} (h : Independent slots)
    (members : List (String × Json)) (s u : σ) :
    fillMembers slots (keyed members) s = .ok u ↔ HasRoom slots members s ∧
      fillFields (fun n => (valuesOf n members).head?) slots s = .ok u := by
  induction members generalizing s with
  | nil =>
    rw [fillFields_none (fun _ _ => rfl)]
    simp [keyed, fillMembers, valuesOf, HasRoom]
  | cons member members ih =>
    obtain ⟨key, v⟩ := member
    rw [keyed_cons]
    cases hfind : slots.find? fun slot => slot.name = key with
    | none =>
      have hne : ∀ slot ∈ slots, key ≠ slot.name := by
        intro slot hslot heq
        simpa [heq] using List.find?_eq_none.mp hfind slot hslot
      rw [fillMembers_of_unknown hfind, ih, hasRoom_cons_of_unknown hne,
        fillFields_cons_of_unknown hne]
    | some slot =>
      have hslot : slot ∈ slots := List.mem_of_find?_eq_some hfind
      obtain rfl : slot.name = key := by simpa using List.find?_some hfind
      rw [fillMembers_of_known hfind]
      by_cases hfilled : slot.isFilled s = true
      · rw [if_pos hfilled]
        exact iff_of_false nofun fun hu => not_hasRoom_of_filled hslot hfilled hu.1
      · rw [if_neg hfilled, bind_eq_ok]
        simp only [ih]
        exact fillFields_cons_of_known hslot h hfilled

/-! ## Lists -/

/-- Items fill a form in the order of the slots, and what is left over on either side is known from
the lengths. -/
theorem fillItems_eq_ok {slots : List (Slot Json σ)} (h : Independent slots) (items : List Json)
    (s u : σ) (unfilled : List (Slot Json σ)) (surplus : List Json) :
    fillItems slots items s = .ok (u, unfilled, surplus) ↔
      (unfilled = slots.drop items.length ∧ surplus = items.drop slots.length) ∧
      fillFields (fun n => ((slots.map Slot.name).zip items).lookup n) slots s = .ok u := by
  induction slots generalizing items s with
  | nil =>
    cases items <;> simp [fillItems, fillFields, and_comm, eq_comm]
  | cons slot slots ih =>
    cases items with
    | nil =>
      rw [fillFields_none (fun _ _ => by simp)]
      simp [fillItems, and_comm, eq_comm]
    | cons v items =>
      have hrest (t : σ) :
          fillFields (fun n => (((slot :: slots).map Slot.name).zip (v :: items)).lookup n)
              slots t =
            fillFields (fun n => ((slots.map Slot.name).zip items).lookup n) slots t := by
        refine fillFields_congr (fun a ha => ?_) t
        have hne := ((List.pairwise_cons.mp h.apart).1 a ha).names
        rw [List.map_cons, List.zip_cons_cons, List.lookup_cons, beq_false_of_ne hne.symm]
      have hslot :
          (((slot :: slots).map Slot.name).zip (v :: items)).lookup slot.name = some v := by
        rw [List.map_cons, List.zip_cons_cons, List.lookup_cons_self]
      simp only [fillFields, fillItems, bind_eq_ok, ih h.tail, hrest, hslot, Option.elim,
        List.length_cons, List.drop_succ_cons]
      constructor
      · rintro ⟨t, ht, hends, hu⟩
        exact ⟨hends, t, ht, hu⟩
      · rintro ⟨hends, t, ht, hu⟩
        exact ⟨t, ht, hends, hu⟩

/-- The slots that a list leaves out stay as they are. -/
theorem isFilled_of_fillItems {slots : List (Slot Json σ)} (h : Independent slots)
    {items : List Json} {s u : σ} {unfilled : List (Slot Json σ)} {surplus : List Json}
    (hu : fillItems slots items s = .ok (u, unfilled, surplus)) :
    ∀ slot ∈ unfilled, slot.isFilled u = slot.isFilled s := by
  induction slots generalizing items s with
  | nil =>
    obtain ⟨⟨rfl, -⟩, -⟩ := (fillItems_eq_ok h items s u unfilled surplus).mp hu
    simp
  | cons head slots ih =>
    cases items with
    | nil =>
      obtain ⟨rfl, -⟩ : s = u ∧ _ := by simpa [fillItems] using hu
      exact fun _ _ => rfl
    | cons v items =>
      rw [fillItems, bind_eq_ok] at hu
      obtain ⟨t, ht, hu⟩ := hu
      intro slot hslot
      have hmem : slot ∈ slots := by
        obtain ⟨⟨rfl, -⟩, -⟩ := (fillItems_eq_ok h.tail items t u unfilled surplus).mp hu
        exact List.mem_of_mem_drop hslot
      rw [ih h.tail hu slot hslot]
      exact ((List.pairwise_cons.mp h.apart).1 slot hmem).left v s t ht

/-! ## Records -/

section
variable {slots : List (Slot Json σ)} {title : String} {start : σ} {finish : σ → Except Fault β}

theorem readRecord_object (members : List (String × Json)) :
    readRecord title slots start finish (.object members) =
      fillMembers slots (keyed members) start >>= finish := rfl

/-- A record without surplus items is ended well. -/
theorem readRecord_list (items : List Json) :
    readRecord title slots start finish (.list items) =
      (fillItems slots items start >>= fun (s, unfilled, surplus) =>
        if unfilled.isEmpty then
          if surplus.isEmpty then finish s
          else .error (.wrongLength items.length "fewer elements in array")
        else (unfilled.findIdx? fun slot => !slot.mayEndBefore).elim (finish s) fun i =>
          .error (.wrongLength (items.length + i) (recordLength title slots.length))) := by
  have hshape : Readable.shape (Json.list items) = .list items .closed := rfl
  rw [readRecord, hshape]
  apply bind_congr
  rintro ⟨s, unfilled, surplus⟩
  cases unfilled with
  | nil => cases surplus <;> rfl
  | cons slot rest =>
    cases hfirst : (slot :: rest).findIdx? fun slot => !slot.mayEndBefore <;>
      simp [hfirst, Ending.closeList]

/-- A list is a record if its items fill slots, without a surplus of items and without a slot that
needs one. -/
theorem readRecord_list_eq_ok (items : List Json) (b : β) :
    readRecord title slots start finish (.list items) = .ok b ↔ ∃ s unfilled surplus,
      fillItems slots items start = .ok (s, unfilled, surplus) ∧
        (unfilled = [] → surplus = []) ∧ (∀ slot ∈ unfilled, slot.mayEndBefore = true) ∧
        finish s = .ok b := by
  have hends (unfilled : List (Slot Json σ)) :
      ((unfilled.findIdx? fun slot => !slot.mayEndBefore) = none) ↔
        ∀ slot ∈ unfilled, slot.mayEndBefore = true := by
    rw [List.findIdx?_eq_none_iff]
    simp
  rw [readRecord_list, bind_eq_ok, Prod.exists]
  refine exists_congr fun s => ?_
  rw [Prod.exists]
  refine exists_congr fun unfilled => exists_congr fun surplus => and_congr_right fun _ => ?_
  rw [← hends]
  cases unfilled with
  | nil => cases surplus <;> simp
  | cons slot rest =>
    cases hfirst : (slot :: rest).findIdx? fun slot => !slot.mayEndBefore <;> simp [hfirst]

theorem hasRoom_iff_isRecord (hstart : ∀ slot ∈ slots, ¬slot.isFilled start)
    (members : List (String × Json)) :
    HasRoom slots members start ↔ IsRecord (slots.map Slot.name) (.object members) := by
  rw [HasRoom, IsRecord, List.forall_mem_map]
  exact forall₂_congr fun slot hslot => by rw [if_neg (hstart slot hslot)]

section
variable (h : Independent slots) (hstart : ∀ slot ∈ slots, ¬slot.isFilled start)
  (hfinish : ∀ slot ∈ slots, slot.mayEndBefore = false →
    ∀ s b, finish s = .ok b → slot.isFilled s)
include h hstart hfinish

/-- No slot that is left over by a list needs an item, if the form can be finished. -/
theorem mayEndBefore_of_finish {items : List Json} {s : σ} {unfilled : List (Slot Json σ)}
    {surplus : List Json} (hs : fillItems slots items start = .ok (s, unfilled, surplus)) {b : β}
    (hb : finish s = .ok b) : ∀ slot ∈ unfilled, slot.mayEndBefore = true := by
  intro slot hslot
  obtain ⟨⟨rfl, -⟩, -⟩ := (fillItems_eq_ok h items start s unfilled surplus).mp hs
  have hmem := List.mem_of_mem_drop hslot
  by_contra hneeded
  have hfilled := hfinish slot hmem (Bool.not_eq_true _ ▸ hneeded) s b hb
  rw [isFilled_of_fillItems h hs slot hslot] at hfilled
  exact hstart slot hmem hfilled

/-- A record is read from its fields, whichever way they are written. -/
theorem readRecord_eq_ok (raw : Json) (b : β) :
    readRecord title slots start finish raw = .ok b ↔
      IsRecord (slots.map Slot.name) raw ∧
      ∃ s, fillFields (field? (slots.map Slot.name) raw) slots start = .ok s ∧
        finish s = .ok b := by
  cases raw with
  | null | bool | number | text => simp [readRecord, Readable.shape, valueShape, IsRecord]
  | object members =>
    simp only [readRecord_object, bind_eq_ok, fillMembers_eq_ok h, hasRoom_iff_isRecord hstart,
      and_assoc, exists_and_left]
    rfl
  | list items =>
    rw [readRecord_list_eq_ok, IsRecord, List.length_map]
    constructor
    · rintro ⟨s, unfilled, surplus, hs, hsurplus, -, hb⟩
      obtain ⟨⟨rfl, rfl⟩, hfields⟩ := (fillItems_eq_ok h items start s unfilled surplus).mp hs
      rw [List.drop_eq_nil_iff, List.drop_eq_nil_iff] at hsurplus
      exact ⟨(Nat.le_total _ _).elim id hsurplus, s, hfields, hb⟩
    · rintro ⟨hle, s, hfields, hb⟩
      have hs := (fillItems_eq_ok h items start s _ _).mpr ⟨⟨rfl, rfl⟩, hfields⟩
      exact ⟨s, _, _, hs, fun _ => List.drop_eq_nil_of_le hle,
        mayEndBefore_of_finish h hstart hfinish hs hb, hb⟩

end

end

end Alerting.Json
