import Alerting.Proofs.Json.Record

/-!
# Fields and the values in them

What the readers of plain values accept, and how the fields of a record come into
a form that starts out empty.
-/
namespace Alerting.Json
open Fallible

variable {σ β : Type}

/-! ## Plain values -/

theorem readString_eq_ok {v : Json} {s : String} : readString v = .ok s ↔ v = .text s := by
  cases v <;> simp [readString, Readable.shape, valueShape]

theorem readFloat_eq_ok {v : Json} {x : Float} :
    readFloat v = .ok x ↔ ∃ n, v = .number n ∧ n.toFloat = x := by
  cases v <;> simp [readFloat, Readable.shape, valueShape]

theorem readOption_eq_ok {read : Json → Except Fault β} {v : Json} {o : Option β} :
    readOption read v = .ok o ↔
      v = .null ∧ o = none ∨ v ≠ .null ∧ ∃ b, read v = .ok b ∧ o = some b := by
  cases v <;> simp [readOption, Readable.shape, valueShape, map_eq_ok, @eq_comm _ o]

theorem readList_eq_ok {read : Json → Except Fault β} {v : Json} {bs : List β} :
    readList read v = .ok bs ↔ ∃ items, v = .list items ∧ items.map read = bs.map .ok := by
  cases v with
  | list items =>
    have hread : readList read (.list items) = items.mapM read >>= fun bs => .ok bs := rfl
    simp [hread, bind_eq_ok, mapM_eq_ok]
  | null | bool | number | text | object => simp [readList, Readable.shape, valueShape]

/-- A list of values that are all written in one way. -/
theorem readList_eq_ok_of {γ : Type} {read : Json → Except Fault β} {write : γ → Json}
    {value : γ → β} (hread : ∀ v b, read v = .ok b ↔ ∃ c, v = write c ∧ value c = b) {v : Json}
    {bs : List β} : readList read v = .ok bs ↔
      ∃ cs : List γ, v = .list (cs.map write) ∧ cs.map value = bs := by
  have hitems (items : List Json) : items.map read = bs.map .ok ↔
      ∃ cs : List γ, items = cs.map write ∧ cs.map value = bs := by
    induction items generalizing bs with
    | nil => cases bs <;> simp [eq_comm]
    | cons item items ih =>
      cases bs with
      | nil => simp
      | cons b bs =>
        simp only [List.map_cons, List.cons.injEq, hread, ih]
        constructor
        · rintro ⟨⟨c, rfl, rfl⟩, cs, rfl, rfl⟩
          exact ⟨c :: cs, rfl, rfl⟩
        · rintro ⟨_ | ⟨c, cs⟩, hcs, hbs⟩
          · cases hcs
          · obtain ⟨rfl, rfl⟩ := List.cons.inj hcs
            obtain ⟨rfl, rfl⟩ := List.cons.inj hbs
            exact ⟨⟨c, rfl, rfl⟩, cs, rfl, rfl⟩
  simp only [readList_eq_ok, hitems]
  constructor
  · rintro ⟨-, rfl, cs, rfl, hcs⟩
    exact ⟨cs, rfl, hcs⟩
  · rintro ⟨cs, rfl, hcs⟩
    exact ⟨_, rfl, cs, rfl, hcs⟩

theorem readList_readFloat_eq_ok {v : Json} {xs : List Float} :
    readList readFloat v = .ok xs ↔
      ∃ numbers : List Numeral,
        v = .list (numbers.map .number) ∧ numbers.map Numeral.toFloat = xs :=
  readList_eq_ok_of fun _ _ => readFloat_eq_ok

theorem readList_readString_eq_ok {v : Json} {ss : List String} :
    readList readString v = .ok ss ↔ v = .list (ss.map .text) := by
  have htexts : readList readString v = .ok ss ↔
      ∃ texts : List String, v = .list (texts.map .text) ∧ texts.map id = ss :=
    readList_eq_ok_of fun v s => by simp [readString_eq_ok]
  simpa using htexts

theorem readList_ok_eq_ok {v : Json} {items : List Json} :
    readList .ok v = .ok items ↔ v = .list items := by
  have hitems : readList .ok v = .ok items ↔
      ∃ items' : List Json, v = .list (items'.map id) ∧ items'.map id = items :=
    readList_eq_ok_of fun v w => by simp
  simpa using hitems

/-! ## Fields -/

def Given (read : Json → Except Fault β) (field : Option Json) (b : β) : Prop :=
  ∃ v, field = some v ∧ read v = .ok b

/-- The field reads as `b`, or it is absent and `b` stands for that. -/
def GivenOr (default : β) (read : Json → Except Fault β) (field : Option Json) (b : β) : Prop :=
  field = none ∧ b = default ∨ Given read field b

/-- What a field leaves in the form. -/
def readField (read : Json → Except Fault β) : Option Json → Except Fault (Option β)
  | none => .ok none
  | some v => (read v).map some

theorem readField_eq_some {read : Json → Except Fault β} {field : Option Json} {b : β} :
    readField read field = .ok (some b) ↔ Given read field b := by
  cases field <;> simp [readField, Given, map_eq_ok]

theorem readField_getD {read : Json → Except Fault β} {field : Option Json} {default b : β} :
    (∃ o, readField read field = .ok o ∧ o.getD default = b) ↔ GivenOr default read field b := by
  cases field <;> simp [readField, GivenOr, Given, map_eq_ok, @eq_comm _ b]

theorem readField_join {read : Json → Except Fault (Option β)} {field : Option Json}
    {o : Option β} : (∃ o', readField read field = .ok o' ∧ o'.join = o) ↔
      GivenOr none read field o := by
  rw [← readField_getD]
  apply exists_congr
  intro o'
  apply and_congr_right'
  cases o' <;> rfl

/-- The first slot keeps what its field leaves at a place `put` of the form that is still empty. -/
theorem fillFields_of {name : String} {read : Json → Except Fault β} {get : σ → Option β}
    {set : β → σ → σ} {may : Bool} (put : Option β → σ → σ)
    (hset : ∀ b s, set b s = put (some b) s) {field : String → Option Json}
    {slots : List (Slot Json σ)} {s u : σ} (hempty : put none s = s) :
    fillFields field (Slot.of name read get set may :: slots) s = .ok u ↔
      ∃ o, readField read (field name) = .ok o ∧ fillFields field slots (put o s) = .ok u := by
  have hname : (Slot.of name read get set may).name = name := rfl
  rw [fillFields, hname]
  cases field name with
  | none => simp [readField, hempty]
  | some v => cases hread : read v <;> simp [readField, Slot.of, hread, hset]

theorem fillFields_nil {field : String → Option Json} {s u : σ} :
    fillFields field ([] : List (Slot Json σ)) s = .ok u ↔ s = u := by
  simp [fillFields]

theorem required_eq_ok {name : String} {o : Option β} {b : β} :
    required name o = .ok b ↔ o = some b := by
  cases o <;> simp [required]

end Alerting.Json
