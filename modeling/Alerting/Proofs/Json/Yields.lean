import Alerting.Json.Record
import Alerting.Proofs.Fallible
import Alerting.Proofs.Json.Valid

/-!
# What readers make of texts

The doubles that are read from a text are finite. A reader of a list, a dictionary, a record or a
variant passes on what is known of the readers of the parts.
-/
namespace Alerting.Json
open Fallible

variable {β σ : Type} {P : β → Prop}

/-- What `read` makes of valid trees has the property `P`. -/
def Yields (read : Draft → Except Fault β) (P : β → Prop) : Prop :=
  ∀ d, d.Valid → ∀ b, read d = .ok b → P b

/-- The slot keeps the property `I` of forms when it is filled from a valid tree. -/
def Slot.Keeps (slot : Slot Draft σ) (I : σ → Prop) : Prop :=
  ∀ d, d.Valid → ∀ s t, slot.fill d s = .ok t → I s → I t

theorem Yields.readText {read : Draft → Except Fault β} (h : Yields read P) {text : String} {b : β}
    (hb : readText read text = .ok b) : P b := by
  rw [Json.readText, bind_eq_ok] at hb
  obtain ⟨b', hread, hb⟩ := hb
  have heq : b' = b := by
    split at hb
    · cases hb
    · cases hb
      rfl
  exact heq ▸ h _ (Document.valid_ofText text) b' hread

theorem yields_true (read : Draft → Except Fault β) : Yields read fun _ => True :=
  fun _ _ _ _ => trivial

theorem yields_readFloat : Yields readFloat fun x => x.isFinite = true := by
  intro d hd x hx
  cases hd with
  | @number n hn =>
    rw [readFloat] at hx
    cases hvalue : n.value with
    | error f => simp [Readable.shape, Draft.shape, hvalue] at hx
    | ok m =>
      obtain rfl : m.toFloat = x := by simpa [Readable.shape, Draft.shape, hvalue] using hx
      exact (hn m hvalue).isFinite_toFloat
  | text s => cases hvalue : s.value <;> simp [readFloat, Readable.shape, Draft.shape, hvalue] at hx
  | _ => cases hx

theorem Yields.readOption {read : Draft → Except Fault β} (h : Yields read P) :
    Yields (readOption read) fun o => ∀ b ∈ o, P b := by
  intro d hd o ho
  rw [Json.readOption] at ho
  split at ho
  · cases ho
    simp
  · obtain ⟨b, hb, rfl⟩ := map_eq_ok.mp ho
    rintro _ ⟨⟩
    exact h d hd b hb

theorem Draft.Valid.items {d : Draft} (hd : d.Valid) {items : List Draft} {ending : Ending}
    (h : Readable.shape d = .list items ending) : ∀ item ∈ items, item.Valid := by
  cases hd with
  | list hitems =>
    obtain ⟨rfl, rfl⟩ := Shape.list.inj h
    exact hitems
  | @number n _ => cases hvalue : n.value <;> simp [Readable.shape, Draft.shape, hvalue] at h
  | text s => cases hvalue : s.value <;> simp [Readable.shape, Draft.shape, hvalue] at h
  | _ => cases h

theorem Draft.Valid.members {d : Draft} (hd : d.Valid)
    {members : List (Except Fault String × Draft)} {ending : Ending}
    (h : Readable.shape d = .object members ending) : ∀ m ∈ members, m.2.Valid := by
  cases hd with
  | object hmembers =>
    obtain ⟨rfl, rfl⟩ := Shape.object.inj h
    exact List.forall_mem_map.mpr hmembers
  | @number n _ => cases hvalue : n.value <;> simp [Readable.shape, Draft.shape, hvalue] at h
  | text s => cases hvalue : s.value <;> simp [Readable.shape, Draft.shape, hvalue] at h
  | _ => cases h

theorem Yields.mapM {read : Draft → Except Fault β} (h : Yields read P) {items : List Draft}
    (hitems : ∀ item ∈ items, item.Valid) {bs : List β} (hbs : items.mapM read = .ok bs) :
    ∀ b ∈ bs, P b := by
  rw [mapM_eq_ok] at hbs
  intro b hb
  have hmem : Except.ok b ∈ items.map read := hbs ▸ List.mem_map_of_mem hb
  obtain ⟨item, hitem, hread⟩ := List.mem_map.mp hmem
  exact h item (hitems item hitem) b hread

theorem Yields.readList {read : Draft → Except Fault β} (h : Yields read P) :
    Yields (readList read) fun bs => ∀ b ∈ bs, P b := by
  intro d hd bs hbs
  rw [Json.readList] at hbs
  split at hbs
  · rename_i items ending hshape
    obtain ⟨values, hvalues, hbs⟩ := bind_eq_ok.mp hbs
    obtain ⟨-, -, hbs⟩ := bind_eq_ok.mp hbs
    cases hbs
    exact h.mapM (hd.items hshape) hvalues
  · cases hbs

theorem Yields.readEntries {read : Draft → Except Fault β} (h : Yields read P)
    {members : List (Except Fault String × Draft)} (hmembers : ∀ m ∈ members, m.2.Valid)
    {done d : Dictionary β} (hd : readEntries read members done = .ok d)
    (hdone : ∀ e ∈ done.entries, P e.2) : ∀ e ∈ d.entries, P e.2 := by
  induction members generalizing done with
  | nil =>
    cases hd
    exact hdone
  | cons m members ih =>
    obtain ⟨key, x⟩ := m
    obtain ⟨hx, hrest⟩ := List.forall_mem_cons.mp hmembers
    obtain ⟨name, -, hd⟩ := bind_eq_ok.mp hd
    obtain ⟨value, hvalue, hd⟩ := bind_eq_ok.mp hd
    refine ih hrest hd fun e he => ?_
    rcases mem_insertEntry he with rfl | he
    · exact h x hx value hvalue
    · exact hdone e he

theorem Yields.readDictionary {read : Draft → Except Fault β} (h : Yields read P) :
    Yields (readDictionary read) fun d => ∀ e ∈ d.entries, P e.2 := by
  intro x hx d hd
  rw [Json.readDictionary] at hd
  split at hd
  · rename_i members ending hshape
    obtain ⟨entries, hentries, hd⟩ := bind_eq_ok.mp hd
    obtain ⟨-, -, hd⟩ := bind_eq_ok.mp hd
    cases hd
    exact h.readEntries (hx.members hshape) hentries (List.forall_mem_nil _)
  · cases hd

/-! ## Records -/

section
variable {I : σ → Prop} {slots : List (Slot Draft σ)} (hslots : ∀ slot ∈ slots, slot.Keeps I)
include hslots

theorem keeps_fillMembers {members : List (Except Fault String × Draft)}
    (hmembers : ∀ m ∈ members, m.2.Valid) {s t : σ} (ht : fillMembers slots members s = .ok t)
    (hs : I s) : I t := by
  induction members generalizing s with
  | nil =>
    cases ht
    exact hs
  | cons m members ih =>
    obtain ⟨key, x⟩ := m
    obtain ⟨hx, hrest⟩ := List.forall_mem_cons.mp hmembers
    obtain ⟨name, -, ht⟩ := bind_eq_ok.mp ht
    split at ht
    · obtain ⟨-, -, ht⟩ := bind_eq_ok.mp ht
      exact ih hrest ht hs
    · rename_i slot hfind
      split at ht
      · cases ht
      · obtain ⟨u, hu, ht⟩ := bind_eq_ok.mp ht
        exact ih hrest ht (hslots slot (List.mem_of_find?_eq_some hfind) x hx s u hu hs)

theorem keeps_fillItems {items : List Draft} (hitems : ∀ item ∈ items, item.Valid) {s t : σ}
    {unfilled : List (Slot Draft σ)} {surplus : List Draft}
    (ht : fillItems slots items s = .ok (t, unfilled, surplus)) (hs : I s) : I t := by
  induction slots generalizing items s with
  | nil =>
    cases items <;> cases ht <;> exact hs
  | cons slot slots ih =>
    cases items with
    | nil =>
      cases ht
      exact hs
    | cons x items =>
      obtain ⟨hslot, hslots⟩ := List.forall_mem_cons.mp hslots
      obtain ⟨hx, hitems⟩ := List.forall_mem_cons.mp hitems
      obtain ⟨u, hu, ht⟩ := bind_eq_ok.mp ht
      exact ih hslots hitems ht (hslot x hx s u hu hs)

theorem yields_readRecord {start : σ} (hstart : I start) {finish : σ → Except Fault β}
    (hfinish : ∀ s b, finish s = .ok b → I s → P b) (title : String) :
    Yields (readRecord title slots start finish) P := by
  intro d hd b hb
  rw [readRecord] at hb
  split at hb
  · rename_i members ending hshape
    obtain ⟨s, hs, hb⟩ := bind_eq_ok.mp hb
    obtain ⟨-, -, hb⟩ := bind_eq_ok.mp hb
    exact hfinish s b hb (keeps_fillMembers hslots (hd.members hshape) hs hstart)
  · rename_i items ending hshape
    obtain ⟨⟨s, unfilled, surplus⟩, hs, hb⟩ := bind_eq_ok.mp hb
    have hkept := keeps_fillItems hslots (hd.items hshape) hs hstart
    suffices hb : finish s = .ok b from hfinish s b hb hkept
    dsimp only at hb
    split at hb
    · obtain ⟨-, -, hb⟩ := bind_eq_ok.mp hb
      exact hb
    · obtain ⟨-, -, hb⟩ := bind_eq_ok.mp hb
      split at hb
      · cases hb
      · exact hb
  · cases hb

end

theorem Yields.keeps {read : Draft → Except Fault β} (h : Yields read P) {I : σ → Prop}
    {set : β → σ → σ} (hset : ∀ b s, P b → I s → I (set b s)) (name : String) (get : σ → Option β)
    (may : Bool) : (Slot.of name read get set may).Keeps I := by
  intro d hd s t ht hs
  obtain ⟨b, hb, rfl⟩ := map_eq_ok.mp ht
  exact hset b s (h d hd b hb) hs

/-! ## Variants -/

theorem yields_readVariant {read : String → Option Draft → Except Fault β}
    (h : ∀ name content, (∀ d ∈ content, d.Valid) → ∀ b, read name content = .ok b → P b) :
    Yields (readVariant read) P := by
  intro d hd b hb
  cases hd with
  | text s =>
    obtain ⟨name, -, hb⟩ := bind_eq_ok.mp hb
    exact h name none (by simp) b hb
  | @object deep members ending hmembers =>
    cases members with
    | nil => cases hb
    | cons m more =>
      obtain ⟨key, content⟩ := m
      have hcontent : content.Valid := hmembers (key, content) List.mem_cons_self
      rw [readVariant] at hb
      split at hb
      · obtain ⟨name, -, hb⟩ := bind_eq_ok.mp hb
        obtain ⟨b', hread, hb⟩ := bind_eq_ok.mp hb
        have heq : b' = b := by
          split at hb
          · cases hb
            rfl
          · cases hb
          · cases hb
        exact heq ▸ h name (some content) (by simpa using hcontent) b' hread
      · cases hb
  | _ => cases hb

end Alerting.Json
