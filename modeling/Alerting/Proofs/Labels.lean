import Alerting.Proofs.Sample.RoundTrip
import Alerting.Proofs.Text.Bytes
import Mathlib.Data.Finset.Card

/-!
# Labels by their last bindings

Whatever pairs are bound one after another, a dictionary lists each key once, in the order of its
bytes, with the value that was bound to it last. So labels with the same last values are the same,
and so are their display and their document, which reads back.
-/
namespace Alerting

variable {α : Type}

/-! ## Bindings that give back the former value -/

theorem findEntry_eq_none_of_lt {key : String} {entries : List (String × α)}
    (h : ∀ e ∈ entries, key < e.1) : findEntry key entries = none := by
  induction entries with
  | nil => rfl
  | cons e entries ih =>
    obtain ⟨k, v⟩ := e
    have hne : k ≠ key := (String.ne_of_lt (h (k, v) List.mem_cons_self)).symm
    rw [findEntry, if_neg hne, ih fun e he => h e (List.mem_cons_of_mem _ he)]

theorem exchangeEntry_fst (key : String) (value : α) {entries : List (String × α)}
    (h : Ascending entries) : (exchangeEntry key value entries).1 = findEntry key entries := by
  induction entries with
  | nil => rfl
  | cons e entries ih =>
    obtain ⟨k, v⟩ := e
    obtain ⟨hk, hentries⟩ := List.pairwise_cons.mp h
    by_cases hlt : key < k
    · -- The key comes before all others, so it is not among them.
      have hnone : findEntry key ((k, v) :: entries) = none := by
        refine findEntry_eq_none_of_lt (List.forall_mem_cons.mpr ⟨hlt, fun e he => ?_⟩)
        exact String.lt_trans hlt (hk e he)
      rw [exchangeEntry, if_pos hlt, hnone]
    · by_cases hgt : k < key
      · rw [exchangeEntry, if_neg hlt, if_pos hgt, findEntry, if_neg (String.ne_of_lt hgt),
          ← ih hentries]
      · obtain rfl : key = k := String.le_antisymm (String.not_lt.mp hgt) (String.not_lt.mp hlt)
        rw [exchangeEntry, if_neg hlt, if_neg hgt, findEntry, if_pos rfl]

namespace Dictionary

theorem exchange_eq (d : Dictionary α) (key : String) (value : α) :
    d.exchange key value = (d.get? key, d.insert key value) :=
  Prod.ext (exchangeEntry_fst key value d.ascending)
    (ext (exchangeEntry_snd key value d.entries))

/-! ## Many bindings -/

/-- Binds each pair in turn and gives back the former value for each. -/
def exchangeAll (d : Dictionary α) : List (String × α) → List (Option α) × Dictionary α
  | [] => ([], d)
  | (key, value) :: pairs =>
    let (former, changed) := d.exchange key value
    let (formers, last) := changed.exchangeAll pairs
    (former :: formers, last)

theorem mem_entries_ofList {pairs : List (String × α)} (e : String × α) :
    e ∈ (ofList pairs).entries ↔ pairs.reverse.lookup e.1 = some e.2 := by
  rw [← get?_ofList, get?_eq_some]

theorem exchangeAll_eq (d : Dictionary α) (pairs : List (String × α)) :
    d.exchangeAll pairs =
      (pairs.mapIdx fun i e => (d.insertAll (pairs.take i)).get? e.1, d.insertAll pairs) := by
  induction pairs generalizing d with
  | nil => rfl
  | cons e pairs ih =>
    simp only [exchangeAll, exchange_eq, ih, List.mapIdx_cons, List.take_succ_cons]
    rfl

theorem exchangeAll_empty (pairs : List (String × α)) : empty.exchangeAll pairs =
    (pairs.mapIdx fun i e => (pairs.take i).reverse.lookup e.1, ofList pairs) := by
  rw [exchangeAll_eq]
  simp only [← get?_ofList]
  rfl

theorem ofList_eq_iff {pairs pairs' : List (String × α)} : ofList pairs = ofList pairs' ↔
    ∀ key, pairs.reverse.lookup key = pairs'.reverse.lookup key := by
  simp only [← get?_ofList]
  exact ⟨fun h key => by rw [h], ext_get?⟩

/-! ## Keys -/

variable (d : Dictionary α)

theorem pairwise_bytes : d.entries.Pairwise fun e f => Text.bytes e.1 < Text.bytes f.1 :=
  d.ascending.imp Text.bytes_lt_bytes.mpr

theorem mem_keys {key : String} : key ∈ d.entries.map Prod.fst ↔ (d.get? key).isSome = true := by
  simp only [Option.isSome_iff_exists, get?_eq_some, List.mem_map, Prod.exists, exists_and_right,
    exists_eq_right]

theorem toFinset_keys_ofList (pairs : List (String × α)) :
    ((ofList pairs).entries.map Prod.fst).toFinset = (pairs.map Prod.fst).toFinset := by
  ext key
  rw [List.mem_toFinset, List.mem_toFinset, mem_keys, get?_ofList, List.lookup_isSome_iff,
    List.mem_map]
  exact exists_congr fun e => by rw [List.mem_reverse, beq_iff_eq, eq_comm]

theorem size_ofList (pairs : List (String × α)) :
    (ofList pairs).size = (pairs.map Prod.fst).toFinset.card := by
  rw [← toFinset_keys_ofList, List.toFinset_card_of_nodup
    (nodup_keys_of_ascending (ofList pairs).ascending), List.length_map, size]

end Dictionary

/-! ## Labels -/

namespace Labels
open Dictionary (ofList exchangeAll)

theorem readText_compact (labels : Labels) :
    Json.readText read labels.toJson.compact = .ok labels := by
  have hprintable : Json.Printable Json.Document.depthLimit labels.toJson :=
    labels.printable_toJson.mono (by decide)
  rw [Json.readText_eq _ hprintable (.inl rfl), read_toJson]

/-- Insertions give back the values that they replace, and the labels that they make list every key
once, in the order of its bytes, with its last value. Pairs with the same last values make the same
labels, with one display and one document, and other pairs make another document. -/
theorem ofList_canonical :
    (∀ pairs : List (String × String),
      exchangeAll .empty pairs =
        (pairs.mapIdx fun i e => (pairs.take i).reverse.lookup e.1, ofList pairs) ∧
      ((ofList pairs).entries.Pairwise fun e f => Text.bytes e.1 < Text.bytes f.1) ∧
      (∀ e, e ∈ (ofList pairs).entries ↔ pairs.reverse.lookup e.1 = some e.2) ∧
      (∀ key, (ofList pairs).get? key = pairs.reverse.lookup key) ∧
      (ofList pairs).size = (pairs.map Prod.fst).toFinset.card ∧
      Json.readText read (toJson (ofList pairs)).compact = .ok (ofList pairs)) ∧
    ∀ pairs pairs' : List (String × String),
      ((∀ key, pairs.reverse.lookup key = pairs'.reverse.lookup key) →
        ofList pairs = ofList pairs' ∧ display (ofList pairs) = display (ofList pairs') ∧
        (toJson (ofList pairs)).compact = (toJson (ofList pairs')).compact) ∧
      ((toJson (ofList pairs)).compact = (toJson (ofList pairs')).compact →
        ∀ key, pairs.reverse.lookup key = pairs'.reverse.lookup key) := by
  refine ⟨fun pairs => ⟨Dictionary.exchangeAll_empty pairs, Dictionary.pairwise_bytes _,
    Dictionary.mem_entries_ofList, Dictionary.get?_ofList pairs, Dictionary.size_ofList pairs,
    readText_compact _⟩, fun pairs pairs' => ⟨fun h => ?_, fun h => ?_⟩⟩
  · have heq := Dictionary.ofList_eq_iff.mpr h
    exact ⟨heq, congrArg display heq, congrArg (fun labels => (toJson labels).compact) heq⟩
  · have hread := readText_compact (ofList pairs)
    rw [h, readText_compact] at hread
    exact Dictionary.ofList_eq_iff.mp (Except.ok.inj hread).symm

/-! One key is bound twice, and the keys are in the order of their bytes, which is not the order of
their UTF-16 units. -/

def relabelled : List (String × String) := [("😀", "face"), ("\uffff", "last"), ("😀", "smile")]

def labelled : List (String × String) := [("\uffff", "last"), ("😀", "smile")]

theorem ofList_canonical_relabelled :
    (∀ key, relabelled.reverse.lookup key = labelled.reverse.lookup key) ∧
    exchangeAll .empty relabelled = ([none, none, some "face"], ofList labelled) ∧
    (ofList relabelled).entries = labelled ∧
    (ofList relabelled).get? "😀" = some "smile" ∧ (ofList relabelled).size = 2 ∧
    display (ofList relabelled) = display (ofList labelled) ∧
    Json.readText read (toJson (ofList relabelled)).compact = .ok (ofList labelled) := by
  obtain ⟨hpairs, hsame⟩ := ofList_canonical
  obtain ⟨hformer, -, -, hget, hsize, hread⟩ := hpairs relabelled
  have hlast (key : String) : relabelled.reverse.lookup key = labelled.reverse.lookup key := by
    simp only [relabelled, labelled, List.reverse_cons, List.reverse_nil, List.nil_append,
      List.cons_append, List.lookup_cons]
    cases key == "😀" <;> cases key == "\uffff" <;> rfl
  obtain ⟨heq, hdisplay, -⟩ := (hsame relabelled labelled).1 hlast
  refine ⟨hlast, ?_, ?_, ?_, ?_, hdisplay, ?_⟩
  · rw [hformer, heq]
    decide
  · decide
  · rw [hget]
    decide
  · rw [hsize]
    decide
  · rw [hread, heq]

end Labels
end Alerting
