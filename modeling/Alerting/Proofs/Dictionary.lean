import Alerting.Dictionary
import Mathlib.Data.List.Basic
import Mathlib.Data.List.Nodup

/-!
# Dictionaries by their bindings

A dictionary is determined by the value of each key, which is the one that was bound to it last. So
bindings of different keys may be made in any order, and bindings of all entries make the dictionary
again.
-/
namespace Alerting

variable {α : Type}

/-- A key past all others is put at the end. -/
theorem insertEntry_of_lt {key : String} {entries : List (String × α)}
    (h : ∀ e ∈ entries, e.1 < key) (value : α) :
    insertEntry key value entries = entries ++ [(key, value)] := by
  induction entries with
  | nil => rfl
  | cons e entries ih =>
    obtain ⟨k, v⟩ := e
    have hk : k < key := h (k, v) List.mem_cons_self
    rw [insertEntry, if_neg (String.lt_asymm hk), if_pos hk,
      ih fun e he => h e (List.mem_cons_of_mem _ he), List.cons_append]

theorem findEntry_insertEntry (key key' : String) (value : α) (entries : List (String × α)) :
    findEntry key' (insertEntry key value entries) =
      if key = key' then some value else findEntry key' entries := by
  induction entries with
  | nil => rfl
  | cons e entries ih =>
    obtain ⟨k, v⟩ := e
    by_cases hlt : key < k
    · rw [insertEntry, if_pos hlt, findEntry]
    · by_cases hgt : k < key
      · have hne : k = key' → key ≠ key' := fun h heq => String.ne_of_lt hgt (h.trans heq.symm)
        rw [insertEntry, if_neg hlt, if_pos hgt, findEntry, ih, findEntry]
        by_cases hk : k = key'
        · rw [if_pos hk, if_neg (hne hk), if_pos hk]
        · rw [if_neg hk, if_neg hk]
      · obtain rfl : key = k := String.le_antisymm (String.not_lt.mp hgt) (String.not_lt.mp hlt)
        rw [insertEntry, if_neg hlt, if_neg hgt, findEntry, findEntry]
        by_cases hk : key = key' <;> simp [hk]

theorem findEntry_eq_lookup (key : String) (entries : List (String × α)) :
    findEntry key entries = entries.lookup key := by
  induction entries with
  | nil => rfl
  | cons e entries ih =>
    obtain ⟨k, v⟩ := e
    rw [findEntry, List.lookup_cons, ih]
    by_cases hk : k = key
    · simp [hk]
    · simp [hk, beq_eq_false_iff_ne.mpr (Ne.symm hk)]

theorem nodup_keys_of_ascending {entries : List (String × α)} (h : Ascending entries) :
    (entries.map Prod.fst).Nodup := List.pairwise_map.mpr (h.imp String.ne_of_lt)

/-- Where no key comes twice, every pair is found. -/
theorem lookup_eq_some_iff_mem {key : String} {value : α} {pairs : List (String × α)}
    (h : (pairs.map Prod.fst).Nodup) : pairs.lookup key = some value ↔ (key, value) ∈ pairs := by
  rw [List.lookup_eq_some_iff]
  constructor
  · rintro ⟨before, after, rfl, -⟩
    exact List.mem_append_right _ List.mem_cons_self
  · intro hmem
    obtain ⟨before, after, rfl⟩ := List.append_of_mem hmem
    refine ⟨before, after, rfl, fun p hp => bne_iff_ne.mpr ?_⟩
    rw [List.map_append, List.map_cons, List.nodup_append] at h
    exact (h.2.2 p.1 (List.mem_map_of_mem hp) key List.mem_cons_self).symm

theorem findEntry_eq_some {key : String} {value : α} {entries : List (String × α)}
    (h : Ascending entries) : findEntry key entries = some value ↔ (key, value) ∈ entries := by
  rw [findEntry_eq_lookup, lookup_eq_some_iff_mem (nodup_keys_of_ascending h)]

/-- Entries with strictly increasing keys are determined by what is found among them. -/
theorem eq_of_findEntry_eq {entries entries' : List (String × α)} (h : Ascending entries)
    (h' : Ascending entries') (hfind : ∀ key, findEntry key entries = findEntry key entries') :
    entries = entries' := by
  have hmem (e : String × α) : e ∈ entries ↔ e ∈ entries' := by
    rw [← findEntry_eq_some h, ← findEntry_eq_some h', hfind]
  have hperm : entries.Perm entries' := by
    rw [List.perm_ext_iff_of_nodup (List.Nodup.of_map _ (nodup_keys_of_ascending h))
      (List.Nodup.of_map _ (nodup_keys_of_ascending h'))]
    exact hmem
  refine hperm.eq_of_pairwise (fun a b _ _ hab hba => ?_) h h'
  exact absurd (String.lt_trans hab hba) (String.lt_irrefl _)

namespace Dictionary

@[simp] theorem get?_insert (d : Dictionary α) (key key' : String) (value : α) :
    (d.insert key value).get? key' = if key = key' then some value else d.get? key' :=
  findEntry_insertEntry key key' value d.entries

theorem get?_ofList_singleton (key key' : String) (value : α) :
    (ofList [(key, value)]).get? key' = if key = key' then some value else none := rfl

theorem get?_eq_some {d : Dictionary α} {key : String} {value : α} :
    d.get? key = some value ↔ (key, value) ∈ d.entries := findEntry_eq_some d.ascending

theorem ext_get? {d e : Dictionary α} (h : ∀ key, d.get? key = e.get? key) : d = e :=
  ext (eq_of_findEntry_eq d.ascending e.ascending h)

theorem insert_comm (d : Dictionary α) {key key' : String} (h : key ≠ key') (value value' : α) :
    (d.insert key value).insert key' value' = (d.insert key' value').insert key value := by
  apply ext_get?
  intro k
  by_cases hk : key = k
  · subst hk
    simp [h.symm]
  · simp [hk]

/-- Binds each pair in turn. -/
def insertAll (d : Dictionary α) (pairs : List (String × α)) : Dictionary α :=
  pairs.foldl (fun d e => d.insert e.1 e.2) d

/-- A key has the value of the last pair that binds it, or else the value that it had. -/
theorem get?_insertAll (d : Dictionary α) (pairs : List (String × α)) (key : String) :
    (d.insertAll pairs).get? key = (pairs.reverse.lookup key).or (d.get? key) := by
  induction pairs generalizing d with
  | nil => rfl
  | cons e pairs ih =>
    obtain ⟨k, v⟩ := e
    have hstep : (d.insertAll ((k, v) :: pairs)).get? key =
        ((d.insert k v).insertAll pairs).get? key := rfl
    rw [hstep, ih, get?_insert, List.reverse_cons, List.lookup_append, Option.or_assoc]
    congr 1
    by_cases hk : k = key
    · simp [hk]
    · simp [List.lookup_cons, hk, beq_eq_false_iff_ne.mpr (Ne.symm hk)]

theorem get?_ofList (pairs : List (String × α)) (key : String) :
    (ofList pairs).get? key = pairs.reverse.lookup key := by
  have hunbound : (empty : Dictionary α).get? key = none := rfl
  have hbound := get?_insertAll empty pairs key
  rwa [hunbound, Option.or_none] at hbound

/-- Bindings of the entries of a dictionary, in any order, make the dictionary. -/
theorem ofList_of_perm {d : Dictionary α} {pairs : List (String × α)}
    (h : pairs.Perm d.entries) : ofList pairs = d := by
  have hreversed : pairs.reverse.Perm d.entries := (List.reverse_perm pairs).trans h
  have hkeys : (pairs.reverse.map Prod.fst).Nodup :=
    (hreversed.map Prod.fst).nodup_iff.mpr (nodup_keys_of_ascending d.ascending)
  apply ext_get?
  intro key
  ext value
  rw [get?_ofList, lookup_eq_some_iff_mem hkeys, hreversed.mem_iff, get?_eq_some]

def map {β : Type} (f : α → β) (d : Dictionary α) : Dictionary β :=
  ⟨d.entries.map fun e => (e.1, f e.2), List.pairwise_map.mpr d.ascending⟩

def filter (p : α → Bool) (d : Dictionary α) : Dictionary α :=
  ⟨d.entries.filter fun e => p e.2, d.ascending.filter _⟩

@[simp] theorem get?_map {β : Type} (f : α → β) (d : Dictionary α) (key : String) :
    (d.map f).get? key = (d.get? key).map f := by
  ext value
  rw [get?_eq_some, Option.map_eq_some_iff]
  simp only [get?_eq_some, map, List.mem_map, Prod.mk.injEq, Prod.exists]
  constructor
  · rintro ⟨_, former, he, rfl, rfl⟩
    exact ⟨former, he, rfl⟩
  · rintro ⟨former, he, rfl⟩
    exact ⟨key, former, he, rfl, rfl⟩

@[simp] theorem get?_filter (p : α → Bool) (d : Dictionary α) (key : String) :
    (d.filter p).get? key = (d.get? key).filter p := by
  ext value
  rw [get?_eq_some, Option.filter_eq_some_iff, get?_eq_some, filter, List.mem_filter]

end Dictionary
end Alerting
