/-!
# Dictionaries with text keys

A dictionary is a list of entries with strictly increasing keys, so equal
dictionaries are equal lists and every listing comes out in key order. Keys
compare by code point, which for text is the order of its UTF-8 bytes.
-/
namespace Alerting

/-- Entries of `entries`, with `key` bound to `value`; a former value of `key` is dropped. -/
def insertEntry {α : Type} (key : String) (value : α) : List (String × α) → List (String × α)
  | [] => [(key, value)]
  | (k, v) :: rest =>
    if key < k then (key, value) :: (k, v) :: rest
    else if k < key then (k, v) :: insertEntry key value rest
    else (key, value) :: rest

/-- The same as `insertEntry`, beside the former value of `key`. -/
def exchangeEntry {α : Type} (key : String) (value : α) :
    List (String × α) → Option α × List (String × α)
  | [] => (none, [(key, value)])
  | (k, v) :: rest =>
    if key < k then (none, (key, value) :: (k, v) :: rest)
    else if k < key then
      let (former, changed) := exchangeEntry key value rest
      (former, (k, v) :: changed)
    else (some v, (key, value) :: rest)

def findEntry {α : Type} (key : String) : List (String × α) → Option α
  | [] => none
  | (k, v) :: rest => if k = key then some v else findEntry key rest

def eraseEntry {α : Type} (key : String) (entries : List (String × α)) : List (String × α) :=
  entries.filter fun e => e.1 ≠ key

/-- Keys grow strictly from the first entry to the last. -/
abbrev Ascending {α : Type} (entries : List (String × α)) : Prop :=
  entries.Pairwise fun a b => a.1 < b.1

theorem mem_insertEntry {α : Type} {key : String} {value : α} {e : String × α}
    {entries : List (String × α)} (h : e ∈ insertEntry key value entries) :
    e = (key, value) ∨ e ∈ entries := by
  induction entries with
  | nil => simpa [insertEntry] using h
  | cons head rest ih =>
    obtain ⟨k, v⟩ := head
    simp only [insertEntry] at h
    split at h
    · simpa using h
    · split at h
      · rcases List.mem_cons.mp h with h | h
        · exact .inr (by simp [h])
        · rcases ih h with h | h
          · exact .inl h
          · exact .inr (by simp [h])
      · rcases List.mem_cons.mp h with h | h
        · exact .inl h
        · exact .inr (by simp [h])

theorem ascending_insertEntry {α : Type} (key : String) (value : α)
    {entries : List (String × α)} (h : Ascending entries) :
    Ascending (insertEntry key value entries) := by
  induction entries with
  | nil => simp [insertEntry, Ascending]
  | cons head rest ih =>
    obtain ⟨k, v⟩ := head
    have hr : Ascending rest := (List.pairwise_cons.mp h).2
    have hk : ∀ e ∈ rest, k < e.1 := (List.pairwise_cons.mp h).1
    simp only [insertEntry]
    split
    · rename_i hlt
      refine List.pairwise_cons.mpr ⟨fun e he => ?_, h⟩
      rcases List.mem_cons.mp he with he | he
      · simpa [he] using hlt
      · exact String.lt_trans hlt (hk e he)
    · split
      · rename_i hlt
        refine List.pairwise_cons.mpr ⟨fun e he => ?_, ih hr⟩
        rcases mem_insertEntry he with he | he
        · simpa [he] using hlt
        · exact hk e he
      · rename_i hge hle
        have heq : key = k :=
          String.le_antisymm (String.not_lt.mp hle) (String.not_lt.mp hge)
        exact List.pairwise_cons.mpr ⟨fun e he => heq ▸ hk e he, hr⟩

theorem exchangeEntry_snd {α : Type} (key : String) (value : α) (entries : List (String × α)) :
    (exchangeEntry key value entries).2 = insertEntry key value entries := by
  induction entries with
  | nil => rfl
  | cons head rest ih =>
    obtain ⟨k, v⟩ := head
    simp only [exchangeEntry, insertEntry, ← ih]
    split
    · rfl
    · split <;> rfl

/-- A finite map from texts to values of type `α`. -/
structure Dictionary (α : Type) where
  entries : List (String × α)
  ascending : Ascending entries
deriving DecidableEq

namespace Dictionary

variable {α β : Type}

@[ext] theorem ext {d e : Dictionary α} (h : d.entries = e.entries) : d = e := by
  cases d
  cases e
  cases h
  rfl

def empty : Dictionary α := ⟨[], .nil⟩

instance : Inhabited (Dictionary α) := ⟨empty⟩

def insert (d : Dictionary α) (key : String) (value : α) : Dictionary α :=
  ⟨insertEntry key value d.entries, ascending_insertEntry key value d.ascending⟩

/-- Binds `key` to `value` and gives back the former value of `key`. -/
def exchange (d : Dictionary α) (key : String) (value : α) : Option α × Dictionary α :=
  let exchanged := exchangeEntry key value d.entries
  (exchanged.1, ⟨exchanged.2, exchangeEntry_snd key value d.entries ▸
    ascending_insertEntry key value d.ascending⟩)

def get? (d : Dictionary α) (key : String) : Option α := findEntry key d.entries

def erase (d : Dictionary α) (key : String) : Dictionary α :=
  ⟨eraseEntry key d.entries, d.ascending.filter _⟩

def contains (d : Dictionary α) (key : String) : Bool := (d.get? key).isSome

def size (d : Dictionary α) : Nat := d.entries.length

def isEmpty (d : Dictionary α) : Bool := d.entries.isEmpty

/-- The bindings of `pairs` in turn, so that the last of a key stays. -/
def ofList (pairs : List (String × α)) : Dictionary α :=
  pairs.foldl (fun d e => d.insert e.1 e.2) empty

@[simp] theorem entries_empty : (empty : Dictionary α).entries = [] := rfl

@[simp] theorem entries_insert (d : Dictionary α) (key : String) (value : α) :
    (d.insert key value).entries = insertEntry key value d.entries := rfl

end Dictionary
end Alerting
