import Alerting.Json.Draft
import Alerting.Proofs.Dictionary
import Alerting.Proofs.Json.Number
import Alerting.Proofs.Json.Text

/-!
# Compact texts read back

The compact text of a value is cut into its tokens, the tokens grow into its tree,
and the tree is the value.
-/
namespace Alerting.Json
open Fallible Token

/-- A value that a document may hold, with at most `depth` lists and objects inside one another. -/
inductive Sound : Nat → Json → Prop
  | null (depth : Nat) : Sound depth .null
  | bool (depth : Nat) (b : Bool) : Sound depth (.bool b)
  | number (depth : Nat) {n : Numeral} (h : n.Valid) : Sound depth (.number n)
  | text (depth : Nat) (s : String) : Sound depth (.text s)
  | list {depth : Nat} {items : List Json} (h : ∀ v ∈ items, Sound depth v) :
    Sound (depth + 1) (.list items)
  | object {depth : Nat} {members : List (String × Json)} (hkeys : Ascending members)
    (h : ∀ m ∈ members, Sound depth m.2) : Sound (depth + 1) (.object members)

/-- A value that can be written: its numbers are valid and at most `depth` lists and objects are
inside one another. The members of objects may come in any order. -/
inductive Printable : Nat → Json → Prop
  | null (depth : Nat) : Printable depth .null
  | bool (depth : Nat) (b : Bool) : Printable depth (.bool b)
  | number (depth : Nat) {n : Numeral} (h : n.Valid) : Printable depth (.number n)
  | text (depth : Nat) (s : String) : Printable depth (.text s)
  | list {depth : Nat} {items : List Json} (h : ∀ v ∈ items, Printable depth v) :
    Printable (depth + 1) (.list items)
  | object {depth : Nat} {members : List (String × Json)} (h : ∀ m ∈ members, Printable depth m.2) :
    Printable (depth + 1) (.object members)

theorem Sound.printable {depth : Nat} {v : Json} (h : Sound depth v) : Printable depth v := by
  induction h with
  | null depth => exact .null depth
  | bool depth b => exact .bool depth b
  | number depth hn => exact .number depth hn
  | text depth s => exact .text depth s
  | list _ ih => exact .list ih
  | object _ _ ih => exact .object ih

theorem Printable.mono {depth depth' : Nat} {v : Json} (h : Printable depth v)
    (hdepth : depth ≤ depth') : Printable depth' v := by
  induction h generalizing depth' with
  | null => exact .null depth'
  | bool _ b => exact .bool depth' b
  | number _ hn => exact .number depth' hn
  | text _ s => exact .text depth' s
  | list _ ih =>
    obtain ⟨more, rfl⟩ := Nat.exists_eq_add_of_le' (Nat.le_of_add_left_le hdepth)
    exact .list fun v hv => ih v hv (by omega)
  | object _ ih =>
    obtain ⟨more, rfl⟩ := Nat.exists_eq_add_of_le' (Nat.le_of_add_left_le hdepth)
    exact .object fun m hm => ih m hm (by omega)

/-- An object whose keys are known. -/
theorem Sound.object_of_keys {depth : Nat} {members : List (String × Json)} (keys : List String)
    (hkeys : keys.Pairwise (· < ·)) (hmembers : members.map Prod.fst = keys)
    (h : ∀ m ∈ members, Sound depth m.2) : Sound (depth + 1) (.object members) := by
  subst hmembers
  exact .object (List.pairwise_map.mp hkeys) h

/-! ## Tokens -/

mutual

def tokens : Json → List Token
  | .null => [.null]
  | .bool b => [.bool b]
  | .number n => [.number ⟨.ok n, .ok ()⟩]
  | .text s => [.text ⟨.ok s, .ok ()⟩]
  | .list items => .openList :: itemTokens items
  | .object members => .openObject :: memberTokens members

/-- The tokens of items and of the end of their list. -/
def itemTokens : List Json → List Token
  | [] => [.closeList]
  | [v] => v.tokens ++ [.closeList]
  | v :: w :: rest => v.tokens ++ .comma :: itemTokens (w :: rest)

/-- The tokens of members and of the end of their object. -/
def memberTokens : List (String × Json) → List Token
  | [] => [.closeObject]
  | [(k, v)] => .text ⟨.ok k, .ok ()⟩ :: .colon :: (v.tokens ++ [.closeObject])
  | (k, v) :: m :: rest =>
    .text ⟨.ok k, .ok ()⟩ :: .colon :: (v.tokens ++ .comma :: memberTokens (m :: rest))

end

theorem ends_cons {c : Char} (hc : c.isDigit = false ∧ c ≠ '.' ∧ c ≠ 'e' ∧ c ≠ 'E')
    (rest : List Char) : Ends (c :: rest) := by
  rintro _ ⟨⟩
  exact hc

theorem scan_itemChars {items : List Json}
    (h : ∀ v ∈ items, ∀ rest, Ends rest → scan (v.chars ++ rest) = v.tokens ++ scan rest)
    (rest : List Char) : scan (itemChars items ++ rest) = itemTokens items ++ scan rest := by
  have hclose : scan (']' :: rest) = .closeList :: scan rest := by rw [scan]; rfl
  have hcomma (more : List Char) : scan (',' :: more) = .comma :: scan more := by rw [scan]; rfl
  induction items with
  | nil => exact hclose
  | cons v items ih =>
    have hv := h v List.mem_cons_self
    cases items with
    | nil =>
      rw [itemChars, itemTokens, List.append_assoc, List.append_assoc, List.singleton_append,
        List.singleton_append, hv _ (ends_cons (by decide) _), hclose]
    | cons w items =>
      rw [itemChars, itemTokens, List.append_assoc, List.append_assoc, List.cons_append,
        List.cons_append, hv _ (ends_cons (by decide) _), hcomma,
        ih fun u hu => h u (List.mem_cons_of_mem v hu)]

theorem scan_memberChars {members : List (String × Json)}
    (h : ∀ m ∈ members, ∀ rest, Ends rest → scan (m.2.chars ++ rest) = m.2.tokens ++ scan rest)
    (rest : List Char) :
    scan (memberChars members ++ rest) = memberTokens members ++ scan rest := by
  have hclose : scan ('\x7d' :: rest) = .closeObject :: scan rest := by rw [scan]; rfl
  have hcomma (more : List Char) : scan (',' :: more) = .comma :: scan more := by rw [scan]; rfl
  have hcolon (more : List Char) : scan (':' :: more) = .colon :: scan more := by rw [scan]; rfl
  induction members with
  | nil => exact hclose
  | cons m members ih =>
    obtain ⟨k, v⟩ := m
    have hv := h (k, v) List.mem_cons_self
    cases members with
    | nil =>
      rw [memberChars, memberTokens, List.append_assoc, scan_textChars, List.cons_append, hcolon,
        List.append_assoc, List.singleton_append, hv _ (ends_cons (by decide) _), hclose]
      simp
    | cons m members =>
      rw [memberChars, memberTokens, List.append_assoc, scan_textChars, List.cons_append, hcolon,
        List.append_assoc, List.cons_append, hv _ (ends_cons (by decide) _), hcomma,
        ih fun u hu => h u (List.mem_cons_of_mem _ hu)]
      simp

/-- The compact form of a value is cut into its tokens. -/
theorem scan_value {depth : Nat} {v : Json} (hv : Printable depth v) (rest : List Char)
    (hrest : Ends rest) : scan (v.chars ++ rest) = v.tokens ++ scan rest := by
  induction hv generalizing rest with
  | null =>
    rw [chars, tokens, List.cons_append, scan]
    rfl
  | bool _ b =>
    rw [chars, tokens]
    cases b with
    | true =>
      rw [wordChars, if_pos rfl, List.cons_append, scan]
      rfl
    | false =>
      rw [wordChars, if_neg (by decide), List.cons_append, scan]
      rfl
  | number _ hn => rw [chars, tokens, scan_chars hn hrest, List.singleton_append]
  | text _ s => rw [chars, tokens, scan_textChars, List.singleton_append]
  | list h ih =>
    have hopen (more : List Char) : scan ('[' :: more) = .openList :: scan more := by rw [scan]; rfl
    rw [chars, tokens, List.cons_append, hopen, scan_itemChars ih, List.cons_append]
  | object h ih =>
    have hopen (more : List Char) : scan ('\x7b' :: more) = .openObject :: scan more := by
      rw [scan]; rfl
    rw [chars, tokens, List.cons_append, hopen, scan_memberChars ih, List.cons_append]

/-! ## Trees -/

mutual

def draft : Json → Draft
  | .null => .null
  | .bool b => .bool b
  | .number n => .number ⟨.ok n, .ok ()⟩
  | .text s => .text ⟨.ok s, .ok ()⟩
  | .list items => .list false (itemDrafts items) .closed
  | .object members => .object false (memberDrafts members) .closed

def itemDrafts : List Json → List Draft
  | [] => []
  | v :: rest => v.draft :: itemDrafts rest

def memberDrafts : List (String × Json) → List (Draft × Draft)
  | [] => []
  | (k, v) :: rest => (.text ⟨.ok k, .ok ()⟩, v.draft) :: memberDrafts rest

end

open Document

/-- The tokens of items do not begin with the end of their list. -/
theorem exists_itemTokens {items : List Json} (hne : items ≠ []) :
    ∃ t ts, itemTokens items = t :: ts ∧ t ≠ .closeList := by
  have hvalue (v : Json) : ∃ t ts, v.tokens = t :: ts ∧ t ≠ .closeList := by
    cases v <;> exact ⟨_, _, rfl, by simp⟩
  match items with
  | [v] =>
    obtain ⟨t, ts, hts, ht⟩ := hvalue v
    exact ⟨t, _, by rw [itemTokens, hts, List.cons_append], ht⟩
  | v :: w :: rest =>
    obtain ⟨t, ts, hts, ht⟩ := hvalue v
    exact ⟨t, _, by rw [itemTokens, hts, List.cons_append], ht⟩

theorem value_itemTokens {items : List Json} (deep : Bool) (frames : List Frame)
    (h : ∀ v ∈ items, ∀ done ts,
      value (.list deep done :: frames) (v.tokens ++ ts) =
        after (.list deep done :: frames) v.draft ts)
    (hne : items ≠ []) (done : List Draft) (ts : List Token) :
    value (.list deep done :: frames) (itemTokens items ++ ts) =
      after frames (.list deep (done.reverse ++ itemDrafts items) .closed) ts := by
  induction items generalizing done with
  | nil => exact absurd rfl hne
  | cons v items ih =>
    have hv := h v List.mem_cons_self
    have hdone : (v.draft :: done).reverse = done.reverse ++ [v.draft] := List.reverse_cons
    cases items with
    | nil =>
      rw [itemTokens, List.append_assoc, hv, List.singleton_append, after, hdone]
      rfl
    | cons w items =>
      obtain ⟨t, more, htokens, ht⟩ := exists_itemTokens (List.cons_ne_nil w items)
      have hnext := ih (fun u hu => h u (List.mem_cons_of_mem v hu)) (List.cons_ne_nil w items)
        (v.draft :: done)
      rw [htokens, hdone, List.append_assoc, List.cons_append] at hnext
      rw [itemTokens, List.append_assoc, List.cons_append, hv, htokens, List.cons_append, after,
        hnext]
      · rfl
      · exact ht

theorem value_memberTokens {members : List (String × Json)} (deep : Bool) (frames : List Frame)
    (h : ∀ m ∈ members, ∀ done key ts, value (.object deep done key :: frames) (m.2.tokens ++ ts) =
      after (.object deep done key :: frames) m.2.draft ts)
    (hne : members ≠ []) (done : List (Draft × Draft)) (ts : List Token) :
    member frames deep done (memberTokens members ++ ts) =
      after frames (.object deep (done.reverse ++ memberDrafts members) .closed) ts := by
  induction members generalizing done with
  | nil => exact absurd rfl hne
  | cons m members ih =>
    obtain ⟨k, v⟩ := m
    have hv := h (k, v) List.mem_cons_self
    have hdone (key : Draft) :
        ((key, v.draft) :: done).reverse = done.reverse ++ [(key, v.draft)] :=
      List.reverse_cons
    cases members with
    | nil =>
      rw [memberTokens, List.cons_append, List.cons_append, member, List.append_assoc, hv,
        List.singleton_append, after, hdone]
      rfl
    | cons m members =>
      have hnext := ih (fun u hu => h u (List.mem_cons_of_mem _ hu)) (List.cons_ne_nil m members)
        ((.text ⟨.ok k, .ok ()⟩, v.draft) :: done)
      obtain ⟨t, more, htokens, ht⟩ : ∃ t more, memberTokens (m :: members) = t :: more ∧
          t ≠ .closeObject := by
        cases members <;> exact ⟨_, _, rfl, by simp⟩
      rw [htokens, hdone, List.append_assoc, List.cons_append] at hnext
      rw [memberTokens, List.cons_append, List.cons_append, member, List.append_assoc,
        List.cons_append, hv, htokens, List.cons_append, after, hnext]
      · rfl
      · exact ht

theorem isTooDeep_eq_false {frames : List Frame} {depth : Nat}
    (h : frames.length + (depth + 1) ≤ depthLimit) : isTooDeep frames = false := by
  rw [isTooDeep, decide_eq_false_iff_not]
  omega

/-- The tokens of a value grow into its tree. -/
theorem value_tokens {depth : Nat} {v : Json} (hv : Printable depth v) (frames : List Frame)
    (hdepth : frames.length + depth ≤ depthLimit) (ts : List Token) :
    value frames (v.tokens ++ ts) = after frames v.draft ts := by
  induction hv generalizing frames ts with
  | null | bool | number | text => rw [tokens, List.singleton_append, value, draft]
  | @list depth items h ih =>
    rw [tokens, draft, List.cons_append]
    by_cases hne : items = []
    · subst hne
      rw [itemTokens, List.singleton_append, value, isTooDeep_eq_false hdepth]
      rfl
    · obtain ⟨t, more, htokens, ht⟩ := exists_itemTokens hne
      have hitems := value_itemTokens false frames
        (fun v hv done ts => ih v hv _ (by rw [List.length_cons]; omega) ts) hne [] ts
      rw [htokens, List.cons_append] at hitems ⊢
      rw [value, isTooDeep_eq_false hdepth, hitems]
      · rfl
      · exact ht
  | @object depth members h ih =>
    rw [tokens, draft, List.cons_append]
    cases members with
    | nil =>
      rw [memberTokens, List.singleton_append, value, isTooDeep_eq_false hdepth]
      rfl
    | cons m members =>
      obtain ⟨t, more, htokens, ht⟩ : ∃ t more, memberTokens (m :: members) = t :: more ∧
          t ≠ .closeObject := by
        cases members <;> exact ⟨_, _, rfl, by simp⟩
      have hmembers := value_memberTokens false frames
        (fun m hm done key ts => ih m hm _ (by rw [List.length_cons]; omega) ts)
        (List.cons_ne_nil m members) [] ts
      rw [htokens, List.cons_append] at hmembers ⊢
      rw [value, isTooDeep_eq_false hdepth, hmembers]
      · rfl
      · exact ht

/-! ## Values -/

theorem jsonItems_itemDrafts {items : List Json} (h : ∀ v ∈ items, v.draft.json = .ok v) :
    Draft.jsonItems (itemDrafts items) = .ok items := by
  induction items with
  | nil => rfl
  | cons v items ih =>
    rw [itemDrafts, Draft.jsonItems, h v List.mem_cons_self,
      ih fun w hw => h w (List.mem_cons_of_mem v hw)]
    rfl

theorem jsonMembers_memberDrafts {members : List (String × Json)}
    (h : ∀ m ∈ members, m.2.draft.json = .ok m.2) (done : List (String × Json))
    (hkeys : Ascending (done ++ members)) :
    Draft.jsonMembers (memberDrafts members) done = .ok (done ++ members) := by
  induction members generalizing done with
  | nil => rw [memberDrafts, Draft.jsonMembers, List.append_nil]
  | cons m members ih =>
    obtain ⟨k, v⟩ := m
    have hlast : ∀ e ∈ done, e.1 < k := by
      intro e he
      exact (List.pairwise_append.mp hkeys).2.2 e he (k, v) List.mem_cons_self
    have hsplit : done ++ (k, v) :: members = done ++ [(k, v)] ++ members := by simp
    rw [hsplit] at hkeys ⊢
    rw [memberDrafts, Draft.jsonMembers, h (k, v) List.mem_cons_self]
    simp only [Draft.key, ok_bind, insertEntry_of_lt hlast]
    exact ih (fun m hm => h m (List.mem_cons_of_mem _ hm)) _ hkeys

/-- The tree of a value is the value. -/
theorem json_draft {depth : Nat} {v : Json} (hv : Sound depth v) : v.draft.json = .ok v := by
  induction hv with
  | null | bool | number | text => rfl
  | list h ih =>
    rw [draft, Draft.json, jsonItems_itemDrafts ih]
    rfl
  | object hkeys h ih =>
    rw [draft, Draft.json, jsonMembers_memberDrafts ih [] hkeys]
    rfl

/-- A text that is cut into the tokens of a value has the tree of the value. -/
theorem document_of_scan {v : Json} (hv : Printable depthLimit v) {text : List Char}
    (hscan : scan text = v.tokens) : Document.ofText (String.ofList text) = ⟨v.draft, false⟩ := by
  have hgrown := value_tokens hv [] (by rw [List.length_nil]; omega) []
  rw [List.append_nil] at hgrown
  rw [Document.ofText, String.toList_ofList, hscan, hgrown]
  rfl

theorem document_compact {v : Json} (hv : Printable depthLimit v) :
    Document.ofText v.compact = ⟨v.draft, false⟩ := by
  have hends := scan_value hv [] (fun c hc => by cases hc)
  rw [List.append_nil, scan, List.append_nil] at hends
  exact document_of_scan hv hends

/-- The compact text of a value reads back as the value. -/
theorem ofText_compact {v : Json} (hv : Sound depthLimit v) : ofText v.compact = .ok v := by
  rw [ofText, readText, document_compact hv.printable]
  simp only [json_draft hv, ok_bind]
  rfl

end Alerting.Json
