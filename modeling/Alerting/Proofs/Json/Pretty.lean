import Alerting.Proofs.Json.Compact

/-!
# Pretty texts read back

The pretty text of a value is cut into the same tokens as the compact one, because new lines and
indents lie between tokens. So both texts have the same tree.
-/
namespace Alerting.Json
open Token

/-- A new line ends a number. -/
theorem ends_lineAt (level : Nat) (rest : List Char) : Ends (lineAt level ++ rest) :=
  ends_cons (by decide) _

@[simp] theorem scan_lineAt (level : Nat) (rest : List Char) :
    scan (lineAt level ++ rest) = scan rest := by
  have hblanks (n : Nat) : scan (List.replicate n ' ' ++ rest) = scan rest := by
    induction n with
    | zero => rfl
    | succ n ih =>
      rw [List.replicate_succ, List.cons_append, scan, if_pos (by decide), ih]
  rw [lineAt, List.cons_append, scan, if_pos (by decide), hblanks]

theorem scan_prettyItems {items : List Json} (hne : items ≠ []) (level : Nat)
    (h : ∀ v ∈ items, ∀ rest, Ends rest →
      scan (v.prettyChars (level + 1) ++ rest) = v.tokens ++ scan rest) (rest : List Char) :
    scan (prettyItems level items ++ rest) = itemTokens items ++ scan rest := by
  have hclose : scan (']' :: rest) = .closeList :: scan rest := by rw [scan]; rfl
  have hcomma (more : List Char) : scan (',' :: more) = .comma :: scan more := by rw [scan]; rfl
  have hmark (more : List Char) : Ends (',' :: more) := ends_cons (by decide) more
  induction items with
  | nil => exact absurd rfl hne
  | cons v items ih =>
    have hv := h v List.mem_cons_self
    cases items with
    | nil =>
      simp only [prettyItems, itemTokens, List.append_assoc, scan_lineAt, hv _ (ends_lineAt _ _),
        List.singleton_append, hclose]
    | cons w items =>
      have hrest := ih (List.cons_ne_nil w items) fun u hu => h u (List.mem_cons_of_mem v hu)
      simp only [prettyItems, itemTokens, List.append_assoc, scan_lineAt, List.cons_append,
        hv _ (hmark _), hcomma, hrest]

theorem scan_prettyMembers {members : List (String × Json)} (hne : members ≠ []) (level : Nat)
    (h : ∀ m ∈ members, ∀ rest, Ends rest →
      scan (m.2.prettyChars (level + 1) ++ rest) = m.2.tokens ++ scan rest) (rest : List Char) :
    scan (prettyMembers level members ++ rest) = memberTokens members ++ scan rest := by
  have hclose : scan ('\x7d' :: rest) = .closeObject :: scan rest := by rw [scan]; rfl
  have hcomma (more : List Char) : scan (',' :: more) = .comma :: scan more := by rw [scan]; rfl
  have hmark (more : List Char) : Ends (',' :: more) := ends_cons (by decide) more
  have hcolon (more : List Char) : scan (':' :: ' ' :: more) = .colon :: scan more := by
    rw [scan]
    change .colon :: scan (' ' :: more) = _
    rw [scan, if_pos (by decide)]
  induction members with
  | nil => exact absurd rfl hne
  | cons m members ih =>
    obtain ⟨k, v⟩ := m
    have hv := h (k, v) List.mem_cons_self
    cases members with
    | nil =>
      simp only [prettyMembers, memberTokens, List.append_assoc, scan_lineAt, scan_textChars,
        List.cons_append, hcolon, hv _ (ends_lineAt _ _), List.nil_append, hclose]
    | cons m members =>
      have hrest := ih (List.cons_ne_nil m members) fun u hu => h u (List.mem_cons_of_mem _ hu)
      simp only [prettyMembers, memberTokens, List.append_assoc, scan_lineAt, scan_textChars,
        List.cons_append, hcolon, hv _ (hmark _), hcomma, hrest]

/-- The pretty form of a value is cut into its tokens. -/
theorem scan_pretty {depth : Nat} {v : Json} (hv : Printable depth v) (level : Nat)
    (rest : List Char) (hrest : Ends rest) :
    scan (v.prettyChars level ++ rest) = v.tokens ++ scan rest := by
  induction hv generalizing level rest with
  | null depth => exact scan_value (.null depth) rest hrest
  | bool depth b => exact scan_value (.bool depth b) rest hrest
  | number depth hn => exact scan_value (.number depth hn) rest hrest
  | text depth s => exact scan_value (.text depth s) rest hrest
  | @list depth items h ih =>
    have hopen (more : List Char) : scan ('[' :: more) = .openList :: scan more := by rw [scan]; rfl
    cases items with
    | nil =>
      have hempty : Printable 1 (.list []) := .list (by simp)
      exact scan_value hempty rest hrest
    | cons v items =>
      rw [prettyChars, tokens, List.cons_append, hopen,
        scan_prettyItems (List.cons_ne_nil v items) level fun w hw => ih w hw (level + 1)]
      rfl
  | @object depth members h ih =>
    have hopen (more : List Char) : scan ('\x7b' :: more) = .openObject :: scan more := by
      rw [scan]; rfl
    cases members with
    | nil =>
      have hempty : Printable 1 (.object []) := .object (by simp)
      exact scan_value hempty rest hrest
    | cons m members =>
      rw [prettyChars, tokens, List.cons_append, hopen,
        scan_prettyMembers (List.cons_ne_nil m members) level fun w hw => ih w hw (level + 1)]
      rfl

theorem document_pretty {v : Json} (hv : Printable Document.depthLimit v) :
    Document.ofText v.pretty = ⟨v.draft, false⟩ := by
  have hends := scan_pretty hv 0 [] (fun c hc => by cases hc)
  rw [List.append_nil, scan, List.append_nil] at hends
  exact document_of_scan hv hends

/-- What a reader makes of either text of a value is what it makes of the tree of the value. -/
theorem readText_eq {α : Type} (read : Draft → Except Fault α) {v : Json}
    (hv : Printable Document.depthLimit v) {text : String}
    (htext : text = v.compact ∨ text = v.pretty) : readText read text = read v.draft := by
  have hdocument : Document.ofText text = ⟨v.draft, false⟩ := by
    rcases htext with rfl | rfl
    · exact document_compact hv
    · exact document_pretty hv
  rw [readText, hdocument]
  cases read v.draft <;> rfl

end Alerting.Json
