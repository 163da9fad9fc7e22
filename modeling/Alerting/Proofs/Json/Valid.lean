import Alerting.Json.Draft
import Alerting.Proofs.Json.Number

/-!
# The numbers of a text

A number that is too large for a double has no value. So every value of a number, wherever it stands
in the tree of a text, is valid.
-/
namespace Alerting.Json

/-! ## Tokens -/

theorem Numeral.valid_of_ofUnits {negative : Bool} {k : ℕ} {n : Numeral}
    (h : ofUnits negative k = some n) : n.Valid := by
  rw [ofUnits] at h
  split_ifs at h with _ hk hk
  · obtain rfl := Option.some.inj h
    rw [Valid]
    omega
  · obtain rfl := Option.some.inj h
    rw [Valid]
    omega

theorem Numeral.valid_of_ofDecimal {negative : Bool} {d : Decimal} {n : Numeral}
    (h : ofDecimal negative d = some n) : n.Valid := by
  simp only [ofDecimal] at h
  split at h
  · cases h
  · rename_i hinf
    have hfinite := Decimal.isFinite_of_isInf_eq_false (Bool.not_eq_true _ ▸ hinf)
    obtain rfl := Option.some.inj h
    rw [Valid]
    split
    · rw [Double.isFinite_neg, hfinite]
    · exact hfinite

def Scanned.Valid (n : Scanned Numeral) : Prop := ∀ m, n.value = .ok m → m.Valid

namespace Token

def Valid : Token → Prop
  | .number n => n.Valid
  | _ => True

theorem valid_of_fault {fault : Fault} {skip : Except Fault Unit} :
    Scanned.Valid ⟨.error fault, skip⟩ := fun _ h => by cases h

theorem valid_real (negative : Bool) (whole fraction : List Char) (exponent : Int)
    (rest : List Char) : (real negative whole fraction exponent rest).1.Valid := by
  intro m hm
  simp only [real] at hm
  cases hn : Numeral.ofDecimal negative
      ⟨Decimal.valueOf (whole ++ fraction), exponent - fraction.length⟩ with
  | none =>
    rw [hn] at hm
    cases hm
  | some n =>
    rw [hn] at hm
    cases hm
    exact Numeral.valid_of_ofDecimal hn

theorem valid_scanExponent (negative : Bool) (whole fraction text : List Char) :
    (scanExponent negative whole fraction text).1.Valid := by
  simp only [scanExponent]
  split
  · exact valid_of_fault
  · exact valid_real _ _ _ _ _

theorem valid_scanAfterFraction (negative : Bool) (whole fraction text : List Char) :
    (scanAfterFraction negative whole fraction text).1.Valid := by
  unfold scanAfterFraction
  split
  · exact valid_scanExponent _ _ _ _
  · exact valid_scanExponent _ _ _ _
  · exact valid_real _ _ _ _ _

theorem valid_scanAfterWhole (negative : Bool) (whole text : List Char) :
    (scanAfterWhole negative whole text).1.Valid := by
  unfold scanAfterWhole
  split
  · simp only
    split
    · exact valid_of_fault
    · exact valid_scanAfterFraction _ _ _ _
  · exact valid_scanExponent _ _ _ _
  · exact valid_scanExponent _ _ _ _
  · split
    · rename_i hn
      intro m hm
      cases hm
      exact Numeral.valid_of_ofUnits hn
    · exact valid_real _ _ _ _ _

theorem valid_scanNumber (negative : Bool) (text : List Char) :
    (scanNumber negative text).1.Valid := by
  unfold scanNumber
  split
  · exact valid_of_fault
  · exact valid_of_fault
  · exact valid_scanAfterWhole _ _ _

theorem valid_scanWord {token : Token} (h : token.Valid) (word rest : List Char) :
    (scanWord token word rest).1.Valid := by
  fun_induction scanWord token word rest with
  | case1 => exact h
  | case2 => trivial
  | case3 _ _ _ ih => exact ih
  | case4 => trivial

theorem valid_scanOne (c : Char) (rest : List Char) : (scanOne c rest).1.Valid := by
  unfold scanOne
  split
  case h_11 => exact valid_scanNumber _ _
  case h_12 =>
    split
    · exact valid_scanNumber _ _
    · trivial
  all_goals first | exact valid_scanWord (by trivial) _ _ | trivial

theorem valid_of_mem_scan (text : List Char) : ∀ t ∈ scan text, t.Valid := by
  fun_induction scan text with
  | case1 => exact List.forall_mem_nil _
  | case2 _ _ _ ih => exact ih
  | case3 c rest _ ih => exact List.forall_mem_cons.mpr ⟨valid_scanOne c rest, ih⟩

end Token

/-! ## Trees -/

/-- Every number of the tree is valid. Keys are not looked at. -/
inductive Draft.Valid : Draft → Prop
  | null : Valid .null
  | bool (b : Bool) : Valid (.bool b)
  | number {n : Scanned Numeral} (h : n.Valid) : Valid (.number n)
  | text (s : Scanned String) : Valid (.text s)
  | list {deep : Bool} {items : List Draft} {ending : Ending} (h : ∀ d ∈ items, Valid d) :
    Valid (.list deep items ending)
  | object {deep : Bool} {members : List (Draft × Draft)} {ending : Ending}
    (h : ∀ m ∈ members, Valid m.2) : Valid (.object deep members ending)
  | missing : Valid .missing
  | stray (fault : Fault) : Valid (.stray fault)
  | blocked (fault : Fault) : Valid (.blocked fault)

/-- What an open list or object holds so far is valid. -/
def Frame.Valid : Frame → Prop
  | .list _ done => ∀ d ∈ done, d.Valid
  | .object _ done _ => ∀ m ∈ done, m.2.Valid

theorem Frame.valid_list_cons {deep : Bool} {done : List Draft} {frames : List Frame}
    (hframes : ∀ f ∈ frames, f.Valid) (hdone : ∀ d ∈ done, d.Valid) :
    ∀ f ∈ Frame.list deep done :: frames, f.Valid :=
  List.forall_mem_cons.mpr ⟨hdone, hframes⟩

theorem Frame.valid_object_cons {deep : Bool} {done : List (Draft × Draft)} {key : Draft}
    {frames : List Frame} (hframes : ∀ f ∈ frames, f.Valid) (hdone : ∀ m ∈ done, m.2.Valid) :
    ∀ f ∈ Frame.object deep done key :: frames, f.Valid :=
  List.forall_mem_cons.mpr ⟨hdone, hframes⟩

/-- What is open when it ends after one more value. -/
def Frame.close (v : Draft) (ending : Ending) : Frame → Draft
  | .list deep done => .list deep (v :: done).reverse ending
  | .object deep done key => .object deep ((key, v) :: done).reverse ending

theorem Frame.valid_close {f : Frame} (hf : f.Valid) {v : Draft} (hv : v.Valid) (ending : Ending) :
    (f.close v ending).Valid := by
  cases f with
  | list deep done =>
    refine .list fun d hd => ?_
    rw [List.mem_reverse, List.mem_cons] at hd
    obtain rfl | hd := hd
    · exact hv
    · exact hf d hd
  | object deep done key =>
    refine .object fun m hm => ?_
    rw [List.mem_reverse, List.mem_cons] at hm
    obtain rfl | hm := hm
    · exact hv
    · exact hf m hm

namespace Document

theorem valid_abandon {frames : List Frame} (hframes : ∀ f ∈ frames, f.Valid) {v : Draft}
    (hv : v.Valid) : (abandon frames v).root.Valid := by
  induction frames generalizing v with
  | nil => exact hv
  | cons frame frames ih =>
    obtain ⟨hframe, hrest⟩ := List.forall_mem_cons.mp hframes
    have hclosed := Frame.valid_close hframe hv .cutOff
    cases frame with
    | list => exact ih hrest hclosed
    | object => exact ih hrest hclosed

/-- Fewer than `n` valid tokens grow into a valid tree, wherever they go on, as long as what is open
holds only valid values. -/
structure GrowsValid (n : ℕ) : Prop where
  atValue : ∀ {frames ts}, ts.length < n → (∀ f ∈ frames, f.Valid) → (∀ t ∈ ts, t.Valid) →
    (value frames ts).root.Valid
  atKey : ∀ {frames deep done ts}, ts.length < n → (∀ f ∈ frames, f.Valid) →
    (∀ m ∈ done, m.2.Valid) → (∀ t ∈ ts, t.Valid) → (member frames deep done ts).root.Valid
  atEnd : ∀ {frames v ts}, ts.length < n → (∀ f ∈ frames, f.Valid) → v.Valid →
    (∀ t ∈ ts, t.Valid) → (after frames v ts).root.Valid

section
variable {n : ℕ} (h : GrowsValid n) {frames : List Frame} (hframes : ∀ f ∈ frames, f.Valid)
  {ts : List Token}
include h hframes

/-! One token more, at each place where it may stand. -/

theorem valid_openList (hlt : ts.length < n) (hts : ∀ t ∈ ts, t.Valid) :
    (value frames (.openList :: ts)).root.Valid := by
  have hempty (ending : Ending) : (Draft.list (isTooDeep frames) [] ending).Valid :=
    .list (List.forall_mem_nil _)
  cases ts with
  | nil => exact valid_abandon hframes (hempty .cutOff)
  | cons t rest =>
    cases t with
    | closeList =>
      exact h.atEnd (Nat.lt_of_succ_lt hlt) hframes (hempty .closed) (List.forall_mem_cons.mp hts).2
    | _ =>
      change (value (.list (isTooDeep frames) [] :: frames) (_ :: rest)).root.Valid
      exact h.atValue hlt (Frame.valid_list_cons hframes (List.forall_mem_nil _)) hts

theorem valid_openObject (hlt : ts.length < n) (hts : ∀ t ∈ ts, t.Valid) :
    (value frames (.openObject :: ts)).root.Valid := by
  have hempty (ending : Ending) : (Draft.object (isTooDeep frames) [] ending).Valid :=
    .object (List.forall_mem_nil _)
  cases ts with
  | nil => exact valid_abandon hframes (hempty .cutOff)
  | cons t rest =>
    cases t with
    | closeObject =>
      exact h.atEnd (Nat.lt_of_succ_lt hlt) hframes (hempty .closed) (List.forall_mem_cons.mp hts).2
    | _ => exact h.atKey hlt hframes (List.forall_mem_nil _) hts

theorem valid_value (hle : ts.length ≤ n) (hts : ∀ t ∈ ts, t.Valid) :
    (value frames ts).root.Valid := by
  cases ts with
  | nil => exact valid_abandon hframes .missing
  | cons t rest =>
    obtain ⟨ht, hrest⟩ := List.forall_mem_cons.mp hts
    cases t with
    | null => exact h.atEnd hle hframes .null hrest
    | bool b => exact h.atEnd hle hframes (.bool b) hrest
    | number m => exact h.atEnd hle hframes (.number ht) hrest
    | text s => exact h.atEnd hle hframes (.text s) hrest
    | openList => exact valid_openList h hframes hle hrest
    | openObject => exact valid_openObject h hframes hle hrest
    | stray fault => exact valid_abandon hframes (.stray fault)
    | closeList | closeObject | comma | colon => exact valid_abandon hframes (.stray _)

section
variable {deep : Bool} {done : List (Draft × Draft)} (hdone : ∀ m ∈ done, m.2.Valid)
include hdone

theorem valid_key {key : Scanned String} (hlt : ts.length < n) (hts : ∀ t ∈ ts, t.Valid) :
    (member frames deep done (.text key :: ts)).root.Valid := by
  have hopen : ∀ f ∈ Frame.object deep done (.text key) :: frames, f.Valid :=
    Frame.valid_object_cons hframes hdone
  cases ts with
  | nil => exact valid_abandon hopen (.blocked _)
  | cons t rest =>
    cases t with
    | colon => exact h.atValue (Nat.lt_of_succ_lt hlt) hopen (List.forall_mem_cons.mp hts).2
    | _ => exact valid_abandon hopen (.blocked _)

theorem valid_member (hle : ts.length ≤ n) (hts : ∀ t ∈ ts, t.Valid) :
    (member frames deep done ts).root.Valid := by
  cases ts with
  | nil => exact valid_abandon hframes (.object fun m hm => hdone m (List.mem_reverse.mp hm))
  | cons t rest =>
    cases t with
    | text key => exact valid_key h hframes hdone hle (List.forall_mem_cons.mp hts).2
    | _ => exact valid_abandon (Frame.valid_object_cons hframes hdone) (.blocked _)

end

section
variable {v : Draft} (hv : v.Valid)
include hv

theorem valid_after_item {deep : Bool} {done : List Draft} (hdone : ∀ d ∈ done, d.Valid)
    (hle : ts.length ≤ n) (hts : ∀ t ∈ ts, t.Valid) :
    (after (.list deep done :: frames) v ts).root.Valid := by
  have hclose := Frame.valid_close (f := .list deep done) hdone hv
  have hdone' : ∀ d ∈ v :: done, d.Valid := List.forall_mem_cons.mpr ⟨hv, hdone⟩
  cases ts with
  | nil => exact valid_abandon hframes (hclose .cutOff)
  | cons t rest =>
    obtain ⟨-, hrest⟩ := List.forall_mem_cons.mp hts
    cases t with
    | closeList =>
      change (after frames (.list deep (v :: done).reverse .closed) rest).root.Valid
      exact h.atEnd hle hframes (hclose .closed) hrest
    | comma =>
      cases rest with
      | nil => exact valid_abandon hframes (hclose .cutOffAfterComma)
      | cons next rest =>
        cases next with
        | closeList => exact valid_abandon hframes (hclose .closedAfterComma)
        | _ => exact h.atValue hle (Frame.valid_list_cons hframes hdone') hrest
    | _ => exact valid_abandon hframes (hclose .crossed)

theorem valid_after_member {deep : Bool} {done : List (Draft × Draft)} {key : Draft}
    (hdone : ∀ m ∈ done, m.2.Valid) (hle : ts.length ≤ n) (hts : ∀ t ∈ ts, t.Valid) :
    (after (.object deep done key :: frames) v ts).root.Valid := by
  have hclose := Frame.valid_close (f := .object deep done key) hdone hv
  have hdone' : ∀ m ∈ (key, v) :: done, m.2.Valid := List.forall_mem_cons.mpr ⟨hv, hdone⟩
  cases ts with
  | nil => exact valid_abandon hframes (hclose .cutOff)
  | cons t rest =>
    obtain ⟨-, hrest⟩ := List.forall_mem_cons.mp hts
    cases t with
    | closeObject =>
      change (after frames (.object deep ((key, v) :: done).reverse .closed) rest).root.Valid
      exact h.atEnd hle hframes (hclose .closed) hrest
    | comma =>
      cases rest with
      | nil => exact valid_abandon hframes (hclose .cutOffAfterComma)
      | cons next rest =>
        cases next with
        | closeObject => exact valid_abandon hframes (hclose .closedAfterComma)
        | _ => exact h.atKey hle hframes hdone' hrest
    | _ => exact valid_abandon hframes (hclose .crossed)

theorem valid_after (hle : ts.length ≤ n) (hts : ∀ t ∈ ts, t.Valid) :
    (after frames v ts).root.Valid := by
  cases frames with
  | nil =>
    rw [after]
    exact hv
  | cons frame outer =>
    obtain ⟨hframe, houter⟩ := List.forall_mem_cons.mp hframes
    cases frame with
    | list deep done => exact valid_after_item h houter hv hframe hle hts
    | object deep done key => exact valid_after_member h houter hv hframe hle hts

end

end

theorem growsValid (n : ℕ) : GrowsValid n := by
  induction n with
  | zero => exact ⟨nofun, nofun, nofun⟩
  | succ n ih =>
    exact ⟨fun hlt hframes hts => valid_value ih hframes (Nat.le_of_lt_succ hlt) hts,
      fun hlt hframes hdone hts => valid_member ih hframes hdone (Nat.le_of_lt_succ hlt) hts,
      fun hlt hframes hv hts => valid_after ih hframes hv (Nat.le_of_lt_succ hlt) hts⟩

theorem valid_ofText (text : String) : (Document.ofText text).root.Valid :=
  (growsValid _).atValue (Nat.lt_succ_self _) (List.forall_mem_nil _)
    (Token.valid_of_mem_scan text.toList)

end Document

end Alerting.Json
