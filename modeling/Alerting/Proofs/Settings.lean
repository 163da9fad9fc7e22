import Alerting.Proofs.Dictionary
import Alerting.Proofs.Text.Upper
import Alerting.Settings
import Mathlib.Data.List.Forall2

/-!
# Settings and profiles

A setting is the first text that is there and not empty among the variable of the profile and the
plain one. The names of variables show their profile and their key, so that the variables of one
profile make no difference to another.
-/
namespace Alerting.Settings

/-! ## Variables -/

def keys : List String := ["ALERTCOND_LOG", "ALERTCOND_OUTPUT", "ALERTCOND_REF_ID"]

def variableOf (profile key : String) : String := profile ++ "_" ++ key

/-- The variables that a setting is taken from, the first choice first. -/
def sources (profile key : String) : List String :=
  if profile = "" then [key] else [variableOf profile key, key]

/-- The first text that is there and not empty among the variables with the given names. -/
inductive Chosen (env : Environment) : List String → Option String → Prop where
  | none : Chosen env [] none
  | here {name text : String} {names : List String} :
    env.get? name = some text → text ≠ "" → Chosen env (name :: names) (some text)
  | there {name : String} {names : List String} {o : Option String} :
    (∀ text, env.get? name = some text → text = "") → Chosen env names o →
      Chosen env (name :: names) o

theorem lookup_eq_none {env : Environment} {name : String} :
    lookup env name = none ↔ ∀ text, env.get? name = some text → text = "" := by
  simp [lookup, Option.filter_eq_none_iff]

theorem lookup_eq_some {env : Environment} {name text : String} :
    lookup env name = some text ↔ env.get? name = some text ∧ text ≠ "" := by
  simp [lookup, Option.filter_eq_some_iff]

/-- At most one text is the first. -/
theorem Chosen.unique {env : Environment} {names : List String} {o o' : Option String}
    (h : Chosen env names o) (h' : Chosen env names o') : o = o' := by
  induction h with
  | none =>
    cases h'
    rfl
  | here hget hne =>
    cases h' with
    | here hget' => exact hget.symm.trans hget'
    | there hempty => exact absurd (hempty _ hget) hne
  | there hempty _ ih =>
    cases h' with
    | here hget hne => exact absurd (hempty _ hget) hne
    | there _ hrest => exact ih hrest

theorem chosen_cons (env : Environment) (name : String) {names : List String} {o : Option String}
    (h : Chosen env names o) : Chosen env (name :: names) ((lookup env name).or o) := by
  cases hlookup : lookup env name with
  | none => exact .there (lookup_eq_none.mp hlookup) h
  | some text =>
    obtain ⟨hget, hne⟩ := lookup_eq_some.mp hlookup
    exact .here hget hne

theorem chosen_iff {env : Environment} {profile key : String} {o : Option String} :
    Chosen env (sources profile key) o ↔ o = profiled env profile key := by
  have hplain : Chosen env [key] (lookup env key) := by
    rw [← Option.or_none (o := lookup env key)]
    exact chosen_cons env key .none
  have hchosen : Chosen env (sources profile key) (profiled env profile key) := by
    rw [profiled, sources]
    by_cases h : profile = ""
    · rw [if_pos h, if_pos (String.isEmpty_iff.mpr h), Option.none_or]
      exact hplain
    · rw [if_neg h, if_neg (mt String.isEmpty_iff.mp h)]
      exact chosen_cons env _ hplain
  exact ⟨fun h => h.unique hchosen, fun h => h ▸ hchosen⟩

/-! ## Formats -/

/-- The text is the word with its letters in either case. -/
def Spells (text word : String) : Prop :=
  List.Forall₂ (fun c letter => c = letter ∨ c = letter.toUpper) text.toList word.toList

theorem toLower_eq_iff {c letter : Char} (h : 0x61 ≤ letter.toNat ∧ letter.toNat ≤ 0x7A) :
    c.toLower = letter ↔ c = letter ∨ c = letter.toUpper := by
  have hupper := Text.toNat_toUpper h
  rw [← Char.toNat_inj, ← Char.toNat_inj, ← Char.toNat_inj]
  by_cases hc : 'A'.val ≤ c.val ∧ c.val ≤ 'Z'.val
  · have hhigh : c.val.toNat ≤ 0x5A := hc.2
    have hlower : c.toLower.toNat = c.toNat + 32 := by
      obtain ⟨_, hvalue⟩ : ∃ h, c.toLower = ⟨c.val + ('a'.val - 'A'.val), h⟩ := ⟨_, dif_pos hc⟩
      rw [hvalue]
      change (c.val + ('a'.val - 'A'.val)).toNat = c.val.toNat + 32
      have hdiff : ('a'.val - 'A'.val).toNat = 32 := rfl
      rw [UInt32.toNat_add, hdiff]
      omega
    have hcapital : c.toNat ≤ 0x5A := hhigh
    omega
  · have hsame : c.toLower = c := dif_neg hc
    have hother : ¬(0x41 ≤ c.toNat ∧ c.toNat ≤ 0x5A) := hc
    rw [hsame]
    omega

theorem lower_eq_iff {text word : String}
    (h : ∀ letter ∈ word.toList, 0x61 ≤ letter.toNat ∧ letter.toNat ≤ 0x7A) :
    Format.lower text = word ↔ Spells text word := by
  have hlists (cs letters : List Char)
      (hl : ∀ letter ∈ letters, 0x61 ≤ letter.toNat ∧ letter.toNat ≤ 0x7A) :
      cs.map Char.toLower = letters ↔
        List.Forall₂ (fun c letter => c = letter ∨ c = letter.toUpper) cs letters := by
    induction cs generalizing letters with
    | nil => simp [eq_comm]
    | cons c cs ih =>
      cases letters with
      | nil => simp
      | cons letter letters =>
        obtain ⟨hletter, hletters⟩ := List.forall_mem_cons.mp hl
        rw [List.map_cons, List.cons.injEq, toLower_eq_iff hletter, ih letters hletters,
          List.forall₂_cons]
  rw [← String.toList_inj, Format.lower, String.toList_ofList, Spells]
  exact hlists text.toList word.toList h

theorem ofTag?_eq_json (word : String) :
    Tagged.ofTag? word = some Format.json ↔ word = "json" := by
  by_cases htext : word = "text"
  · subst htext
    decide
  · by_cases hjson : word = "json"
    · subst hjson
      decide
    · simp [Tagged.ofTag?, Tagged.all, Tagged.tag, Format.tag, Ne.symm htext, Ne.symm hjson,
        hjson]

theorem outputOf_eq_json (o : Option String) :
    outputOf o = .json ↔ ∃ text, o = some text ∧ Spells text "json" := by
  have hletters : ∀ letter ∈ "json".toList, 0x61 ≤ letter.toNat ∧ letter.toNat ≤ 0x7A := by
    have hword : "json".toList = ['j', 's', 'o', 'n'] := rfl
    simp [hword]
  cases o with
  | none => simp [outputOf]
  | some text =>
    simp only [Option.some.injEq, exists_eq_left']
    rw [← lower_eq_iff hletters, ← ofTag?_eq_json, outputOf, Option.map_some, Format.ofName]
    rcases Tagged.ofTag? (Format.lower text) with _ | format <;> simp

/-! ## Isolation -/

/-- The environments bind the same variables to the same texts, but for those of a profile. -/
def AgreeBeside (profile : String) (env env' : Environment) : Prop :=
  ∀ name, name ∉ keys.map (variableOf profile) → env.get? name = env'.get? name

theorem toList_variableOf (profile key : String) :
    (variableOf profile key).toList = profile.toList ++ '_' :: key.toList := by
  simp [variableOf]

/-- Keys are told apart by their last letters. -/
theorem eq_of_getLast? : ∀ key ∈ keys, ∀ key' ∈ keys,
    key.toList.getLast? = key'.toList.getLast? → key = key' := by decide

theorem getLast?_variableOf (profile : String) {key : String} (hkey : key ∈ keys) :
    (variableOf profile key).toList.getLast? = key.toList.getLast? := by
  have hne : key.toList ≠ [] := by
    revert hkey key
    decide
  rw [toList_variableOf, List.getLast?_append_of_ne_nil _ (List.cons_ne_nil _ _),
    List.getLast?_cons_of_ne_nil hne]

theorem variableOf_inj {p q key key' : String} (hkey : key ∈ keys) (hkey' : key' ∈ keys)
    (h : variableOf p key = variableOf q key') : p = q := by
  have hlast : key.toList.getLast? = key'.toList.getLast? := by
    rw [← getLast?_variableOf p hkey, h, getLast?_variableOf q hkey']
  obtain rfl := eq_of_getLast? key hkey key' hkey' hlast
  rw [← String.toList_inj, toList_variableOf, toList_variableOf] at h
  exact String.toList_inj.mp (List.append_cancel_right h)

theorem variableOf_ne {q key key' : String} (hkey : key ∈ keys) (hkey' : key' ∈ keys) :
    variableOf q key' ≠ key := by
  intro h
  have hlast : key.toList.getLast? = key'.toList.getLast? := by
    rw [← h, getLast?_variableOf q hkey']
  obtain rfl := eq_of_getLast? key hkey key' hkey' hlast
  have hlength := congrArg List.length (String.toList_inj.mpr h)
  rw [toList_variableOf, List.length_append, List.length_cons] at hlength
  omega

section
variable {env env' : Environment} {q : String} (h : AgreeBeside q env env')
include h

theorem AgreeBeside.lookup {name : String} (hname : name ∉ keys.map (variableOf q)) :
    lookup env name = lookup env' name := by
  rw [Settings.lookup, Settings.lookup, h name hname]

theorem AgreeBeside.lookup_key {key : String} (hkey : key ∈ keys) :
    Settings.lookup env key = Settings.lookup env' key := by
  refine h.lookup fun hmem => ?_
  obtain ⟨key', hkey', heq⟩ := List.mem_map.mp hmem
  exact variableOf_ne hkey hkey' heq

theorem AgreeBeside.profiled {p : String} (hp : p = "" ∨ p ≠ q) {key : String}
    (hkey : key ∈ keys) : profiled env p key = Settings.profiled env' p key := by
  rw [Settings.profiled, Settings.profiled, h.lookup_key hkey]
  split
  · rfl
  · rename_i hempty
    have hpq : p ≠ q := hp.resolve_left fun heq => hempty (String.isEmpty_iff.mpr heq)
    have hvariable : variableOf p key ∉ keys.map (variableOf q) := by
      intro hmem
      obtain ⟨key', hkey', heq⟩ := List.mem_map.mp hmem
      exact hpq (variableOf_inj hkey hkey' heq.symm)
    have hlookup := h.lookup hvariable
    rw [variableOf] at hlookup
    rw [hlookup]

theorem AgreeBeside.forProfile {p : String} (hp : Text.upper p = "" ∨ Text.upper p ≠ q) :
    forProfile env p = Settings.forProfile env' p := by
  rw [Settings.forProfile, Settings.forProfile]
  have hkeys : ∀ key ∈ keys, Settings.profiled env (Text.upper p) key =
      Settings.profiled env' (Text.upper p) key := fun _ => h.profiled hp
  rw [hkeys "ALERTCOND_LOG" (by decide), hkeys "ALERTCOND_OUTPUT" (by decide),
    hkeys "ALERTCOND_REF_ID" (by decide)]

end

theorem agreeBeside_insert (env : Environment) {q key : String} (hkey : key ∈ keys)
    (text : String) : AgreeBeside q env (env.insert (variableOf q key) text) := by
  intro name hname
  have hne : variableOf q key ≠ name := by
    rintro rfl
    exact hname (List.mem_map_of_mem hkey)
  rw [Dictionary.get?_insert, if_neg hne]

/-- A setting is the first text that is there and not empty among the variable of the profile, whose
name counts in upper case, and the plain one, or else a default. An output that does not spell
`json` is text. The variables of a profile are read for no other profile. -/
theorem forProfile_isolated :
    (∀ (env : Environment) (p : String),
      (forProfile env p).profile = Text.upper p ∧
      (∃ o, Chosen env (sources (Text.upper p) "ALERTCOND_LOG") o ∧
        (forProfile env p).logFilter = o.getD "warn") ∧
      (∃ o, Chosen env (sources (Text.upper p) "ALERTCOND_OUTPUT") o ∧
        ((forProfile env p).output = .json ↔ ∃ text, o = some text ∧ Spells text "json")) ∧
      (∃ o, Chosen env (sources (Text.upper p) "ALERTCOND_REF_ID") o ∧
        (forProfile env p).refId = o.getD "")) ∧
    (∀ env : Environment, ofEnvironment env = forProfile env (env.textOf "ALERTCOND_PROFILE")) ∧
    ∀ (q : String) (env env' : Environment), AgreeBeside (Text.upper q) env env' →
      (∀ p, Text.upper p ≠ Text.upper q → forProfile env p = forProfile env' p) ∧
      forProfile env "" = forProfile env' "" := by
  refine ⟨fun env p => ⟨rfl, ?_, ?_, ?_⟩, fun env => ?_, fun q env env' h => ⟨fun p hp => ?_, ?_⟩⟩
  · exact ⟨_, chosen_iff.mpr rfl, rfl⟩
  · exact ⟨_, chosen_iff.mpr rfl, outputOf_eq_json _⟩
  · exact ⟨_, chosen_iff.mpr rfl, rfl⟩
  · rw [ofEnvironment, forProfile, Text.upper_upper, ← Environment.textOf, ← forProfile]
  · exact h.forProfile (.inr hp)
  · exact h.forProfile (.inl Text.upper_empty)

/-- A variable of a profile counts for it and makes no difference to a profile whose name goes on with
a key. -/
theorem forProfile_isolated_longer :
    let env := Dictionary.ofList [("ALERTCOND_LOG", "info"), ("ALERTCOND_OUTPUT", "Json"),
      ("PROD_ALERTCOND_LOG_ALERTCOND_OUTPUT", "yaml")]
    let env' := env.insert "PROD_ALERTCOND_LOG" "debug"
    (forProfile env' "prod").logFilter = "debug" ∧
    (forProfile env "prod_alertcond_log" = forProfile env' "prod_alertcond_log" ∧
      forProfile env "" = forProfile env' "") := by
  intro env env'
  have hbeside : AgreeBeside (Text.upper "prod") env env' :=
    agreeBeside_insert env (q := Text.upper "prod") (show "ALERTCOND_LOG" ∈ keys by decide) "debug"
  obtain ⟨hother, hplain⟩ := forProfile_isolated.2.2 "prod" env env' hbeside
  exact ⟨by decide, hother _ (by decide), hplain⟩

end Alerting.Settings
