import Mathlib
import Storytest.Proofs.Agreement
import Storytest.Proofs.Quoting
import Storytest.Proofs.Resolution
import Storytest.Script.Cause

/-!
# Names of parameters and keys of the store

The word that a pattern binds is written into generated code, read there as a name, and compared
with the keys of the store. `binds_iff` follows it all the way. The word arrives as it was written,
with the `r#` of a raw identifier; so a parameter binds to the key that its identifier spells exactly
where the identifier is not raw, and a parameter of any other pattern binds to no key.
-/

namespace Storytest

namespace ParamSpec

/-- A value of an accepted type under the key is injected by name, whatever else is stored. -/
def BindsTo (spec : ParamSpec) (key : String) : Prop :=
  ∀ (store : Store) (value : Value), store.get? key = some value → value.ty ∈ spec.accepts →
    spec.find store = .byName value

theorem find_eq_byName_iff {spec : ParamSpec} {store : Store} {value : Value} :
    spec.find store = .byName value ↔ spec.named? store = some value := by
  rw [find]
  cases spec.named? store with
  | some found => simp
  | none => cases spec.smallest? store <;> simp

theorem bindsTo_iff {spec : ParamSpec} (h : spec.accepts ≠ []) (key : String) :
    spec.BindsTo key ↔ spec.name = some key := by
  constructor
  · intro hb
    obtain ⟨ty, ht⟩ := List.exists_mem_of_ne_nil _ h
    -- Nothing else is stored, so the name has to be the key.
    have hget (name : String) : (Store.empty.set key ⟨ty, .unit⟩).get? name =
        if key = name then some ⟨ty, .unit⟩ else none := Store.get?_set _ _ _ _
    have hfind := find_eq_byName_iff.1 (hb (Store.empty.set key ⟨ty, .unit⟩) ⟨ty, .unit⟩
      ((hget key).trans (if_pos rfl)) ht)
    obtain ⟨name, hname, hn⟩ := Option.bind_eq_some_iff.1 hfind
    rw [hget, Option.ite_none_right_eq_some] at hn
    rw [hname, hn.1]
  · intro hname store value hv _
    rw [find_eq_byName_iff, named?, hname]
    exact hv

end ParamSpec

namespace Expansion

open Source

/-! ## What generated code declares -/

/-- The tokens declare this parameter, where `meaning` tells the types that tokens write. -/
inductive Declares (meaning : List Token → Ty) : List Token → ParamSpec → Prop
  | unnamed : Declares meaning (libraryPath ["ParamSpec", "unnamed"] ++ Token.parens []) ⟨none, []⟩
  | named {literal name : String} : Lexeme.textValue? literal = some name →
      Declares meaning (libraryPath ["ParamSpec", "named"] ++ Token.parens [.literal literal])
        ⟨some name, []⟩
  | accepts {code : List Token} {spec : ParamSpec} (type : TypeText) : Declares meaning code spec →
      Declares meaning
        (code ++ (Token.op "." ++ Token.ident "accepts" ++ turbofish type ++ Token.parens []))
        { spec with accepts := spec.accepts ++ [meaning type.tokens] }

/-- The parameter that a declaration makes. -/
def SpecCode.spec (meaning : List Token → Ty) (code : SpecCode) : ParamSpec :=
  ⟨code.name, code.accepted.map fun type => meaning type.tokens⟩

variable {meaning : List Token → Ty}

/-- Code that writes a declaration declares the parameter that the declaration makes. -/
theorem WritesDeclaration.declares {code : SpecCode} {tokens : List Token}
    (h : WritesDeclaration code tokens) : Declares meaning tokens (code.spec meaning) := by
  induction h with
  | unnamed => exact .unnamed
  | named hname => exact .named hname
  | @accepts spec type before argument _ hargument ih =>
    rw [writesArgument_iff.1 hargument, SpecCode.spec, List.map_append, List.append_assoc,
      List.append_assoc]
    exact ih.accepts type

theorem declares_tokens (code : SpecCode) : Declares meaning code.tokens (code.spec meaning) :=
  (writesDeclaration_tokens code).declares

/-! ## Words and the keys that they spell -/

/-- The word is written as a raw identifier. -/
def IsRaw (word : String) : Prop := ∃ key, word = "r#" ++ key

/-- The key that an identifier spells. The mark of a raw identifier is no part of it. -/
inductive Spells : String → String → Prop
  | plain {word : String} : ¬IsRaw word → Spells word word
  | raw (key : String) : Spells ("r#" ++ key) key

theorem Spells.eq_iff {word key : String} (h : Spells word key) : word = key ↔ ¬IsRaw word := by
  cases h with
  | plain hr => exact ⟨fun _ => hr, fun _ => rfl⟩
  | raw key =>
    refine ⟨fun he => ?_, fun hr => absurd ⟨key, rfl⟩ hr⟩
    have hlen := congrArg String.length he
    simp at hlen

theorem accepted_ne_nil {param : ClosureParam} {types : List TypeText} {method : ReadMethod}
    (h : Passes param types method) : types ≠ [] := by
  cases h with
  | union _ _ _ hne => exact hne
  | optional => exact List.cons_ne_nil _ _
  | required => exact List.cons_ne_nil _ _

/-! ## From pattern to store -/

/-- What the declaration of a parameter takes by name. -/
structure TakesByName (param : ClosureParam) (spec : ParamSpec) : Prop where
  /-- The key that the identifier spells is bound exactly where the identifier is not raw. -/
  spelled : ∀ modifiers word inside key, param.pattern = .binding modifiers word inside →
    Spells word key → (spec.BindsTo key ↔ ¬IsRaw word)
  /-- What is taken is what is stored under the word as it is written. -/
  written : ∀ modifiers word inside, param.pattern = .binding modifiers word inside →
    ∀ (store : Store) (value : Value), spec.find store = .byName value ↔
      store.get? word = some value
  /-- A pattern that is no identifier takes nothing by name. -/
  unnamed : (∀ modifiers word inside, param.pattern ≠ .binding modifiers word inside) →
    ∀ (store : Store) (value : Value), spec.find store ≠ .byName value

theorem takesByName_of_name {param : ClosureParam} {spec : ParamSpec}
    (hn : spec.name = param.pattern.name?) (ha : spec.accepts ≠ []) : TakesByName param spec where
  spelled modifiers word inside key hp hk := by
    rw [ParamSpec.bindsTo_iff ha, hn, hp, ← hk.eq_iff]
    exact Option.some_inj
  written modifiers word inside hp store value := by
    rw [ParamSpec.find_eq_byName_iff, ParamSpec.named?, hn, hp]
    rfl
  unnamed hp store value := by
    have hnone : param.pattern.name? = none := by
      cases h : param.pattern with
      | binding modifiers word inside => exact absurd h (hp modifiers word inside)
      | halfRange => rfl
      | other => rfl
    rw [Ne, ParamSpec.find_eq_byName_iff, ParamSpec.named?, hn, hnone]
    exact nofun

/-- Whatever types mean, the code of an expansion declares each of its parameters. Where the pattern
is an identifier, the parameter takes by name what is stored under the word as it is written, and so
binds to the key that the identifier spells exactly if it is not raw. For any other pattern nothing
is taken by name. -/
theorem binds_iff (closure : Closure) (call : StepCall) (h : StepCall.ofClosure closure = .ok call)
    (position : Nat) (param : ClosureParam) (hp : closure.params[position]? = some param)
    (meaning : List Token → Ty) :
    ∃ code spec, call.specs[position]? = some code ∧ Declares meaning code.tokens spec ∧
      TakesByName param spec := by
  obtain ⟨made, hm, hd⟩ := StepCall.exists_declared h hp
  obtain ⟨hname, hpasses⟩ := passes_of_declared hd
  refine ⟨.ofParam made, _, ?_, declares_tokens _, takesByName_of_name hname ?_⟩
  · rw [StepCall.specs, List.getElem?_map, hm, Option.map_some]
  · exact mt List.map_eq_nil_iff.1 (accepted_ne_nil hpasses)

/-- `|(x, y): (i32, i32), mut n @ _: i32| ()`. -/
def mixed : Closure where
  modifiers := []
  params := [
    ⟨[], .other (Token.parens (Token.ident "x" ++ Token.op "," ++ Token.ident "y")),
      some (.other (Token.parens (Token.ident "i32" ++ Token.op "," ++ Token.ident "i32")))⟩,
    ⟨[], .binding (Token.ident "mut") "n" (Token.op "@" ++ Token.ident "_"),
      some (.other (Token.ident "i32"))⟩]
  openEnded := false
  result := []
  body := Token.parens []

open Script in
/-- A number under the name is injected although another one is stored under a smaller key. -/
theorem binds_beside_smaller :
    let store := (Store.empty.set "a" ⟨int32, .integer 1⟩).set "n" ⟨int32, .integer 7⟩
    ∃ call code spec, StepCall.ofClosure mixed = .ok call ∧ call.specs[1]? = some code ∧
      Declares (fun _ => int32) code.tokens spec ∧ spec.BindsTo "n" ∧
        spec.find store = .byName ⟨int32, .integer 7⟩ := by
  intro store
  have hc : StepCall.ofClosure mixed = .ok ⟨mixed, [
      ⟨none, .required (.other (Token.parens (Token.ident "i32" ++ Token.op "," ++
        Token.ident "i32")))⟩,
      ⟨some "n", .required (.other (Token.ident "i32"))⟩]⟩ := by cbv
  obtain ⟨code, spec, hcode, hdeclares, htakes⟩ := binds_iff mixed _ hc 1 _ rfl fun _ => int32
  have hraw : ¬IsRaw "n" := by
    rintro ⟨key, hk⟩
    have hlen := congrArg String.length hk
    rw [String.length_append] at hlen
    have : "n".length = 1 ∧ "r#".length = 2 := ⟨rfl, rfl⟩
    omega
  have hbinds : spec.BindsTo "n" := (htakes.spelled _ _ _ "n" rfl (.plain hraw)).2 hraw
  have hfind := (htakes.written _ _ _ rfl store ⟨int32, .integer 7⟩).2 rfl
  exact ⟨_, code, spec, hc, hcode, hdeclares, hbinds, hfind⟩

/-- `|r#type: String| ()`. -/
def rawTyped : Closure where
  modifiers := []
  params := [⟨[], .binding [] "r#type" [], some (.other (Token.ident "String"))⟩]
  openEnded := false
  result := []
  body := Token.parens []

open Script in
/-- A text is stored under the key that the identifier spells, and yet another one is injected. -/
theorem raw_identifier_misses_key :
    let store := (Store.empty.set "type" ⟨string, .text "named"⟩).set "a" ⟨string, .text "other"⟩
    Closure.ofTokens? rawTyped.tokens = some rawTyped ∧ Spells "r#type" "type" ∧
      ∃ call code spec, StepCall.ofClosure rawTyped = .ok call ∧ call.specs[0]? = some code ∧
        Declares (fun _ => string) code.tokens spec ∧ string ∈ spec.accepts ∧
          store.get? "type" = some ⟨string, .text "named"⟩ ∧
            spec.find store = .byType "a" ⟨string, .text "other"⟩ := by
  intro store
  have hc : StepCall.ofClosure rawTyped = .ok ⟨rawTyped,
      [⟨some "r#type", .required (.other (Token.ident "String"))⟩]⟩ := by cbv
  refine ⟨by cbv, .raw "type", _, _, _, hc, rfl, declares_tokens _, List.mem_singleton_self _, rfl,
    ?_⟩
  cbv

end Expansion

end Storytest
