import Mathlib
import Storytest.Expansion.StepCall
import Storytest.Proofs.Fallible
import Storytest.Proofs.Naming
import Storytest.Proofs.StepCode

/-!
# Declarations and reads of an expanded closure

The signature that a closure expands to and the wrapper around it are made of two lists, and a step
works only if they agree. `Passes` says, from the source text of a parameter alone, what the
signature has to accept for it and how the wrapper has to read it; `Blamed` says which parameters
cannot be expanded. `expands` holds every closure that was read against both, and the code itself
against the grammar `WritesStep`.
-/

namespace Storytest.Expansion

open Source

/-! ## What a parameter says -/

/-- The attribute is the first of these that declares a union. -/
def FirstUnion (attributes : List Attribute) (attr : Attribute) : Prop :=
  ∃ before after, attributes = before ++ attr :: after ∧ isUnion attr = true ∧
    ∀ other ∈ before, isUnion other = false

/-- None of the attributes declares a union. -/
def NoUnion (attributes : List Attribute) : Prop :=
  ∀ attr ∈ attributes, isUnion attr = false

/-- The types that an attribute is given with, if they can be read. -/
def listed? (attr : Attribute) : Option (List TypeText) :=
  match attr.input with
  | .arguments _ content => TypeText.listOfTokens? content
  | .nothing | .value _ => none

/-- The type is `Option<T>` for the inner type `T`, as far as its text tells: the path may be
qualified, and what stands behind `T` in the brackets is not looked at. -/
def IsOption (type inner : TypeText) : Prop :=
  ∃ head opening closing, type = .applied head "Option" opening inner closing

/-- What the signature has to accept for a parameter, and how the wrapper has to read it. -/
inductive Passes (param : ClosureParam) : List TypeText → ReadMethod → Prop
  | union {type : TypeText} {attr : Attribute} {types : List TypeText} :
      param.type = some type → FirstUnion param.attributes attr → listed? attr = some types →
      types ≠ [] → Passes param types .value
  | optional {type inner : TypeText} :
      param.type = some type → NoUnion param.attributes → IsOption type inner →
      Passes param [inner] (.optional inner)
  | required {type : TypeText} :
      param.type = some type → NoUnion param.attributes → (∀ inner, ¬IsOption type inner) →
      Passes param [type] (.required type)

/-- Why a parameter cannot be expanded. -/
inductive Blamed (param : ClosureParam) : Fault → Prop
  | untyped : param.type = none → Blamed param .untyped
  | emptyUnion {type : TypeText} {attr : Attribute} :
      param.type = some type → FirstUnion param.attributes attr → listed? attr = some [] →
      Blamed param .emptyUnion
  | malformed {type : TypeText} {attr : Attribute} :
      param.type = some type → FirstUnion param.attributes attr → listed? attr = none →
      Blamed param .malformed

theorem blamed_iff {param : ClosureParam} : (∃ fault, Blamed param fault) ↔
    param.type = none ∨ ∃ attr, FirstUnion param.attributes attr ∧
      (listed? attr = some [] ∨ listed? attr = none) := by
  constructor
  · rintro ⟨fault, h⟩
    cases h with
    | untyped ht => exact .inl ht
    | emptyUnion _ hf hl => exact .inr ⟨_, hf, .inl hl⟩
    | malformed _ hf hl => exact .inr ⟨_, hf, .inr hl⟩
  · intro h
    cases ht : param.type with
    | none => exact ⟨_, .untyped ht⟩
    | some type =>
      rcases h with h | ⟨attr, hf, hl | hl⟩
      · rw [h] at ht
        cases ht
      · exact ⟨_, .emptyUnion ht hf hl⟩
      · exact ⟨_, .malformed ht hf hl⟩

theorem find?_isUnion_eq_some {attributes : List Attribute} {attr : Attribute} :
    attributes.find? isUnion = some attr ↔ FirstUnion attributes attr := by
  rw [List.find?_eq_some_iff_append]
  constructor
  · rintro ⟨hu, before, after, rfl, hb⟩
    exact ⟨before, after, rfl, hu, fun other ho => by simpa using hb other ho⟩
  · rintro ⟨before, after, rfl, hu, hb⟩
    exact ⟨hu, before, after, rfl, fun other ho => by simpa using hb other ho⟩

theorem find?_isUnion_eq_none {attributes : List Attribute} :
    attributes.find? isUnion = none ↔ NoUnion attributes := by
  simp only [List.find?_eq_none, Bool.not_eq_true, NoUnion]

theorem optionInner?_eq_some {type inner : TypeText} :
    type.optionInner? = some inner ↔ IsOption type inner := by
  constructor
  · intro h
    cases type with
    | applied head name opening argument closing =>
      rw [TypeText.optionInner?, Option.ite_none_right_eq_some] at h
      obtain ⟨rfl, h⟩ := h
      obtain rfl := Option.some.inj h
      exact ⟨head, opening, closing, rfl⟩
    | other => cases h
  · rintro ⟨head, opening, closing, rfl⟩
    rfl

theorem unionTypes_eq (attr : Attribute) : unionTypes attr =
    match listed? attr with
    | none => .error .malformed
    | some [] => .error .emptyUnion
    | some types => .ok types := by
  unfold unionTypes listed?
  cases attr.input <;> rfl

/-! ## What is declared -/

theorem declared_of_union {param : ClosureParam} {type : TypeText} {attr : Attribute}
    (ht : param.type = some type) (hf : FirstUnion param.attributes attr) :
    declared param = (unionTypes attr).map fun types => ⟨param.pattern.name?, .oneOf types⟩ := by
  rw [declared, ht]
  simp only [kindOf, find?_isUnion_eq_some.2 hf]
  cases unionTypes attr <;> rfl

theorem declared_of_noUnion {param : ClosureParam} {type : TypeText}
    (ht : param.type = some type) (hn : NoUnion param.attributes) :
    declared param = .ok ⟨param.pattern.name?,
      (type.optionInner?.map ParamKind.optional).getD (.required type)⟩ := by
  rw [declared, ht]
  simp only [kindOf, find?_isUnion_eq_none.2 hn]
  cases type.optionInner? <;> rfl

theorem declared_of_blamed {param : ClosureParam} {fault : Fault} (h : Blamed param fault) :
    declared param = .error fault := by
  cases h with
  | untyped ht => rw [declared, ht]
  | emptyUnion ht hf hl => rw [declared_of_union ht hf, unionTypes_eq, hl]; rfl
  | malformed ht hf hl => rw [declared_of_union ht hf, unionTypes_eq, hl]; rfl

/-- A parameter is declared as its source text says, or is to blame. -/
theorem declared_or_blamed (param : ClosureParam) :
    (∃ made, declared param = .ok made ∧ made.name = param.pattern.name? ∧
      Passes param made.accepted (.ofKind made.kind)) ∨ ∃ fault, Blamed param fault := by
  -- Split as the parameter is checked: its type, its first union, and only then the option.
  cases ht : param.type with
  | none => exact .inr ⟨_, .untyped ht⟩
  | some type =>
    cases hu : param.attributes.find? isUnion with
    | some attr =>
      have hf := find?_isUnion_eq_some.1 hu
      match hl : listed? attr with
      | none => exact .inr ⟨_, .malformed ht hf hl⟩
      | some [] => exact .inr ⟨_, .emptyUnion ht hf hl⟩
      | some (first :: rest) =>
        refine .inl ⟨⟨param.pattern.name?, .oneOf (first :: rest)⟩, ?_, rfl,
          .union ht hf hl (List.cons_ne_nil _ _)⟩
        rw [declared_of_union ht hf, unionTypes_eq, hl]
        rfl
    | none =>
      have hn := find?_isUnion_eq_none.1 hu
      refine .inl ⟨_, declared_of_noUnion ht hn, rfl, ?_⟩
      cases ho : type.optionInner? with
      | some inner => exact .optional ht hn (optionInner?_eq_some.1 ho)
      | none =>
        refine .required ht hn fun inner hi => ?_
        rw [optionInner?_eq_some.2 hi] at ho
        cases ho

theorem declared_eq_error_iff {param : ClosureParam} {fault : Fault} :
    declared param = .error fault ↔ Blamed param fault := by
  refine ⟨fun h => ?_, declared_of_blamed⟩
  rcases declared_or_blamed param with ⟨made, hm, -⟩ | ⟨other, hb⟩
  · rw [h] at hm
    cases hm
  · rw [declared_of_blamed hb] at h
    cases h
    exact hb

theorem passes_of_declared {param : ClosureParam} {made : Param TypeText}
    (h : declared param = .ok made) :
    made.name = param.pattern.name? ∧ Passes param made.accepted (.ofKind made.kind) := by
  rcases declared_or_blamed param with ⟨found, hf, hmade⟩ | ⟨fault, hb⟩
  · rw [h] at hf
    cases hf
    exact hmade
  · rw [declared_of_blamed hb] at h
    cases h

theorem declared_ok_iff {param : ClosureParam} :
    (∃ made, declared param = .ok made) ↔ ∀ fault, ¬Blamed param fault := by
  simp only [← declared_eq_error_iff]
  cases declared param with
  | ok made => exact ⟨fun _ => nofun, fun _ => ⟨made, rfl⟩⟩
  | error fault => exact ⟨nofun, fun h => absurd rfl (h fault)⟩

/-! ## All parameters -/

theorem binding_injective : Function.Injective binding := fun _ _ h =>
  Nat.repr_injective ((String.append_right_inj _).1 h)

namespace StepCall

theorem ofClosure_eq (closure : Closure) : ofClosure closure =
    (closure.params.mapM declared).map fun params =>
      ⟨{ closure with params := closure.params.map withoutUnion }, params⟩ := by
  unfold ofClosure
  cases closure.params.mapM declared <;> rfl

theorem ofClosure_eq_ok {closure : Closure} {call : StepCall} (h : ofClosure closure = .ok call) :
    closure.params.mapM declared = .ok call.params ∧
      call.closure = { closure with params := closure.params.map withoutUnion } := by
  rw [ofClosure_eq] at h
  cases hp : closure.params.mapM declared with
  | error fault =>
    rw [hp] at h
    cases h
  | ok params =>
    rw [hp] at h
    cases h
    exact ⟨rfl, rfl⟩

theorem map_declared_of_eq_ok {closure : Closure} {call : StepCall}
    (h : ofClosure closure = .ok call) : closure.params.map declared = call.params.map .ok :=
  map_eq_of_mapM_eq_ok (ofClosure_eq_ok h).1

theorem exists_declared {closure : Closure} {call : StepCall} (h : ofClosure closure = .ok call)
    {position : Nat} {param : ClosureParam} (hp : closure.params[position]? = some param) :
    ∃ made, call.params[position]? = some made ∧ declared param = .ok made := by
  have hat := congrArg (·[position]?) (map_declared_of_eq_ok h)
  simp only [List.getElem?_map, hp, Option.map_some] at hat
  obtain ⟨made, hmade, hd⟩ := Option.map_eq_some_iff.1 hat.symm
  exact ⟨made, hmade, hd.symm⟩

/-- The first parameter to blame decides the fault. -/
theorem ofClosure_eq_error_iff {closure : Closure} {fault : Fault} :
    ofClosure closure = .error fault ↔ ∃ before param after,
      closure.params = before ++ param :: after ∧
        (∀ other ∈ before, ∀ found, ¬Blamed other found) ∧ Blamed param fault := by
  have hm : ofClosure closure = .error fault ↔ closure.params.mapM declared = .error fault := by
    rw [ofClosure_eq]
    cases closure.params.mapM declared with
    | error => simp only [Except.map, Except.error.injEq]
    | ok => exact ⟨nofun, nofun⟩
  simp only [hm, mapM_eq_error_iff, declared_ok_iff, declared_eq_error_iff]

theorem fails_iff {closure : Closure} : (∃ fault, ofClosure closure = .error fault) ↔
    ∃ param ∈ closure.params, ∃ fault, Blamed param fault := by
  constructor
  · rintro ⟨fault, h⟩
    obtain ⟨before, param, after, hsplit, -, hb⟩ := ofClosure_eq_error_iff.1 h
    exact ⟨param, hsplit ▸ List.mem_append_right _ List.mem_cons_self, fault, hb⟩
  · rintro ⟨param, hin, fault, hb⟩
    cases hc : ofClosure closure with
    | error found => exact ⟨found, rfl⟩
    | ok call =>
      have hd := List.mem_map_of_mem (f := declared) hin
      rw [map_declared_of_eq_ok hc, declared_of_blamed hb] at hd
      obtain ⟨made, -, hm⟩ := List.mem_map.1 hd
      cases hm

theorem specs_length (call : StepCall) : call.specs.length = call.params.length :=
  List.length_map _

theorem reads_length (call : StepCall) : call.reads.length = call.params.length :=
  List.length_mapIdx

theorem arguments_length (call : StepCall) : call.arguments.length = call.params.length :=
  (List.length_map _).trans call.reads_length

theorem arguments_eq (call : StepCall) :
    call.arguments = (List.range call.params.length).map binding := by
  refine List.ext_getElem ?_ fun position _ _ => ?_
  · rw [arguments_length, List.length_map, List.length_range]
  · simp only [arguments, reads, List.getElem_map, List.getElem_mapIdx, List.getElem_range,
      ReadCode.ofParam]

end StepCall

/-! ## Agreement -/

/-- A declaration and a read agree with the parameter, and so with each other. -/
structure Fits (param : ClosureParam) (spec : SpecCode) (read : ReadCode) : Prop where
  /-- The declaration has the name that the pattern binds, if it binds one. -/
  name : spec.name = param.pattern.name?
  /-- The read has the name of the declaration, or the blank. -/
  label : read.label = spec.name.getD "_"
  /-- No name is the blank, so the label tells whether there is a name. -/
  unnamed : spec.name = none ↔ read.label = "_"
  passes : Passes param spec.accepted read.method

/-- The call that a closure expands to has a declaration, a read and an argument for each
parameter, in order. -/
structure Agreement (closure : Closure) (call : StepCall) : Prop where
  /-- The code has just these declarations, reads and arguments, in this order. -/
  emitted : WritesStep call.closure.tokens call.specs call.reads call.arguments call.tokens
  specs : call.specs.length = closure.params.length
  reads : call.reads.length = closure.params.length
  arguments : call.arguments.length = closure.params.length
  /-- Each argument is what the read at its position is bound to. -/
  bound : ∀ position : Nat, call.arguments[position]? =
    (call.reads[position]?).map ReadCode.binding
  distinct : call.arguments.Nodup
  each : ∀ (position : Nat) param, closure.params[position]? = some param →
    ∃ spec read, call.specs[position]? = some spec ∧ call.reads[position]? = some read ∧
      Fits param spec read

/-- What an expansion makes of a closure. -/
structure Expands (closure : Closure) : Prop where
  agreement : ∀ call, StepCall.ofClosure closure = .ok call → Agreement closure call
  /-- It fails exactly where a parameter has no type, or its first union lists no type or cannot be
  read. -/
  fails : (∃ fault, StepCall.ofClosure closure = .error fault) ↔ ∃ param ∈ closure.params,
    param.type = none ∨ ∃ attr, FirstUnion param.attributes attr ∧
      (listed? attr = some [] ∨ listed? attr = none)
  /-- The fault is that of the first parameter that has one. -/
  first : ∀ fault, StepCall.ofClosure closure = .error fault ↔ ∃ before param after,
    closure.params = before ++ param :: after ∧ (∀ other ∈ before, ∀ found, ¬Blamed other found) ∧
      Blamed param fault

theorem fits_of_declared {param : ClosureParam} {made : Param TypeText} {position : Nat}
    (h : declared param = .ok made) (hb : param.pattern.name? ≠ some "_") :
    Fits param (.ofParam made) (.ofParam (binding position) made) := by
  obtain ⟨hname, hpasses⟩ := passes_of_declared h
  refine ⟨hname, rfl, ?_, hpasses⟩
  change made.name = none ↔ made.name.getD "_" = "_"
  rw [hname]
  cases hp : param.pattern.name? with
  | none => exact ⟨fun _ => rfl, fun _ => rfl⟩
  | some name =>
    rw [hp] at hb
    exact ⟨nofun, fun he => absurd (congrArg some he) hb⟩

theorem agreement_of_read {closure : Closure} {call : StepCall}
    (hb : ∀ param ∈ closure.params, param.pattern.name? ≠ some "_")
    (h : StepCall.ofClosure closure = .ok call) : Agreement closure call := by
  have hmap := StepCall.map_declared_of_eq_ok h
  have hlen : closure.params.length = call.params.length := by
    simpa using congrArg List.length hmap
  refine {
    emitted := writesStep_tokens call
    specs := call.specs_length.trans hlen.symm
    reads := call.reads_length.trans hlen.symm
    arguments := call.arguments_length.trans hlen.symm
    bound := fun position => List.getElem?_map
    distinct := ?_
    each := ?_ }
  · -- The bindings are told apart by their numbers.
    rw [call.arguments_eq]
    exact List.nodup_range.map binding_injective
  · intro position param hparam
    obtain ⟨made, hmade, hd⟩ := StepCall.exists_declared h hparam
    refine ⟨.ofParam made, .ofParam (binding position) made, ?_, ?_,
      fits_of_declared hd (hb param (List.mem_of_getElem? hparam))⟩
    · rw [StepCall.specs, List.getElem?_map, hmade, Option.map_some]
    · rw [StepCall.reads, List.getElem?_mapIdx, hmade, Option.map_some]

/-- The code that a closure expands to has one declaration, one read and one argument for each
parameter, in order. The argument is what the read is bound to, and declaration and read agree with
the parameter: a union accepts the listed types and reads any value, an `Option<T>` accepts `T` and
reads an optional one, and any other type accepts and requires itself. There is no code exactly
where a parameter has no type, or its first union lists no type or cannot be read; the first such
parameter decides the fault. -/
theorem expands (closure : Closure) (h : ∃ tokens, Closure.ofTokens? tokens = some closure) :
    Expands closure where
  agreement call hc := by
    obtain ⟨tokens, h⟩ := h
    exact agreement_of_read (fun param hp => name_ne_of_read h hp) hc
  fails := by simp only [StepCall.fails_iff, blamed_iff]
  first _ := StepCall.ofClosure_eq_error_iff

/-- What `|#[one_of(u8, u16)] level: Value, limit: Option<u32>, _: u32| ()` is read as. -/
def written : Closure where
  modifiers := []
  params := [
    ⟨[⟨false, ["one_of"],
        .arguments .parenthesis (Token.ident "u8" ++ Token.op "," ++ Token.ident "u16")⟩],
      .binding [] "level" [], some (.other (Token.ident "Value"))⟩,
    ⟨[], .binding [] "limit" [], some (.applied [] "Option" (Token.op "<")
      (.other (Token.ident "u32")) (Token.op ">"))⟩,
    ⟨[], .other (Token.ident "_"), some (.other (Token.ident "u32"))⟩]
  openEnded := false
  result := []
  body := Token.parens []

set_option maxRecDepth 2000 in
theorem expands_written : Closure.ofTokens? written.tokens = some written ∧ Expands written ∧
    ∃ call, StepCall.ofClosure written = .ok call ∧
      call.specs = [
        ⟨some "level", [.other (Token.ident "u8"), .other (Token.ident "u16")]⟩,
        ⟨some "limit", [.other (Token.ident "u32")]⟩,
        ⟨none, [.other (Token.ident "u32")]⟩] ∧
      call.reads = [
        ⟨"__gwt_arg0", .value, "level"⟩,
        ⟨"__gwt_arg1", .optional (.other (Token.ident "u32")), "limit"⟩,
        ⟨"__gwt_arg2", .required (.other (Token.ident "u32")), "_"⟩] := by
  have h : Closure.ofTokens? written.tokens = some written := by cbv
  have hcall : StepCall.ofClosure written =
      .ok ⟨{ written with params := written.params.map withoutUnion }, [
        ⟨some "level", .oneOf [.other (Token.ident "u8"), .other (Token.ident "u16")]⟩,
        ⟨some "limit", .optional (.other (Token.ident "u32"))⟩,
        ⟨none, .required (.other (Token.ident "u32"))⟩]⟩ := by cbv
  exact ⟨h, expands written ⟨_, h⟩, _, hcall, rfl, rfl⟩

end Storytest.Expansion
