import Mathlib
import Storytest.Expansion.StepCall
import Storytest.Proofs.Quoting

/-!
# The code of a step

A grammar of the code that a closure expands to, token by token. It spells out what the code of a
declaration, of a read and of a whole step is, and knows nothing of how `StepCall` puts code
together. `writesStep_tokens` holds the code of every call against it.
-/

namespace Storytest.Expansion

open Source
open Token (group literal mark word)

/-! ## Types -/

/-- The tokens of a path that starts with `::`. -/
def rootPath : List String → List Token
  | [] => []
  | name :: rest => mark ':' true :: mark ':' false :: word name :: rootPath rest

/-- The tokens write the type. -/
inductive WritesType : TypeText → List Token → Prop
  | applied {head opening code closing : List Token} {name : String} {argument : TypeText} :
      WritesType argument code →
      WritesType (.applied head name opening argument closing)
        (head ++ [word name] ++ opening ++ code ++ closing)
  | other (code : List Token) : WritesType (.other code) code

/-- The tokens `::<T>`, by which a generic function is given the type. -/
inductive WritesArgument : TypeText → List Token → Prop
  | intro {type : TypeText} {code : List Token} : WritesType type code →
      WritesArgument type
        ([mark ':' true, mark ':' false, mark '<' false] ++ code ++ [mark '>' false])

theorem writesType_iff {type : TypeText} {code : List Token} :
    WritesType type code ↔ code = type.tokens := by
  constructor
  · intro h
    induction h with
    | applied _ ih => rw [ih]; rfl
    | other => rfl
  · rintro rfl
    induction type with
    | applied _ _ _ _ _ ih => exact .applied ih
    | other code => exact .other code

theorem writesArgument_iff {type : TypeText} {code : List Token} :
    WritesArgument type code ↔ code = turbofish type := by
  constructor
  · rintro ⟨h⟩
    rw [writesType_iff.1 h]
    -- Operators and paths compute, here and below, so code is the tokens that it is put together of.
    rfl
  · rintro rfl
    exact .intro (writesType_iff.2 rfl)

/-! ## Declarations -/

/-- A declaration, with a name or without one, that accepts one type after the other:
`::gwt_scenario::ParamSpec::named("name").accepts::<A>().accepts::<B>()`. -/
inductive WritesDeclaration : SpecCode → List Token → Prop
  | unnamed : WritesDeclaration ⟨none, []⟩
      (rootPath ["gwt_scenario", "ParamSpec", "unnamed"] ++ [group .parenthesis []])
  | named {text name : String} : Lexeme.textValue? text = some name →
      WritesDeclaration ⟨some name, []⟩
        (rootPath ["gwt_scenario", "ParamSpec", "named"] ++
          [group .parenthesis [literal text]])
  | accepts {spec : SpecCode} {type : TypeText} {code argument : List Token} :
      WritesDeclaration spec code → WritesArgument type argument →
      WritesDeclaration { spec with accepted := spec.accepted ++ [type] }
        (code ++ [mark '.' false, word "accepts"] ++ argument ++ [group .parenthesis []])

theorem WritesDeclaration.accepting {name : Option String} {code : List Token}
    (h : WritesDeclaration ⟨name, []⟩ code) (types : List TypeText) :
    WritesDeclaration ⟨name, types⟩
      (code ++ types.flatMap fun type =>
        Token.op "." ++ Token.ident "accepts" ++ turbofish type ++ Token.parens []) := by
  -- Types are accepted at the end of the code, so the induction takes the last one off.
  induction types using List.reverseRecOn with
  | nil => simpa using h
  | append_singleton types type ih =>
    rw [List.flatMap_append, List.flatMap_singleton, ← List.append_assoc, ← List.append_assoc,
      ← List.append_assoc]
    exact ih.accepts (writesArgument_iff.2 rfl)

theorem writesDeclaration_tokens (spec : SpecCode) : WritesDeclaration spec spec.tokens := by
  obtain ⟨name, types⟩ := spec
  cases name with
  | none => exact WritesDeclaration.unnamed.accepting types
  | some name => exact (WritesDeclaration.named (Lexeme.textValue?_quote name)).accepting types

example : Token.displayAll (SpecCode.tokens
    ⟨some "id", [.other (Token.ident "u8"), .other (Token.ident "String")]⟩) =
    ":: gwt_scenario :: ParamSpec :: named (\"id\") " ++
      ". accepts :: < u8 > () . accepts :: < String > ()" := by
  decide +kernel

/-! ## Reads -/

/-- The method that reads an argument: `required::<T>`, `optional::<T>` or `value`. -/
inductive WritesMethod : ReadMethod → List Token → Prop
  | required {type : TypeText} {argument : List Token} : WritesArgument type argument →
      WritesMethod (.required type) (word "required" :: argument)
  | optional {type : TypeText} {argument : List Token} : WritesArgument type argument →
      WritesMethod (.optional type) (word "optional" :: argument)
  | value : WritesMethod .value [word "value"]

/-- A read that binds an argument, or else returns its error:
`let binding = __gwt_args.method("label")?;`. -/
inductive WritesRead : ReadCode → List Token → Prop
  | intro {binding label text : String} {method : ReadMethod} {code : List Token} :
      WritesMethod method code → Lexeme.textValue? text = some label →
      WritesRead ⟨binding, method, label⟩
        ([word "let", word binding, mark '=' false, word "__gwt_args", mark '.' false] ++
          code ++ [group .parenthesis [literal text], mark '?' false, mark ';' false])

theorem writesMethod_tokens (method : ReadMethod) : WritesMethod method method.tokens := by
  cases method with
  | required => exact .required (writesArgument_iff.2 rfl)
  | optional => exact .optional (writesArgument_iff.2 rfl)
  | value => exact .value

theorem writesRead_tokens (read : ReadCode) : WritesRead read read.tokens := by
  rw [ReadCode.tokens, List.append_assoc, List.append_assoc]
  exact .intro (writesMethod_tokens read.method) (Lexeme.textValue?_quote read.label)

example : Token.displayAll
    (ReadCode.tokens ⟨"__gwt_arg1", .optional (.other (Token.ident "u32")), "limit"⟩) =
    "let __gwt_arg1 = __gwt_args . optional :: < u32 > (\"limit\") ? ;" := by
  decide +kernel

/-! ## Steps -/

/-- The signature with these declarations, in order:
`::gwt_scenario::Signature::Described(::std::vec![..])`. -/
inductive WritesSignature : List SpecCode → List Token → Prop
  | intro {specs : List SpecCode} {codes : List (List Token)} :
      List.Forall₂ WritesDeclaration specs codes →
      WritesSignature specs
        (rootPath ["gwt_scenario", "Signature", "Described"] ++
          [group .parenthesis (rootPath ["std", "vec"] ++
            [mark '!' false, group .bracket ([mark ',' false].intercalate codes)])])

/-- The wrapper `move |__gwt_args: &mut ::gwt_scenario::Args| { .. }`. It makes these reads, in
order, and then calls the closure with these arguments:
`::gwt_scenario::StepOutput::into_output(__gwt_call(..))`. -/
inductive WritesWrapper : List ReadCode → List String → List Token → Prop
  | intro {reads : List ReadCode} {arguments : List String} {codes : List (List Token)} :
      List.Forall₂ WritesRead reads codes →
      WritesWrapper reads arguments
        ([word "move", mark '|' false, word "__gwt_args", mark ':' false, mark '&' false,
            word "mut"] ++ rootPath ["gwt_scenario", "Args"] ++
          [mark '|' false, group .brace (codes.flatten ++
            rootPath ["gwt_scenario", "StepOutput", "into_output"] ++
            [group .parenthesis [word "__gwt_call", group .parenthesis
              ([mark ',' false].intercalate (arguments.map fun name => [word name]))]])])

/-- The block that binds the closure to `__gwt_call`, which may be mutable without need, and makes
the step with the signature and the wrapper: `::gwt_scenario::Step::new(.., ..,)`. -/
inductive WritesStep (closure : List Token) (specs : List SpecCode) (reads : List ReadCode)
    (arguments : List String) : List Token → Prop
  | intro {reason : String} {signature wrapper : List Token} :
      Lexeme.textValue? reason = some "Fn closures are also called through FnMut" →
      WritesSignature specs signature → WritesWrapper reads arguments wrapper →
      WritesStep closure specs reads arguments [group .brace (
        [mark '#' false, group .bracket [word "allow", group .parenthesis [word "unused_mut",
            mark ',' false, word "reason", mark '=' false, literal reason]],
          word "let", word "mut", word "__gwt_call", mark '=' false] ++ closure ++
        [mark ';' false] ++ rootPath ["gwt_scenario", "Step", "new"] ++
        [group .parenthesis (signature ++ [mark ',' false] ++ wrapper ++ [mark ',' false])])]

theorem separated_eq (separator : List Token) (parts : List (List Token)) :
    Token.separated separator parts = separator.intercalate parts := by
  induction parts with
  | nil => rfl
  | cons part rest ih =>
    cases rest with
    | nil => simp [Token.separated]
    | cons next rest => simp [Token.separated, ih, List.intercalate_cons_cons]

variable (call : StepCall)

theorem writesSignature_tokens : WritesSignature call.specs call.signatureTokens := by
  have h : List.Forall₂ WritesDeclaration call.specs (call.specs.map SpecCode.tokens) :=
    List.forall₂_map_right_iff.2 (List.forall₂_same.2 fun spec _ => writesDeclaration_tokens spec)
  rw [StepCall.signatureTokens, separated_eq]
  exact .intro h

theorem writesWrapper_tokens :
    WritesWrapper call.reads call.arguments call.wrapperTokens := by
  have h : List.Forall₂ WritesRead call.reads (call.reads.map ReadCode.tokens) :=
    List.forall₂_map_right_iff.2 (List.forall₂_same.2 fun read _ => writesRead_tokens read)
  rw [StepCall.wrapperTokens, separated_eq, List.flatMap_def, List.append_assoc]
  exact .intro h

/-- The code of a call makes a step of the call's closure, with its declarations, its reads and its
arguments, each in order. -/
theorem writesStep_tokens :
    WritesStep call.closure.tokens call.specs call.reads call.arguments call.tokens := by
  rw [StepCall.tokens]
  exact .intro (Lexeme.textValue?_quote _) (writesSignature_tokens call) (writesWrapper_tokens call)

end Storytest.Expansion
