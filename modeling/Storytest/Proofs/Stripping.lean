import Mathlib
import Storytest.Proofs.Agreement

/-!
# The closure inside an expansion

Expansion passes a closure on as it is, but for the attributes that declare unions: those are not
for the compiler to see. `emits` says what is left of every closure. Of each parameter's attributes
only the first that declares a union is taken out, so the closure is free of them exactly where no
parameter had two.
-/

namespace Storytest.Expansion

open Source

/-- The attributes of a parameter that declare unions, in order. -/
def unions (attributes : List Attribute) : List Attribute := attributes.filter isUnion

/-- The attributes of a parameter that are none of expansion's business, in order. -/
def others (attributes : List Attribute) : List Attribute :=
  attributes.filter fun attr => !isUnion attr

theorem noUnion_iff {attributes : List Attribute} :
    NoUnion attributes ↔ unions attributes = [] := by
  simp only [NoUnion, unions, List.filter_eq_nil_iff, Bool.not_eq_true]

/-! ## One parameter -/

theorem others_eraseP (attributes : List Attribute) :
    others (attributes.eraseP isUnion) = others attributes := by
  induction attributes with
  | nil => rfl
  | cons attr rest ih =>
    cases h : isUnion attr with
    | true => simp [others, h]
    | false => simpa [others, h] using ih

theorem unions_eraseP (attributes : List Attribute) :
    unions (attributes.eraseP isUnion) = (unions attributes).tail := by
  induction attributes with
  | nil => rfl
  | cons attr rest ih =>
    cases h : isUnion attr with
    | true => simp [unions, h]
    | false => simpa [unions, h] using ih

theorem noUnion_eraseP_iff {attributes : List Attribute} :
    NoUnion (attributes.eraseP isUnion) ↔ (unions attributes).length ≤ 1 := by
  rw [noUnion_iff, unions_eraseP, ← List.length_eq_zero_iff, List.length_tail]
  omega

theorem eraseP_eq_iff {attributes left : List Attribute} : attributes.eraseP isUnion = left ↔
    (NoUnion attributes ∧ left = attributes) ∨ ∃ before attr after,
      attributes = before ++ attr :: after ∧ NoUnion before ∧ isUnion attr = true ∧
        left = before ++ after := by
  constructor
  · rintro rfl
    rcases hu : unions attributes with _ | ⟨first, rest⟩
    · have hn := noUnion_iff.2 hu
      exact .inl ⟨hn, List.eraseP_of_forall_not fun attr ha => by simp [hn attr ha]⟩
    · have hm : first ∈ attributes.filter isUnion := by
        rw [unions] at hu
        simp [hu]
      obtain ⟨hin, hp⟩ := List.mem_filter.1 hm
      obtain ⟨attr, before, after, hb, ha, hsplit, he⟩ := List.exists_of_eraseP hin hp
      exact .inr ⟨before, attr, after, hsplit, fun other ho => by simpa using hb other ho, ha, he⟩
  · rintro (⟨hn, rfl⟩ | ⟨before, attr, after, rfl, hb, ha, rfl⟩)
    · exact List.eraseP_of_forall_not fun attr ha => by simp [hn attr ha]
    · rw [List.eraseP_append_right _ fun other ho => by simp [hb other ho],
        List.eraseP_cons_of_pos ha]

/-- What a parameter of the closure becomes. -/
structure Keeps (param emitted : ClosureParam) : Prop where
  pattern : emitted.pattern = param.pattern
  type : emitted.type = param.type
  /-- Either there was no union and all attributes stay, or the first union alone is gone. -/
  attributes : (NoUnion param.attributes ∧ emitted.attributes = param.attributes) ∨
    ∃ before attr after, param.attributes = before ++ attr :: after ∧ NoUnion before ∧
      isUnion attr = true ∧ emitted.attributes = before ++ after
  others : others emitted.attributes = others param.attributes
  unions : unions emitted.attributes = (unions param.attributes).tail

theorem keeps_withoutUnion (param : ClosureParam) : Keeps param (withoutUnion param) where
  pattern := rfl
  type := rfl
  attributes := eraseP_eq_iff.1 rfl
  others := others_eraseP param.attributes
  unions := unions_eraseP param.attributes

/-! ## The whole closure -/

/-- The code that constructs a step from the code of a closure, of declarations, of reads and of
arguments. -/
def constructed (closure : List Token) (specs reads arguments : List (List Token)) : List Token :=
  let signature := libraryPath ["Signature", "Described"] ++ Token.parens
    (Token.rooted ["std", "vec"] ++ Token.op "!" ++
      Token.brackets (Token.separated (Token.op ",") specs))
  let inner := Token.ident "__gwt_call" ++ Token.parens (Token.separated (Token.op ",") arguments)
  let wrapper := Token.ident "move" ++ Token.op "|" ++ Token.ident "__gwt_args" ++ Token.op ":" ++
    Token.op "&" ++ Token.ident "mut" ++ libraryPath ["Args"] ++ Token.op "|" ++
    Token.braces (reads.flatten ++ libraryPath ["StepOutput", "into_output"] ++ Token.parens inner)
  Token.braces
    (StepCall.allowance ++ Token.ident "let" ++ Token.ident "mut" ++ Token.ident "__gwt_call" ++
      Token.op "=" ++ closure ++ Token.op ";" ++ libraryPath ["Step", "new"] ++
      Token.parens (signature ++ Token.op "," ++ wrapper ++ Token.op ","))

theorem StepCall.tokens_eq (call : StepCall) : call.tokens = constructed call.closure.tokens
    (call.specs.map SpecCode.tokens) (call.reads.map ReadCode.tokens)
      (call.arguments.map Token.ident) := by
  rw [constructed, ← List.flatMap_def]
  rfl

/-- What a closure becomes. -/
structure Emits (closure : Closure) (call : StepCall) : Prop where
  /-- It is what the code of the call binds. -/
  code : ∃ specs reads arguments,
    call.tokens = constructed call.closure.tokens specs reads arguments
  modifiers : call.closure.modifiers = closure.modifiers
  result : call.closure.result = closure.result
  body : call.closure.body = closure.body
  openEnded : call.closure.openEnded = closure.openEnded
  params : List.Forall₂ Keeps closure.params call.closure.params
  /-- No parameter declares a union any more exactly where none declared two. -/
  clean : (∀ emitted ∈ call.closure.params, NoUnion emitted.attributes) ↔
    ∀ param ∈ closure.params, (unions param.attributes).length ≤ 1

namespace StepCall

/-- The closure in the code of an expansion is the closure that was expanded, with every pattern,
type, result, modifier and body, and with all attributes but the first union of each parameter. So
no union is left exactly when no parameter had two. -/
theorem emits (closure : Closure) (call : StepCall) (h : ofClosure closure = .ok call) :
    Emits closure call := by
  have hc := (ofClosure_eq_ok h).2
  refine {
    code := ⟨_, _, _, call.tokens_eq⟩
    modifiers := by rw [hc]
    result := by rw [hc]
    body := by rw [hc]
    openEnded := by rw [hc]
    params := ?_
    clean := ?_ }
  · rw [hc]
    exact List.forall₂_map_right_iff.2 (List.forall₂_same.2 fun param _ => keeps_withoutUnion param)
  · rw [hc, List.forall_mem_map]
    exact forall₂_congr fun param _ => noUnion_eraseP_iff

end StepCall

/-- `#[name(inside)]`. -/
def marked (name inside : String) : Attribute :=
  ⟨false, [name], .arguments .parenthesis (Token.ident inside)⟩

/-- `move |#[allow(unused)] #[one_of(u8)] #[warn(unused)] level: Value, mut n: u32| -> u32 { n }`. -/
def adorned : Closure where
  modifiers := Token.ident "move"
  params := [
    ⟨[marked "allow" "unused", marked "one_of" "u8", marked "warn" "unused"],
      .binding [] "level" [], some (.other (Token.ident "Value"))⟩,
    ⟨[], .binding (Token.ident "mut") "n" [], some (.other (Token.ident "u32"))⟩]
  openEnded := false
  result := Token.op "->" ++ Token.ident "u32"
  body := Token.braces (Token.ident "n")

theorem emits_adorned : ∃ call, StepCall.ofClosure adorned = .ok call ∧ Emits adorned call ∧
    call.closure.params.map ClosureParam.attributes =
      [[marked "allow" "unused", marked "warn" "unused"], []] := by
  have h : StepCall.ofClosure adorned =
      .ok ⟨{ adorned with params := adorned.params.map withoutUnion },
        [⟨some "level", .oneOf [.other (Token.ident "u8")]⟩,
          ⟨some "n", .required (.other (Token.ident "u32"))⟩]⟩ := by cbv
  exact ⟨_, h, StepCall.emits _ _ h, rfl⟩

/-- `|#[one_of(u8)] #[one_of(u16)] id: Value| ()`. -/
def twice : Closure where
  modifiers := []
  params := [⟨[marked "one_of" "u8", marked "one_of" "u16"], .binding [] "id" [],
    some (.other (Token.ident "Value"))⟩]
  openEnded := false
  result := []
  body := Token.parens []

/-- The second of two unions goes on to the compiler. -/
theorem second_union_stays : Closure.ofTokens? twice.tokens = some twice ∧
    ∃ call, StepCall.ofClosure twice = .ok call ∧
      ∃ emitted ∈ call.closure.params, ∃ attr ∈ emitted.attributes, isUnion attr = true := by
  refine ⟨by cbv, ⟨{ twice with params := twice.params.map withoutUnion },
    [⟨some "id", .oneOf [.other (Token.ident "u8")]⟩]⟩, by cbv, _, List.mem_singleton_self _,
      marked "one_of" "u16", List.mem_singleton_self _, rfl⟩

end Storytest.Expansion
