import Mathlib
import Storytest.Proofs.LibraryPath

/-!
# The code of an output instance

An instance repeats parts of its item and names things of the library. `Refers` reads the code as
just that, and tells in which order the library is named and that the names stand behind its path;
`Implements` says where the generics of the item are. `derived` holds every item against both.
-/

namespace Storytest

open Source

/-! ## Lists of generic parameters -/

namespace Source.Listed

variable {α : Type}

/-- There is a comma between any two. -/
def Separated (items : List (Listed α)) : Prop :=
  ∀ entry ∈ items.dropLast, entry.separated = true

theorem tokens_append (separator : String) (item : α → List Token) (first rest : List (Listed α)) :
    tokens separator item (first ++ rest) =
      tokens separator item first ++ tokens separator item rest := by
  induction first with
  | nil => rfl
  | cons entry first ih => simp only [List.cons_append, tokens, ih, List.append_assoc]

/-- The list with a comma behind its last member. -/
def close (items : List (Listed α)) : List (Listed α) :=
  items.dropLast ++ items.getLast?.toList.map fun entry => { entry with separated := true }

/-- The members of one kind and then the others, with a comma between the two parts. -/
def arrange (isFirst : α → Bool) (items : List (Listed α)) : List (Listed α) :=
  let first := items.filter fun entry => isFirst entry.value
  let rest := items.filter fun entry => !isFirst entry.value
  (if isOpen first || rest.isEmpty then first else close first) ++ rest

theorem map_value_close (items : List (Listed α)) :
    (close items).map Listed.value = items.map Listed.value := by
  rcases List.eq_nil_or_concat' items with rfl | ⟨init, last, rfl⟩
  · rfl
  · simp [close]

theorem tokens_close {separator : String} {item : α → List Token} {items : List (Listed α)}
    (h : isOpen items = false) : tokens separator item (close items) =
      tokens separator item items ++ Token.op separator := by
  rcases List.eq_nil_or_concat' items with rfl | ⟨init, last, rfl⟩
  · cases h
  · have hlast : last.separated = false := by simpa [isOpen] using h
    simp [close, tokens_append, tokens, hlast]

theorem tokens_arrange (isFirst : α → Bool) (item : α → List Token) (items : List (Listed α)) :
    tokens "," item (arrange isFirst items) = partitioned isFirst item items := by
  rw [arrange, partitioned, glue, tokens_append]
  split_ifs with h
  · rw [List.append_nil]
  · rw [Bool.or_eq_true, not_or, Bool.not_eq_true] at h
    rw [tokens_close h.1]

theorem map_value_arrange (isFirst : α → Bool) (items : List (Listed α)) :
    (arrange isFirst items).map Listed.value =
      (items.map Listed.value).filter isFirst ++
        (items.map Listed.value).filter fun value => !isFirst value := by
  have hfirst (first : List (Listed α)) (b : Bool) :
      (if b then first else close first).map Listed.value = first.map Listed.value := by
    cases b
    · exact map_value_close first
    · rfl
  rw [arrange, List.map_append, hfirst, List.filter_map, List.filter_map]
  rfl

/-- Nothing is lost and nothing is added. -/
theorem perm_arrange (isFirst : α → Bool) (items : List (Listed α)) :
    ((arrange isFirst items).map Listed.value).Perm (items.map Listed.value) := by
  rw [map_value_arrange]
  exact List.filter_append_perm isFirst _

theorem isEmpty_arrange (isFirst : α → Bool) (items : List (Listed α)) :
    (arrange isFirst items).isEmpty = items.isEmpty := by
  have hlen := (perm_arrange isFirst items).length_eq
  rw [List.length_map, List.length_map] at hlen
  rw [Bool.eq_iff_iff, List.isEmpty_iff_length_eq_zero, List.isEmpty_iff_length_eq_zero, hlen]

theorem Separated.filter {items : List (Listed α)} (h : Separated items) (p : Listed α → Bool) :
    Separated (items.filter p) := by
  rcases List.eq_nil_or_concat' items with rfl | ⟨init, last, rfl⟩
  · exact h
  · rw [Separated, List.dropLast_concat] at h
    intro entry he
    refine h entry ?_
    rw [List.filter_append] at he
    cases hp : p last with
    | true =>
      rw [List.filter_singleton, hp, cond_true, List.dropLast_concat] at he
      exact List.mem_of_mem_filter he
    | false =>
      rw [List.filter_singleton, hp, cond_false, List.append_nil] at he
      exact List.mem_of_mem_filter (List.mem_of_mem_dropLast he)

theorem Separated.of_isOpen {items : List (Listed α)} (h : Separated items)
    (ho : isOpen items = true) : ∀ entry ∈ items, entry.separated = true := by
  rcases List.eq_nil_or_concat' items with rfl | ⟨init, last, rfl⟩
  · exact nofun
  · rw [Separated, List.dropLast_concat] at h
    have hlast : last.separated = true := by simpa [isOpen] using ho
    intro entry he
    rcases List.mem_append.1 he with he | he
    · exact h entry he
    · rw [List.mem_singleton.1 he, hlast]

theorem Separated.close {items : List (Listed α)} (h : Separated items) :
    ∀ entry ∈ close items, entry.separated = true := by
  intro entry he
  rcases List.mem_append.1 he with he | he
  · exact h entry he
  · obtain ⟨last, -, rfl⟩ := List.mem_map.1 he
    rfl

theorem Separated.arrange {items : List (Listed α)} (h : Separated items) (isFirst : α → Bool) :
    Separated (arrange isFirst items) := by
  have hfirst := h.filter fun entry => isFirst entry.value
  have hrest := h.filter fun entry => !isFirst entry.value
  rw [Listed.arrange]
  generalize items.filter (fun entry => isFirst entry.value) = first at *
  generalize items.filter (fun entry => !isFirst entry.value) = rest at *
  -- Where others follow, even the last of the first kind has its comma.
  cases rest with
  | nil =>
    rw [List.isEmpty_nil, Bool.or_true, if_pos rfl, List.append_nil]
    exact hfirst
  | cons head tail =>
    rw [Separated, List.dropLast_append_of_ne_nil (List.cons_ne_nil head tail)]
    intro entry he
    rcases List.mem_append.1 he with he | he
    · split_ifs at he with hopen
      · rw [List.isEmpty_cons, Bool.or_false] at hopen
        exact hfirst.of_isOpen hopen entry he
      · exact hfirst.close entry he
    · exact hrest entry he

end Source.Listed

namespace Expansion

/-! ## References to the library -/

/-- What an instance repeats of its item. -/
inductive Repeats (item : Item) : List Token → Prop
  | name : Repeats item (Token.ident item.name)
  | declaration {param : GenericParam} : param ∈ item.generics.params.map Listed.value →
      Repeats item param.declaration
  | argument {param : GenericParam} : param ∈ item.generics.params.map Listed.value →
      Repeats item param.argument
  | condition {predicate : List Token} : predicate ∈ item.generics.predicates →
      Repeats item predicate

/-- The library, by its own name, and what an instance uses of it. -/
def libraryWords : List String := ["gwt_scenario", "StepOutput", "ScenarioResult", "Value"]

/-- The token names nothing of the library. -/
def Plain : Token → Prop
  | .word text => text ∉ libraryWords
  | .lifetime _ | .mark .. | .literal _ => True
  | .group .. => False

/-- The code names these things of the library in order, each behind the path. The rest of it is
repeated from the item or names nothing of the library. -/
inductive Refers (path : List Token) (item : Item) : List Token → List String → Prop
  | done : Refers path item [] []
  | plain {token : Token} {code : List Token} {names : List String} : Plain token →
      Refers path item code names → Refers path item (token :: code) names
  | repeated {part code : List Token} {names : List String} : Repeats item part →
      Refers path item code names → Refers path item (part ++ code) names
  | library {name : String} {code : List Token} {names : List String} :
      Refers path item code names →
      Refers path item (path ++ Token.op "::" ++ Token.ident name ++ code) (name :: names)
  | group {delimiter : Delimiter} {content code : List Token} {inner names : List String} :
      Refers path item content inner → Refers path item code names →
      Refers path item (.group delimiter content :: code) (inner ++ names)

namespace Refers

variable {path : List Token} {item : Item} {code : List Token} {names : List String}

theorem append {rest : List Token} {more : List String} (h : Refers path item code names)
    (hr : Refers path item rest more) : Refers path item (code ++ rest) (names ++ more) := by
  induction h with
  | done => exact hr
  | plain hp _ ih => exact .plain hp ih
  | repeated hp _ ih =>
    rw [List.append_assoc]
    exact .repeated hp ih
  | library _ ih =>
    rw [List.append_assoc]
    exact .library ih
  | group hc _ _ ih =>
    rw [List.cons_append, List.append_assoc]
    exact .group hc ih

theorem of_plain (h : ∀ token ∈ code, Plain token) : Refers path item code [] := by
  induction code with
  | nil => exact .done
  | cons token code ih =>
    exact .plain (h token List.mem_cons_self) (ih fun other ho => h other (List.mem_cons_of_mem _ ho))

theorem of_repeats (h : Repeats item code) : Refers path item code [] := by
  simpa using Refers.repeated h .done

theorem of_library (name : String) :
    Refers path item (path ++ Token.op "::" ++ Token.ident name) [name] := by
  have h : Refers path item (path ++ Token.op "::" ++ Token.ident name ++ []) [name] :=
    .library .done
  rwa [List.append_nil] at h

theorem enclosed (delimiter : Delimiter) (h : Refers path item code names) :
    Refers path item [.group delimiter code] names := by
  have hg : Refers path item [.group delimiter code] (names ++ []) := .group h .done
  rwa [List.append_nil] at hg

theorem op (marks : String) : Refers path item (Token.op marks) [] := by
  rw [Token.op]
  generalize marks.toList = chars
  induction chars with
  | nil => exact .done
  | cons c chars ih =>
    cases chars with
    | nil => exact .plain trivial .done
    | cons => exact .plain trivial ih

theorem ident {text : String} (h : text ∉ libraryWords) :
    Refers path item (Token.ident text) [] :=
  .plain h .done

theorem core {names : List String} (h : ∀ name ∈ names, name ∉ libraryWords) :
    Refers path item (OutputInstance.coreName names) [] := by
  have hall : ∀ name ∈ "core" :: names, name ∉ libraryWords :=
    List.forall_mem_cons.2 ⟨by decide, h⟩
  rw [OutputInstance.coreName, Token.rooted]
  generalize "core" :: names = segments at hall
  induction segments with
  | nil => exact .done
  | cons name rest ih =>
    rw [List.forall_mem_cons] at hall
    rw [List.flatMap_cons]
    exact ((op "::").append (ident hall.1)).append (ih hall.2)

theorem listed {f : GenericParam → List Token} {items : List (Listed GenericParam)}
    (h : ∀ entry ∈ items, Repeats item (f entry.value)) :
    Refers path item (Listed.tokens "," f items) [] := by
  induction items with
  | nil => exact .done
  | cons entry items ih =>
    rw [List.forall_mem_cons] at h
    have hcomma : Refers path item (if entry.separated then Token.op "," else []) [] := by
      split_ifs
      · exact op ","
      · exact .done
    exact ((of_repeats h.1).append hcomma).append (ih h.2)

theorem separated {parts : List (List Token)} (h : ∀ part ∈ parts, Refers path item part []) :
    Refers path item (Token.separated (Token.op ",") parts) [] := by
  induction parts with
  | nil => exact .done
  | cons part parts ih =>
    rw [List.forall_mem_cons] at h
    cases parts with
    | nil => exact h.1
    | cons => exact (h.1.append (op ",")).append (ih h.2)

end Refers

/-! ## The code of an instance -/

/-- A list in angle brackets, or nothing for an empty one. -/
def angled (f : GenericParam → List Token) (items : List (Listed GenericParam)) : List Token :=
  if items.isEmpty then [] else Token.op "<" ++ Listed.tokens "," f items ++ Token.op ">"

/-- The condition `Self: 'static`. -/
def static : List Token := [.word "Self", .mark ':' false, .lifetime "static"]

/-- The list has all these generic parameters and no others, the lifetimes in front. -/
structure Arranges (params items : List (Listed GenericParam)) : Prop where
  values : items.map Listed.value =
    (params.map Listed.value).filter GenericParam.isLifetime ++
      (params.map Listed.value).filter fun param => !param.isLifetime
  commas : Listed.Separated params → Listed.Separated items

/-- The code implements the output of steps for the item. -/
structure Implements (path : List Token) (item : Item) (code : List Token) : Prop where
  /-- The generics of the item are all there, in both places, and one condition more. -/
  generics : ∃ items body, Arranges item.generics.params items ∧ code =
    Token.ident "impl" ++ angled GenericParam.declaration items ++
      (path ++ Token.op "::" ++ Token.ident "StepOutput") ++ Token.ident "for" ++
      Token.ident item.name ++ angled GenericParam.argument items ++
      (Token.ident "where" ++
        Token.separated (Token.op ",") (item.generics.predicates ++ [static])) ++
      Token.braces body
  /-- The trait, the alias of results, and the two uses of values. -/
  references : Refers path item code ["StepOutput", "ScenarioResult", "Value", "Value"]

namespace OutputInstance

theorem angled_eq (generics : Generics) (f : GenericParam → List Token) :
    generics.angled f =
      angled f (Listed.arrange GenericParam.isLifetime generics.params) := by
  rw [Generics.angled, angled, Listed.isEmpty_arrange, Listed.tokens_arrange]

theorem refers_result (inst : OutputInstance) :
    Refers inst.path inst.item inst.resultTokens ["ScenarioResult", "Value"] := by
  have hresult : Refers inst.path inst.item
      (inst.libraryName "ScenarioResult" ++ Token.op "<") ["ScenarioResult"] :=
    (Refers.of_library "ScenarioResult").append (.op "<")
  have hoption : Refers inst.path inst.item (inst.libraryName "ScenarioResult" ++ Token.op "<" ++
      coreName ["option", "Option"] ++ Token.op "<") ["ScenarioResult"] :=
    (hresult.append (.core (by decide))).append (.op "<")
  exact (hoption.append (.of_library "Value")).append (.op ">>")

theorem refers_output (inst : OutputInstance) :
    Refers inst.path inst.item inst.outputTokens ["Value"] := by
  have hnew : Refers inst.path inst.item
      (inst.libraryName "Value" ++ Token.op "::" ++ Token.ident "new") ["Value"] :=
    ((Refers.of_library "Value").append (.op "::")).append (.ident (by decide))
  have hself : Refers inst.path inst.item (Token.parens (Token.ident "self")) [] :=
    .enclosed _ (.ident (by decide))
  have hsome : Refers inst.path inst.item (coreName ["option", "Option", "Some"] ++
      Token.parens (inst.libraryName "Value" ++ Token.op "::" ++ Token.ident "new" ++
        Token.parens (Token.ident "self"))) ["Value"] :=
    (Refers.core (by decide)).append (.enclosed _ (hnew.append hself))
  exact (Refers.core (by decide)).append (.enclosed _ hsome)

theorem refers_function (inst : OutputInstance) :
    Refers inst.path inst.item (Token.braces inst.functionTokens)
      ["ScenarioResult", "Value", "Value"] := by
  have hname : Refers inst.path inst.item (Token.ident "fn" ++ Token.ident "into_output") [] :=
    (Refers.ident (by decide)).append (.ident (by decide))
  have hself : Refers inst.path inst.item
      (Token.parens (Token.ident "self" ++ Token.op ",")) [] :=
    .enclosed _ ((Refers.ident (by decide)).append (.op ","))
  have hhead : Refers inst.path inst.item (Token.ident "fn" ++ Token.ident "into_output" ++
      Token.parens (Token.ident "self" ++ Token.op ",") ++ Token.op "->") [] :=
    (hname.append hself).append (.op "->")
  have hbody : Refers inst.path inst.item (Token.braces inst.outputTokens) ["Value"] :=
    .enclosed _ inst.refers_output
  exact .enclosed _ ((hhead.append inst.refers_result).append hbody)

theorem tokens_eq (inst : OutputInstance) : inst.tokens =
    Token.ident "impl" ++
      angled GenericParam.declaration
        (Listed.arrange GenericParam.isLifetime inst.item.generics.params) ++
      (inst.path ++ Token.op "::" ++ Token.ident "StepOutput") ++ Token.ident "for" ++
      Token.ident inst.item.name ++
      angled GenericParam.argument
        (Listed.arrange GenericParam.isLifetime inst.item.generics.params) ++
      (Token.ident "where" ++
        Token.separated (Token.op ",") (inst.item.generics.predicates ++ [static])) ++
      Token.braces inst.functionTokens := by
  have hconditions : inst.generics.conditions = Token.ident "where" ++
      Token.separated (Token.op ",") (inst.item.generics.predicates ++ [static]) := by
    rw [Generics.conditions, if_neg (by simp [OutputInstance.generics, Generics.require])]
    rfl
  rw [tokens, Generics.declarations, Generics.arguments, angled_eq, angled_eq, hconditions]
  rfl

theorem refers_angled (inst : OutputInstance) {f : GenericParam → List Token}
    (h : ∀ param ∈ inst.item.generics.params.map Listed.value, Repeats inst.item (f param)) :
    Refers inst.path inst.item
      (angled f (Listed.arrange GenericParam.isLifetime inst.item.generics.params)) [] := by
  rw [angled]
  split_ifs
  · exact .done
  · refine ((Refers.op "<").append (.listed fun entry he => h _ ?_)).append (.op ">")
    exact (Listed.perm_arrange _ _).mem_iff.1 (List.mem_map_of_mem he)

theorem refers_where (inst : OutputInstance) : Refers inst.path inst.item
    (Token.ident "where" ++
      Token.separated (Token.op ",") (inst.item.generics.predicates ++ [static])) [] := by
  have hstatic : Refers inst.path inst.item static [] :=
    .of_plain (by simp [static, Plain, libraryWords])
  have hpredicates : ∀ part ∈ inst.item.generics.predicates ++ [static],
      Refers inst.path inst.item part [] := by
    intro part hpart
    rcases List.mem_append.1 hpart with hin | hin
    · exact .of_repeats (.condition hin)
    · rw [List.mem_singleton.1 hin]
      exact hstatic
  exact (Refers.ident (by decide)).append (.separated hpredicates)

theorem refers_tokens (inst : OutputInstance) :
    Refers inst.path inst.item inst.tokens ["StepOutput", "ScenarioResult", "Value", "Value"] := by
  have himpl : Refers inst.path inst.item (Token.ident "impl") [] := .ident (by decide)
  have hfor : Refers inst.path inst.item (Token.ident "for") [] := .ident (by decide)
  have hname : Refers inst.path inst.item (Token.ident inst.item.name) [] := .of_repeats .name
  have hdeclarations := inst.refers_angled fun _ => Repeats.declaration
  have harguments := inst.refers_angled fun _ => Repeats.argument
  have htrait := (himpl.append hdeclarations).append (.of_library "StepOutput")
  have htarget := ((htrait.append hfor).append hname).append harguments
  rw [tokens_eq]
  exact (htarget.append inst.refers_where).append inst.refers_function

theorem implements (inst : OutputInstance) : Implements inst.path inst.item inst.tokens where
  generics :=
    ⟨Listed.arrange GenericParam.isLifetime inst.item.generics.params, inst.functionTokens,
      ⟨Listed.map_value_arrange _ _, fun h => h.arrange _⟩, inst.tokens_eq⟩
  references := inst.refers_tokens

end OutputInstance

/-- What becomes of an item. -/
structure Derived (item : Item) : Prop where
  /-- There is an instance exactly where the attributes follow the grammar, and the last path that
  they set is the one that it uses. -/
  made : ∀ inst, OutputInstance.ofItem item = .ok inst ↔ inst.item = item ∧
    ∃ paths, SetsAll item.attributes paths ∧ inst.path = paths.getLast?.getD defaultPath
  refused : (¬∃ paths, SetsAll item.attributes paths) →
    ∃ fault, OutputInstance.ofItem item = .error fault
  /-- Attributes of other names make no difference. -/
  ignores : ∀ attributes, attributes.filter isSetting = item.attributes.filter isSetting →
    resolvePath attributes = resolvePath item.attributes
  implements : ∀ inst, OutputInstance.ofItem item = .ok inst →
    Implements inst.path item inst.tokens

theorem ofItem_eq_ok {item : Item} {inst : OutputInstance} :
    OutputInstance.ofItem item = .ok inst ↔
      inst.item = item ∧ resolvePath item.attributes = .ok inst.path := by
  rw [OutputInstance.ofItem, bind_eq_ok]
  constructor
  · rintro ⟨path, hpath, h⟩
    cases h
    exact ⟨rfl, hpath⟩
  · rintro ⟨rfl, hpath⟩
    exact ⟨inst.path, hpath, rfl⟩

/-- An item has an instance exactly when its attributes follow the grammar of settings, and the path
of the instance is the last that they set, or the default. The code of the instance keeps the item's
generics, adds the one condition `Self: 'static`, and names the library four times, each behind the
path. -/
theorem derived (item : Item) : Derived item where
  made inst := by
    rw [ofItem_eq_ok, resolvePath_eq_ok]
  refused h := by
    cases hi : OutputInstance.ofItem item with
    | error fault => exact ⟨fault, rfl⟩
    | ok inst =>
      obtain ⟨paths, hpaths, -⟩ := resolvePath_eq_ok.1 (ofItem_eq_ok.1 hi).2
      exact absurd ⟨paths, hpaths⟩ h
  ignores attributes h := by
    rw [resolvePath, resolvePath, h]
  implements inst h := by
    rw [← (ofItem_eq_ok.1 h).1]
    exact inst.implements

/-- `#[step_output(crate = "path")]`, with the list in this delimiter. -/
def pathSetting (delimiter : Delimiter) (literal : String) : Attribute :=
  ⟨false, ["step_output"],
    .arguments delimiter [.word "crate", .mark '=' false, .literal literal]⟩

/-- `struct Receipt<T: Clone, 'a> where T: Send`, renamed twice. -/
def renamedTwice : Item where
  attributes := [pathSetting .parenthesis "\"app\"", ⟨false, ["step_output", "other"], .nothing⟩,
    pathSetting .parenthesis "\"lib\""]
  name := "Receipt"
  generics := {
    params := [⟨.type [] "T" (Token.ident "Clone"), true⟩, ⟨.lifetime [] [.lifetime "a"] [], false⟩]
    predicates := [Token.ident "T" ++ Token.op ":" ++ Token.ident "Send"] }

/-- The last path is the one that is used. -/
theorem derived_renamed_twice : ∃ inst, OutputInstance.ofItem renamedTwice = .ok inst ∧
    Token.displayAll inst.path = "lib" ∧ Implements inst.path renamedTwice inst.tokens := by
  have hpath (text : String) (h : (pathOfText? text).map Token.displayAll = some text) :
      ∃ path, pathOfText? text = some path ∧ Token.displayAll path = text :=
    Option.map_eq_some_iff.1 h
  obtain ⟨app, happ, -⟩ := hpath "app" (by decide +kernel)
  obtain ⟨lib, hlib, hdisplay⟩ := hpath "lib" (by decide +kernel)
  have hgiven (text literal : String) (path : List Token)
      (htext : Lexeme.textValue? literal = some text) (hp : pathOfText? text = some path) :
      Given (pathSetting .parenthesis literal) [path] :=
    .list rfl (.last (.crate htext hp))
  have hfirst := hgiven "app" "\"app\"" app (by cbv) happ
  have hlast := hgiven "lib" "\"lib\"" lib (by cbv) hlib
  have hmade : OutputInstance.ofItem renamedTwice = .ok ⟨lib, renamedTwice⟩ :=
    ((derived renamedTwice).made _).2
      ⟨rfl, [app, lib], .setting rfl hfirst (.other rfl (.setting rfl hlast .none)), rfl⟩
  exact ⟨_, hmade, hdisplay, (derived renamedTwice).implements _ hmade⟩

/-- `#[step_output[crate = "scenarios"]] struct Receipt;` -/
def bracketed : Item := ⟨[pathSetting .bracket "\"scenarios\""], "Receipt", ⟨[], []⟩⟩

/-- A list of settings that is not in parentheses is read all the same. -/
theorem bracketed_list_resolves :
    Item.ofTokens? (bracketed.attributes.flatMap Attribute.tokens ++ Token.ident "struct" ++
        Token.ident "Receipt" ++ Token.op ";") = some bracketed ∧
      (∃ attr ∈ bracketed.attributes, isSetting attr = true ∧
        ∀ content, attr.input ≠ .arguments .parenthesis content) ∧
      ∃ inst, OutputInstance.ofItem bracketed = .ok inst ∧
        Token.displayAll inst.path = "scenarios" := by
  refine ⟨by cbv, ⟨_, List.mem_singleton_self _, rfl, nofun⟩, ?_⟩
  have hpath : (resolvePath bracketed.attributes).toOption.map Token.displayAll =
      some "scenarios" := by
    decide +kernel
  obtain ⟨path, hresolved, hdisplay⟩ := Option.map_eq_some_iff.1 hpath
  cases hr : resolvePath bracketed.attributes with
  | error fault =>
    rw [hr] at hresolved
    cases hresolved
  | ok found =>
    rw [hr] at hresolved
    cases hresolved
    exact ⟨⟨path, bracketed⟩, ofItem_eq_ok.2 ⟨rfl, hr⟩, hdisplay⟩

end Expansion

end Storytest
