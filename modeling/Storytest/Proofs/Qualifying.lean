import Storytest.Proofs.Shortening
import Storytest.Value

/-!
# Types with and without their modules

The short name of a type is its bare name: whatever it is built of, shortening the full name takes
away the modules of all names in it and nothing else (`shortName_eq_bareName`). Types that differ
only in modules are therefore stored under one key (`modules_vanish`).
-/

namespace Storytest

/-! ## Written names -/

namespace Text

/-- A mark between names: it has characters, and none of them belongs to a path. -/
def isMark (mark : String) : Bool :=
  mark ≠ "" && mark.toList.all fun c => !isPathChar c

variable {mark : String}

theorem isMark_iff :
    isMark mark = true ↔ mark ≠ "" ∧ ∀ c ∈ mark.toList, isPathChar c = false := by
  simp [isMark]

theorem shortName_self {text : String} (h : ':' ∉ text.toList) : shortName text = text := by
  rw [shortName, shorten_self h, String.ofList_toList]

theorem shortName_toString (number : Nat) : shortName (toString number) = toString number := by
  refine shortName_self fun hc => ?_
  have hdigit : ':' ∈ Nat.toDigits 10 number := by rwa [← Nat.toList_repr]
  have := Nat.isDigit_of_mem_toDigits (by decide) (by decide) hdigit
  cases this

theorem shortName_append_left (h : isMark mark = true) (after : String) :
    shortName (mark ++ after) = mark ++ shortName after := by
  rw [shortName, String.toList_append, shorten_append_left (isMark_iff.1 h).2, String.ofList_append,
    String.ofList_toList, shortName]

/-- A name is shortened part by part around a mark. -/
theorem shortName_append_append (h : isMark mark = true) (before after : String) :
    shortName (before ++ (mark ++ after)) = shortName before ++ (mark ++ shortName after) := by
  obtain ⟨hne, hm⟩ := isMark_iff.1 h
  have hhead : ∀ c ∈ (mark ++ after).toList.head?, isPathChar c = false := by
    intro c hc
    rw [String.toList_append, List.head?_append_of_ne_nil _ (by simpa using hne)] at hc
    exact hm c (List.mem_of_mem_head? hc)
  rw [shortName, String.toList_append, shorten_append hhead, String.ofList_append, ← shortName,
    ← shortName, shortName_append_left h]

theorem shortName_append_right (h : isMark mark = true) (before : String) :
    shortName (before ++ mark) = shortName before ++ mark := by
  have hempty : shortName "" = "" := rfl
  have := shortName_append_append h before ""
  rwa [hempty, String.append_empty] at this

theorem shortName_intercalate (h : isMark mark = true) (items : List String) :
    shortName (mark.intercalate items) = mark.intercalate (items.map shortName) := by
  induction items with
  | nil => rfl
  | cons item items ih =>
    cases items with
    | nil => simp
    | cons next items =>
      rw [String.intercalate_cons_cons, String.append_assoc, shortName_append_append h, ih]
      simp only [List.map_cons, String.intercalate_cons_cons, String.append_assoc]

/-- Names with commas between them. -/
theorem shortName_listed (items : List String) :
    shortName (", ".intercalate items) = ", ".intercalate (items.map shortName) :=
  shortName_intercalate (by decide) items

theorem shortName_angled (before : String) (arguments : List String) :
    shortName (before ++ Ty.angled arguments) =
      shortName before ++ Ty.angled (arguments.map shortName) := by
  cases arguments with
  | nil =>
    change shortName (before ++ "") = shortName before ++ ""
    rw [String.append_empty, String.append_empty]
  | cons argument arguments =>
    change shortName (before ++ ("<" ++ ", ".intercalate (argument :: arguments) ++ ">")) =
      shortName before ++ ("<" ++ ", ".intercalate ((argument :: arguments).map shortName) ++ ">")
    rw [String.append_assoc, shortName_append_append (by decide), shortName_append_right (by decide),
      shortName_listed, String.append_assoc]

theorem shortName_tupled (items : List String) :
    shortName (Ty.tupled items) = Ty.tupled (items.map shortName) := by
  have hlisted : shortName ("(" ++ ", ".intercalate items ++ ")") =
      "(" ++ ", ".intercalate (items.map shortName) ++ ")" := by
    rw [String.append_assoc, shortName_append_left (by decide), shortName_append_right (by decide),
      shortName_listed, String.append_assoc]
  match items with
  | [] => exact hlisted
  | [item] =>
    change shortName ("(" ++ item ++ ",)") = "(" ++ shortName item ++ ",)"
    rw [String.append_assoc, shortName_append_left (by decide), shortName_append_right (by decide),
      String.append_assoc]
  | first :: second :: rest => exact hlisted

theorem shortName_arrow (before : String) (parameters : List String) (result : Option String) :
    shortName (before ++ Ty.arrow parameters result) =
      shortName before ++ Ty.arrow (parameters.map shortName) (result.map shortName) := by
  unfold Ty.arrow
  rw [String.append_assoc, String.append_assoc, shortName_append_append (by decide)]
  cases result with
  | none =>
    change _ ++ ("(" ++ shortName (_ ++ (")" ++ ""))) = _
    rw [String.append_empty, shortName_append_right (by decide), shortName_listed]
    simp [String.append_assoc]
  | some result =>
    change _ ++ ("(" ++ shortName (_ ++ (")" ++ (" -> " ++ result)))) = _
    rw [shortName_append_append (by decide), shortName_append_left (by decide), shortName_listed]
    simp [String.append_assoc]

end Text

namespace Ty

/-- The modules are parts of a path, and there is no colon in the name itself. -/
def isName (home : List String) (name : String) : Bool :=
  (home.all fun segment => Text.isSegment segment.toList) && !name.toList.contains ':'

theorem toList_qualifier (home : List String) :
    (qualifier home).toList = Text.modules (home.map String.toList) := by
  unfold qualifier Text.modules
  induction home with
  | nil => rfl
  | cons segment home ih =>
    rw [List.foldr_cons, String.toList_append, String.toList_append, ih, List.map_cons,
      List.flatMap_cons]
    rfl

/-- The modules of a name are cut off. -/
theorem shortName_qualifier {home : List String} {name : String} (h : isName home name = true) :
    Text.shortName (qualifier home ++ name) = name := by
  simp only [isName, Bool.and_eq_true, List.all_eq_true, Bool.not_eq_true', List.contains_eq_mem,
    decide_eq_false_iff_not] at h
  rw [Text.shortName, String.toList_append, toList_qualifier,
    Text.shorten_modules (by simpa using h.1) h.2, String.ofList_toList]

mutual

/-- The names in the type are well formed. -/
def isNamed : Ty → Bool
  | .named home name arguments => isName home name && areNamed arguments
  | .reference ty | .exclusive ty | .slice ty | .array ty _ => isNamed ty
  | .tuple items | .dyn items => areNamed items
  | .function parameters result => areNamed parameters && isNamed result
  | .callable home name parameters result =>
    isName home name && areNamed parameters && isNamed result
  | .associated name ty => isName [] name && isNamed ty

/-- The names in the types are well formed. -/
def areNamed : List Ty → Bool
  | [] => true
  | ty :: rest => isNamed ty && areNamed rest

end

mutual

/-- The type with the modules of all names left out. -/
def unplaced : Ty → Ty
  | .named _ name arguments => .named [] name (unplacedAll arguments)
  | .reference target => .reference (unplaced target)
  | .exclusive target => .exclusive (unplaced target)
  | .tuple items => .tuple (unplacedAll items)
  | .slice item => .slice (unplaced item)
  | .array item length => .array (unplaced item) length
  | .function parameters result => .function (unplacedAll parameters) (unplaced result)
  | .dyn interfaces => .dyn (unplacedAll interfaces)
  | .callable _ name parameters result =>
    .callable [] name (unplacedAll parameters) (unplaced result)
  | .associated name ty => .associated name (unplaced ty)

/-- The types with the modules of all names left out. -/
def unplacedAll : List Ty → List Ty
  | [] => []
  | ty :: rest => unplaced ty :: unplacedAll rest

end

/-- A result is told of the type with modules exactly when it is told of the type without. -/
theorem isUnit_unplaced (ty : Ty) : isUnit (unplaced ty) = isUnit ty := by
  cases ty with
  | tuple items => cases items <;> rfl
  | _ => rfl

/-- What an arrow points to, without its modules. -/
theorem map_shortName_result {result : Ty} {short : String}
    (h : Text.shortName (write qualifier result) = short) :
    (if isUnit result then none else some (write qualifier result)).map Text.shortName =
      if isUnit result then none else some short := by
  split
  · rfl
  · rw [Option.map_some, h]

mutual

/-- A full name is shortened to the bare name. -/
theorem shortName_write : (ty : Ty) → isNamed ty = true →
    Text.shortName (write qualifier ty) = write (fun _ => "") ty
  | .named home name arguments, h => by
    simp only [isNamed, Bool.and_eq_true] at h
    rw [write, Text.shortName_angled, shortName_qualifier h.1, map_shortName_writeAll arguments h.2,
      write, String.empty_append]
  | .reference target, h => by
    rw [write, Text.shortName_append_left (by decide), shortName_write target h, write]
  | .exclusive target, h => by
    have hmut : "&mut " = "&mut" ++ " " := rfl
    rw [write, hmut, String.append_assoc, Text.shortName_append_append (by decide),
      shortName_write target h, Text.shortName_self (by decide), write, hmut, String.append_assoc]
  | .tuple items, h => by
    rw [write, Text.shortName_tupled, map_shortName_writeAll items h, write]
  | .slice item, h => by
    rw [write, String.append_assoc, Text.shortName_append_left (by decide),
      Text.shortName_append_right (by decide), shortName_write item h, write, String.append_assoc]
  | .array item length, h => by
    rw [write]
    simp only [String.append_assoc]
    rw [Text.shortName_append_left (by decide), Text.shortName_append_append (by decide),
      Text.shortName_append_right (by decide), Text.shortName_toString, shortName_write item h,
      write]
    simp only [String.append_assoc]
  | .function parameters result, h => by
    simp only [isNamed, Bool.and_eq_true] at h
    rw [write, Text.shortName_arrow, map_shortName_writeAll parameters h.1,
      map_shortName_result (shortName_write result h.2), Text.shortName_self (by decide), write]
  | .dyn interfaces, h => by
    have hdyn : "dyn " = "dyn" ++ " " := rfl
    rw [write, hdyn, String.append_assoc, Text.shortName_append_append (by decide),
      Text.shortName_intercalate (by decide), map_shortName_writeAll interfaces h,
      Text.shortName_self (by decide), write, hdyn, String.append_assoc]
  | .callable home name parameters result, h => by
    simp only [isNamed, Bool.and_eq_true] at h
    rw [write, Text.shortName_arrow, shortName_qualifier h.1.1,
      map_shortName_writeAll parameters h.1.2, map_shortName_result (shortName_write result h.2),
      write, String.empty_append]
  | .associated name ty, h => by
    simp only [isNamed, Bool.and_eq_true] at h
    have hname : Text.shortName name = name := by
      have := shortName_qualifier h.1
      rwa [qualifier, List.foldr_nil, String.empty_append] at this
    rw [write, String.append_assoc, Text.shortName_append_append (by decide), hname,
      shortName_write ty h.2, write, String.append_assoc]

/-- Full names are shortened to bare names. -/
theorem map_shortName_writeAll : (types : List Ty) → areNamed types = true →
    (writeAll qualifier types).map Text.shortName = writeAll (fun _ => "") types
  | [], _ => rfl
  | ty :: rest, h => by
    simp only [areNamed, Bool.and_eq_true] at h
    rw [writeAll, List.map_cons, shortName_write ty h.1, map_shortName_writeAll rest h.2, writeAll]

end

mutual

/-- Bare names do not tell modules. -/
theorem write_unplaced : (ty : Ty) →
    write (fun _ => "") (unplaced ty) = write (fun _ => "") ty
  | .named _ _ arguments => by simp only [unplaced, write, writeAll_unplaced arguments]
  | .reference ty | .exclusive ty | .slice ty | .array ty _ | .associated _ ty => by
    simp only [unplaced, write, write_unplaced ty]
  | .tuple items | .dyn items => by simp only [unplaced, write, writeAll_unplaced items]
  | .function parameters result | .callable _ _ parameters result => by
    simp only [unplaced, write, writeAll_unplaced parameters, write_unplaced result,
      isUnit_unplaced]

theorem writeAll_unplaced : (types : List Ty) →
    writeAll (fun _ => "") (unplacedAll types) = writeAll (fun _ => "") types
  | [] => rfl
  | ty :: rest => by simp only [unplacedAll, writeAll, write_unplaced ty, writeAll_unplaced rest]

end

/-- The short name of a type is its bare name. -/
theorem shortName_eq_bareName {ty : Ty} (h : isNamed ty = true) : ty.shortName = ty.bareName :=
  shortName_write ty h

/-- Types that differ only in modules have one bare name. -/
theorem bareName_eq_of_unplaced {ty other : Ty} (h : ty.unplaced = other.unplaced) :
    ty.bareName = other.bareName := by
  rw [bareName, bareName, ← write_unplaced ty, h, write_unplaced]

end Ty

/-! ## Modules vanish -/

/-- Module paths do not show in short names, and so not in inferred keys. -/
structure ModulesVanish : Prop where
  /-- A text without colons, which would be path characters, is what is left of it when modules are
  put in front of its runs of path characters, chosen run by run. -/
  text : ∀ (text : List Char) (homes : Nat → List (List Char)), ':' ∉ text →
    (∀ place, ∀ segment ∈ homes place, Text.isSegment segment = true) →
      Text.shorten (Text.qualify homes text) = text
  /-- A type is left with its bare names, however it is nested. -/
  type : ∀ ty : Ty, ty.isNamed = true → ty.shortName = ty.bareName
  /-- Values of types that differ only in modules get one key. -/
  key : ∀ value other : Value, value.ty.isNamed = true → other.ty.isNamed = true →
    value.ty.unplaced = other.ty.unplaced → value.inferredKey = other.inferredKey

/-- Putting modules in front of the paths in a text without colons is undone by shortening it. So a
type has its bare names for its short name, and values of types that differ only in modules get the
same key. -/
theorem modules_vanish : ModulesVanish where
  text _ _ h hhomes := Text.shorten_qualify h hhomes
  type _ h := Ty.shortName_eq_bareName h
  key value other hvalue hother h := by
    rw [Value.inferredKey, Value.inferredKey, Ty.shortName_eq_bareName hvalue,
      Ty.shortName_eq_bareName hother, Ty.bareName_eq_of_unplaced h]

/-- Callbacks on the users of two modules, one in a slice behind an exclusive reference. -/
def greeters (home : List String) : Ty :=
  let user := Ty.named home "User" []
  let greeter := Ty.dyn [.callable ["core", "ops", "function"] "Fn" [user] (.array user 2),
    .named ["core", "marker"] "Send" []]
  .tuple [.exclusive (.slice (.named ["alloc", "boxed"] "Box" [greeter])),
    .function [.reference user] (.tuple [])]

/-- They are different types under one key. -/
theorem modules_vanish_greeters :
    let billing : Value := ⟨greeters ["shop", "billing"], .code⟩
    let staff : Value := ⟨greeters ["staff"], .code⟩
    billing.ty ≠ staff.ty ∧ billing.inferredKey = staff.inferredKey ∧
      billing.inferredKey = "(&mut [Box<dyn Fn(User) -> [User; 2] + Send>], fn(&User))" := by
  intro billing staff
  have hbilling : billing.ty.isNamed = true := by decide +kernel
  have hstaff : staff.ty.isNamed = true := by decide +kernel
  refine ⟨by decide, modules_vanish.key billing staff hbilling hstaff rfl, ?_⟩
  rw [Value.inferredKey, modules_vanish.type _ hbilling]
  decide +kernel

end Storytest
