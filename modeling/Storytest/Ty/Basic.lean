/-!
# Types of values

A `Ty` names the run-time type of a value. A name carries the modules it is found in, so two types
that share a name are still told apart.
-/

namespace Storytest

/-- The run-time type of a value, or an interface that such a type names. -/
inductive Ty where
  /-- A name with its home modules and its type arguments. -/
  | named (home : List String) (name : String) (arguments : List Ty)
  /-- A shared reference to a value of the type. -/
  | reference (target : Ty)
  /-- A reference through which the value can be changed. -/
  | exclusive (target : Ty)
  /-- A tuple; the empty one is the unit type. -/
  | tuple (items : List Ty)
  /-- A sequence of any length. -/
  | slice (item : Ty)
  /-- An array of a fixed length. -/
  | array (item : Ty) (length : Nat)
  /-- A pointer to a function. -/
  | function (parameters : List Ty) (result : Ty)
  /-- A value known only by the interfaces that it offers. -/
  | dyn (interfaces : List Ty)
  /-- The interface of what can be called. -/
  | callable (home : List String) (name : String) (parameters : List Ty) (result : Ty)
  /-- What an interface, of which this is an argument, has under a name. -/
  | associated (name : String) (ty : Ty)
  deriving Repr

namespace Ty

/-! ## Equality is decidable -/

mutual

/-- The types are the same. -/
def same : Ty → Ty → Bool
  | .named h n as, .named h' n' as' => h = h' && n = n' && sameAll as as'
  | .reference t, .reference t' | .exclusive t, .exclusive t' | .slice t, .slice t' => same t t'
  | .tuple ts, .tuple ts' | .dyn ts, .dyn ts' => sameAll ts ts'
  | .array t l, .array t' l' => l = l' && same t t'
  | .function ps r, .function ps' r' => sameAll ps ps' && same r r'
  | .callable h n ps r, .callable h' n' ps' r' =>
    h = h' && n = n' && sameAll ps ps' && same r r'
  | .associated n t, .associated n' t' => n = n' && same t t'
  | _, _ => false

/-- The types are the same, one by one. -/
def sameAll : List Ty → List Ty → Bool
  | [], [] => true
  | a :: as, b :: bs => same a b && sameAll as bs
  | _, _ => false

end

mutual

theorem same_iff : (a b : Ty) → (same a b = true ↔ a = b)
  | .named _ _ as, b => by cases b <;> simp [same, sameAll_iff as, and_assoc]
  | .reference t, b | .exclusive t, b | .slice t, b => by cases b <;> simp [same, same_iff t]
  | .tuple ts, b | .dyn ts, b => by cases b <;> simp [same, sameAll_iff ts]
  | .array t _, b => by cases b <;> simp [same, same_iff t, and_comm]
  | .function ps r, b => by cases b <;> simp [same, sameAll_iff ps, same_iff r]
  | .callable _ _ ps r, b => by cases b <;> simp [same, sameAll_iff ps, same_iff r, and_assoc]
  | .associated _ t, b => by cases b <;> simp [same, same_iff t]

theorem sameAll_iff : (as bs : List Ty) → (sameAll as bs = true ↔ as = bs)
  | [], bs => by cases bs <;> simp [sameAll]
  | a :: as, bs => by cases bs <;> simp [sameAll, same_iff a, sameAll_iff as]

end

instance : DecidableEq Ty := fun a b => decidable_of_iff _ (same_iff a b)

instance : Inhabited Ty := ⟨.tuple []⟩

/-! ## Names -/

/-- Type arguments in angle brackets; nothing when there are none. -/
def angled : List String → String
  | [] => ""
  | arguments => "<" ++ ", ".intercalate arguments ++ ">"

/-- The items of a tuple; a single one is followed by a comma. -/
def tupled : List String → String
  | [item] => "(" ++ item ++ ",)"
  | items => "(" ++ ", ".intercalate items ++ ")"

/-- Parameters and the result, if there is one to be told. -/
def arrow (parameters : List String) (result : Option String) : String :=
  "(" ++ ", ".intercalate parameters ++ ")" ++ (result.map fun text => " -> " ++ text).getD ""

/-- The type of what has no content, which is not told as a result. -/
def isUnit : Ty → Bool
  | .tuple [] => true
  | _ => false

mutual

/-- The written form of a type, where `modules` writes the home modules of a name. -/
def write (modules : List String → String) : Ty → String
  | .named home name arguments => modules home ++ name ++ angled (writeAll modules arguments)
  | .reference target => "&" ++ write modules target
  | .exclusive target => "&mut " ++ write modules target
  | .tuple items => tupled (writeAll modules items)
  | .slice item => "[" ++ write modules item ++ "]"
  | .array item length => "[" ++ write modules item ++ "; " ++ toString length ++ "]"
  | .function parameters result =>
    "fn" ++ arrow (writeAll modules parameters)
      (if isUnit result then none else some (write modules result))
  | .dyn interfaces => "dyn " ++ " + ".intercalate (writeAll modules interfaces)
  | .callable home name parameters result =>
    modules home ++ name ++ arrow (writeAll modules parameters)
      (if isUnit result then none else some (write modules result))
  | .associated name ty => name ++ " = " ++ write modules ty

/-- The written forms of several types. -/
def writeAll (modules : List String → String) : List Ty → List String
  | [] => []
  | ty :: rest => write modules ty :: writeAll modules rest

end

/-- The modules of a name, each followed by a double colon. -/
def qualifier (home : List String) : String :=
  home.foldr (fun m rest => m ++ "::" ++ rest) ""

/-- The written form with every name in full. -/
def fullName (ty : Ty) : String :=
  ty.write qualifier

/-- The written form with every name bare. -/
def bareName (ty : Ty) : String :=
  ty.write fun _ => ""

end Ty

end Storytest
