import Storytest.Script.Return

/-!
# What return values produce

Inside the results that a step returns stands an error or a `Base`: the unit value, an option, a
typed value, or a value of a type that produces itself. `converts` says what comes of each of them
inside any number of results that succeeded, and that a value of a result type is opened as often as
its type has results.
-/

namespace Storytest

namespace Ty

/-- The result type, with errors of a type. -/
def resultOf (ty error : Ty) : Ty := standard "Result" [ty, error]

/-- Results over a type, with errors of these types, the outermost first. -/
def resultsOf (ty : Ty) (errors : List Ty) : Ty :=
  errors.foldr (fun error inner => resultOf inner error) ty

/-- The types whose values produce themselves. -/
inductive ProducesItself : Ty → Prop
  | scalar {name : String} :
      name ∈ ["bool", "char", "i8", "i16", "i32", "i64", "i128", "isize", "u8", "u16", "u32", "u64",
        "u128", "usize", "f32", "f64", "String"] → ProducesItself (standard name [])
  | text : ProducesItself (.reference (standard "str" []))
  | container {name : String} {item : Ty} :
      name ∈ ["Vec", "VecDeque", "BTreeSet", "HashSet", "Box", "Rc", "Arc"] →
        ProducesItself (standard name [item])
  | map {name : String} {key item : Ty} :
      name ∈ ["BTreeMap", "HashMap"] → ProducesItself (standard name [key, item])
  | tuple {items : List Ty} : 2 ≤ items.length → items.length ≤ 4 → ProducesItself (.tuple items)
  /-- A type of the program under test. -/
  | own {home : List String} {name : String} {arguments : List Ty} :
      standardHome home = false → home ≠ Ty.home "Value" →
        ProducesItself (.named home name arguments)

@[simp] theorem success_resultOf (ty error : Ty) : (resultOf ty error).success? = some ty := rfl

namespace ProducesItself

variable {ty : Ty}

theorem optional_eq_none (h : ty.ProducesItself) : ty.optional? = none := by
  cases h with
  | @container name item hn =>
    have hne : name ≠ "Option" := by
      rintro rfl
      exact absurd hn (by decide)
    simp [standard, optional?, hne]
  | @own home name arguments hs =>
    have hne : home ≠ Ty.home "Option" := fun he => by rw [he] at hs; cases hs
    unfold optional?
    split <;> simp_all
  | _ => rfl

theorem success_eq_none (h : ty.ProducesItself) : ty.success? = none := by
  cases h with
  | @map name key item hn =>
    have hne : name ≠ "Result" := by
      rintro rfl
      exact absurd hn (by decide)
    simp [standard, success?, hne]
  | @own home name arguments hs =>
    have hne : home ≠ Ty.home "Result" := fun he => by rw [he] at hs; cases hs
    unfold success?
    split <;> simp_all
  | _ => rfl

theorem ne_unit (h : ty.ProducesItself) : ty ≠ .tuple [] := by
  rintro rfl
  cases h with
  | tuple hl => cases hl

theorem ne_value (h : ty.ProducesItself) : ty ≠ Value.type := by
  intro he
  cases h with
  | scalar hn =>
    obtain ⟨-, rfl, -⟩ := Ty.named.inj he
    exact absurd hn (by decide)
  | container | map => cases (Ty.named.inj he).2.2
  | own hs hv => exact hv (Ty.named.inj he).1
  | text | tuple => cases he

end ProducesItself

end Ty

/-- What stands under the results of a return value that is no error. -/
inductive Base where
  | unit
  | none (ty : Ty)
  | some (ty : Ty) (content : Datum)
  | typed (value : Value)
  | itself (value : Value) (h : value.ty.ProducesItself)

namespace Base

/-- The value that is returned. -/
def value : Base → Value
  | unit => ⟨.tuple [], .unit⟩
  | none ty => ⟨Script.optionOf ty, .absent⟩
  | some ty content => ⟨Script.optionOf ty, .present content⟩
  | typed value => value.nest
  | itself value _ => value

/-- What is to be stored for it: nothing for the unit value and an absent option, and else the value
inside an option or inside a typed value, whatever it is, or the value itself. -/
def produced : Base → Option Value
  | unit | none _ => Option.none
  | some ty content => Option.some ⟨ty, content⟩
  | typed value | itself value _ => Option.some value

theorem stored_eq_produced (base : Base) : base.value.stored? = base.produced := by
  cases base with
  | itself value h =>
    simp [Base.value, produced, Value.stored?, h.optional_eq_none, h.ne_unit, h.ne_value]
  | _ => rfl

theorem success_eq_none (base : Base) : base.value.ty.success? = Option.none := by
  cases base with
  | itself value h => exact h.success_eq_none
  | _ => rfl

end Base

namespace Output

/-- The return value inside so many results that succeeded. -/
def layered (output : Output) : Nat → Output
  | 0 => output
  | depth + 1 => .ok (output.layered depth)

theorem produce_layered (output : Output) (depth : Nat) :
    (output.layered depth).produce = output.produce := by
  induction depth with
  | zero => rfl
  | succ depth ih => exact ih

/-- Every return value is an error or a value inside results that succeeded. -/
theorem exists_layered (output : Output) :
    ∃ depth, (∃ cause, output = (err cause).layered depth) ∨
      ∃ value, output = (plain value).layered depth := by
  induction output with
  | plain value => exact ⟨0, .inr ⟨value, rfl⟩⟩
  | err cause => exact ⟨0, .inl ⟨cause, rfl⟩⟩
  | ok output ih =>
    obtain ⟨depth, ⟨cause, rfl⟩ | ⟨value, rfl⟩⟩ := ih
    · exact ⟨depth + 1, .inl ⟨cause, rfl⟩⟩
    · exact ⟨depth + 1, .inr ⟨value, rfl⟩⟩

/-- The datum inside so many results that succeeded. -/
def succeeded (datum : Datum) : Nat → Datum
  | 0 => datum
  | depth + 1 => .success (succeeded datum depth)

theorem ofValue_of_success_eq_none {ty : Ty} (h : ty.success? = none) (datum : Datum) :
    ofValue ty datum = .plain ⟨ty, datum⟩ := by
  cases datum <;> simp [ofValue, h]

theorem ofValue_succeeded (ty : Ty) (errors : List Ty) (datum : Datum) :
    ofValue (ty.resultsOf errors) (succeeded datum errors.length) =
      (ofValue ty datum).layered errors.length := by
  induction errors with
  | nil => rfl
  | cons error errors ih =>
    rw [List.length_cons, succeeded, layered, ← ih]
    simp [ofValue, Ty.resultsOf]

/-- What comes of a return value. -/
structure Converts (output : Output) : Prop where
  /-- It is an error or a value, inside so many results that succeeded. -/
  layers : ∃ depth, (∃ cause, output = (err cause).layered depth) ∨
    ∃ value, output = (plain value).layered depth
  /-- Further results that succeeded make no difference. -/
  transparent : ∀ depth, (output.layered depth).produce = output.produce
  /-- An error fails the step: it is the source of the failure, which says what it says. -/
  failed : ∀ cause depth, output = (err cause).layered depth →
    output.produce = .error (.step cause) ∧ (Failure.step cause).message = cause.message ∧
      (Failure.step cause).links = ⟨Failure.type, cause.message⟩ :: cause.links
  /-- Anything else produces what is to be stored for it. -/
  produced : ∀ (base : Base) depth, output = (plain base.value).layered depth →
    output.produce = .ok base.produced
  /-- Of a value of a result type, the results are opened and nothing else. -/
  opened : ∀ (base : Base) (errors : List Ty),
    output = (plain base.value).layered errors.length →
      ofValue (base.value.ty.resultsOf errors) (succeeded base.value.datum errors.length) = output
  /-- One that failed is the error that it holds. -/
  raised : ∀ (ty error : Ty) (errors : List Ty) (message : String),
    output = (err (.plain textError message)).layered errors.length →
      ofValue ((ty.resultOf error).resultsOf errors) (succeeded (.failure message) errors.length) =
        output

/-- A return value is an error or a value inside some number of results that succeeded, which make
no difference. An error fails the step as the source of the failure, and a value produces what is
stored for it. -/
theorem converts (output : Output) : Converts output where
  layers := exists_layered output
  transparent := produce_layered output
  failed := by
    rintro cause depth rfl
    exact ⟨produce_layered (err cause) depth, rfl, rfl⟩
  produced := by
    rintro base depth rfl
    rw [produce_layered, produce, base.stored_eq_produced]
  opened := by
    rintro base errors rfl
    rw [ofValue_succeeded, ofValue_of_success_eq_none base.success_eq_none]
  raised := by
    rintro ty error errors message rfl
    rw [ofValue_succeeded]
    simp [ofValue]

open Script in
/-- A present option of an absent one, inside two results. -/
example : (ofValue ((optionOf (optionOf int32)).resultsOf [string, string])
    (.success (.success (.present .absent)))).produce =
      .ok (some ⟨optionOf int32, .absent⟩) := by rfl

end Output

end Storytest
