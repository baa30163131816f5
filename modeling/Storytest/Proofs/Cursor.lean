import Storytest.Proofs.Blame

/-!
# The cursor over arguments

Every read moves the cursor on by one value and one position, whatever comes of it (`At.read`). So
in any sequence of reads, each looks at the value of its own number and names this number when it
fails (`faithful`).
-/

namespace Storytest

namespace Read

/-- The type that a read insists on, if any. -/
def type? : Read → Option Ty
  | .required ty | .optional ty => some ty
  | .anything => none

/-- The read gives nothing when no value is left. -/
def IsOptional (read : Read) : Prop :=
  ∃ ty, read = .optional ty

theorem accepts_iff {read : Read} {found : Ty} :
    read.accepts found = true ↔ ∀ ty, read.type? = some ty → found = ty := by
  cases read <;> simp [accepts, type?]

theorem not_accepts_iff {read : Read} {found : Ty} :
    read.accepts found = false ↔ ∃ ty, read.type? = some ty ∧ found ≠ ty := by
  cases read <;> simp [accepts, type?]

theorem from_none_of_not_optional {read : Read} (h : ¬read.IsOptional) (position : Nat)
    (parameter : String) : read.from? position parameter none =
      .error (.missingArgument position parameter read.expected.shortName) := by
  cases read with
  | optional ty => exact absurd ⟨ty, rfl⟩ h
  | required ty => rfl
  | anything => rfl

end Read

namespace Arguments

/-! ## One read -/

/-- What comes of the read of this number, where the first is number zero. -/
structure Comes (values : List Value) (number : Nat) (read : Read) (parameter : String)
    (outcome : Except Failure (Option Value)) : Prop where
  /-- It gives a value exactly when that is the one of its number, and of the type it insists on. -/
  taken : ∀ value, outcome = .ok (some value) ↔
    values[number]? = some value ∧ ∀ ty, read.type? = some ty → value.ty = ty
  /-- It gives nothing exactly when there is no such value and it is optional. -/
  nothing : outcome = .ok none ↔ values.length ≤ number ∧ read.IsOptional
  /-- It misses an argument exactly when there is no such value and it is not optional. -/
  missing : (∃ position name expected,
      outcome = .error (.missingArgument position name expected)) ↔
    values.length ≤ number ∧ ¬read.IsOptional
  /-- It finds the wrong type exactly when there is such a value and it insists on another type. -/
  mistyped : (∃ position name expected found,
      outcome = .error (.argumentType position name expected found)) ↔
    ∃ value ty, values[number]? = some value ∧ read.type? = some ty ∧ value.ty ≠ ty
  /-- When it fails, in one of these two ways, it names its number and its parameter. -/
  reported : ∀ failure, outcome = .error failure →
    failure = .missingArgument number parameter read.expected.shortName ∨
      ∃ value, values[number]? = some value ∧
        failure = .argumentType number parameter read.expected.shortName value.ty.shortName

theorem comes_from (values : List Value) (number : Nat) (read : Read) (parameter : String) :
    Comes values number read parameter (read.from? number parameter values[number]?) := by
  cases hv : values[number]? with
  | none =>
    have hlength : values.length ≤ number := List.getElem?_eq_none_iff.1 hv
    by_cases ho : read.IsOptional
    · have hnothing : read.from? number parameter none = .ok none := by
        obtain ⟨ty, rfl⟩ := ho
        rfl
      rw [hnothing]
      exact
        { taken := by simp [hv]
          nothing := by simp [hlength, ho]
          missing := by simp [ho]
          mistyped := by simp [hv]
          reported := by simp }
    · rw [Read.from_none_of_not_optional ho]
      exact
        { taken := by simp [hv]
          nothing := by simp [ho]
          missing := by simp [hlength, ho]
          mistyped := by simp [hv]
          reported := by
            rintro failure ⟨⟩
            exact .inl rfl }
  | some value =>
    have hlength : ¬values.length ≤ number := by
      rw [← List.getElem?_eq_none_iff, hv]
      exact Option.some_ne_none value
    cases ha : read.accepts value.ty with
    | true =>
      have hfits := Read.accepts_iff.1 ha
      rw [Read.from_some.2 ⟨ha, rfl⟩]
      exact
        { taken := by
            intro found
            simp only [hv, Except.ok.injEq, Option.some.injEq, iff_self_and]
            rintro rfl
            exact hfits
          nothing := by simp [hlength]
          missing := by simp [hlength]
          mistyped := by simpa [hv] using hfits
          reported := by simp }
    | false =>
      obtain ⟨ty, ht, hne⟩ := Read.not_accepts_iff.1 ha
      rw [Read.from_of_rejected ha]
      exact
        { taken := by
            intro found
            simp only [hv, Option.some.injEq, reduceCtorEq, false_iff, not_and]
            rintro rfl hfits
            exact hne (hfits ty ht)
          nothing := by simp [hlength]
          missing := by simp [hlength]
          mistyped := by simpa [hv] using ⟨ty, ht, hne⟩
          reported := by
            rintro failure ⟨⟩
            exact .inr ⟨value, hv, rfl⟩ }

/-! ## Sequences of reads -/

/-- The cursor over these values after so many reads: as many values are gone, and the position
counts the reads. -/
structure At (values : List Value) (made : Nat) (args : Arguments) : Prop where
  left : args.values = values.drop made
  position : args.position = made

variable {values : List Value} {made : Nat} {args : Arguments}

theorem at_ofList (values : List Value) : At values 0 (ofList values) :=
  ⟨rfl, rfl⟩

/-- A read that fails moves the cursor like any other. -/
theorem At.read (h : At values made args) (read : Read) (parameter : String) :
    At values (made + 1) (args.read read parameter).2 where
  left := by
    change args.values.drop 1 = values.drop (made + 1)
    rw [h.left, List.drop_drop]
  position := by
    change args.position + 1 = made + 1
    rw [h.position]

theorem At.outcome (h : At values made args) (read : Read) (parameter : String) :
    (args.read read parameter).1 = read.from? made parameter values[made]? := by
  rw [Arguments.read, h.position, h.left, List.head?_drop]

theorem At.remaining (h : At values made args) : args.remaining = values.length - made := by
  rw [Arguments.remaining, h.left, List.length_drop]

/-- Every read of a sequence is told by its number alone. -/
theorem At.readEach (h : At values made args) (reads : List (Read × String)) :
    args.readEach reads = reads.mapIdx fun i entry =>
      (entry.1.from? (made + i) entry.2 values[made + i]?, values.length - (made + i + 1)) := by
  induction reads generalizing made args with
  | nil => rfl
  | cons entry reads ih =>
    obtain ⟨read, parameter⟩ := entry
    have hnext := h.read read parameter
    have hshift : ∀ i, made + 1 + i = made + (i + 1) := fun i => by omega
    rw [List.mapIdx_cons]
    simp only [Arguments.readEach, ih hnext, h.outcome, hnext.remaining, hshift, Nat.add_zero]

/-- These reads, made one after the other of a cursor over these values, stay in step with them. -/
structure Faithful (values : List Value) (reads : List (Read × String)) : Prop where
  /-- Before the first read all values are left. -/
  unread : (ofList values).remaining = values.length
  /-- Every read is made, also behind one that fails. -/
  every : ((ofList values).readEach reads).length = reads.length
  /-- The read of each number comes out as the value of this number lets it, and leaves the values
  behind this one; none are left once there were as many reads as values. -/
  each : ∀ (number : Nat) (read : Read) (parameter : String),
    reads[number]? = some (read, parameter) →
      ∃ outcome, ((ofList values).readEach reads)[number]? =
          some (outcome, values.length - (number + 1)) ∧
        Comes values number read parameter outcome
  /-- No other value and no other read has a part in what comes of it. -/
  alone : ∀ (number : Nat) (others : List Value) (different : List (Read × String)),
    others[number]? = values[number]? → different[number]? = reads[number]? →
      ((ofList others).readEach different)[number]?.map Prod.fst =
        ((ofList values).readEach reads)[number]?.map Prod.fst

theorem getElem?_readEach (values : List Value) (reads : List (Read × String)) (number : Nat) :
    ((ofList values).readEach reads)[number]? = reads[number]?.map fun entry =>
      (entry.1.from? number entry.2 values[number]?, values.length - (number + 1)) := by
  rw [(at_ofList values).readEach reads, List.getElem?_mapIdx]
  simp only [Nat.zero_add]

/-- The read of each number looks at the value of this number and at no other, and uses it up
whether or not its type fits. So reads behind one that failed come out as if it had not, and errors
tell the number of the read. -/
theorem faithful (values : List Value) (reads : List (Read × String)) : Faithful values reads where
  unread := (at_ofList values).remaining
  every := by rw [(at_ofList values).readEach reads, List.length_mapIdx]
  each number read parameter h := by
    refine ⟨_, ?_, comes_from values number read parameter⟩
    rw [getElem?_readEach, h]
    rfl
  alone number others different hvalue hread := by
    rw [getElem?_readEach, getElem?_readEach, hvalue, hread, Option.map_map, Option.map_map]
    rfl

open Script in
/-- A number is not taken for a text, but it is gone: the next read finds a text, and the last two
find nothing. -/
example :
    let number : Value := ⟨int32, .integer 7⟩
    let name : Value := ⟨string, .text "ada"⟩
    ((ofList [number, name]).readEach [(.required string, "name"), (.anything, "id"),
        (.optional int32, "limit"), (.required int32, "count")]).map Prod.snd = [1, 0, 0, 0] ∧
      ((ofList [number, name]).readEach [(.required string, "name"), (.anything, "id")])[1]? =
        some (.ok (some name), 0) :=
  ⟨rfl, rfl⟩

end Arguments

end Storytest
