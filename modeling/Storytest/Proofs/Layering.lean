import Mathlib
import Storytest.Proofs.Fallible
import Storytest.Settings.Layers

/-!
# Settings, one by one

A suite is loaded setting by setting. `layered` says which value counts for each: the last variable
that gives the setting, else the entry in the file, else the default. Only the values that count are
looked at, so a suite is loaded exactly where each of these has the type of its setting, whatever
lies beneath it.
-/

namespace Storytest

namespace Settings

/-! ## The settings and their types -/

/-- A setting of a suite. -/
inductive Field where
  | authProvider
  | authGuard
  | guards
  | responseKey
  | userKey
  deriving DecidableEq, Repr

/-- The types that settings have. -/
inductive Shape where
  | text
  | optional
  | texts

/-- The values of a type. -/
inductive Shape.Fits : Shape → Tree → Prop
  | text (value : String) : Fits .text (.text value)
  | absent : Fits .optional .null
  | present (value : String) : Fits .optional (.text value)
  | texts (values : List String) : Fits .texts (.list (values.map .text))

namespace Field

def name : Field → String
  | .authProvider => "auth_provider"
  | .authGuard => "auth_guard"
  | .guards => "guards"
  | .responseKey => "response_key"
  | .userKey => "user_key"

def shape : Field → Shape
  | .authProvider => .optional
  | .authGuard => .optional
  | .guards => .texts
  | .responseKey => .text
  | .userKey => .text

/-- The variable that sets it. -/
def variableName : Field → String
  | .authProvider => "GWT_AUTH_PROVIDER"
  | .authGuard => "GWT_AUTH_GUARD"
  | .guards => "GWT_GUARDS"
  | .responseKey => "GWT_RESPONSE_KEY"
  | .userKey => "GWT_USER_KEY"

end Field

/-- A text that may be missing, as a value. -/
def Tree.ofOption : Option String → Tree
  | none => .null
  | some value => .text value

/-- A list of texts, as a value. -/
def Tree.ofTexts (values : List String) : Tree := .list (values.map .text)

end Settings

open Settings

/-- What a suite has for a setting. -/
def Suite.tree (suite : Suite) : Field → Tree
  | .authProvider => .ofOption suite.authProvider
  | .authGuard => .ofOption suite.authGuard
  | .guards => .ofTexts suite.guards
  | .responseKey => .text suite.responseKey
  | .userKey => .text suite.userKey

namespace Settings

/-! ## Reading by type -/

theorem readText_eq_ok {path : List String} {tree : Tree} {value : String} :
    readText path tree = .ok value ↔ tree = .text value := by
  cases tree <;> simp [readText]

theorem readOptional_eq_ok {path : List String} {tree : Tree} {value : Option String} :
    readOptional path tree = .ok value ↔ tree = .ofOption value := by
  cases tree <;> cases value <;> simp [readOptional, readText, Except.map, Tree.ofOption]

theorem readItems_eq_ok {path : List String} {items : List Tree} {values : List String}
    (position : Nat) : readItems path position items = .ok values ↔ items = values.map .text := by
  induction items generalizing position values with
  | nil =>
    rw [readItems, Except.ok.injEq, eq_comm, eq_comm (a := []), List.map_eq_nil_iff]
  | cons item rest ih =>
    simp only [readItems, bind_eq_ok, readText_eq_ok, ih, pure, Except.pure, Except.ok.injEq]
    constructor
    · rintro ⟨first, rfl, others, rfl, rfl⟩
      rfl
    · intro h
      cases values with
      | nil => cases h
      | cons first others =>
        rw [List.map_cons, List.cons.injEq] at h
        exact ⟨first, h.1, others, h.2, rfl⟩

theorem readTexts_eq_ok {path : List String} {tree : Tree} {values : List String} :
    readTexts path tree = .ok values ↔ tree = .ofTexts values := by
  cases tree <;> simp [readTexts, readItems_eq_ok, Tree.ofTexts]

/-- A setting is read from its value, or from the default where it has none. -/
theorem readField_eq_ok {α : Type} {get? : String → Option Tree}
    {read : List String → Tree → Except Mismatch α} {encode : α → Tree}
    (hread : ∀ {path tree value}, read path tree = .ok value ↔ tree = encode value)
    {name : String} {default value : α} :
    readField get? read name default = .ok value ↔
      (get? name).getD (encode default) = encode value := by
  cases h : get? name with
  | none =>
    -- Reading undoes `encode`, so equal trees are made of equal values.
    have he : read [] (encode default) = .ok default := hread.2 rfl
    rw [readField, h, Option.getD_none, ← @hread [], he]
  | some tree => rw [readField, h, Option.getD_some, hread]

end Settings

theorem Suite.ofSettings_eq_ok {get? : String → Option Tree} {suite : Suite} :
    Suite.ofSettings get? = .ok suite ↔
      ∀ field : Field, (get? field.name).getD (Suite.default.tree field) = suite.tree field := by
  simp only [Suite.ofSettings, bind_eq_ok, readField_eq_ok readOptional_eq_ok,
    readField_eq_ok readTexts_eq_ok, readField_eq_ok readText_eq_ok, pure, Except.pure,
    Except.ok.injEq]
  constructor
  · rintro ⟨guard, hg, provider, hp, guards, hs, response, hr, user, hu, rfl⟩ field
    cases field
    · exact hp
    · exact hg
    · exact hs
    · exact hr
    · exact hu
  · intro h
    exact ⟨_, h .authGuard, _, h .authProvider, _, h .guards, _, h .responseKey, _, h .userKey, rfl⟩

namespace Settings

/-! ## Layers -/

/-- The variable gives a value to the setting of this name. -/
inductive Gives : String × String → String → Tree → Prop
  | intro {variableName text name : String} {path : List String} :
      Environment.settingName? variableName = some (name :: path) →
      Gives (variableName, text) name (Environment.nest path (Environment.read text))

/-- The last variable that gives a value to the setting gives this one. -/
def SetTo (environment : List (String × String)) (name : String) (tree : Tree) : Prop :=
  ∃ before entry after, environment = before ++ entry :: after ∧ Gives entry name tree ∧
    ∀ later ∈ after, ∀ other, ¬Gives later name other

theorem Gives.unique {entry : String × String} {name : String} {tree other : Tree}
    (h : Gives entry name tree) (ho : Gives entry name other) : tree = other := by
  obtain ⟨hn⟩ := h
  cases ho with
  | intro ho =>
    rw [hn] at ho
    cases ho
    rfl

theorem setTo_append {environment : List (String × String)} {entry : String × String}
    {name : String} {tree : Tree} : SetTo (environment ++ [entry]) name tree ↔
      Gives entry name tree ∨
        (∀ other, ¬Gives entry name other) ∧ SetTo environment name tree := by
  constructor
  · rintro ⟨before, giver, after, hsplit, hgives, hafter⟩
    -- The giver is the new variable itself, or the new variable is among those after it.
    rcases List.eq_nil_or_concat' after with rfl | ⟨after, last, rfl⟩
    · obtain ⟨-, he⟩ := List.append_inj' hsplit rfl
      cases he
      exact .inl hgives
    · rw [← List.cons_append, ← List.append_assoc] at hsplit
      obtain ⟨rfl, he⟩ := List.append_inj' hsplit rfl
      cases he
      have hlast := hafter entry (List.mem_append_right _ (List.mem_singleton_self _))
      refine .inr ⟨hlast, before, giver, after, rfl, hgives, fun later hl => ?_⟩
      exact hafter later (List.mem_append_left _ hl)
  · rintro (hgives | ⟨hnone, before, giver, after, rfl, hgives, hafter⟩)
    · exact ⟨environment, entry, [], rfl, hgives, nofun⟩
    · refine ⟨before, giver, after ++ [entry], by simp, hgives, fun later hl => ?_⟩
      rcases List.mem_append.1 hl with hl | hl
      · exact hafter later hl
      · rw [List.mem_singleton.1 hl]
        exact hnone

theorem get?_settings_append_of_gives (environment : List (String × String))
    {entry : String × String} {name : String} {tree : Tree} (h : Gives entry name tree) :
    Assoc.get? (Environment.settings (environment ++ [entry])) name = some tree := by
  obtain ⟨hname⟩ := h
  rw [Environment.settings, List.foldl_append, List.foldl_cons, List.foldl_nil]
  simp only [hname]
  rw [Assoc.get?_put, if_pos rfl]

theorem get?_settings_append_of_not_gives (environment : List (String × String))
    {entry : String × String} {name : String} (h : ∀ tree, ¬Gives entry name tree) :
    Assoc.get? (Environment.settings (environment ++ [entry])) name =
      Assoc.get? (Environment.settings environment) name := by
  rw [Environment.settings, List.foldl_append, List.foldl_cons, List.foldl_nil]
  split
  · next found path hname =>
    have hne : found ≠ name := by
      rintro rfl
      exact h _ (.intro hname)
    rw [Assoc.get?_put, if_neg hne]
    rfl
  · rfl

/-- The variables are taken in order, each over those before it. -/
theorem get?_settings {environment : List (String × String)} {name : String} {tree : Tree} :
    Assoc.get? (Environment.settings environment) name = some tree ↔
      SetTo environment name tree := by
  induction environment using List.reverseRecOn with
  | nil => simp [Environment.settings, Assoc.get?, SetTo]
  | append_singleton environment entry ih =>
    rw [setTo_append, ← ih]
    by_cases hg : ∃ given, Gives entry name given
    · obtain ⟨given, hg⟩ := hg
      rw [get?_settings_append_of_gives environment hg, Option.some_inj]
      constructor
      · rintro rfl
        exact .inl hg
      · rintro (h | ⟨hnone, -⟩)
        · exact hg.unique h
        · exact absurd hg (hnone given)
    · rw [not_exists] at hg
      rw [get?_settings_append_of_not_gives environment hg]
      simp [hg]

theorem Field.name_injective : Function.Injective Field.name := by
  intro field other h
  cases field <;> cases other <;> first | rfl | exact absurd h (by decide)

open String in
theorem splitOnAux_of_not_mem (before after : List Char) (h : '.' ∉ after) :
    splitOnAux (ofList (before ++ after)) "." 0 ⟨utf8Len before⟩ 0 [] =
      [ofList (before ++ after)] := by
  -- Without a dot the scan never leaves its first piece.
  induction after generalizing before with
  | nil =>
    have hextract := extract_zero_rawEndPos (ofList before)
    have hend := (atEnd_of_valid before []).2 rfl
    rw [rawEndPos_ofList] at hextract
    rw [List.append_nil] at hend ⊢
    rw [splitOnAux, if_pos hend]
    simp only [hextract]
    rfl
  | cons c rest ih =>
    rw [List.mem_cons, not_or] at h
    have hend : ¬Pos.Raw.atEnd (ofList (before ++ c :: rest)) ⟨utf8Len before⟩ = true :=
      mt (atEnd_of_valid before (c :: rest)).1 (List.cons_ne_nil c rest)
    have hget : ¬(Pos.Raw.get (ofList (before ++ c :: rest)) ⟨utf8Len before⟩ ==
        Pos.Raw.get "." 0) = true := by
      rw [get_of_valid before (c :: rest), beq_iff_eq]
      exact fun hc => h.1 hc.symm
    have hmore := ih (before ++ [c]) h.2
    rw [List.append_assoc, List.singleton_append, utf8Len_append] at hmore
    rw [splitOnAux, if_neg hend, if_neg hget]
    change splitOnAux _ _ _ (Pos.Raw.next _ ⟨utf8Len before - 0⟩) _ _ = _
    rw [Nat.sub_zero, next_of_valid before c rest]
    simpa using hmore

theorem splitOn_of_not_mem {name : String} (h : '.' ∉ name.toList) : name.splitOn "." = [name] := by
  have hsplit := splitOnAux_of_not_mem [] name.toList h
  rw [List.nil_append, String.ofList_toList] at hsplit
  exact hsplit

theorem settingName?_variableName (field : Field) :
    Environment.settingName? field.variableName = some [field.name] := by
  have hname : (Text.trimBlank field.variableName.toList).map Char.toLower =
      Environment.opening ++ field.name.toList := by
    cases field <;> decide
  have htrim : Text.trimBlank field.name.toList = field.name.toList := by
    cases field <;> decide
  have hdot : '.' ∉ field.name.toList := by
    cases field <;> decide
  have hempty : field.name ≠ "" := by
    cases field <;> decide
  have hopens : Environment.opening.isPrefixOf (Environment.opening ++ field.name.toList) = true :=
    List.isPrefixOf_iff_prefix.2 (List.prefix_append _ _)
  simp only [Environment.settingName?, hname, hopens, if_true, List.drop_left, htrim,
    String.ofList_toList, splitOn_of_not_mem hdot, List.mem_singleton, hempty.symm, if_false]

/-- What the variable of a setting is set to is what it gives, and it gives it to no other. -/
theorem gives_variableName {field : Field} {text : String} {other : Field} {tree : Tree} :
    Gives (field.variableName, text) other.name tree ↔
      field = other ∧ tree = Environment.read text := by
  have hgives : Gives (field.variableName, text) field.name (Environment.read text) :=
    .intro (settingName?_variableName field)
  constructor
  · rintro ⟨ho⟩
    rw [settingName?_variableName, Option.some_inj, List.cons.injEq] at ho
    obtain ⟨hname, rfl⟩ := ho
    exact ⟨Field.name_injective hname, rfl⟩
  · rintro ⟨rfl, rfl⟩
    exact hgives

/-- The table that a file adds. -/
inductive Contributes : Option File → List (String × Tree) → Prop
  | none : Contributes none []
  | missing (name : String) : Contributes (some ⟨name, none⟩) []
  | read {name text : String} {table : List (String × Tree)} :
      Document.read? text = some table → Contributes (some ⟨name, some text⟩) table

/-- The value that counts for a setting. -/
inductive Effective (table : List (String × Tree)) (environment : List (String × String))
    (field : Field) : Tree → Prop
  | environment {tree : Tree} : SetTo environment field.name tree →
      Effective table environment field tree
  | file {tree : Tree} : (∀ other, ¬SetTo environment field.name other) →
      Assoc.get? table field.name = some tree → Effective table environment field tree
  | default : (∀ other, ¬SetTo environment field.name other) →
      Assoc.get? table field.name = none →
      Effective table environment field (Suite.default.tree field)

variable {file : Option File} {table : List (String × Tree)} {environment : List (String × String)}

/-- The layers over the defaults, one on the other. -/
def stacked (table : List (String × Tree)) (environment : List (String × String)) (name : String) :
    Option Tree :=
  (Assoc.get? (Environment.settings environment) name).or (Assoc.get? table name)

theorem not_setTo_iff {name : String} : (∀ other, ¬SetTo environment name other) ↔
    Assoc.get? (Environment.settings environment) name = none := by
  simp only [← get?_settings, Option.eq_none_iff_forall_ne_some, ne_eq]

theorem Effective.eq {field : Field} {tree : Tree} (h : Effective table environment field tree) :
    (stacked table environment field.name).getD (Suite.default.tree field) = tree := by
  cases h with
  | environment hset =>
    rw [stacked, get?_settings.2 hset]
    rfl
  | file hnone hfile =>
    rw [stacked, not_setTo_iff.1 hnone, hfile]
    rfl
  | default hnone hfile =>
    rw [stacked, not_setTo_iff.1 hnone, hfile]
    rfl

theorem effective_stacked (field : Field) : Effective table environment field
    ((stacked table environment field.name).getD (Suite.default.tree field)) := by
  cases hset : Assoc.get? (Environment.settings environment) field.name with
  | some given =>
    rw [stacked, hset]
    exact .environment (get?_settings.1 hset)
  | none =>
    have hnone := not_setTo_iff.2 hset
    cases hfile : Assoc.get? table field.name with
    | some found =>
      rw [stacked, hset, hfile]
      exact .file hnone hfile
    | none =>
      rw [stacked, hset, hfile]
      exact .default hnone hfile

theorem effective_iff {field : Field} {tree : Tree} : Effective table environment field tree ↔
    (stacked table environment field.name).getD (Suite.default.tree field) = tree := by
  constructor
  · exact Effective.eq
  · rintro rfl
    exact effective_stacked field

theorem exists_layers (environment : List (String × String)) (h : Contributes file table) :
    ∃ above, layers file environment = .ok above ∧
      ∀ name, (find? above name).map Prod.snd = stacked table environment name := by
  have hget (name : String) : ∀ below : List LayerSettings,
      (find? (below ++ [⟨.environment, Environment.settings environment⟩]) name).map Prod.snd =
        (Assoc.get? (Environment.settings environment) name).or
          ((find? below name).map Prod.snd) := by
    intro below
    rw [find?, List.reverse_append, List.reverse_singleton, List.singleton_append,
      List.findSome?_cons]
    cases Assoc.get? (Environment.settings environment) name <;> rfl
  have hfile (layer : Layer) (name : String) :
      (find? [⟨layer, table⟩] name).map Prod.snd = Assoc.get? table name := by
    cases hf : Assoc.get? table name <;> simp [find?, hf]
  cases h with
  | none => exact ⟨_, rfl, fun name => hget name []⟩
  | missing fileName => exact ⟨_, rfl, fun name => (hget name [_]).trans (by rw [hfile]; rfl)⟩
  | @read fileName text _ hread =>
    refine ⟨[⟨.file fileName, table⟩, ⟨.environment, Environment.settings environment⟩], ?_,
      fun name => (hget name [_]).trans (by rw [hfile]; rfl)⟩
    simp only [layers, File.settings, hread]
    rfl

theorem load_of_layers {above : List LayerSettings} (h : layers file environment = .ok above) :
    Suite.load file environment =
      (Suite.ofSettings fun name => (find? above name).map Prod.snd).mapError fun mismatch =>
        .settings (fault above mismatch) := by
  rw [Suite.load, h]
  rfl

theorem load_eq_ok (h : Contributes file table) {suite : Suite} :
    Suite.load file environment = .ok suite ↔
      ∀ field, Effective table environment field (suite.tree field) := by
  obtain ⟨above, hlayers, hfind⟩ := exists_layers environment h
  simp only [effective_iff]
  rw [← Suite.ofSettings_eq_ok, load_of_layers hlayers, funext hfind]
  cases Suite.ofSettings (stacked table environment) with
  | error mismatch => exact ⟨nofun, nofun⟩
  | ok loaded => rw [Except.mapError, Except.ok.injEq, Except.ok.injEq]

/-- Whatever keeps a suite from being loaded lies in the settings. -/
theorem load_refused (file : Option File) (environment : List (String × String))
    (h : ¬∃ suite, Suite.load file environment = .ok suite) :
    ∃ fault, Suite.load file environment = .error (.settings fault) := by
  cases hlayers : layers file environment with
  | error fault =>
    refine ⟨fault, ?_⟩
    rw [Suite.load, hlayers]
    rfl
  | ok above =>
    rw [load_of_layers hlayers] at h ⊢
    cases hread : Suite.ofSettings fun name => (find? above name).map Prod.snd with
    | ok suite => exact absurd ⟨suite, by rw [hread, Except.mapError]⟩ h
    | error mismatch => exact ⟨fault above mismatch, rfl⟩

/-! ## What is loaded -/

theorem fits_tree (suite : Suite) (field : Field) : field.shape.Fits (suite.tree field) := by
  have hoption (value : Option String) : Shape.optional.Fits (.ofOption value) := by
    cases value with
    | none => exact .absent
    | some value => exact .present value
  cases field with
  | authProvider => exact hoption suite.authProvider
  | authGuard => exact hoption suite.authGuard
  | guards => exact .texts suite.guards
  | responseKey => exact .text suite.responseKey
  | userKey => exact .text suite.userKey

/-- Values of the right types make a suite. -/
theorem exists_suite {value : Field → Tree} (h : ∀ field : Field, field.shape.Fits (value field)) :
    ∃ suite : Suite, ∀ field, suite.tree field = value field := by
  have hoption {tree : Tree} (ht : Shape.optional.Fits tree) : ∃ held, .ofOption held = tree := by
    cases ht with
    | absent => exact ⟨none, rfl⟩
    | present held => exact ⟨some held, rfl⟩
  have htext {tree : Tree} (ht : Shape.text.Fits tree) : ∃ held, .text held = tree := by
    cases ht with
    | text held => exact ⟨held, rfl⟩
  have htexts {tree : Tree} (ht : Shape.texts.Fits tree) : ∃ held, .ofTexts held = tree := by
    cases ht with
    | texts held => exact ⟨held, rfl⟩
  obtain ⟨provider, hprovider⟩ := hoption (h .authProvider)
  obtain ⟨guard, hguard⟩ := hoption (h .authGuard)
  obtain ⟨guards, hguards⟩ := htexts (h .guards)
  obtain ⟨response, hresponse⟩ := htext (h .responseKey)
  obtain ⟨user, huser⟩ := htext (h .userKey)
  refine ⟨⟨provider, guard, guards, response, user⟩, fun field => ?_⟩
  cases field <;> assumption

/-- How a suite is loaded from a file with this table and the environment. -/
structure Layered (file : Option File) (table : List (String × Tree))
    (environment : List (String × String)) : Prop where
  /-- The variable of a setting gives what it is set to, and to this setting alone. -/
  named : ∀ (field other : Field) text tree,
    Gives (field.variableName, text) other.name tree ↔ field = other ∧ tree = Environment.read text
  /-- One value counts for each setting. -/
  counts : ∀ field, ∃! tree, Effective table environment field tree
  /-- Just these values are loaded. -/
  loads : ∀ suite, Suite.load file environment = .ok suite ↔
    ∀ field, Effective table environment field (suite.tree field)
  /-- A suite is loaded exactly where each of them has the type of its setting. -/
  succeeds : (∃ suite, Suite.load file environment = .ok suite) ↔
    ∀ field tree, Effective table environment field tree → field.shape.Fits tree
  refused : (¬∃ suite, Suite.load file environment = .ok suite) →
    ∃ fault, Suite.load file environment = .error (.settings fault)
  /-- Entries and variables that belong to no setting make no difference. -/
  ignores : ∀ otherFile otherTable otherEnvironment, Contributes otherFile otherTable →
    (∀ field : Field, Assoc.get? otherTable field.name = Assoc.get? table field.name) →
    (∀ (field : Field) tree,
      SetTo otherEnvironment field.name tree ↔ SetTo environment field.name tree) →
    ∀ suite, Suite.load otherFile otherEnvironment = .ok suite ↔
      Suite.load file environment = .ok suite

/-- For each setting one value counts: what its variable in the environment is set to, else its
entry in the file, else the default. A suite is loaded exactly when each of these has the type of
its setting, and then it has just these values; other entries and variables make no difference. -/
theorem layered (file : Option File) (table : List (String × Tree)) (h : Contributes file table)
    (environment : List (String × String)) : Layered file table environment := by
  have hcounts (field : Field) : ∃! tree, Effective table environment field tree :=
    ⟨_, effective_iff.2 rfl, fun tree ht => (effective_iff.1 ht).symm⟩
  refine {
    named := fun field other text tree => gives_variableName
    counts := hcounts
    loads := fun suite => load_eq_ok h
    succeeds := ?_
    refused := load_refused file environment
    ignores := ?_ }
  · constructor
    · rintro ⟨suite, hs⟩ field tree ht
      rw [(hcounts field).unique ht (load_eq_ok h |>.1 hs field)]
      exact fits_tree suite field
    · intro hfits
      choose value hvalue using fun field : Field => (hcounts field).exists
      obtain ⟨suite, hs⟩ := exists_suite fun field => hfits field _ (hvalue field)
      refine ⟨suite, (load_eq_ok h).2 fun field => ?_⟩
      rw [hs field]
      exact hvalue field
  · intro otherFile otherTable otherEnvironment ho htable henvironment suite
    have hstacked (field : Field) : stacked otherTable otherEnvironment field.name =
        stacked table environment field.name := by
      have hget : Assoc.get? (Environment.settings otherEnvironment) field.name =
          Assoc.get? (Environment.settings environment) field.name :=
        Option.ext fun tree => by
          rw [get?_settings, get?_settings]
          exact henvironment field tree
      rw [stacked, stacked, hget, htable field]
    rw [load_eq_ok ho, load_eq_ok h]
    simp only [effective_iff, hstacked]

/-- Guards of the wrong type, and an entry that is no setting. -/
def mixedText : String :=
  "guards = 1\nresponse_key = \"r\"\nuser_key = \"u\"\ncolor = true"

def mixedFile : File := ⟨"suite.toml", some mixedText⟩

/-- Variables over two of the entries, and one that is no setting. -/
def mixedVariables : List (String × String) :=
  [(Field.guards.variableName, "[web, api]"), ("GWT_COLOR", "red"),
    (Field.userKey.variableName, "admin")]

/-- The wrong guards do no harm under the variable, and are refused without it. -/
theorem layered_over_wrong_guards :
    Suite.load (some mixedFile) mixedVariables = .ok ⟨none, none, ["web", "api"], "r", "admin"⟩ ∧
      ∃ fault, Suite.load (some mixedFile) [] = .error (.settings fault) := by
  have htable : Document.read? mixedText = some [("guards", .signed 1), ("response_key", .text "r"),
      ("user_key", .text "u"), ("color", .flag true)] := by cbv
  have hcolor : Environment.settingName? "GWT_COLOR" = some ["color"] := by cbv
  have hset : Environment.settings mixedVariables =
      [("guards", .list [.text "web", .text "api"]), ("color", .text "red"),
        ("user_key", .text "admin")] := by
    simp only [Environment.settings, mixedVariables, List.foldl_cons, List.foldl_nil,
      settingName?_variableName, hcolor]
    cbv
  constructor
  · refine ((layered (some mixedFile) _ (.read htable) mixedVariables).loads _).2 fun field => ?_
    rw [effective_iff, stacked, hset]
    cases field <;> rfl
  · have hlayered := layered (some mixedFile) _ (.read htable) []
    refine hlayered.refused fun hloaded => ?_
    have hfits := hlayered.succeeds.1 hloaded .guards (.signed 1) (effective_iff.2 rfl)
    cases hfits

end Settings

end Storytest
