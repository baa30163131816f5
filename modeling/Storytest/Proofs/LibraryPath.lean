import Mathlib
import Storytest.Expansion.OutputInstance
import Storytest.Proofs.Fallible

/-!
# The path to the library

The attributes of an item say where the library is found. `SetsAll` is the grammar of what they say,
without a word about how it is read; `resolvePath_eq_ok` holds the reader against it.
-/

namespace Storytest

open Source

namespace Source.TokenReader

/-! ## Readers of single tokens -/

variable {tokens rest taken : List Token}

theorem word_eq_some {text : String} :
    word tokens = some (text, rest) ↔ tokens = .word text :: rest := by
  rw [word, Reader.bind_eq_some_iff]
  constructor
  · rintro ⟨token, left, hnext, htext⟩
    cases tokens with
    | nil => cases hnext
    | cons head tail =>
      cases hnext
      cases token <;> cases htext
      rfl
  · rintro rfl
    exact ⟨_, _, rfl, rfl⟩

theorem op_apply (marks : String) (tokens : List Token) : op marks tokens =
    if atOp marks tokens then some (Token.op marks, tokens.drop marks.length) else none := by
  rw [op]
  cases h : atOp marks tokens <;> simp [h, bind, StateT.bind, get, getThe, MonadStateOf.get,
    StateT.get, set, StateT.set, pure, StateT.pure, failure, StateT.failure]

theorem op?_apply (marks : String) (tokens : List Token) : op? marks tokens =
    if atOp marks tokens then op marks tokens else some ([], tokens) := by
  rw [op?]
  cases h : atOp marks tokens <;> simp [h, bind, StateT.bind, get, getThe, MonadStateOf.get,
    StateT.get, pure, StateT.pure]

/-- An operator of one mark is taken whether or not the mark is joined to what follows it. -/
theorem op_eq_some {marks : String} {c : Char} (hm : marks.toList = [c]) :
    op marks tokens = some (taken, rest) ↔
      taken = Token.op marks ∧ ∃ joint, tokens = .mark c joint :: rest := by
  have hlen : marks.length = 1 := by rw [← String.length_toList, hm, List.length_singleton]
  have hat : atOp marks tokens = true ↔ ∃ joint, tokens = .mark c joint :: tokens.drop 1 := by
    rw [atOp, hm]
    cases tokens with
    | nil => simp [startsMarks]
    | cons token more =>
      cases token with
      | mark found joint => simpa [startsMarks] using eq_comm
      | word => simp [startsMarks]
      | lifetime => simp [startsMarks]
      | literal => simp [startsMarks]
      | group => simp [startsMarks]
  rw [op_apply, hlen]
  split_ifs with h
  · obtain ⟨joint, hj⟩ := hat.1 h
    rw [Option.some_inj, Prod.mk.injEq, eq_comm (a := taken)]
    refine and_congr_right fun _ => ⟨fun hr => ⟨joint, hr ▸ hj⟩, ?_⟩
    rintro ⟨other, rfl⟩
    rfl
  · refine ⟨nofun, ?_⟩
    rintro ⟨-, joint, rfl⟩
    exact absurd (hat.2 ⟨joint, rfl⟩) h

theorem repeatWhile_of_not {α : Type} {more : List Token → Bool} (h : more tokens = false)
    {item : TokenReader α} : repeatWhile more item tokens = some ([], tokens) := by
  change repeatUpTo more item tokens.length tokens = _
  cases tokens with
  | nil => rfl
  | cons token others =>
    rw [List.length_cons, repeatUpTo]
    change (if more _ then _ else _ : TokenReader (List α)) _ = _
    rw [h]
    rfl

/-- Something is repeated where the predicate holds at the start. -/
theorem repeatWhile_ne_nil {α : Type} {more : List Token → Bool} (h : more tokens = true)
    (hne : tokens ≠ []) {item : TokenReader α} :
    repeatWhile more item tokens ≠ some ([], rest) := by
  intro hnil
  obtain ⟨token, others, rfl⟩ := List.exists_cons_of_ne_nil hne
  change (if more _ then _ else _ : TokenReader (List α)) _ = _ at hnil
  rw [if_pos h, Reader.bind_eq_some_iff] at hnil
  obtain ⟨first, left, -, hmore⟩ := hnil
  obtain ⟨repeated, last, -, hvalue⟩ := Reader.bind_eq_some_iff.1 hmore
  cases hvalue

end Source.TokenReader

namespace Expansion

open TokenReader

theorem orElse_eq_ok {α : Type} {fault : Fault} {found : Option α} {value : α} :
    fault.orElse found = .ok value ↔ found = some value := by
  cases found <;> simp [Fault.orElse]

theorem settingKey_eq_some {tokens rest : List Token} : settingKey tokens = some (true, rest) ↔
    tokens = .word "crate" :: rest ∧ atOp "::" rest = false := by
  simp only [settingKey, Reader.bind_eq_some_iff, op?_apply, word_eq_some]
  constructor
  · rintro ⟨absolute, left, habsolute, first, after, rfl, more, last, hmore, hvalue⟩
    simp only [pure, StateT.pure, Option.some_inj, Prod.mk.injEq, Bool.and_eq_true, beq_iff_eq,
      List.isEmpty_iff] at hvalue
    obtain ⟨⟨⟨rfl, rfl⟩, rfl⟩, rfl⟩ := hvalue
    have hafter : atOp "::" after = false := by
      by_contra hat
      rw [Bool.not_eq_false] at hat
      have hne : after ≠ [] := by
        rintro rfl
        cases hat
      exact repeatWhile_ne_nil hat hne hmore
    rw [repeatWhile_of_not hafter] at hmore
    cases hmore
    split_ifs at habsolute with hat
    · rw [op_apply, if_pos hat] at habsolute
      cases habsolute
    · cases habsolute
      exact ⟨rfl, hafter⟩
  · rintro ⟨rfl, hrest⟩
    refine ⟨[], _, if_neg (by simp [atOp, startsMarks]), "crate", rest, rfl, [], rest,
      repeatWhile_of_not hrest, rfl⟩

theorem settingValue_eq_some {tokens rest path : List Token} :
    settingValue tokens = some (path, rest) ↔ ∃ joint text value,
      tokens = .mark '=' joint :: .literal text :: rest ∧ Lexeme.textValue? text = some value ∧
        pathOfText? value = some path := by
  have hop {input left taken : List Token} : op "=" input = some (taken, left) ↔
      taken = Token.op "=" ∧ ∃ joint, input = .mark '=' joint :: left := op_eq_some rfl
  simp only [settingValue, Reader.bind_eq_some_iff, hop]
  constructor
  · rintro ⟨taken, left, ⟨-, joint, rfl⟩, token, after, hnext, hvalue⟩
    cases left with
    | nil => cases hnext
    | cons head tail =>
      cases hnext
      cases token with
      | literal text =>
        cases hpath : (Lexeme.textValue? text).bind pathOfText? with
        | none =>
          simp only [hpath] at hvalue
          cases hvalue
        | some found =>
          simp only [hpath] at hvalue
          cases hvalue
          obtain ⟨value, htext, hread⟩ := Option.bind_eq_some_iff.1 hpath
          exact ⟨joint, text, value, rfl, htext, hread⟩
      | word | lifetime | mark | group => cases hvalue
  · rintro ⟨joint, text, value, rfl, htext, hread⟩
    refine ⟨_, _, ⟨rfl, joint, rfl⟩, _, _, rfl, ?_⟩
    have hpath : (Lexeme.textValue? text).bind pathOfText? = some path := by
      rw [htext, Option.bind_some, hread]
    simp only [hpath]
    rfl

/-! ## What attributes say -/

/-- The tokens are `crate = "path"` for a text that writes this path. -/
inductive Sets : List Token → List Token → Prop
  | crate {joint : Bool} {text value : String} {path : List Token} :
      Lexeme.textValue? text = some value → pathOfText? value = some path →
      Sets [.word "crate", .mark '=' joint, .literal text] path

/-- The tokens are a list of settings with commas between them; a comma may come last. -/
inductive Lists : List Token → List (List Token) → Prop
  | none : Lists [] []
  | last {item path : List Token} : Sets item path → Lists item [path]
  | more {item path rest : List Token} {joint : Bool} {paths : List (List Token)} :
      Sets item path → Lists rest paths → Lists (item ++ .mark ',' joint :: rest) (path :: paths)

/-- The attribute is given a list of settings, in whatever delimiter. -/
inductive Given : Attribute → List (List Token) → Prop
  | list {attr : Attribute} {delimiter : Delimiter} {content : List Token}
      {paths : List (List Token)} : attr.input = .arguments delimiter content →
      Lists content paths → Given attr paths

/-- The settings of all attributes of the item, in order. Other attributes are passed over. -/
inductive SetsAll : List Attribute → List (List Token) → Prop
  | none : SetsAll [] []
  | other {attr : Attribute} {rest : List Attribute} {paths : List (List Token)} :
      isSetting attr = false → SetsAll rest paths → SetsAll (attr :: rest) paths
  | setting {attr : Attribute} {rest : List Attribute} {first paths : List (List Token)} :
      isSetting attr = true → Given attr first → SetsAll rest paths →
      SetsAll (attr :: rest) (first ++ paths)

/-- A setting, as it is read from the front of the tokens. -/
theorem setting_iff {tokens rest path : List Token} :
    (∃ left, settingKey tokens = some (true, left) ∧ settingValue left = some (path, rest)) ↔
      ∃ item, Sets item path ∧ tokens = item ++ rest := by
  simp only [settingKey_eq_some, settingValue_eq_some]
  constructor
  · rintro ⟨left, ⟨rfl, -⟩, joint, text, value, rfl, htext, hread⟩
    exact ⟨_, .crate htext hread, rfl⟩
  · rintro ⟨item, ⟨htext, hread⟩, rfl⟩
    exact ⟨_, ⟨rfl, by simp [atOp, startsMarks]⟩, _, _, _, rfl, htext, hread⟩

/-- What stands behind a setting: nothing, or a comma with or without more settings. -/
inductive Goes (count : Nat) (path : List Token) : List Token → List (List Token) → Prop
  | ends : Goes count path [] [path]
  | comma (joint : Bool) : Goes count path [.mark ',' joint] [path]
  | on {joint : Bool} {rest : List Token} {paths : List (List Token)} : rest ≠ [] →
      settingsUpTo count rest = .ok paths →
      Goes count path (.mark ',' joint :: rest) (path :: paths)

theorem settingsUpTo_succ {count : Nat} {tokens : List Token} {paths : List (List Token)} :
    settingsUpTo (count + 1) tokens = .ok paths ↔
      ∃ item path rest, Sets item path ∧ tokens = item ++ rest ∧ Goes count path rest paths := by
  rw [settingsUpTo, bind_eq_ok]
  constructor
  · rintro ⟨⟨isPath, left⟩, hkey, h⟩
    rw [orElse_eq_ok] at hkey
    cases isPath with
    | false => cases h
    | true =>
      obtain ⟨⟨path, rest⟩, hvalue, hgoes⟩ := bind_eq_ok.1 h
      obtain ⟨item, hitem, rfl⟩ := setting_iff.1 ⟨left, hkey, orElse_eq_ok.1 hvalue⟩
      refine ⟨item, path, rest, hitem, rfl, ?_⟩
      -- What is left behind the setting decides how the list goes on.
      cases rest with
      | nil =>
        cases hgoes
        exact .ends
      | cons token behind =>
        obtain ⟨⟨taken, more⟩, hcomma, hgoes⟩ := bind_eq_ok.1 hgoes
        obtain ⟨-, joint, hj⟩ := (op_eq_some (c := ',') rfl).1 (orElse_eq_ok.1 hcomma)
        cases hj
        cases behind with
        | nil =>
          cases hgoes
          exact .comma joint
        | cons =>
          obtain ⟨others, hothers, hpaths⟩ := bind_eq_ok.1 hgoes
          cases hpaths
          exact .on (List.cons_ne_nil _ _) hothers
  · rintro ⟨item, path, rest, hitem, htokens, hgoes⟩
    obtain ⟨left, hkey, hvalue⟩ := setting_iff.2 ⟨item, hitem, htokens⟩
    have hcomma (joint : Bool) (more : List Token) :
        op "," (.mark ',' joint :: more) = some (Token.op ",", more) :=
      (op_eq_some (c := ',') rfl).2 ⟨rfl, joint, rfl⟩
    refine ⟨_, orElse_eq_ok.2 hkey, bind_eq_ok.2 ⟨_, orElse_eq_ok.2 hvalue, ?_⟩⟩
    cases hgoes with
    | ends => rfl
    | comma joint => exact bind_eq_ok.2 ⟨_, orElse_eq_ok.2 (hcomma joint []), rfl⟩
    | on hne hmore =>
      obtain ⟨token, others, rfl⟩ := List.exists_cons_of_ne_nil hne
      exact bind_eq_ok.2 ⟨_, orElse_eq_ok.2 (hcomma _ _), bind_eq_ok.2 ⟨_, hmore, rfl⟩⟩

theorem Lists.eq_nil {paths : List (List Token)} (h : Lists [] paths) : paths = [] := by
  generalize ht : [] = tokens at h
  cases h with
  | none => rfl
  | last hitem =>
    cases hitem
    cases ht
  | more => exact absurd ht.symm (by simp)

theorem settingsUpTo_eq_ok {count : Nat} {tokens : List Token} {paths : List (List Token)}
    (h : tokens.length ≤ count) :
    settingsUpTo count tokens = .ok paths ↔ tokens ≠ [] ∧ Lists tokens paths := by
  -- A setting and its comma take tokens, so the fuel lasts as long as there are any left.
  induction count generalizing tokens paths with
  | zero =>
    rw [List.length_eq_zero_iff.1 (Nat.le_zero.1 h)]
    exact ⟨nofun, fun hne => absurd rfl hne.1⟩
  | succ count ih =>
    rw [settingsUpTo_succ]
    constructor
    · rintro ⟨_, path, rest, ⟨htext, hread⟩, rfl, hgoes⟩
      refine ⟨List.cons_ne_nil _ _, ?_⟩
      cases hgoes with
      | ends => exact .last (.crate htext hread)
      | comma joint => exact .more (.crate htext hread) .none
      | @on joint more others hne hmore =>
        have hlen : more.length ≤ count := by
          simp only [List.length_append, List.length_cons] at h
          omega
        exact .more (.crate htext hread) ((ih hlen).1 hmore).2
    · rintro ⟨hne, hlists⟩
      cases hlists with
      | none => exact absurd rfl hne
      | last hitem => exact ⟨_, _, [], hitem, (List.append_nil _).symm, .ends⟩
      | @more item path rest joint paths hitem hmore =>
        refine ⟨item, path, _, hitem, rfl, ?_⟩
        by_cases hrest : rest = []
        · subst hrest
          rw [hmore.eq_nil]
          exact .comma joint
        · have hlen : rest.length ≤ count := by
            simp only [List.length_append, List.length_cons] at h
            omega
          exact .on hrest ((ih hlen).2 ⟨hrest, hmore⟩)

theorem pathsSet_eq_ok {attr : Attribute} {paths : List (List Token)} :
    pathsSet attr = .ok paths ↔ Given attr paths := by
  rw [pathsSet]
  constructor
  · intro h
    split at h
    · next delimiter content hinput =>
      refine .list hinput ?_
      split_ifs at h with hempty
      · cases h
        rw [List.isEmpty_iff.1 hempty]
        exact .none
      · exact ((settingsUpTo_eq_ok le_rfl).1 h).2
    · cases h
    · cases h
  · rintro ⟨hinput, hlists⟩
    simp only [hinput]
    split_ifs with hempty
    · rw [List.isEmpty_iff.1 hempty] at hlists
      rw [hlists.eq_nil]
    · exact (settingsUpTo_eq_ok le_rfl).2 ⟨mt List.isEmpty_iff.2 hempty, hlists⟩

theorem setsAll_iff {attributes : List Attribute} {paths : List (List Token)} :
    SetsAll attributes paths ↔ ∃ lists,
      (attributes.filter isSetting).mapM pathsSet = .ok lists ∧ paths = lists.flatten := by
  constructor
  · intro h
    induction h with
    | none => exact ⟨[], rfl, rfl⟩
    | other hne _ ih => rwa [List.filter_cons_of_neg (by simp [hne])]
    | @setting attr rest first paths hs hgiven _ ih =>
      obtain ⟨lists, hlists, rfl⟩ := ih
      refine ⟨first :: lists, ?_, rfl⟩
      rw [List.filter_cons_of_pos hs, mapM_cons_eq, pathsSet_eq_ok.2 hgiven, hlists]
  · rintro ⟨lists, hlists, rfl⟩
    induction attributes generalizing lists with
    | nil =>
      cases hlists
      exact .none
    | cons attr rest ih =>
      cases hs : isSetting attr with
      | false =>
        rw [List.filter_cons_of_neg (by simp [hs])] at hlists
        exact .other hs (ih lists hlists)
      | true =>
        rw [List.filter_cons_of_pos hs, List.mapM_cons] at hlists
        obtain ⟨first, hfirst, hrest⟩ := bind_eq_ok.1 hlists
        obtain ⟨others, hothers, hvalue⟩ := bind_eq_ok.1 hrest
        cases hvalue
        exact .setting hs (pathsSet_eq_ok.1 hfirst) (ih others hothers)

/-- The path is the last one that the attributes set, or the library's own. -/
theorem resolvePath_eq_ok {attributes : List Attribute} {path : List Token} :
    resolvePath attributes = .ok path ↔
      ∃ paths, SetsAll attributes paths ∧ path = paths.getLast?.getD defaultPath := by
  simp only [setsAll_iff, resolvePath, bind_eq_ok]
  constructor
  · rintro ⟨lists, hlists, hpath⟩
    cases hpath
    exact ⟨_, ⟨lists, hlists, rfl⟩, rfl⟩
  · rintro ⟨_, ⟨lists, hlists, rfl⟩, rfl⟩
    exact ⟨lists, hlists, rfl⟩

end Expansion

end Storytest
