import Storytest.Source.Grammar.Depth

/-!
# Names that patterns bind

A reader is told by what it gives (`Reader.Gives`), step by step along its binds. Reading patterns
that way shows that none binds the blank as a name (`name_ne_of_read`): the blank is a word of its
own, and a name is an identifier or `self`.
-/

namespace Storytest

namespace Reader

variable {σ α β : Type}

/-- Whatever the reader gives satisfies the predicate. -/
def Gives (reader : Reader σ α) (p : α → Prop) : Prop :=
  ∀ input value rest, reader input = some (value, rest) → p value

theorem Gives.pure {p : α → Prop} {value : α} (h : p value) :
    (Pure.pure value : Reader σ α).Gives p := by
  intro input found rest hf
  obtain ⟨rfl, -⟩ := Prod.mk.inj (Option.some.inj hf)
  exact h

theorem Gives.failure {p : α → Prop} : (Alternative.failure : Reader σ α).Gives p :=
  fun _ _ _ h => nomatch h

theorem Gives.bind {first : Reader σ α} {next : α → Reader σ β} {q : α → Prop} {p : β → Prop}
    (hf : first.Gives q) (hn : ∀ value, q value → (next value).Gives p) :
    (first >>= next).Gives p := by
  intro input value rest h
  obtain ⟨⟨taken, left⟩, ht, hv⟩ := Option.bind_eq_some_iff.1 h
  exact hn taken (hf input taken left ht) left value rest hv

/-- What the first step gives does not matter. -/
theorem Gives.behind {first : Reader σ α} {next : α → Reader σ β} {p : β → Prop}
    (hn : ∀ value, (next value).Gives p) : (first >>= next).Gives p :=
  Gives.bind (q := fun _ => True) (fun _ _ _ _ => trivial) fun value _ => hn value

theorem Gives.ite {condition : Prop} [Decidable condition] {first second : Reader σ α}
    {p : α → Prop} (hf : first.Gives p) (hs : second.Gives p) :
    (if condition then first else second).Gives p := by
  split
  · exact hf
  · exact hs

theorem Gives.of_whole {reader : Reader σ α} {p : α → Prop} (h : reader.Gives p) {input : List σ}
    {value : α} (hw : reader.whole input = some value) : p value := by
  unfold whole at hw
  split at hw
  · next found hf =>
    cases hw
    exact h input value [] hf
  · cases hw

end Reader

namespace Source

open Reader TokenReader

theorem TokenReader.gives_listUpTo {α : Type} {item : TokenReader α} {p : α → Prop}
    (h : item.Gives p) (separator : String) (ends : List Token → Bool) (count : Nat) :
    (listUpTo separator ends item count).Gives fun items => ∀ entry ∈ items, p entry.value := by
  induction count with
  | zero => exact .pure fun _ hin => nomatch hin
  | succ count ih =>
    refine .behind fun tokens => ?_
    split
    · exact .pure fun _ hin => nomatch hin
    · refine .bind h fun first hfirst => .behind fun left => ?_
      split
      · exact .pure (List.forall_mem_singleton.2 hfirst)
      · exact .behind fun _ => .bind ih fun rest hrest =>
          .pure (List.forall_mem_cons.2 ⟨hfirst, hrest⟩)

theorem TokenReader.ident_eq (tokens : List Token) :
    ident tokens = if atIdent tokens then word tokens else none := by
  change (if atIdent tokens then word else failure : TokenReader String) tokens = _
  split <;> rfl

/-- No identifier is the blank. -/
theorem TokenReader.gives_ident : TokenReader.ident.Gives (· ≠ "_") := by
  intro input name rest h
  rw [ident_eq] at h
  split at h
  · next hi =>
    cases input with
    | nil => cases h
    | cons token left =>
      cases token with
      | word found =>
        obtain ⟨rfl, -⟩ := Prod.mk.inj (Option.some.inj h)
        rintro rfl
        simp [atIdent, reserved] at hi
      | _ => cases h
  · cases h

namespace Grammar

variable {g : Grammar}

/-- The pattern binds no value to the blank. -/
def AvoidsBlank (pattern : Pattern) : Prop := pattern.name? ≠ some "_"

theorem gives_rangeFrom (lower : List Token) : (g.rangeFrom lower).Gives AvoidsBlank :=
  .behind fun _ => .behind fun _ =>
    .ite (.ite .failure (.pure nofun)) (.behind fun _ => .pure nofun)

theorem gives_rangeTo : g.rangeTo.Gives AvoidsBlank := by
  have rest (inclusive : Bool) (marks : List Token) : Reader.Gives (do
      if atRangeEnd (← get) then
        if inclusive then failure else return Pattern.other marks
      else return .halfRange (marks ++ (← g.rangeEnd))) AvoidsBlank :=
    .behind fun _ => .ite (.ite .failure (.pure nofun)) (.behind fun _ => .pure nofun)
  exact .behind fun _ => .ite (.behind fun _ => rest _ _) (.behind fun _ => rest _ _)

theorem gives_constantOrRange : g.constantOrRange.Gives AvoidsBlank :=
  .behind fun _ => .behind fun _ => .ite (gives_rangeFrom _) (.pure nofun)

theorem gives_patternOfPath : g.patternOfPath.Gives AvoidsBlank :=
  .behind fun _ => .behind fun _ =>
    .ite (.behind fun _ => .pure nofun)
      (.ite (.behind fun _ => .pure nofun)
        (.ite (.behind fun _ => .pure nofun)
          (.ite (gives_rangeFrom _) (.pure nofun))))

/-- A name is `self` or an identifier, so whatever reads on behind one need not expect the blank. -/
theorem gives_behindName {next : String → TokenReader Pattern} {p : Pattern → Prop}
    (hn : ∀ name, name ≠ "_" → (next name).Gives p) :
    Reader.Gives (do if atWord "self" (← get) then next (← word) else next (← ident)) p := by
  intro input value rest h
  change (if atWord "self" input then word >>= next else ident >>= next : TokenReader Pattern)
    input = _ at h
  split at h
  · next hs =>
    cases input with
    | nil => cases hs
    | cons token left =>
      cases token with
      | word found =>
        obtain rfl : found = "self" := eq_of_beq hs
        exact hn "self" (by decide) left value rest h
      | _ => cases hs
  · exact Gives.bind TokenReader.gives_ident hn input value rest h

theorem gives_bindingPattern : g.bindingPattern.Gives AvoidsBlank := by
  have rest (modifiers : List Token) (name : String) (hn : name ≠ "_") : Reader.Gives (do
      if atOp "@" (← get) then
        let at_ ← op "@"
        return .binding modifiers name (at_ ++ (← g.pattern).tokens)
      else return .binding modifiers name []) AvoidsBlank :=
    .behind fun _ =>
      .ite (.behind fun _ => .behind fun _ => .pure fun h => hn (Option.some.inj h))
        (.pure fun h => hn (Option.some.inj h))
  exact .behind fun _ => .behind fun _ => gives_behindName (rest _)

theorem gives_readPattern : g.readPattern.Gives AvoidsBlank :=
  -- One rule for each form of a pattern, in the order in which they are tried.
  .behind fun _ =>
    .ite gives_patternOfPath <|
    .ite (.behind fun _ => .pure nofun) <|
    .ite (.behind fun _ => .behind fun _ => .pure nofun) <|
    .ite gives_constantOrRange <|
    .ite gives_bindingPattern <|
    .ite (.behind fun _ => .behind fun _ => .behind fun _ => .pure nofun) <|
    .ite (.behind fun _ => .pure nofun) <|
    .ite (.behind fun _ => .pure nofun) <|
    .ite gives_rangeTo .failure

theorem gives_pattern : (depth : Nat) → (ofDepth depth).pattern.Gives AvoidsBlank
  | 0 => .failure
  | _ + 1 => gives_readPattern

theorem gives_closureParam (depth : Nat) :
    (ofDepth depth).closureParam.Gives fun param => AvoidsBlank param.pattern :=
  .behind fun _ => .bind (gives_pattern depth) fun _ hp => .behind fun _ =>
    .ite (.behind fun _ => .behind fun _ => .pure hp) (.pure hp)

theorem gives_closure (depth : Nat) (structures : Bool) :
    ((ofDepth depth).closure structures).Gives fun closure =>
      ∀ param ∈ closure.params, AvoidsBlank param.pattern := by
  have params : (listUntil "," (atOp "|") (ofDepth depth).closureParam).Gives fun params =>
      ∀ entry ∈ params, AvoidsBlank entry.value.pattern :=
    .behind fun _ => TokenReader.gives_listUpTo (gives_closureParam depth) _ _ _
  -- The binder, the four modifiers and the bar come before the parameters.
  refine .behind fun _ => .behind fun _ => .behind fun _ => .behind fun _ => .behind fun _ =>
    .behind fun _ => .bind params fun found hf => ?_
  exact .behind fun _ => .behind fun _ => .pure (List.forall_mem_map.2 hf)

end Grammar

/-- No parameter of a closure that was read binds its argument to the blank. -/
theorem name_ne_of_read {tokens : List Token} {closure : Closure}
    (h : Closure.ofTokens? tokens = some closure) {param : ClosureParam}
    (hp : param ∈ closure.params) : param.pattern.name? ≠ some "_" :=
  (Grammar.gives_closure _ true).of_whole h param hp

end Source

end Storytest
