import Mathlib
import Storytest.Source.Literal
import Storytest.Text.Quoted

/-!
# Quoted texts read back

What `Text.quote` writes is a literal of source text, whose value is the text that was quoted
(`textValue?_quote`). So a text that goes into generated code comes out of it unchanged, whatever
characters it has.
-/

namespace Storytest

/-! ## Hexadecimal digits -/

namespace Text.Digits

theorem value?_digitChar (digit : Nat) (h : digit < 16) :
    value? digit.digitChar = some digit := by
  interval_cases digit <;> decide

theorem valueFrom?_append (base value : Nat) (digits more : List Char) :
    valueFrom? base value (digits ++ more) =
      (valueFrom? base value digits).bind fun found => valueFrom? base found more := by
  induction digits generalizing value with
  | nil => rfl
  | cons c digits ih =>
    simp only [List.cons_append, valueFrom?]
    cases value? c with
    | none => rfl
    | some digit =>
      by_cases h : digit < base
      · simp only [if_pos h, ih]
      · simp only [if_neg h, Option.bind_none]

/-- The digits that a number is shown with are worth the number. -/
theorem valueIn?_toDigits (n : Nat) : valueIn? 16 (Nat.toDigits 16 n) = some n := by
  induction n using Nat.strong_induction_on with
  | _ n ih =>
    rw [Nat.toDigits_eq_if (by decide)]
    split
    · next h => simp [valueIn?, valueFrom?, value?_digitChar n h, h]
    · next h =>
      have hd : n % 16 < 16 := Nat.mod_lt n (by decide)
      have hrest : valueFrom? 16 0 (Nat.toDigits 16 (n / 16)) = some (n / 16) :=
        ih (n / 16) (by omega)
      rw [valueIn?, valueFrom?_append, hrest]
      simp only [Option.bind_some, valueFrom?, value?_digitChar _ hd, if_pos hd]
      congr 1
      omega

theorem isHex_of_mem_toDigits {n : Nat} {c : Char} (h : c ∈ Nat.toDigits 16 n) :
    isHex c = true := by
  induction n using Nat.strong_induction_on with
  | _ n ih =>
    rw [Nat.toDigits_eq_if (by decide)] at h
    split at h
    · next hn =>
      rw [List.mem_singleton.1 h, isHex, value?_digitChar n hn]
      rfl
    · next hn =>
      rcases List.mem_append.1 h with h | h
      · exact ih (n / 16) (by omega) h
      · rw [List.mem_singleton.1 h, isHex, value?_digitChar _ (Nat.mod_lt n (by decide))]
        rfl

theorem scalar?_toNat (c : Char) : scalar? c.toNat = some c := by
  have hv : c.toNat.isValidChar := c.valid
  rw [scalar?, dif_pos hv]
  rfl

end Text.Digits

namespace Source.Lexeme

open Text.Digits

theorem numberedChar_toDigits (c : Char) (rest : List Char) :
    numberedChar ('\x7b' :: (Nat.toDigits 16 c.toNat ++ '\x7d' :: rest)) = some (c, rest) := by
  have hhex : ∀ d ∈ Nat.toDigits 16 c.toNat, isHex d = true := fun _ => isHex_of_mem_toDigits
  have hmark : ∀ d ∈ Nat.toDigits 16 c.toNat, d ≠ '_' := by
    rintro d hd rfl
    exact absurd (hhex '_' hd) (by decide)
  have htake : (Reader.takeWhile fun d => isHex d || decide (d = '_'))
      (Nat.toDigits 16 c.toNat ++ '\x7d' :: rest) =
        some (Nat.toDigits 16 c.toNat, '\x7d' :: rest) :=
    Reader.takeWhile_append_cons (fun d hd => by simp [hhex d hd]) (by decide) rest
  have hshown : (Nat.toDigits 16 c.toNat).filter (fun d => decide (d ≠ '_')) =
      Nat.toDigits 16 c.toNat := List.filter_eq_self.2 fun d hd => by simp [hmark d hd]
  have hhead : (Nat.toDigits 16 c.toNat).head? ≠ some '_' := fun h =>
    hmark '_' (List.mem_of_head? h) rfl
  have hempty : (Nat.toDigits 16 c.toNat).isEmpty = false :=
    List.isEmpty_eq_false_iff.2 Nat.toDigits_ne_nil
  have hlen : ¬6 < (Nat.toDigits 16 c.toNat).length := by
    rw [not_lt, Nat.length_toDigits_le_iff (by decide) (by decide)]
    have hv : c.toNat.isValidChar := c.valid
    unfold Nat.isValidChar at hv
    omega
  have hval : (valueIn? 16 (Nat.toDigits 16 c.toNat)).bind scalar? = some c := by
    rw [valueIn?_toDigits, Option.bind_some, scalar?_toNat]
  rw [numberedChar, Reader.bind_of_eq_some (Reader.one_cons _ _), Reader.bind_of_eq_some htake,
    Reader.bind_of_eq_some (Reader.one_cons _ _)]
  simp only [hshown, hhead, hempty, hlen, hval, decide_false, Bool.or_self, Bool.false_eq_true,
    if_false]
  rfl

/-- A reader's list with a character in front of it. -/
theorem cons_eq (c : Char) (reader : Reader Char (List Char)) (input : List Char) :
    (do return c :: (← reader) : Reader Char (List Char)) input =
      (reader input).map fun found => (c :: found.1, found.2) := by
  change (reader input).bind _ = _
  cases reader input <;> rfl

theorem textTail_plain {c : Char} (hq : c ≠ '"') (hr : c ≠ '\r') (hb : c ≠ '\\') (fuel : Nat)
    (tail : List Char) : textTail .text (fuel + 1) (c :: tail) =
      (textTail .text fuel tail).map fun found => (c :: found.1, found.2) := by
  rw [textTail, Reader.bind_of_eq_some (rfl : Reader.next (c :: tail) = some (c, tail))]
  split
  · exact absurd rfl hq
  · exact absurd rfl hr
  · exact absurd rfl hb
  · exact cons_eq c _ tail

theorem textTail_escaped {mark c : Char} {left tail : List Char} (hn : mark ≠ '\n')
    (hr : mark ≠ '\r') (he : escape .text (mark :: left) = some (c, tail)) (fuel : Nat) :
    textTail .text (fuel + 1) ('\\' :: mark :: left) =
      (textTail .text fuel tail).map fun found => (c :: found.1, found.2) := by
  have hnext : Reader.next ('\\' :: mark :: left) = some ('\\', mark :: left) := rfl
  rw [textTail, Reader.bind_of_eq_some hnext]
  change (Reader.peek >>= _) (mark :: left) = _
  rw [Reader.bind_of_eq_some (rfl : Reader.peek (mark :: left) = some (some mark, mark :: left)),
    List.head?_cons]
  generalize hm : some mark = m
  split
  · exact absurd (Option.some.inj hm) hn
  · exact absurd (Option.some.inj hm) hr
  · rw [Reader.bind_of_eq_some he]
    exact cons_eq c _ tail

theorem escape_numbered (c : Char) (tail : List Char) :
    escape .text ('u' :: '\x7b' :: (Nat.toDigits 16 c.toNat ++ '\x7d' :: tail)) =
      some (c, tail) := by
  rw [escape, Reader.bind_of_eq_some (rfl : Reader.next ('u' :: _) = some ('u', _))]
  exact (Reader.bind_of_eq_some (numberedChar_toDigits c tail)).trans rfl

theorem textTail_escape (c : Char) (fuel : Nat) (tail : List Char) :
    textTail .text (fuel + 1) (Text.escape c ++ tail) =
      (textTail .text fuel tail).map fun found => (c :: found.1, found.2) := by
  unfold Text.escape
  split
  -- Six characters have an escape of their own.
  iterate 6 exact textTail_escaped (by decide) (by decide) rfl fuel
  · next hq hb _ _ hr _ =>
    split
    · simpa using textTail_escaped (by decide) (by decide) (escape_numbered c tail) fuel
    · exact textTail_plain hq hr hb fuel tail

theorem textTail_quoted (text : List Char) {fuel : Nat} (hf : text.length < fuel)
    (rest : List Char) :
    textTail .text fuel (text.flatMap Text.escape ++ '"' :: rest) = some (text, rest) := by
  induction text generalizing fuel with
  | nil =>
    obtain ⟨fuel, rfl⟩ := Nat.exists_eq_add_one.2 hf
    rfl
  | cons c text ih =>
    obtain ⟨fuel, rfl⟩ := Nat.exists_eq_add_one.2 (Nat.zero_lt_of_lt hf)
    rw [List.flatMap_cons, List.append_assoc, textTail_escape, ih (Nat.lt_of_succ_lt_succ hf)]
    rfl

theorem length_le_flatMap_escape (text : List Char) :
    text.length ≤ (text.flatMap Text.escape).length := by
  induction text with
  | nil => exact Nat.le_refl 0
  | cons c text ih =>
    have hc : 0 < (Text.escape c).length := by
      unfold Text.escape
      split <;> try split
      all_goals simp
    rw [List.flatMap_cons, List.length_append, List.length_cons]
    omega

/-- A quoted text has the text for its value. -/
theorem textValue?_quote (text : String) : textValue? (Text.quote text) = some text := by
  have hlen : text.toList.length < (text.toList.flatMap Text.escape ++ ['"']).length + 1 := by
    have := length_le_flatMap_escape text.toList
    rw [List.length_append]
    omega
  have hread : Lexeme.text .text ('"' :: text.toList.flatMap Text.escape ++ ['"']) =
      some (text.toList, []) := by
    rw [Lexeme.text, List.cons_append, Reader.bind_of_eq_some (Reader.one_cons _ _)]
    exact textTail_quoted _ hlen []
  have hwhole : Reader.whole (Lexeme.text .text <|> rawText .text)
      ('"' :: text.toList.flatMap Text.escape ++ ['"']) = some text.toList := by
    have horElse : (Lexeme.text .text <|> rawText .text)
        ('"' :: text.toList.flatMap Text.escape ++ ['"']) = some (text.toList, []) := by
      change (Lexeme.text .text _ <|> rawText .text _) = _
      rw [hread]
      rfl
    rw [Reader.whole, horElse]
  rw [textValue?, Text.quote, String.toList_ofList, hwhole, Option.map_some, String.ofList_toList]

end Source.Lexeme

end Storytest
