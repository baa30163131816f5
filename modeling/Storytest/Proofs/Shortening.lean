import Mathlib.Data.List.SplitBy
import Storytest.Text.ShortName

/-!
# Shortening a text

Of a path, what follows the rightmost double colon is kept (`lastSegment_eq_iff`). The scanner keeps
the path characters that it has read since the last other character. Cut at such a character, a text
is shortened part by part (`shorten_append_cons`). So a text without colons stays as it is
(`shorten_self`), and modules that are put in front of its runs are lost (`shorten_qualify`).
-/

namespace Storytest.Text

/-! ## Segments -/

/-- What follows the rightmost double colon of a path, or the whole path if it has none. -/
inductive Last : List Char → List Char → Prop
  | whole {path : List Char} : ¬[':', ':'] <:+: path → Last path path
  /-- Nor does a double colon begin with the second of the two colons. -/
  | behind {front segment : List Char} :
      ¬[':', ':'] <:+: ':' :: segment → Last (front ++ ':' :: ':' :: segment) segment

variable {path segment : List Char}

theorem Last.suffix (h : Last path segment) : segment <:+ path := by
  cases h with
  | whole => exact List.suffix_refl _
  | @behind front => exact ⟨front ++ [':', ':'], by simp⟩

theorem Last.single (h : Last path segment) : ¬[':', ':'] <:+: segment := by
  cases h with
  | whole h => exact h
  | behind h => exact fun hin => h (List.infix_cons_iff.2 (.inr hin))

theorem exists_last (path : List Char) : ∃ segment, Last path segment := by
  induction path with
  | nil => exact ⟨[], .whole (by simp)⟩
  | cons c path ih =>
    by_cases hin : [':', ':'] <:+: path
    · obtain ⟨segment, h⟩ := ih
      cases h with
      | whole h => exact absurd hin h
      | @behind front _ h => exact ⟨segment, @Last.behind (c :: front) segment h⟩
    · by_cases hpair : [':', ':'] <+: c :: path
      · obtain ⟨segment, hs⟩ := hpair
        obtain ⟨rfl, rfl⟩ := List.cons.inj hs
        exact ⟨segment, @Last.behind [] segment hin⟩
      · refine ⟨c :: path, .whole fun h => ?_⟩
        exact (List.infix_cons_iff.1 h).elim hpair hin

/-- Backwards, nothing is cut off before the first double colon. A colon at the end may be half of
one. -/
theorem lastSegmentBackwards_append_of_single {back rest : List Char}
    (h : ¬[':', ':'] <:+: back ++ rest.take 1) :
    lastSegmentBackwards (back ++ rest) = back ++ lastSegmentBackwards rest := by
  induction back with
  | nil => rfl
  | cons c back ih =>
    rw [List.cons_append, List.infix_cons_iff, not_or] at h
    rw [List.cons_append, lastSegmentBackwards, ih h.2, List.cons_append]
    rintro rest' rfl hrest
    -- The text goes on with a second colon, which is in `back` or the first of `rest`.
    apply h.1
    cases back <;> cases rest <;> simp_all

theorem lastSegment_of_last (h : Last path segment) : lastSegment path = segment := by
  cases h with
  | whole h =>
    have hback : ¬[':', ':'] <:+: path.reverse ++ [] := fun hin =>
      h (List.reverse_infix.1 (by simpa using hin))
    have hself : lastSegmentBackwards (path.reverse ++ []) =
        path.reverse ++ lastSegmentBackwards [] := lastSegmentBackwards_append_of_single hback
    rw [List.append_nil, lastSegmentBackwards, List.append_nil] at hself
    rw [lastSegment, hself, List.reverse_reverse]
  | @behind front _ h =>
    have hback : ¬[':', ':'] <:+: segment.reverse ++ [':'] := fun hin =>
      h (List.reverse_infix.1 (by simpa using hin))
    have hreverse : (front ++ ':' :: ':' :: segment).reverse =
        segment.reverse ++ ':' :: ':' :: front.reverse := by simp
    rw [lastSegment, hreverse, lastSegmentBackwards_append_of_single hback, lastSegmentBackwards,
      List.append_nil, List.reverse_reverse]

theorem lastSegment_eq_iff : lastSegment path = segment ↔ Last path segment := by
  refine ⟨?_, lastSegment_of_last⟩
  rintro rfl
  obtain ⟨segment, h⟩ := exists_last path
  rwa [lastSegment_of_last h]

theorem lastSegment_self (h : ':' ∉ segment) : lastSegment segment = segment :=
  lastSegment_of_last <| .whole fun hin => h (hin.subset List.mem_cons_self)

/-- What stands before the last double colon is cut off. -/
theorem lastSegment_append (h : ':' ∉ segment) (front : List Char) :
    lastSegment (front ++ [':', ':'] ++ segment) = segment := by
  have hsingle : ¬[':', ':'] <:+: ':' :: segment := by
    intro hin
    rcases List.infix_cons_iff.1 hin with hin | hin
    · exact h ((List.cons_prefix_cons.1 hin).2.subset List.mem_cons_self)
    · exact h (hin.subset List.mem_cons_self)
  rw [List.append_assoc]
  exact lastSegment_of_last (.behind hsingle)

/-! ## Runs -/

/-- Path characters are held back until their run ends. -/
theorem shortenFrom_append {path : List Char} (h : ∀ c ∈ path, isPathChar c = true)
    (run rest : List Char) :
    shortenFrom run (path ++ rest) = shortenFrom (path.reverse ++ run) rest := by
  induction path generalizing run with
  | nil => rfl
  | cons c path ih =>
    rw [List.cons_append, shortenFrom, if_pos (h c List.mem_cons_self),
      ih (fun d hd => h d (List.mem_cons_of_mem c hd)), List.reverse_cons, List.append_assoc]
    rfl

/-- A run is cut down to its last segment. -/
theorem shorten_path {path : List Char} (h : ∀ c ∈ path, isPathChar c = true) :
    shorten path = lastSegment path := by
  have := shortenFrom_append h [] []
  rw [List.append_nil, List.append_nil] at this
  rw [shorten, this, shortenFrom, List.reverse_reverse]

theorem shortenFrom_append_cons {c : Char} (hc : isPathChar c = false) (before after : List Char) :
    ∀ run, shortenFrom run (before ++ c :: after) = shortenFrom run before ++ c :: shorten after := by
  induction before with
  | nil =>
    intro run
    simp only [List.nil_append, shortenFrom, hc]
    rfl
  | cons d before ih =>
    intro run
    rw [List.cons_append, shortenFrom, shortenFrom]
    by_cases hd : isPathChar d = true
    · rw [if_pos hd, if_pos hd, ih]
    · rw [if_neg hd, if_neg hd, ih, List.append_assoc, List.cons_append]

/-- A text is shortened part by part around a character that belongs to no path. -/
theorem shorten_append_cons {c : Char} (hc : isPathChar c = false) (before after : List Char) :
    shorten (before ++ c :: after) = shorten before ++ c :: shorten after :=
  shortenFrom_append_cons hc before after []

theorem shorten_cons {c : Char} (hc : isPathChar c = false) (after : List Char) :
    shorten (c :: after) = c :: shorten after :=
  shorten_append_cons hc [] after

theorem shorten_append_left {mark : List Char} (h : ∀ c ∈ mark, isPathChar c = false)
    (after : List Char) : shorten (mark ++ after) = mark ++ shorten after := by
  induction mark with
  | nil => rfl
  | cons c mark ih =>
    rw [List.cons_append, shorten_cons (h c List.mem_cons_self),
      ih (fun d hd => h d (List.mem_cons_of_mem c hd)), List.cons_append]

/-- A text is shortened in two parts if the second does not go on with a path. -/
theorem shorten_append {after : List Char} (h : ∀ c ∈ after.head?, isPathChar c = false)
    (before : List Char) : shorten (before ++ after) = shorten before ++ shorten after := by
  cases after with
  | nil => rw [List.append_nil]; exact (List.append_nil _).symm
  | cons c after =>
    have hc : isPathChar c = false := h c rfl
    rw [shorten_append_cons hc, shorten_cons hc]

/-- A text without colons stays as it is. -/
theorem shorten_self {text : List Char} (h : ':' ∉ text) : shorten text = text := by
  suffices hfrom : ∀ run, ':' ∉ run → shortenFrom run text = run.reverse ++ text from
    hfrom [] List.not_mem_nil
  induction text with
  | nil =>
    intro run hrun
    rw [shortenFrom, lastSegment_self (fun hc => hrun (List.mem_reverse.1 hc)), List.append_nil]
  | cons c text ih =>
    intro run hrun
    rw [List.mem_cons, not_or] at h
    rw [shortenFrom]
    split
    · rw [ih h.2 _ (by simp [h.1, hrun]), List.reverse_cons, List.append_assoc]
      rfl
    · rw [ih h.2 _ List.not_mem_nil, lastSegment_self (fun hc => hrun (List.mem_reverse.1 hc))]
      rfl

/-! ## Modules -/

/-- A part of a path: alphanumeric characters and underscores. -/
def isSegment (segment : List Char) : Bool :=
  segment.all fun c => isAlphanumeric c || c == '_'

/-- Modules, each followed by a double colon. -/
def modules (home : List (List Char)) : List Char :=
  home.flatMap fun segment => segment ++ [':', ':']

theorem modules_path {home : List (List Char)} (h : ∀ segment ∈ home, isSegment segment = true) :
    ∀ c ∈ modules home, isPathChar c = true := by
  intro c hc
  obtain ⟨segment, hsegment, hc⟩ := List.mem_flatMap.1 hc
  rcases List.mem_append.1 hc with hc | hc
  · have hin := List.all_eq_true.1 (h segment hsegment) c hc
    rw [isPathChar, hin, Bool.true_or]
  · obtain rfl : c = ':' := by simpa using hc
    rfl

theorem lastSegment_modules {segment : List Char} (h : ':' ∉ segment) (home : List (List Char)) :
    lastSegment (modules home ++ segment) = segment := by
  rcases List.eq_nil_or_concat home with rfl | ⟨home, last, rfl⟩
  · exact lastSegment_self h
  · have := lastSegment_append h (modules home ++ last)
    simpa [modules] using this

/-- Modules in front of a text are lost. -/
theorem shorten_modules {home : List (List Char)} (hhome : ∀ segment ∈ home, isSegment segment = true)
    {text : List Char} (htext : ':' ∉ text) : shorten (modules home ++ text) = text := by
  -- The first run of the text belongs to the modules, and the rest stays as it is.
  have hsplit := List.takeWhile_append_dropWhile (p := isPathChar) (l := text)
  have hrun : ∀ c ∈ modules home ++ text.takeWhile isPathChar, isPathChar c = true := by
    intro c hc
    rcases List.mem_append.1 hc with hc | hc
    · exact modules_path hhome c hc
    · exact List.all_eq_true.1 List.all_takeWhile c hc
  have hrest : ∀ c ∈ (text.dropWhile isPathChar).head?, isPathChar c = false := by
    intro c hc
    have := List.head?_dropWhile_not isPathChar text
    rw [Option.mem_def.1 hc] at this
    simpa using this
  have hfirst : ':' ∉ text.takeWhile isPathChar := fun hc =>
    htext (List.takeWhile_subset _ hc)
  have hlast : ':' ∉ text.dropWhile isPathChar := fun hc =>
    htext (List.dropWhile_subset _ hc)
  conv_lhs => rw [← hsplit]
  rw [← List.append_assoc, shorten_append hrest, shorten_path hrun, lastSegment_modules hfirst,
    shorten_self hlast, hsplit]

/-! ## Qualification -/

/-- The runs of a text: as long as they can be, of path characters only or of others only. -/
def runs (text : List Char) : List (List Char) :=
  text.splitBy fun c d => isPathChar c == isPathChar d

/-- A run of path characters with modules in front of it; other runs have none. -/
def qualifyRun (home : List (List Char)) (run : List Char) : List Char :=
  if run.all isPathChar then modules home ++ run else run

/-- The text with modules in front of its runs of path characters, where `homes` chooses them by
the place of the run. -/
def qualify (homes : Nat → List (List Char)) (text : List Char) : List Char :=
  ((runs text).mapIdx fun place run => qualifyRun (homes place) run).flatten

/-- Characters next to each other that are all of one kind are of the kind of the first. -/
theorem kind_of_isChain {c : Char} {run : List Char}
    (h : (c :: run).IsChain fun d e => (isPathChar d == isPathChar e) = true) :
    ∀ d ∈ c :: run, isPathChar d = isPathChar c := by
  induction run generalizing c with
  | nil => simp
  | cons e run ih =>
    obtain ⟨hce, hrest⟩ := List.isChain_cons_cons.1 h
    intro d hd
    rcases List.mem_cons.1 hd with rfl | hd
    · rfl
    · exact (ih hrest d hd).trans (beq_iff_eq.1 hce).symm

/-- A run that is not empty is of path characters only, or of others only. -/
theorem kind_of_run {text run : List Char} (h : run ∈ runs text) :
    (∀ c ∈ run, isPathChar c = true) ∨ ∀ c ∈ run, isPathChar c = false := by
  have hchain := List.isChain_of_mem_splitBy h
  cases run with
  | nil => exact .inl (by simp)
  | cons c run =>
    have hkind := kind_of_isChain hchain
    cases hc : isPathChar c with
    | true => exact .inl fun d hd => (hkind d hd).trans hc
    | false => exact .inr fun d hd => (hkind d hd).trans hc

theorem qualifyRun_path {run : List Char} (h : ∀ c ∈ run, isPathChar c = true)
    (home : List (List Char)) : qualifyRun home run = modules home ++ run :=
  if_pos (List.all_eq_true.2 h)

theorem qualifyRun_other {run : List Char} (hne : run ≠ []) (h : ∀ c ∈ run, isPathChar c = false)
    (home : List (List Char)) : qualifyRun home run = run := by
  obtain ⟨c, run, rfl⟩ := List.exists_cons_of_ne_nil hne
  refine if_neg fun hall => ?_
  have hc := List.all_eq_true.1 hall c List.mem_cons_self
  rw [h c List.mem_cons_self] at hc
  cases hc

/-- The first run ends with a character of another kind than the one that the second begins with. -/
def Part (run next : List Char) : Prop :=
  ∃ (hr : run ≠ []) (hn : next ≠ []),
    (isPathChar (run.getLast hr) == isPathChar (next.head hn)) = false

/-- What comes behind a run of path characters does not go on with it, qualified or not. -/
theorem head_qualified {pieces : List (List Char)} {run : List Char} (hne : run ≠ [])
    (hrun : ∀ c ∈ run, isPathChar c = true) (hkind : ∀ next ∈ pieces,
      (∀ c ∈ next, isPathChar c = true) ∨ ∀ c ∈ next, isPathChar c = false)
    (hchain : (run :: pieces).IsChain Part)
    (homes : Nat → List (List Char)) :
    ∀ c ∈ (pieces.mapIdx fun place run => qualifyRun (homes place) run).flatten.head?,
      isPathChar c = false := by
  cases pieces with
  | nil => simp
  | cons next pieces =>
    obtain ⟨⟨_, hn, hdiffer⟩, -⟩ := List.isChain_cons_cons.1 hchain
    rw [hrun _ (List.getLast_mem hne)] at hdiffer
    have hhead : isPathChar (next.head hn) = false := by simpa using hdiffer
    have hother : ∀ c ∈ next, isPathChar c = false := by
      rcases hkind next List.mem_cons_self with h | h
      · rw [h _ (List.head_mem hn)] at hhead
        cases hhead
      · exact h
    intro c hc
    rw [List.mapIdx_cons, List.flatten_cons, qualifyRun_other hn hother,
      List.head?_append_of_ne_nil _ hn] at hc
    exact hother c (List.mem_of_mem_head? hc)

/-- Runs of which no two neighbours are of one kind lose the modules in front of them. -/
theorem shorten_qualifyRuns {pieces : List (List Char)} (hne : ∀ run ∈ pieces, run ≠ [])
    (hkind : ∀ run ∈ pieces,
      (∀ c ∈ run, isPathChar c = true) ∨ ∀ c ∈ run, isPathChar c = false)
    (hchain : pieces.IsChain Part)
    (hcolon : ∀ run ∈ pieces, ':' ∉ run) {homes : Nat → List (List Char)}
    (hhomes : ∀ place, ∀ segment ∈ homes place, isSegment segment = true) :
    shorten (pieces.mapIdx fun place run => qualifyRun (homes place) run).flatten =
      pieces.flatten := by
  induction pieces generalizing homes with
  | nil => rfl
  | cons run pieces ih =>
    rw [List.forall_mem_cons] at hne hkind hcolon
    have hrest := ih hne.2 hkind.2 hchain.tail hcolon.2 fun place => hhomes (place + 1)
    rw [List.mapIdx_cons, List.flatten_cons, List.flatten_cons]
    rcases hkind.1 with hrun | hrun
    · rw [shorten_append (head_qualified hne.1 hrun hkind.2 hchain _), hrest,
        qualifyRun_path hrun, shorten_modules (hhomes 0) hcolon.1]
    · rw [qualifyRun_other hne.1 hrun, shorten_append_left hrun, hrest]

/-- Shortening undoes qualification. -/
theorem shorten_qualify {text : List Char} (h : ':' ∉ text) {homes : Nat → List (List Char)}
    (hhomes : ∀ place, ∀ segment ∈ homes place, isSegment segment = true) :
    shorten (qualify homes text) = text := by
  have hruns : (runs text).flatten = text := List.flatten_splitBy _ text
  have hne : ∀ run ∈ runs text, run ≠ [] := fun run hrun => List.ne_nil_of_mem_splitBy hrun
  have hcolon : ∀ run ∈ runs text, ':' ∉ run := fun run hrun hc =>
    h (hruns ▸ List.mem_flatten.2 ⟨run, hrun, hc⟩)
  have hchain : (runs text).IsChain Part :=
    List.isChain_getLast_head_splitBy (fun c d => isPathChar c == isPathChar d) text
  rw [qualify, shorten_qualifyRuns hne (fun run => kind_of_run) hchain hcolon hhomes, hruns]

/-- The first and the third run are names, with modules of their own. -/
example : String.ofList (qualify
    (fun place => if place = 0 then ["alloc".toList, "vec".toList] else ["billing".toList])
    "Vec<User>".toList) = "alloc::vec::Vec<billing::User>" := by
  decide +kernel

end Storytest.Text
