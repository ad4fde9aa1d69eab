/-
Texts and the cuts made in them.

A `Text` is a list of code points, so every index and every length counts code
points.  The functions here trim a text, split it into words and join parts
again:

* `Text.trimStart`, `Text.trimEnd`, `Text.trim` — drop blanks at the ends;
* `Text.words`, `Text.collapse` — the maximal runs without blanks, and the
  text in which each run of blanks has become one space;
* `Text.splitFirst` — the parts before and after the first occurrence of a
  separator.

The words of a text are the words before and after any of its blanks
(`Text.words_append_blank`), and none of them is empty.
-/
import DocTree.Text.Blank

namespace DocTree

/-- A text is a list of code points. -/
abbrev Text := List Char

namespace Text

/-! ### Trimming -/

/-- Drops the longest run of characters satisfying `p` at the end of a text. -/
def dropEndWhile (p : Char → Bool) : Text → Text
  | [] => []
  | c :: rest =>
    match dropEndWhile p rest with
    | [] => if p c then [] else [c]
    | kept => c :: kept

/-- The text without its leading blanks. -/
def trimStart (t : Text) : Text := t.dropWhile isBlank

/-- The text without its trailing blanks. -/
def trimEnd (t : Text) : Text := dropEndWhile isBlank t

/-- The text without the blanks at both ends. -/
def trim (t : Text) : Text := trimEnd (trimStart t)

/-- The blanks in front of the text. -/
def indent (t : Text) : Text := t.takeWhile isBlank

theorem indent_append_trimStart (t : Text) : indent t ++ trimStart t = t :=
  List.takeWhile_append_dropWhile

theorem length_trimStart_le (t : Text) : (trimStart t).length ≤ t.length := by
  have := congrArg List.length (indent_append_trimStart t)
  rw [List.length_append] at this
  omega

theorem dropEndWhile_eq_nil_iff {p : Char → Bool} {t : Text} :
    dropEndWhile p t = [] ↔ t.all p = true := by
  induction t with
  | nil => simp [dropEndWhile]
  | cons c rest ih =>
    cases h : dropEndWhile p rest with
    | nil =>
      have hall := ih.mp h
      by_cases hc : p c = true
      · simpa [dropEndWhile, h, hc] using hall
      · simp [dropEndWhile, h, hc]
    | cons d kept =>
      have hnot : ¬ rest.all p = true := fun hall => by simp [ih.mpr hall] at h
      constructor
      · intro hnil
        simp [dropEndWhile, h] at hnil
      · intro hall
        rw [List.all_cons, Bool.and_eq_true] at hall
        exact absurd hall.2 hnot

/-- Whatever is dropped at the end satisfies the predicate. -/
theorem exists_dropEndWhile_append (p : Char → Bool) (t : Text) :
    ∃ s, dropEndWhile p t ++ s = t ∧ s.all p = true := by
  induction t with
  | nil => exact ⟨[], rfl, rfl⟩
  | cons c rest ih =>
    obtain ⟨s, hs, hall⟩ := ih
    cases h : dropEndWhile p rest with
    | nil =>
      rw [h, List.nil_append] at hs
      subst hs
      by_cases hc : p c = true
      · exact ⟨c :: s, by simp [dropEndWhile, h, hc], by rw [List.all_cons, hc, hall]; rfl⟩
      · exact ⟨s, by simp [dropEndWhile, h, hc], hall⟩
    | cons d kept =>
      rw [h] at hs
      exact ⟨s, by rw [dropEndWhile, h]; exact congrArg (c :: ·) hs, hall⟩

/-! ### Splitting and joining -/

/-- The maximal runs of characters that are not blank. -/
def words (t : Text) : List Text := (t.splitOnP isBlank).filter (fun w => !w.isEmpty)

/-- Words are told apart by a blank. -/
theorem words_append_blank {c : Char} (hc : isBlank c = true) (s t : Text) :
    words (s ++ c :: t) = words s ++ words t := by
  rw [words, words, words, List.splitOnP_append_cons s t hc, List.filter_append]

/-- No word is empty. -/
theorem ne_nil_of_mem_words {t w : Text} (h : w ∈ words t) : w ≠ [] := by
  have := (List.mem_filter.mp h).2
  simpa using this

/-- The parts joined by a separator. -/
def join (separator : Text) (parts : List Text) : Text := List.intercalate separator parts

/-- The text with every run of blanks turned into one space and none left at
the ends. -/
def collapse (t : Text) : Text := join [' '] t.words

/-- The parts before and after the first occurrence of `separator`, if there
is one. -/
def splitFirst (separator : Text) : Text → Option (Text × Text)
  | [] => (separator.isPrefixOf? []).map ([], ·)
  | c :: rest =>
    match separator.isPrefixOf? (c :: rest) with
    | some after => some ([], after)
    | none => (splitFirst separator rest).map fun (before, after) => (c :: before, after)

/-- Whether `piece` occurs in the text. -/
def has (t piece : Text) : Bool := (splitFirst piece t).isSome

/-- The decimal numeral of an integer. -/
def ofInt : Int → Text
  | .ofNat n => Nat.toDigits 10 n
  | .negSucc n => '-' :: Nat.toDigits 10 (n + 1)

/-- Whether an optional text is missing or empty. -/
def isNoText : Option Text → Bool
  | none => true
  | some t => t.isEmpty

end Text

end DocTree
