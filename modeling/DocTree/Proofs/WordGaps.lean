/-
The gaps between the words of a declaration.

The words are told apart by those blanks that stand neither in an operator token nor inside of
angle brackets.  Where these are can be told of each index by itself:

* `depthAt`, `Separates` — the running depth of angle brackets, and the blanks that separate;
* `markGaps_eq_markSeparators` — the scan for the words marks just these;
* `LaidOut` — words in a text, with gaps between them;
* `LaidOut.not_isBlank_head` — no such word begins with a blank;
* `declaredWords_eq_iff` — the words of a declaration are the one list of words laid out in it.
-/
import DocTree.Proofs.DeclaredWords
import DocTree.Proofs.OperatorTokens

namespace DocTree

open Operator (InToken tokenEnd)

variable {p : Nat → Char → Prop} {c : Char} {t w x y rest : Text} {k n : Nat} {ws : List Text}

/-! ### Separating blanks -/

/-- The running depth of angle brackets in front of the index `k`, where the brackets of operator
tokens do not count. -/
def depthAt (t : Text) : Nat → Int
  | 0 => 0
  | k + 1 => depthAt t k + if InToken t k then 0 else (t[k]?.map angleStep).getD 0

/-- The character `c` at the index `k` is a blank that separates words. -/
def Separates (t : Text) (k : Nat) (c : Char) : Prop :=
  isBlank c = true ∧ ¬ InToken t k ∧ depthAt t k ≤ 0

instance (t : Text) (k : Nat) (c : Char) : Decidable (Separates t k c) :=
  inferInstanceAs (Decidable (_ ∧ _ ∧ _))

/-- The text from the index `n` of `t` on, with the separating blanks marked. -/
def markSeparators (t : Text) (n : Nat) (w : Text) : List Marked :=
  w.mapIdx fun k c => (c, decide (Separates t (n + k) c))

theorem markSeparators_cons :
    markSeparators t n (c :: w) = (c, decide (Separates t n c)) :: markSeparators t (n + 1) w := by
  simp only [markSeparators, List.mapIdx_cons, Nat.add_zero, Nat.add_assoc, Nat.add_comm 1]

theorem depthAt_append_cons (x y : Text) (c : Char) :
    depthAt (x ++ c :: y) (x.length + 1) =
      depthAt (x ++ c :: y) x.length +
        if InToken (x ++ c :: y) x.length then 0 else angleStep c := by
  simp [depthAt]

/-- The scan for the words marks the blanks that separate them. -/
theorem markGaps_eq_markSeparators :
    markGaps (depthAt (x ++ y) x.length)
        (y.mapIdx fun k c => (c, decide (InToken (x ++ y) (x.length + k)))) =
      markSeparators (x ++ y) x.length y := by
  induction y generalizing x with
  | nil => rfl
  | cons c y ih =>
    have hnext := ih (x := x ++ [c])
    simp only [List.append_assoc, List.singleton_append, List.length_append, List.length_singleton,
      Nat.add_assoc, Nat.add_comm 1, depthAt_append_cons] at hnext
    rw [List.mapIdx_cons, Nat.add_zero, markSeparators_cons]
    by_cases htoken : InToken (x ++ c :: y) x.length
    · have hnot : ¬ Separates (x ++ c :: y) x.length c := fun h => h.2.1 htoken
      rw [if_pos htoken, Int.add_zero] at hnext
      rw [decide_eq_true htoken, decide_eq_false hnot, markGaps, hnext]
    · rw [if_neg htoken] at hnext
      rw [decide_eq_false htoken, markGaps, hnext]
      by_cases hgap : depthAt (x ++ c :: y) x.length ≤ 0 ∧ isBlank c = true
      · rw [angleStep_of_isBlank hgap.2, Int.add_zero] at hnext
        rw [if_pos hgap, hnext, decide_eq_true ⟨hgap.2, htoken, hgap.1⟩]
      · rw [if_neg hgap, decide_eq_false fun h => hgap ⟨h.2.2, h.1⟩]

/-- The words are what is left between the blanks that separate them. -/
theorem declaredWords_eq_gather_markSeparators (t : Text) :
    declaredWords t = gather (markSeparators t 0 t) := by
  have hgaps := markGaps_eq_markSeparators (x := []) (y := t)
  simp only [List.nil_append, List.length_nil, Nat.zero_add] at hgaps
  rw [declaredWords_eq_gather, Operator.markTokens_eq_mapIdx]
  exact congrArg gather hgaps

/-! ### Words in a text -/

/-- The text `w` stands in another one from the index `n` on, and each of its characters satisfies
`p`, together with its index there. -/
def EachAt (p : Nat → Char → Prop) (n : Nat) (w : Text) : Prop :=
  ∀ k c, w[k]? = some c → p (n + k) c

theorem eachAt_nil : EachAt p n [] := by simp [EachAt]

theorem eachAt_cons : EachAt p n (c :: w) ↔ p n c ∧ EachAt p (n + 1) w := by
  have hshift : ∀ k, n + (k + 1) = n + 1 + k := fun k => by omega
  constructor
  · intro h
    exact ⟨h 0 c rfl, fun k e hk => hshift k ▸ h (k + 1) e hk⟩
  · rintro ⟨hc, hw⟩ k e hk
    cases k with
    | zero =>
      obtain rfl := Option.some.inj hk
      exact hc
    | succ k => exact hshift k ▸ hw k e hk

/-- The words `ws`, each with a gap behind it, make up a text that stands in `t` from the index `n`
on: no word is empty, a blank in a word belongs to an operator token or stands inside of angle
brackets, a gap consists of blanks that separate words, and only the last gap may be empty. -/
inductive LaidOut (t : Text) : Nat → List Text → Text → Prop
  | nil {n : Nat} : LaidOut t n [] []
  | cons {n : Nat} {w g rest : Text} {ws : List Text} (hw : w ≠ [])
      (inside : EachAt (fun k c => isBlank c = true → InToken t k ∨ 0 < depthAt t k) n w)
      (gap : EachAt (Separates t) (n + w.length) g) (hg : ws ≠ [] → g ≠ [])
      (h : LaidOut t (n + w.length + g.length) ws rest) : LaidOut t n (w :: ws) (w ++ (g ++ rest))

theorem not_separates_iff :
    ¬ Separates t k c ↔ (isBlank c = true → InToken t k ∨ 0 < depthAt t k) := by
  unfold Separates
  rw [← Int.not_le]
  tauto

/-- Every text is words and gaps, behind blanks that separate. -/
theorem exists_laidOut (t : Text) (n : Nat) (y : Text) :
    ∃ lead rest ws, y = lead ++ rest ∧ EachAt (Separates t) n lead ∧
      LaidOut t (n + lead.length) ws rest := by
  induction y generalizing n with
  | nil => exact ⟨[], [], [], rfl, eachAt_nil, .nil⟩
  | cons c y ih =>
    obtain ⟨lead, rest, ws, rfl, hlead, hrest⟩ := ih (n + 1)
    by_cases hc : Separates t n c
    · refine ⟨c :: lead, rest, ws, rfl, eachAt_cons.mpr ⟨hc, hlead⟩, ?_⟩
      rwa [List.length_cons, Nat.add_comm lead.length, ← Nat.add_assoc]
    · have hinside := not_separates_iff.mp hc
      refine ⟨[], c :: (lead ++ rest), ?_⟩
      cases lead with
      | cons d lead =>
        -- the character is a word by itself
        have hword := LaidOut.cons (w := [c]) (by simp) (eachAt_cons.mpr ⟨hinside, eachAt_nil⟩)
          hlead (fun _ => by simp) hrest
        exact ⟨_, rfl, eachAt_nil, hword⟩
      | nil =>
        cases hrest with
        | nil =>
          have hword := LaidOut.cons (t := t) (n := n) (w := [c]) (by simp)
            (eachAt_cons.mpr ⟨hinside, eachAt_nil⟩) eachAt_nil (fun h => absurd rfl h) .nil
          exact ⟨_, rfl, eachAt_nil, hword⟩
        | @cons _ w g rest ws hw inside gap hg h =>
          -- it begins the word behind it
          have hshift : n + 1 + w.length = n + (c :: w).length := by
            rw [List.length_cons, Nat.add_assoc, Nat.add_comm 1]
          simp only [List.length_nil, Nat.add_zero, hshift] at inside gap h
          exact ⟨_, rfl, eachAt_nil,
            .cons (by simp) (eachAt_cons.mpr ⟨hinside, inside⟩) gap hg h⟩

theorem markSeparators_append :
    markSeparators t n (x ++ y) = markSeparators t n x ++ markSeparators t (n + x.length) y := by
  simp only [markSeparators, List.mapIdx_append, Nat.add_assoc, Nat.add_comm x.length]

theorem markSeparators_gap (h : EachAt (Separates t) n w) :
    markSeparators t n w = w.map (·, true) := by
  induction w generalizing n with
  | nil => rfl
  | cons c w ih =>
    obtain ⟨hc, hw⟩ := eachAt_cons.mp h
    rw [markSeparators_cons, decide_eq_true hc, ih hw, List.map_cons]

theorem markSeparators_word
    (h : EachAt (fun k c => isBlank c = true → InToken t k ∨ 0 < depthAt t k) n w) :
    markSeparators t n w = w.map (·, false) := by
  induction w generalizing n with
  | nil => rfl
  | cons c w ih =>
    obtain ⟨hc, hw⟩ := eachAt_cons.mp h
    rw [markSeparators_cons, decide_eq_false (not_separates_iff.mpr hc), ih hw, List.map_cons]

/-- The words that are laid out in a text are those between the marks. -/
theorem LaidOut.gather_eq (h : LaidOut t n ws rest) : gather (markSeparators t n rest) = ws := by
  induction h with
  | nil => rfl
  | @cons n w g rest ws hw inside gap hg h ih =>
    rw [markSeparators_append, markSeparators_append, markSeparators_word inside,
      markSeparators_gap gap]
    cases g with
    | cons c g =>
      rw [List.map_cons, List.cons_append, gather_append_word hw, gather_append_gap, ih]
    | nil =>
      -- the last gap is empty
      obtain rfl : ws = [] := by_contra fun hne => hg hne rfl
      cases h
      rw [List.map_nil, List.nil_append]
      exact (congrArg gather (List.append_nil _)).trans (gather_word hw)

theorem gather_markSeparators_iff :
    gather (markSeparators t n y) = ws ↔
      ∃ lead rest, y = lead ++ rest ∧ EachAt (Separates t) n lead ∧
        LaidOut t (n + lead.length) ws rest := by
  have hgather : ∀ {lead rest ws}, EachAt (Separates t) n lead →
      LaidOut t (n + lead.length) ws rest →
        gather (markSeparators t n (lead ++ rest)) = ws := by
    intro lead rest ws hlead h
    rw [markSeparators_append, markSeparators_gap hlead, gather_append_gap, h.gather_eq]
  constructor
  · rintro rfl
    obtain ⟨lead, rest, ws, rfl, hlead, h⟩ := exists_laidOut t n y
    exact ⟨lead, rest, rfl, hlead, (hgather hlead h).symm ▸ h⟩
  · rintro ⟨lead, rest, rfl, hlead, h⟩
    exact hgather hlead h

/-! ### The beginning of a word -/

/-- At the index `n` no angle bracket is open, and no operator token goes across it. -/
def Outside (t : Text) (n : Nat) : Prop := depthAt t n ≤ 0 ∧ Operator.LeftAt t n 0

theorem outside_zero (t : Text) : Outside t 0 := ⟨Int.le_refl 0, Operator.leftAt_zero t⟩

/-- So it is behind a blank that separates words. -/
theorem outside_of_separates (hk : t[k]? = some c) (hc : Separates t k c) : Outside t (k + 1) := by
  obtain ⟨hblank, htoken, hdepth⟩ := hc
  refine ⟨?_, fun i hi => ?_, fun hzero => absurd rfl hzero⟩
  · rw [depthAt, if_neg htoken, hk, Option.map_some, Option.getD_some, angleStep_of_isBlank hblank]
    omega
  · by_contra hlt
    exact htoken ⟨i, by omega, by omega⟩

theorem outside_of_gap {g : Text} (hg : EachAt (Separates t) n g) (hpre : g <+: t.drop n)
    (hnil : g = [] → Outside t n) : Outside t (n + g.length) := by
  rcases List.eq_nil_or_concat' g with rfl | ⟨g, c, rfl⟩
  · exact hnil rfl
  · -- the last blank is the one that matters
    have hlast : (g ++ [c])[g.length]? = some c := List.getElem?_concat_length ..
    have hchar : t[n + g.length]? = some c := by
      obtain ⟨rest, hrest⟩ := hpre
      rw [← List.getElem?_drop, ← hrest, List.getElem?_append_left (by simp), hlast]
    have hout := outside_of_separates hchar (hg _ _ hlast)
    rwa [List.length_append, List.length_singleton, ← Nat.add_assoc]

/-- There no word begins with a blank. -/
theorem Outside.not_isBlank (h : Outside t n) (hn : t[n]? = some c)
    (hc : isBlank c = true → InToken t n ∨ 0 < depthAt t n) : isBlank c = false := by
  by_contra hblank
  rcases hc (by simpa using hblank) with ⟨i, hi, hlt⟩ | hpos
  · rcases Nat.lt_or_eq_of_le hi with hi | rfl
    · exact absurd (h.2.reach i hi) (Nat.not_le_of_lt hlt)
    · -- a token begins with the keyword
      rw [(Operator.lt_tokenEnd_iff.mp hlt).getElem?_eq] at hn
      obtain rfl := Option.some.inj hn
      exact hblank (by decide)
  · exact absurd h.1 (Int.not_le.mpr hpos)

theorem LaidOut.not_isBlank_head (h : LaidOut t n ws rest) (hrest : t.drop n = rest)
    (hout : Outside t n) : ∀ w ∈ ws, ∃ c u, w = c :: u ∧ isBlank c = false := by
  induction h with
  | nil => simp
  | @cons n w g rest ws hw inside gap hg h ih =>
    rw [List.forall_mem_cons]
    constructor
    · obtain ⟨c, u, rfl⟩ := List.exists_cons_of_ne_nil hw
      have hn : t[n]? = some c := by
        rw [← Nat.add_zero n, ← List.getElem?_drop, hrest]
        rfl
      exact ⟨c, u, rfl, hout.not_isBlank hn (inside 0 c rfl)⟩
    · intro v hv
      have hgap : t.drop (n + w.length) = g ++ rest := by
        rw [← List.drop_drop, hrest, List.drop_left]
      refine ih ?_ (outside_of_gap gap (hgap ▸ List.prefix_append g rest) ?_) v hv
      · rw [← List.drop_drop, hgap, List.drop_left]
      · exact fun hnil => absurd hnil (hg (List.ne_nil_of_mem hv))

/-- **The words of a declaration are a partition of its text.**  They are the one list of words
that are laid out in the text, between blanks: no word is empty or begins with a blank, a blank
inside of a word belongs to an operator token or stands where angle brackets are open, and all that
is left are blanks that do neither, at least one between two words.  In a text without angle
brackets and without the keyword `operator` they are the words between its blanks. -/
theorem declaredWords_eq_iff (t : Text) :
    (∀ ws, declaredWords t = ws ↔
        (∀ w ∈ ws, ∃ c u, w = c :: u ∧ isBlank c = false) ∧
          ∃ lead rest, t = lead ++ rest ∧ EachAt (Separates t) 0 lead ∧
            LaidOut t lead.length ws rest) ∧
      ('<' ∉ t → '>' ∉ t → (∀ i, ¬ Operator.IsWordAt t i) → declaredWords t = t.words) := by
  constructor
  · intro ws
    rw [declaredWords_eq_gather_markSeparators, gather_markSeparators_iff]
    simp only [Nat.zero_add]
    refine ⟨fun h => ⟨?_, h⟩, And.right⟩
    obtain ⟨lead, rest, rfl, hlead, h⟩ := h
    have hout := outside_of_gap hlead (List.prefix_append lead rest) fun _ => outside_zero _
    rw [Nat.zero_add] at hout
    exact h.not_isBlank_head List.drop_left hout
  · intro hopen hclose hkeyword
    exact declaredWords_eq_words ⟨Operator.find?_eq_none_iff.mpr hkeyword, hopen, hclose⟩

theorem declaredWords_eq_iff_staticMember :
    ('<' ∉ "\tstatic  int x ".toList ∧ '>' ∉ "\tstatic  int x ".toList ∧
        ∀ i, ¬ Operator.IsWordAt "\tstatic  int x ".toList i) ∧
      declaredWords "\tstatic  int x ".toList =
        ["static".toList, "int".toList, "x".toList] := by
  have hopen : '<' ∉ "\tstatic  int x ".toList := by decide
  have hclose : '>' ∉ "\tstatic  int x ".toList := by decide
  have hkeyword : ∀ i, ¬ Operator.IsWordAt "\tstatic  int x ".toList i :=
    Operator.find?_eq_none_iff.mp (by decide)
  exact ⟨⟨hopen, hclose, hkeyword⟩,
    ((declaredWords_eq_iff _).2 hopen hclose hkeyword).trans (by decide)⟩

/-- Brackets of an operator do not count, and a bracket that is closed too often keeps no words
together. -/
example :
    declaredWords "operator < f<a b> >c d".toList =
      ["operator <".toList, "f<a b>".toList, ">c".toList, "d".toList] := by
  decide

end DocTree
