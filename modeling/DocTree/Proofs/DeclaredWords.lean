/-
The words of a declaration in their place.

Three scans read the words in front of a parameter list: one finds operator tokens, one cuts at a
character outside angle brackets, and one tells the words apart.  Each counts the brackets in its
own way, and on words that close their brackets they agree:

* `Encloses` — a text with closed angle brackets, and certain characters only inside them;
* `StandsIn` — a word that is read as plain text with a token behind it, which the scans take as
  a whole (`StandsIn.splitAtTop_append`, `StandsIn.declaredWords_append`);
* `IsPlainWord`, `IsOperatorScope`, `IsSymbol` — plain words, and the parts of an operator;
* `Spaced` — words with blanks between them, and `Spaced.declaredWords_eq`,
  `Spaced.splitAtTop_append` — they are told apart, and a search passes over them.
-/
import DocTree.Proofs.FunctionText
import DocTree.Proofs.TemplateMembers

namespace DocTree

variable {p : Char → Bool} {c : Char} {d : Int} {n : Nat} {q s t u v w x y rest : Text}

/-! ### Enclosed characters -/

/-- At the running depth `d`, the text closes its angle brackets, and those of its characters that
satisfy `p` stand inside angle brackets. -/
structure Encloses (p : Char → Bool) (d : Int) (w : Text) : Prop where
  closed : d + Scope.angleDepth w = 0
  nonneg : ∀ x, x <+: w → 0 ≤ d + Scope.angleDepth x
  outside : ∀ x c y, w = x ++ c :: y → d + Scope.angleDepth x = 0 → p c = false

theorem encloses_nil : Encloses p d [] ↔ d = 0 := by
  constructor
  · intro h
    simpa [Scope.angleDepth] using h.closed
  · rintro rfl
    exact ⟨rfl, by simp [Scope.angleDepth], by simp⟩

theorem encloses_cons : Encloses p d (c :: w) ↔
    0 ≤ d ∧ (d = 0 → p c = false) ∧ Encloses p (d + angleStep c) w := by
  have hdepth : ∀ x, d + Scope.angleDepth (c :: x) = d + angleStep c + Scope.angleDepth x :=
    fun x => by rw [Scope.angleDepth_cons, Int.add_assoc]
  have hempty : d + Scope.angleDepth [] = d := by simp [Scope.angleDepth]
  constructor
  · intro h
    refine ⟨?_, fun hd => h.outside [] c w rfl (hempty.trans hd), ?_, fun x hx => ?_, ?_⟩
    · simpa [hempty] using h.nonneg [] (by simp)
    · rw [← hdepth]
      exact h.closed
    · rw [← hdepth]
      exact h.nonneg _ (List.cons_prefix_cons.mpr ⟨rfl, hx⟩)
    · rintro x e y rfl hx
      exact h.outside (c :: x) e y rfl ((hdepth x).trans hx)
  · rintro ⟨hd, hc, h⟩
    refine ⟨(hdepth w).trans h.closed, fun x hx => ?_, fun x e y heq hx => ?_⟩
    · rcases List.prefix_cons_iff.mp hx with rfl | ⟨x, rfl, hx'⟩
      · rwa [hempty]
      · rw [hdepth]
        exact h.nonneg x hx'
    · cases x with
      | nil =>
        obtain ⟨rfl, rfl⟩ := List.cons.inj heq
        exact hc (hempty.symm.trans hx)
      | cons a x =>
        obtain ⟨rfl, rfl⟩ := List.cons.inj heq
        exact h.outside x e y rfl ((hdepth x).symm.trans hx)

instance decidableEncloses (p : Char → Bool) : (d : Int) → (w : Text) → Decidable (Encloses p d w)
  | _, [] => decidable_of_iff _ encloses_nil.symm
  | d, c :: w =>
    have := decidableEncloses p (d + angleStep c) w
    decidable_of_iff _ encloses_cons.symm

theorem Encloses.mono {p' : Char → Bool} (h : Encloses p d w) (hp : ∀ c, p' c = true → p c = true) :
    Encloses p' d w where
  closed := h.closed
  nonneg := h.nonneg
  outside := fun x c y heq hx => Bool.eq_false_iff.mpr fun hc =>
    absurd (hp c hc) (by simp [h.outside x c y heq hx])

/-- A character outside angle brackets that satisfies `p` comes behind the text. -/
theorem Encloses.isPrefix (h : Encloses p 0 w) (hc : p c = true) (hx : Scope.angleDepth x = 0)
    (heq : w ++ rest = x ++ c :: y) : w <+: x := by
  rcases List.append_eq_append_iff.mp heq with ⟨x', rfl, -⟩ | ⟨w', rfl, hw'⟩
  · exact List.prefix_append _ _
  · cases w' with
    | nil => simp
    | cons e w' =>
      obtain ⟨rfl, -⟩ := List.cons.inj hw'
      exact absurd hc (by simp [h.outside x c w' rfl (by simpa using hx)])

theorem angleStep_of_isBlank (hc : isBlank c = true) : angleStep c = 0 := by
  have hbracket : c ≠ '<' ∧ c ≠ '>' := by
    constructor <;> rintro rfl <;> exact absurd hc (by decide)
  unfold angleStep
  rw [if_neg (by simp [hbracket.1]), if_neg (by simp [hbracket.2])]

/-- Blanks are neither brackets nor anything else that is searched for. -/
theorem encloses_of_isBlank {target : Char} {g : Text} (hg : ∀ c ∈ g, isBlank c = true)
    (htarget : isBlank target = false) : Encloses (· == target) 0 g := by
  induction g with
  | nil => exact encloses_nil.mpr rfl
  | cons c g ih =>
    have hc := hg c (by simp)
    refine encloses_cons.mpr ⟨Int.le_refl 0, fun _ => ?_, ?_⟩
    · rw [beq_eq_false_iff_ne]
      rintro rfl
      exact absurd hc (by simp [htarget])
    · rw [angleStep_of_isBlank hc]
      exact ih fun e he => hg e (by simp [he])

/-! ### Marking the words -/

namespace Operator

theorem keyword_ne_nil : keyword ≠ [] := by decide

/-- Blanks are no part of a token. -/
theorem markTokens_append_blank {g : Text} (hg : ∀ c ∈ g, isBlank c = true) :
    markTokens tokenLength (g ++ t) = g.map (·, false) ++ markTokens tokenLength t := by
  induction g with
  | nil => rfl
  | cons c g ih =>
    rw [List.cons_append, markTokens_cons (isWordChar_of_isBlank (hg c (by simp))),
      ih fun e he => hg e (by simp [he])]
    rfl

/-- The keyword and its symbol are one token. -/
theorem markTokens_keyword (hsymbol : symbolLength (s ++ rest) = s.length)
    (hs : (s ++ rest).head?.any isWordChar = false) (hrest : rest.head?.any isWordChar = false) :
    markTokens tokenLength (keyword ++ (s ++ rest)) =
      (keyword ++ s).map (·, true) ++ markTokens tokenLength rest := by
  have hstands : standsAt none (keyword ++ (s ++ rest)) = true :=
    standsAt_eq_true.mpr ⟨s ++ rest, rfl, rfl, hs⟩
  have hlen : tokenLength none (keyword ++ s ++ rest) = (keyword ++ s).length := by
    rw [List.append_assoc, tokenLength, if_pos hstands, List.drop_left, hsymbol, List.length_append]
  have hne : keyword ++ s ≠ [] := List.append_ne_nil_of_left_ne_nil keyword_ne_nil s
  rw [← List.append_assoc, markTokens, Scope.markTokensFrom_of_eq_length hne hlen,
    markTokensFrom_eq_markTokens (.inr hrest)]

end Operator

/-! ### The scans over marked text -/

theorem splitAtTopFrom_append_token (target : Char) (n : Nat) (u : Text) (m : List Marked) :
    splitAtTopFrom target n (u.map (·, true) ++ m) =
      (splitAtTopFrom target n m).map fun cut => (u ++ cut.1, cut.2) := by
  induction u with
  | nil => cases h : splitAtTopFrom target n m <;> simp [h]
  | cons c u ih =>
    rw [List.map_cons, List.cons_append, splitAtTopFrom, ih, Option.map_map]
    rfl

/-- The search for a character passes over a text that encloses it. -/
theorem splitAtTopFrom_append_text {target : Char} (h : Encloses (· == target) n w)
    (m : List Marked) :
    splitAtTopFrom target n (w.map (·, false) ++ m) =
      (splitAtTopFrom target 0 m).map fun cut => (w ++ cut.1, cut.2) := by
  induction w generalizing n with
  | nil =>
    obtain rfl : n = 0 := by exact_mod_cast encloses_nil.mp h
    cases h : splitAtTopFrom target 0 m <;> simp [h]
  | cons c w ih =>
    obtain ⟨-, hc, hw⟩ := encloses_cons.mp h
    have hmiss : ¬ (c == target && n == 0) = true := by
      intro htrue
      simp only [Bool.and_eq_true, beq_iff_eq] at htrue
      simp [htrue.1, htrue.2] at hc
    -- the brackets close, so the depth stays a natural number
    have hstep : ((if c == '<' then n + 1 else if c == '>' then n - 1 else n : Nat) : Int) =
        n + angleStep c := by
      have hpos : 0 ≤ (n : Int) + angleStep c := by
        simpa [Scope.angleDepth] using hw.nonneg [] (by simp)
      unfold angleStep at hpos ⊢
      split
      · simp
      · split <;> rename_i hopen hclose
        · simp [hopen, hclose] at hpos
          omega
        · simp
    rw [← hstep] at hw
    rw [List.map_cons, List.cons_append, splitAtTopFrom, if_neg hmiss]
    simp only [ih hw, Option.map_map]
    rfl

theorem markGaps_append_token (d : Int) (u : Text) (m : List Marked) :
    markGaps d (u.map (·, true) ++ m) = u.map (·, false) ++ markGaps d m := by
  induction u with
  | nil => rfl
  | cons c u ih => simp [markGaps, ih]

/-- A text that encloses its blanks holds no gap. -/
theorem markGaps_append_text (h : Encloses isBlank d w) (m : List Marked) :
    markGaps d (w.map (·, false) ++ m) = w.map (·, false) ++ markGaps 0 m := by
  induction w generalizing d with
  | nil =>
    obtain rfl := encloses_nil.mp h
    rfl
  | cons c w ih =>
    obtain ⟨hd, hc, hw⟩ := encloses_cons.mp h
    have hmiss : ¬ (d ≤ 0 ∧ isBlank c = true) := by
      rintro ⟨hle, hblank⟩
      simp [hc (Int.le_antisymm hle hd)] at hblank
    rw [List.map_cons, List.cons_append, markGaps, if_neg hmiss, ih hw]
    rfl

theorem markGaps_append_blank {g : Text} (hg : ∀ c ∈ g, isBlank c = true) (m : List Marked) :
    markGaps 0 (g.map (·, false) ++ m) = g.map (·, true) ++ markGaps 0 m := by
  induction g with
  | nil => rfl
  | cons c g ih =>
    rw [List.map_cons, List.cons_append, markGaps, if_pos ⟨Int.le_refl 0, hg c (by simp)⟩,
      ih fun e he => hg e (by simp [he])]
    rfl

/-- The words of a marked text. -/
def gather (m : List Marked) : List Text :=
  ((m.splitOnP Prod.snd).filter fun w => !w.isEmpty).map unmark

theorem declaredWords_eq_gather (t : Text) :
    declaredWords t = gather (markGaps 0 (markTokens Operator.tokenLength t)) := rfl

theorem gather_append_gap (g : Text) (m : List Marked) :
    gather (g.map (·, true) ++ m) = gather m := by
  induction g with
  | nil => rfl
  | cons c g ih =>
    rw [List.map_cons, List.cons_append, gather, List.splitOnP_cons_eq_if_modifyHead]
    exact ih

theorem unmark_map (w : Text) (b : Bool) : unmark (w.map (·, b)) = w := by
  simp [unmark, Function.comp_def]

theorem gather_word (hw : w ≠ []) : gather (w.map (·, false)) = [w] := by
  rw [gather, List.splitOnP_eq_singleton (by simp), List.filter_cons_of_pos (by simpa using hw)]
  simp [unmark_map]

theorem gather_append_word (hw : w ≠ []) (c : Char) (m : List Marked) :
    gather (w.map (·, false) ++ (c, true) :: m) = w :: gather m := by
  rw [gather, List.splitOnP_append_cons_of_forall_mem (by simp) _ rfl,
    List.filter_cons_of_pos (by simpa using hw), List.map_cons, unmark_map]
  rfl

/-! ### Words in their place -/

/-- The characters that end a word outside angle brackets. -/
def endsWord (c : Char) : Bool := isBlank c || c == '(' || c == '='

/-- In front of `rest`, the word is read as plain text with a token behind it. -/
structure StandsIn (w rest : Text) : Prop where
  ne_nil : w ≠ []
  marks : ∃ front token, w = front ++ token ∧ Encloses endsWord 0 front ∧
    (token = [] ∨ Operator.keyword <+: token) ∧
    markTokens Operator.tokenLength (w ++ rest) =
      front.map (·, false) ++ (token.map (·, true) ++ markTokens Operator.tokenLength rest)

namespace StandsIn

/-- The search for a round bracket or `=` passes over the word. -/
theorem splitAtTop_append {target : Char} (h : StandsIn w rest) (ht : target = '(' ∨ target = '=') :
    splitAtTop target (w ++ rest) =
      (splitAtTop target rest).map fun cut => (w ++ cut.1, cut.2) := by
  obtain ⟨-, front, token, rfl, hfront, -, hmarks⟩ := h
  have hmono : Encloses (· == target) (0 : Nat) front := hfront.mono fun c hc => by
    obtain rfl := beq_iff_eq.mp hc
    rcases ht with rfl | rfl <;> decide
  rw [splitAtTop, hmarks, splitAtTopFrom_append_text hmono, splitAtTopFrom_append_token,
    Option.map_map, splitAtTop]
  simp [Function.comp_def]

theorem markGaps_eq (h : StandsIn w rest) :
    markGaps 0 (markTokens Operator.tokenLength (w ++ rest)) =
      w.map (·, false) ++ markGaps 0 (markTokens Operator.tokenLength rest) := by
  obtain ⟨-, front, token, rfl, hfront, -, hmarks⟩ := h
  have hmono : Encloses isBlank 0 front := hfront.mono fun c hc => by simp [endsWord, hc]
  rw [hmarks, markGaps_append_text hmono, markGaps_append_token, List.map_append,
    List.append_assoc]

/-- The word is cut off at the blanks behind it. -/
theorem declaredWords_append {g : Text} (h : StandsIn w (g ++ rest))
    (hg : ∀ c ∈ g, isBlank c = true) (hne : g ≠ []) :
    declaredWords (w ++ (g ++ rest)) = w :: declaredWords rest := by
  rw [declaredWords_eq_gather, h.markGaps_eq, Operator.markTokens_append_blank hg,
    markGaps_append_blank hg]
  obtain ⟨c, g, rfl⟩ := List.exists_cons_of_ne_nil hne
  rw [List.map_cons, List.cons_append, gather_append_word h.ne_nil, gather_append_gap,
    declaredWords_eq_gather]

theorem declaredWords_end {g : Text} (h : StandsIn w g) (hg : ∀ c ∈ g, isBlank c = true) :
    declaredWords (w ++ g) = [w] := by
  cases g with
  | nil =>
    have hnil : markGaps 0 (markTokens Operator.tokenLength []) = [] := rfl
    rw [declaredWords_eq_gather, h.markGaps_eq, hnil, List.append_nil, gather_word h.ne_nil]
  | cons c g =>
    have h' : StandsIn w ((c :: g) ++ []) := by rwa [List.append_nil]
    have hwords := h'.declaredWords_append hg (by simp)
    rwa [List.append_nil] at hwords

/-- The word does not begin with a blank. -/
theorem exists_cons (h : StandsIn w rest) : ∃ c u, w = c :: u ∧ isBlank c = false := by
  obtain ⟨hne, front, token, rfl, hfront, htoken, -⟩ := h
  cases front with
  | cons c front =>
    have hc := hfront.outside [] c front rfl rfl
    simp only [endsWord, Bool.or_eq_false_iff] at hc
    exact ⟨c, front ++ token, rfl, hc.1.1⟩
  | nil =>
    rcases htoken with rfl | ⟨s, rfl⟩
    · exact absurd rfl hne
    · exact ⟨'o', "perator".toList ++ s, rfl, by decide⟩

/-- A blank stands behind the word itself, or behind its plain text at the earliest. -/
theorem exists_of_append_cons (h : StandsIn w rest) (hc : isBlank c = true)
    (hx : Scope.angleDepth x = 0) (heq : w ++ rest = x ++ c :: y) :
    ∃ front token x', w = front ++ token ∧ x = front ++ x' ∧
      (token = [] ∨ Operator.keyword <+: token) ∧ token ++ rest = x' ++ c :: y := by
  obtain ⟨-, front, token, rfl, hfront, htoken, -⟩ := h
  have hends : endsWord c = true := by simp [endsWord, hc]
  obtain ⟨x', rfl⟩ := hfront.isPrefix hends hx (by rw [← heq, List.append_assoc])
  refine ⟨front, token, x', rfl, rfl, htoken, ?_⟩
  rwa [List.append_assoc, List.append_assoc, List.append_cancel_left_eq] at heq

end StandsIn

/-- A text that may follow a word. -/
def Bounds (rest : Text) : Prop := ∀ c, rest.head? = some c → isBlank c = true ∨ c = '('

theorem Bounds.isWordChar (h : Bounds rest) : rest.head?.any isWordChar = false := by
  cases rest with
  | nil => rfl
  | cons c rest =>
    rcases h c rfl with hc | rfl
    · simpa using isWordChar_of_isBlank hc
    · rfl

theorem bounds_append {g : Text} (hg : ∀ c ∈ g, isBlank c = true) (hrest : g = [] → Bounds rest) :
    Bounds (g ++ rest) := by
  cases g with
  | nil => exact hrest rfl
  | cons c g =>
    intro e he
    obtain rfl := Option.some.inj he
    exact .inl (hg c (by simp))

/-! ### Plain words and operators -/

/-- A word without the keyword `operator`, with its angle brackets closed and neither blanks nor
`(` nor `=` outside them. -/
structure IsPlainWord (w : Text) : Prop where
  ne_nil : w ≠ []
  keyword : Operator.find? w = none
  encloses : Encloses endsWord 0 w

instance (w : Text) : Decidable (IsPlainWord w) :=
  decidable_of_iff (w ≠ [] ∧ Operator.find? w = none ∧ Encloses endsWord 0 w)
    ⟨fun h => ⟨h.1, h.2.1, h.2.2⟩, fun h => ⟨h.1, h.2, h.3⟩⟩

/-- What may stand in front of the keyword: nothing, or a qualifier that begins with no pointer
mark. -/
def IsOperatorScope (q : Text) : Prop :=
  q = [] ∨ IsPlainWord q ∧ scopeMark <:+ q ∧ ∀ c, q.head? = some c → c ≠ '*' ∧ c ≠ '&'

/-- The symbol of an operator. -/
def IsSymbol (s : Text) : Prop :=
  s = "()".toList ∨ s = "[]".toList ∨ s ≠ [] ∧ ∀ c ∈ s, c ∈ Operator.symbols

/-- A text that begins with the symbol of an operator. -/
def BeginsWithSymbol (t : Text) : Prop := ∃ s, IsSymbol s ∧ s <+: t

theorem IsPlainWord.standsIn (hw : IsPlainWord w) (hrest : Bounds rest) : StandsIn w rest where
  ne_nil := hw.ne_nil
  marks := ⟨w, [], by simp, hw.encloses, .inl rfl,
    Operator.markTokens_append hw.keyword hrest.isWordChar⟩

theorem IsOperatorScope.standsIn (hq : IsOperatorScope q)
    (hsymbol : Operator.symbolLength (s ++ rest) = s.length)
    (hs : (s ++ rest).head?.any isWordChar = false) (hrest : Bounds rest) :
    StandsIn (q ++ (Operator.keyword ++ s)) rest where
  ne_nil := List.append_ne_nil_of_right_ne_nil _
    (List.append_ne_nil_of_left_ne_nil Operator.keyword_ne_nil s)
  marks := by
    have htoken := Operator.markTokens_keyword hsymbol hs hrest.isWordChar
    refine ⟨q, Operator.keyword ++ s, rfl, ?_, .inr ⟨s, rfl⟩, ?_⟩
    · rcases hq with rfl | ⟨hq, -, -⟩
      · exact encloses_nil.mpr rfl
      · exact hq.encloses
    · rw [List.append_assoc, List.append_assoc]
      rcases hq with rfl | ⟨hq, ⟨x, rfl⟩, -⟩
      · exact htoken
      · -- the qualifier ends in a character that belongs to no word
        have hkeyword : Operator.find? (x ++ [':']) = none :=
          (Operator.find?_append_cons_eq_none isWordChar_colon).mpr
            ⟨((Operator.find?_append_cons_eq_none isWordChar_colon).mp hq.keyword).1, rfl⟩
        have hcolon : (':' :: (Operator.keyword ++ (s ++ rest))).head?.any isWordChar = false := rfl
        have hmarks := Operator.markTokens_append hkeyword hcolon
        rw [Operator.markTokens_cons isWordChar_colon, htoken] at hmarks
        simpa [scopeMark] using hmarks

theorem isSpaceOrTab_eq_false (hc : isBlank c = false) : isSpaceOrTab c = false :=
  Bool.eq_false_iff.mpr fun h => absurd (isBlank_of_isSpaceOrTab h) (by simp [hc])

theorem isBlank_symbol : ∀ c ∈ Operator.symbols, isBlank c = false :=
  List.forall_iff_forall_mem.mp (by decide)

/-- A symbol begins with a character that is not blank. -/
theorem IsSymbol.exists_cons (hs : IsSymbol s) : ∃ c u, s = c :: u ∧ isBlank c = false := by
  rcases hs with rfl | rfl | ⟨hne, hall⟩
  · exact ⟨'(', [')'], rfl, by decide⟩
  · exact ⟨'[', [']'], rfl, by decide⟩
  · obtain ⟨c, u, rfl⟩ := List.exists_cons_of_ne_nil hne
    exact ⟨c, u, rfl, isBlank_symbol c (hall c (by simp))⟩

/-- What follows a word does not lengthen a run of symbols. -/
theorem Bounds.takeWhile_symbols (h : Bounds rest) :
    rest.takeWhile Operator.symbols.contains = [] := by
  cases rest with
  | nil => rfl
  | cons c rest =>
    have hc : c ∉ Operator.symbols := by
      rcases h c rfl with hc | rfl
      · intro hmem
        exact absurd hc (by simp [isBlank_symbol c hmem])
      · decide
    rw [List.takeWhile_cons_of_neg (by simpa using hc)]

/-- A symbol is found behind spaces and tabs. -/
theorem symbolLength_append {gap : Text} (hgap : ∀ c ∈ gap, isSpaceOrTab c = true)
    (hs : IsSymbol s) (hrest : Bounds rest) :
    Operator.symbolLength (gap ++ s ++ rest) = (gap ++ s).length := by
  obtain ⟨c, u, hcons, hc⟩ := hs.exists_cons
  have htab := isSpaceOrTab_eq_false hc
  have htake : (gap ++ s ++ rest).takeWhile isSpaceOrTab = gap := by
    rw [List.append_assoc, List.takeWhile_append_of_pos hgap, hcons, List.cons_append,
      List.takeWhile_cons_of_neg (by simp [htab]), List.append_nil]
  have hdrop : (gap ++ s ++ rest).dropWhile isSpaceOrTab = s ++ rest := by
    rw [List.append_assoc, List.dropWhile_append_of_pos hgap, hcons, List.cons_append,
      List.dropWhile_cons_of_neg (by simp [htab])]
  unfold Operator.symbolLength
  simp only [htake, hdrop, List.length_append]
  rcases hs with rfl | rfl | ⟨-, hall⟩
  · rfl
  · rfl
  · have hmem : c ∈ Operator.symbols := hall c (by simp [hcons])
    have hround : ¬ "()".toList <+: s ++ rest := by
      rw [hcons]
      rintro ⟨z, hz⟩
      obtain rfl : '(' = c := (List.cons.inj hz).1
      exact absurd hmem (by decide)
    have hsquare : ¬ "[]".toList <+: s ++ rest := by
      rw [hcons]
      rintro ⟨z, hz⟩
      obtain rfl : '[' = c := (List.cons.inj hz).1
      exact absurd hmem (by decide)
    have hrun : (s ++ rest).takeWhile Operator.symbols.contains = s := by
      rw [List.takeWhile_append_of_pos (by simpa using hall), hrest.takeWhile_symbols,
        List.append_nil]
    rw [if_neg (by simp only [Bool.or_eq_true, List.isPrefixOf_iff_prefix]; tauto), hrun, hcons]
    rfl

theorem symbolLength_eq_zero (h : ¬ BeginsWithSymbol (t.dropWhile isSpaceOrTab)) :
    Operator.symbolLength t = 0 := by
  have hround : ¬ "()".toList <+: t.dropWhile isSpaceOrTab := fun hpre => h ⟨_, .inl rfl, hpre⟩
  have hsquare : ¬ "[]".toList <+: t.dropWhile isSpaceOrTab :=
    fun hpre => h ⟨_, .inr (.inl rfl), hpre⟩
  have hrun : (t.dropWhile isSpaceOrTab).takeWhile Operator.symbols.contains = [] := by
    cases hdrop : t.dropWhile isSpaceOrTab with
    | nil => rfl
    | cons c u =>
      rw [List.takeWhile_cons_of_neg]
      intro hc
      refine h ⟨[c], .inr (.inr ⟨by simp, by simpa using hc⟩), ?_⟩
      exact ⟨u, by rw [hdrop]; rfl⟩
  unfold Operator.symbolLength
  simp only
  rw [if_neg (by simp only [Bool.or_eq_true, List.isPrefixOf_iff_prefix]; tauto), hrun]
  rfl

/-- Blanks in front do not make a text begin with a symbol. -/
theorem not_beginsWithSymbol_append_blank {g : Text} (hg : ∀ c ∈ g, isBlank c = true)
    (ht : ¬ BeginsWithSymbol t) (hstart : ∃ c u, t = c :: u ∧ isBlank c = false) :
    ¬ BeginsWithSymbol ((g ++ t).dropWhile isSpaceOrTab) := by
  induction g with
  | nil =>
    obtain ⟨c, u, rfl, hc⟩ := hstart
    rwa [List.nil_append, List.dropWhile_cons_of_neg (by simp [isSpaceOrTab_eq_false hc])]
  | cons c g ih =>
    rw [List.cons_append, List.dropWhile_cons]
    split
    · exact ih fun e he => hg e (by simp [he])
    · rintro ⟨s, hs, hpre⟩
      obtain ⟨e, u, rfl, he⟩ := hs.exists_cons
      obtain rfl := (List.cons_prefix_cons.mp hpre).1
      exact absurd (hg e (by simp)) (by simp [he])

/-- Nor does what follows a plain word. -/
theorem IsPlainWord.not_beginsWithSymbol (hv : IsPlainWord v) (hsymbol : ¬ BeginsWithSymbol v)
    (hrest : Bounds rest) : ¬ BeginsWithSymbol (v ++ rest) := by
  obtain ⟨a, v', hcons⟩ := List.exists_cons_of_ne_nil hv.ne_nil
  have ha : endsWord a = false := hv.encloses.outside [] a v' hcons rfl
  have hblank : ∀ c ∈ "[]".toList ++ Operator.symbols, isBlank c = false ∧ c ≠ '(' :=
    List.forall_iff_forall_mem.mp (by decide)
  rintro ⟨s, hs, hpre⟩
  by_cases hround : s = "()".toList
  · subst hround
    obtain ⟨z, hz⟩ := hpre
    rw [hcons] at hz
    obtain rfl : '(' = a := (List.cons.inj hz).1
    exact absurd ha (by decide)
  · have hchars : ∀ c ∈ s, c ∈ "[]".toList ++ Operator.symbols := by
      rcases hs with h | rfl | ⟨-, hall⟩
      · exact absurd h hround
      · exact fun c hc => List.mem_append_left _ hc
      · exact fun c hc => List.mem_append_right _ (hall c hc)
    -- no character of the symbol can follow the word
    refine hsymbol ⟨s, hs, ?_⟩
    cases rest with
    | nil => rwa [List.append_nil] at hpre
    | cons c rest =>
      have hc : c ∉ s := by
        intro hmem
        obtain ⟨h₁, h₂⟩ := hblank c (hchars c hmem)
        rcases hrest c rfl with h | h
        · exact absurd h (by simp [h₁])
        · exact h₂ h
      exact (isPrefix_append_cons_iff hc).mp hpre

/-! ### Words and blanks -/

/-- A text of words, with blanks between them and perhaps at its end. -/
inductive Spaced : List Text → Text → Prop
  | last {w g : Text} (hg : ∀ c ∈ g, isBlank c = true) : Spaced [w] (w ++ g)
  | cons {w g t : Text} {ws : List Text} (hg : ∀ c ∈ g, isBlank c = true) (hne : g ≠ [])
      (ht : Spaced ws t) : Spaced (w :: ws) (w ++ (g ++ t))

/-- The words from which a declaration of a function takes its name: plain words, operators with
their symbols, and conversion operators before a plain word. -/
def Readable : List Text → Prop
  | [] => True
  | w :: ws =>
    (IsPlainWord w ∨
      (∃ q gap s, IsOperatorScope q ∧ (∀ c ∈ gap, isSpaceOrTab c = true) ∧ IsSymbol s ∧
        w = q ++ (Operator.keyword ++ (gap ++ s))) ∨
      ∃ q v us, IsOperatorScope q ∧ w = q ++ Operator.keyword ∧ ws = v :: us ∧ IsPlainWord v ∧
        ¬ BeginsWithSymbol v) ∧ Readable ws

theorem IsPlainWord.exists_cons (hw : IsPlainWord w) : ∃ c u, w = c :: u ∧ isBlank c = false :=
  have hstands : StandsIn w [] := hw.standsIn (by simp [Bounds])
  hstands.exists_cons

/-- An operator with its symbol is read as it stands. -/
theorem IsOperatorScope.standsIn_symbol {gap : Text} (hq : IsOperatorScope q)
    (hgap : ∀ c ∈ gap, isSpaceOrTab c = true) (hs : IsSymbol s) (hrest : Bounds rest) :
    StandsIn (q ++ (Operator.keyword ++ (gap ++ s))) rest := by
  refine hq.standsIn (symbolLength_append hgap hs hrest) ?_ hrest
  cases gap with
  | cons c gap =>
    simpa using isWordChar_of_isBlank (isBlank_of_isSpaceOrTab (hgap c (by simp)))
  | nil =>
    rcases hs with rfl | rfl | ⟨hne, hall⟩
    · rfl
    · rfl
    · obtain ⟨c, u, rfl⟩ := List.exists_cons_of_ne_nil hne
      simpa using Operator.isWordChar_symbol c (hall c (by simp))

/-- So is a conversion operator, with the blanks behind it. -/
theorem IsOperatorScope.standsIn_conversion {g : Text} (hq : IsOperatorScope q)
    (hg : ∀ c ∈ g, isBlank c = true) (hne : g ≠ []) (hv : IsPlainWord v)
    (hsymbol : ¬ BeginsWithSymbol v) (hrest : Bounds rest) :
    StandsIn (q ++ Operator.keyword) (g ++ (v ++ rest)) := by
  have hbounds : Bounds (g ++ (v ++ rest)) := bounds_append hg fun h => absurd h hne
  have hstart : ∃ c u, v ++ rest = c :: u ∧ isBlank c = false := by
    obtain ⟨c, u, rfl, hc⟩ := hv.exists_cons
    exact ⟨c, u ++ rest, rfl, hc⟩
  have hlength := symbolLength_eq_zero
    (not_beginsWithSymbol_append_blank hg (hv.not_beginsWithSymbol hsymbol hrest) hstart)
  have h := hq.standsIn (s := []) hlength hbounds.isWordChar hbounds
  rwa [List.append_nil] at h

theorem Spaced.exists_head {ws : List Text} (h : Spaced (w :: ws) t) :
    ∃ u, t = w ++ u ∧ ∀ rest, Bounds rest → Bounds (u ++ rest) := by
  cases h with
  | last hg => exact ⟨_, rfl, fun rest hrest => bounds_append hg fun _ => hrest⟩
  | cons hg hne ht =>
    refine ⟨_, rfl, fun rest _ => ?_⟩
    rw [List.append_assoc]
    exact bounds_append hg fun h => absurd h hne

/-- In front of further words, each word is read as it stands. -/
theorem Spaced.standsIn {g : Text} {ws : List Text} (ht : Spaced ws t) (hread : Readable (w :: ws))
    (hg : ∀ c ∈ g, isBlank c = true) (hne : g ≠ []) (hrest : Bounds rest) :
    StandsIn w (g ++ (t ++ rest)) := by
  have hbounds : Bounds (g ++ (t ++ rest)) := bounds_append hg fun h => absurd h hne
  rcases hread.1 with hw | ⟨q, gap, s, hq, hgap, hs, rfl⟩ | ⟨q, v, us, hq, rfl, rfl, hv, hsymbol⟩
  · exact hw.standsIn hbounds
  · exact hq.standsIn_symbol hgap hs hbounds
  · obtain ⟨u, rfl, hu⟩ := ht.exists_head
    rw [List.append_assoc]
    exact hq.standsIn_conversion hg hne hv hsymbol (hu rest hrest)

/-- And so is the last word. -/
theorem Readable.standsIn (hread : Readable [w]) (hrest : Bounds rest) : StandsIn w rest := by
  rcases hread.1 with hw | ⟨q, gap, s, hq, hgap, hs, rfl⟩ | ⟨q, v, us, -, -, hnil, -⟩
  · exact hw.standsIn hrest
  · exact hq.standsIn_symbol hgap hs hrest
  · exact absurd hnil (by simp)

/-- The first word is read as it stands in front of the rest. -/
theorem Spaced.exists_standsIn {ws : List Text} (ht : Spaced (w :: ws) t)
    (hread : Readable (w :: ws)) (hrest : Bounds rest) :
    ∃ u, t = w ++ u ∧ StandsIn w (u ++ rest) ∧ Bounds (u ++ rest) := by
  cases ht with
  | last hg =>
    have hbounds := bounds_append hg fun _ => hrest
    exact ⟨_, rfl, hread.standsIn hbounds, hbounds⟩
  | @cons _ g t _ hg hne ht =>
    refine ⟨g ++ t, rfl, ?_⟩
    rw [List.append_assoc]
    exact ⟨ht.standsIn hread hg hne hrest, bounds_append hg fun h => absurd h hne⟩

/-- The text is cut into its words. -/
theorem Spaced.declaredWords_eq {ws : List Text} (ht : Spaced ws t) (hread : Readable ws) :
    declaredWords t = ws := by
  have hend : Bounds [] := by simp [Bounds]
  induction ht with
  | last hg =>
    have hbounds := bounds_append hg fun _ => hend
    rw [List.append_nil] at hbounds
    exact (hread.standsIn hbounds).declaredWords_end hg
  | cons hg hne ht ih =>
    have h := ht.standsIn hread hg hne hend
    rw [List.append_nil] at h
    rw [h.declaredWords_append hg hne, ih hread.2]

theorem splitAtTop_append_blank {target : Char} {g : Text} (hg : ∀ c ∈ g, isBlank c = true)
    (htarget : isBlank target = false) (t : Text) :
    splitAtTop target (g ++ t) = (splitAtTop target t).map fun cut => (g ++ cut.1, cut.2) := by
  have hencloses : Encloses (· == target) (0 : Nat) g := encloses_of_isBlank hg htarget
  rw [splitAtTop, Operator.markTokens_append_blank hg, splitAtTopFrom_append_text hencloses]
  rfl

/-- The search for a round bracket or `=` passes over the words. -/
theorem Spaced.splitAtTop_append {target : Char} {ws : List Text} (ht : Spaced ws t)
    (hread : Readable ws) (htarget : target = '(' ∨ target = '=') (hrest : Bounds rest) :
    splitAtTop target (t ++ rest) =
      (splitAtTop target rest).map fun cut => (t ++ cut.1, cut.2) := by
  have hblank : isBlank target = false := by
    rcases htarget with rfl | rfl <;> decide
  induction ht with
  | last hg =>
    have h := hread.standsIn (bounds_append hg fun _ => hrest)
    rw [List.append_assoc, h.splitAtTop_append htarget, splitAtTop_append_blank hg hblank,
      Option.map_map]
    simp [Function.comp_def]
  | cons hg hne ht ih =>
    have h := ht.standsIn hread hg hne hrest
    rw [List.append_assoc, List.append_assoc, h.splitAtTop_append htarget,
      splitAtTop_append_blank hg hblank, ih hread.2, Option.map_map, Option.map_map]
    simp [Function.comp_def]

end DocTree
