/-
Function declarations, part by part.

A function declaration `result name(…` is read by several scans: for its kind, its
identifier and its display form.  Where the text has neither template arguments nor the
keyword `operator`, each of them sees just the parts:

* `declaredWords_eq_words` — the words of a declaration are those between blanks;
* `Identifier.ofDeclaration_function` — the identifier is the name, with its scopes;
* `IsResult.kind`, `IsResult.display` — it is a function, and is displayed as it stands.
-/
import DocTree.Declaration.Display
import DocTree.Declaration.Identifier
import DocTree.Proofs.DefaultArguments
import DocTree.Proofs.Qualifiers

namespace DocTree

/-! ### Blanks and words -/

/-- The code points of all blanks. -/
def blankPoints : List Nat :=
  [0x20, 0x09, 0x0A, 0x0B, 0x0C, 0x0D, 0x1C, 0x1D, 0x1E, 0x1F, 0x85, 0xA0, 0x1680, 0x2000, 0x2001,
    0x2002, 0x2003, 0x2004, 0x2005, 0x2006, 0x2007, 0x2008, 0x2009, 0x200A, 0x2028, 0x2029, 0x202F,
    0x205F, 0x3000]

theorem isWordChar_of_isBlank {c : Char} (h : isBlank c = true) : isWordChar c = false := by
  have hpoints : ∀ n ∈ blankPoints, isWordChar (Char.ofNat n) = false := by decide +kernel
  have hmem : c.toNat ∈ blankPoints := by
    simp only [isBlank, Bool.or_eq_true, Bool.and_eq_true, beq_iff_eq, decide_eq_true_eq] at h
    simp only [blankPoints, List.mem_cons, List.not_mem_nil, or_false]
    omega
  rw [← Char.ofNat_toNat c]
  exact hpoints _ hmem

namespace Text

variable {c : Char} {x y t w : Text}

theorem words_of_forall_not_isBlank (hne : t ≠ []) (h : ∀ d ∈ t, isBlank d = false) :
    words t = [t] := by
  rw [words, List.splitOnP_eq_singleton h]
  simp [hne]

/-- What holds of a text and then of its parts around every blank holds of its words. -/
theorem forall_mem_words {p : Text → Prop} (hp : p t)
    (hparts : ∀ {x y : Text} {c : Char}, isBlank c = true → p (x ++ c :: y) → p x ∧ p y) :
    ∀ w ∈ words t, p w := by
  induction hn : t.length using Nat.strong_induction_on generalizing t with
  | h n ih =>
    by_cases hblank : ∃ c ∈ t, isBlank c = true
    · obtain ⟨c, hmem, hc⟩ := hblank
      obtain ⟨x, y, rfl⟩ := List.append_of_mem hmem
      obtain ⟨hx, hy⟩ := hparts hc hp
      rw [List.length_append, List.length_cons] at hn
      rw [words_append_blank hc]
      intro w hw
      rcases List.mem_append.mp hw with hw | hw
      · exact ih x.length (by omega) hx rfl w hw
      · exact ih y.length (by omega) hy rfl w hw
    · by_cases hnil : t = []
      · subst hnil
        simp [words]
      · have hone := words_of_forall_not_isBlank hnil fun d hd => by
          cases hb : isBlank d with
          | false => rfl
          | true => exact absurd ⟨d, hd, hb⟩ hblank
        simpa [hone] using hp

end Text

/-! ### Operator tokens -/

namespace Operator

variable {c : Char} {t w rest : Text}

/-- Only a word in front matters to the operator tokens. -/
theorem markTokensFrom_eq_markTokens {before : Option Char}
    (h : before.any isWordChar = false ∨ t.head?.any isWordChar = false) :
    markTokensFrom tokenLength 0 before t = markTokens tokenLength t := by
  cases t with
  | nil => rfl
  | cons c t =>
    have hstands : standsAt before (c :: t) = standsAt none (c :: t) := by
      rcases h with h | h
      · simp [standsAt, h]
      · rw [standsAt_cons_eq_false (by simpa using h), standsAt_cons_eq_false (by simpa using h)]
    have hlen : tokenLength before (c :: t) = tokenLength none (c :: t) := by
      rw [tokenLength, tokenLength, hstands]
    unfold markTokens
    rw [markTokensFrom, markTokensFrom, hlen]

theorem markTokens_cons (hc : isWordChar c = false) :
    markTokens tokenLength (c :: t) = (c, false) :: markTokens tokenLength t := by
  have hzero : tokenLength none (c :: t) = 0 :=
    tokenLength_eq_zero_iff.mpr (standsAt_cons_eq_false hc)
  rw [markTokens, markTokensFrom_of_eq_zero hzero, markTokensFrom_eq_markTokens (by simp [hc])]

/-- A text without the keyword holds no token. -/
theorem markTokens_append (hw : find? w = none) (hrest : rest.head?.any isWordChar = false) :
    markTokens tokenLength (w ++ rest) = w.map (·, false) ++ markTokens tokenLength rest := by
  have hfrom : ∀ {before : Option Char}, findFrom before w = none →
      markTokensFrom tokenLength 0 before (w ++ rest) =
        w.map (·, false) ++ markTokens tokenLength rest := by
    clear hw
    induction w with
    | nil => exact fun _ => markTokensFrom_eq_markTokens (.inr hrest)
    | cons c w ih =>
      intro before hw
      have hstands : standsAt before (c :: w) = false := by
        rw [findFrom] at hw
        split at hw
        · exact absurd hw (by simp)
        · rename_i h
          exact Bool.eq_false_iff.mpr h
      have hlater : findFrom (some c) w = none := by
        rw [findFrom, if_neg (by simp [hstands])] at hw
        simpa using hw
      -- what comes behind cannot make the keyword
      have hzero : tokenLength before (c :: (w ++ rest)) = 0 := by
        rw [tokenLength_eq_zero_iff, ← hstands]
        cases rest with
        | nil => rw [List.append_nil]
        | cons e rest => exact standsAt_append_cons (x := c :: w) (by simpa using hrest)
      rw [List.cons_append, markTokensFrom_of_eq_zero hzero, ih hlater]
      rfl
  exact hfrom hw

end Operator

/-! ### Scans without operators and template arguments -/

/-- The text has neither the keyword `operator` nor angle brackets. -/
structure IsSimple (t : Text) : Prop where
  keyword : Operator.find? t = none
  open_not_mem : '<' ∉ t
  close_not_mem : '>' ∉ t

section Simple

variable {c : Char} {x y t : Text}

theorem isSimple_append_cons (hc : isWordChar c = false) (hangle : c ≠ '<' ∧ c ≠ '>') :
    IsSimple (x ++ c :: y) ↔ IsSimple x ∧ IsSimple y := by
  have hkey := Operator.find?_append_cons_eq_none (x := x) (y := y) hc
  have hmem : ∀ d, d ≠ c → (d ∉ x ++ c :: y ↔ d ∉ x ∧ d ∉ y) := by
    intro d hd
    simp [hd]
  constructor
  · rintro ⟨h₁, h₂, h₃⟩
    have h₁ := hkey.mp h₁
    have h₂ := (hmem '<' (Ne.symm hangle.1)).mp h₂
    have h₃ := (hmem '>' (Ne.symm hangle.2)).mp h₃
    exact ⟨⟨h₁.1, h₂.1, h₃.1⟩, ⟨h₁.2, h₂.2, h₃.2⟩⟩
  · rintro ⟨hx, hy⟩
    exact ⟨hkey.mpr ⟨hx.keyword, hy.keyword⟩,
      (hmem '<' (Ne.symm hangle.1)).mpr ⟨hx.open_not_mem, hy.open_not_mem⟩,
      (hmem '>' (Ne.symm hangle.2)).mpr ⟨hx.close_not_mem, hy.close_not_mem⟩⟩

theorem IsSimple.takeWhile (ht : IsSimple t) : IsSimple (t.takeWhile (· != '=')) := by
  have happend := List.takeWhile_append_dropWhile (p := (· != '=')) (l := t)
  cases h : t.dropWhile (· != '=') with
  | nil =>
    rw [h, List.append_nil] at happend
    rwa [happend]
  | cons e u =>
    have he : e = '=' := by
      have := List.head?_dropWhile_not (· != '=') t
      simpa [h] using this
    rw [h, he] at happend
    rw [← happend] at ht
    exact ((isSimple_append_cons (by decide) (by decide)).mp ht).1

theorem IsSimple.trimStart (ht : IsSimple t) : IsSimple t.trimStart := by
  induction t with
  | nil => exact ht
  | cons c t ih =>
    cases hc : isBlank c with
    | true =>
      have hangle : c ≠ '<' ∧ c ≠ '>' := by
        constructor <;> rintro rfl <;> exact absurd hc (by decide)
      have hrest := ((isSimple_append_cons (x := []) (isWordChar_of_isBlank hc) hangle).mp ht).2
      rw [Text.trimStart, List.dropWhile_cons_of_pos hc]
      exact ih hrest
    | false => rwa [Text.trimStart, List.dropWhile_cons_of_neg (by simp [hc])]

theorem isSimple_nil : IsSimple [] := ⟨rfl, by simp, by simp⟩

theorem markTokens_tokenLength (h : Operator.find? t = none) :
    markTokens Operator.tokenLength t = t.map (·, false) := by
  have hend : ([] : Text).head?.any isWordChar = false := rfl
  have hnil : markTokens Operator.tokenLength [] = [] := rfl
  have hmarks := Operator.markTokens_append h hend
  rwa [List.append_nil, hnil, List.append_nil] at hmarks

theorem splitOnP_map {α β : Type} (f : α → β) (p : β → Bool) (xs : List α) :
    (xs.map f).splitOnP p = (xs.splitOnP (p ∘ f)).map (List.map f) := by
  induction xs with
  | nil => simp
  | cons a xs ih =>
    rw [List.map_cons, List.splitOnP_cons_eq_if_modifyHead, List.splitOnP_cons_eq_if_modifyHead, ih]
    by_cases h : p (f a) = true
    · simp [h]
    · obtain ⟨w, ws, hsplit⟩ := List.exists_cons_of_ne_nil (List.splitOnP_ne_nil (p ∘ f) xs)
      simp [h, hsplit]

/-- The words of a simple text are those between blanks. -/
theorem declaredWords_eq_words (ht : IsSimple t) : declaredWords t = t.words := by
  have hgaps : markGaps 0 (t.map (·, false)) = t.map fun c => (c, isBlank c) := by
    have hopen := ht.open_not_mem
    have hclose := ht.close_not_mem
    clear ht
    induction t with
    | nil => rfl
    | cons c t ih =>
      rw [List.mem_cons, not_or] at hopen hclose
      have hstep : angleStep c = 0 := by
        simp [angleStep, Ne.symm hopen.1, Ne.symm hclose.1]
      rw [List.map_cons, markGaps, hstep, Int.zero_add, ih hopen.2 hclose.2]
      cases h : isBlank c <;> simp [h]
  rw [declaredWords, markTokens_tokenLength ht.keyword, hgaps, splitOnP_map]
  unfold Text.words
  rw [List.filter_map, List.map_map]
  have hunmark : unmark ∘ List.map (fun c => (c, isBlank c)) = (id : Text → Text) := by
    funext w
    simp [unmark, Function.comp_def]
  rw [hunmark, List.map_id]
  refine List.filter_congr fun w _ => ?_
  cases w <;> rfl

/-- A simple text is cut at the first occurrence of a character. -/
theorem splitAtTop_eq (target : Char) (ht : IsSimple t) :
    splitAtTop target t =
      if target ∈ t then some (t.takeWhile (· != target), t.dropWhile (· != target)) else none := by
  rw [splitAtTop, markTokens_tokenLength ht.keyword]
  have hopen := ht.open_not_mem
  have hclose := ht.close_not_mem
  clear ht
  induction t with
  | nil => rfl
  | cons c t ih =>
    rw [List.mem_cons, not_or] at hopen hclose
    rw [List.map_cons, splitAtTopFrom]
    by_cases hc : c = target
    · subst hc
      simp [unmark, Function.comp_def]
    · have hdepth :
          (if (c == '<') = true then 0 + 1 else if (c == '>') = true then 0 - 1 else 0) = 0 := by
        simp [Ne.symm hopen.1]
      have hne : target ≠ c := fun h => hc h.symm
      simp only [hdepth, ih hopen.2 hclose.2]
      by_cases hmem : target ∈ t <;> simp [hc, hne, hmem]

theorem splitAtTop_append_cons {target : Char} (ht : IsSimple (x ++ target :: y))
    (htarget : target ∉ x) : splitAtTop target (x ++ target :: y) = some (x, target :: y) := by
  have hall : ∀ c ∈ x, (c != target) = true := fun c hc => by
    simpa using fun h : c = target => htarget (h ▸ hc)
  rw [splitAtTop_eq target ht, if_pos (by simp), List.takeWhile_append_of_pos hall,
    List.dropWhile_append_of_pos hall]
  simp

/-- The text before the first `target`, or all of it. -/
theorem map_fst_splitAtTop (target : Char) (ht : IsSimple t) :
    ((splitAtTop target t).map Prod.fst).getD t = t.takeWhile (· != target) := by
  rw [splitAtTop_eq target ht]
  by_cases h : target ∈ t
  · rw [if_pos h]
    rfl
  · rw [if_neg h, List.takeWhile_eq_self_iff.mpr fun c hc => by
      simpa using fun heq : c = target => h (heq ▸ hc)]
    rfl

/-- In a simple text no word ends in the keyword. -/
theorem endsInOperator_eq_false (h : Operator.find? t = none) :
    Identifier.endsInOperator t = false := by
  unfold Identifier.endsInOperator
  cases hpre : Operator.keyword.reverse.isPrefixOf? t.reverse with
  | none => rfl
  | some before =>
    have heq := List.isPrefixOf?_eq_some_iff_append_eq.mp hpre
    have ht : t = before.reverse ++ Operator.keyword := by
      rw [← List.reverse_reverse t, ← heq]
      simp
    subst ht
    cases before with
    | nil => exact absurd h (by decide)
    | cons c before =>
      cases hc : isWordChar c with
      | true => simp [hc]
      | false =>
        rw [List.reverse_cons, List.append_assoc, List.singleton_append,
          Operator.find?_append_cons_eq_none hc] at h
        exact absurd h.2 (by decide)

end Simple

/-! ### The parts of a function declaration -/

/-- A function declaration: a return type, a name and a parameter list. -/
def functionText (result name list : Text) : Text :=
  result ++ ' ' :: (name ++ '(' :: (list ++ [')']))

theorem functionText_eq (r name list : Text) :
    functionText r name list = (r ++ ' ' :: name) ++ '(' :: (list ++ [')']) := by
  simp [functionText]

theorem isSimple_functionText {r name list : Text} (hr : IsSimple r) (hname : IsSimple name)
    (hlist : IsSimple list) : IsSimple (functionText r name list) := by
  rw [functionText_eq]
  refine (isSimple_append_cons (by decide) (by decide)).mpr ⟨?_, ?_⟩
  · exact (isSimple_append_cons (by decide) (by decide)).mpr ⟨hr, hname⟩
  · exact (isSimple_append_cons (by decide) (by decide)).mpr ⟨hlist, isSimple_nil⟩

/-- The return type of a function: at least one word, not led by a declaration keyword or
`template`, without brackets, literals, `=`, template arguments and `operator`. -/
structure IsResult (r : Text) : Prop where
  word : r.trimStart ≠ []
  leading : r.trimStart.leadingWord ∉ "template".toList :: Display.keywords
  plain : ∀ c ∈ r, c ∉ Minimal.State.delimiters
  noAssignment : '=' ∉ r
  simple : IsSimple r

namespace Text

variable {c : Char} {x y t : Text}

theorem trimStart_append (h : trimStart x ≠ []) : trimStart (x ++ y) = trimStart x ++ y := by
  unfold trimStart at h ⊢
  rw [List.dropWhile_append, if_neg (by simpa using h)]

theorem trimStart_trimStart (t : Text) : trimStart (trimStart t) = trimStart t := by
  cases h : trimStart t with
  | nil => rfl
  | cons c u =>
    have hc := isBlank_eq_false_of_trimStart h
    rw [trimStart, List.dropWhile_cons_of_neg (by simp [hc])]

theorem trimEnd_concat (hc : isBlank c = false) (x : Text) : trimEnd (x ++ [c]) = x ++ [c] := by
  unfold trimEnd
  induction x with
  | nil => simp [dropEndWhile, hc]
  | cons d x ih =>
    rw [List.cons_append, dropEndWhile, ih]
    cases x <;> rfl

/-- What is left after trimming the end does not end in a blank. -/
theorem isBlank_eq_false_of_trimEnd {u : Text} (h : trimEnd t = u ++ [c]) : isBlank c = false := by
  unfold trimEnd at h
  induction t generalizing u with
  | nil => simp [dropEndWhile] at h
  | cons d t ih =>
    rw [dropEndWhile] at h
    cases hrest : dropEndWhile isBlank t with
    | nil =>
      rw [hrest] at h
      cases hd : isBlank d with
      | true => simp [hd] at h
      | false =>
        simp only [hd] at h
        have hlast : some d = some c := by simpa using congrArg List.getLast? h
        rwa [← Option.some.inj hlast]
    | cons e kept =>
      rw [hrest] at h
      cases u with
      | nil => simp at h
      | cons a u => exact ih (hrest.trans (List.cons.inj h).2)

/-- What is left after trimming does not begin with a blank. -/
theorem isBlank_eq_false_of_trim {u : Text} (h : trim t = c :: u) : isBlank c = false := by
  obtain ⟨s, hs, -⟩ := exists_dropEndWhile_append isBlank (trimStart t)
  have hend : dropEndWhile isBlank (trimStart t) = c :: u := h
  rw [hend, List.cons_append] at hs
  exact isBlank_eq_false_of_trimStart hs.symm

theorem leadingWord_append_cons (hc : isWordChar c = false) :
    leadingWord (x ++ c :: y) = leadingWord x := by
  unfold leadingWord
  induction x with
  | nil => simp [hc]
  | cons d x ih =>
    rw [List.cons_append, List.takeWhile_cons, List.takeWhile_cons, ih]

theorem words_ne_nil (h : trimStart t ≠ []) : words t ≠ [] := by
  obtain ⟨c, u, hcons⟩ := List.exists_cons_of_ne_nil h
  have hc := isBlank_eq_false_of_trimStart hcons
  intro hnil
  have hcollapse := collapse_eq_squeeze t
  rw [collapse, hnil, hcons, squeeze_cons hc] at hcollapse
  simp [join] at hcollapse

end Text

theorem Templated.ofText_eq_self {t : Text} (h : t.trimStart.leadingWord ≠ "template".toList) :
    Templated.ofText t = ⟨none, t⟩ := by
  unfold Templated.ofText
  rw [Templated.preamble, if_neg h]
  simp

namespace IsResult

variable {r name list : Text}

theorem trimStart_functionText (hr : IsResult r) :
    (functionText r name list).trimStart = functionText r.trimStart name list :=
  Text.trimStart_append hr.word

theorem leadingWord_functionText :
    (functionText r name list).leadingWord = r.leadingWord :=
  Text.leadingWord_append_cons (by decide)

theorem trimEnd_functionText (r name list : Text) :
    (functionText r name list).trimEnd = functionText r name list := by
  have hend : functionText r name list = (r ++ ' ' :: (name ++ '(' :: list)) ++ [')'] := by
    simp [functionText]
  rw [hend, Text.trimEnd_concat (by decide)]

theorem leadingWord_ne (hr : IsResult r) {w : Text}
    (hw : w ∈ "template".toList :: Display.keywords) :
    (functionText r name list).trimStart.leadingWord ≠ w := by
  rw [hr.trimStart_functionText, leadingWord_functionText]
  rintro rfl
  exact hr.leading hw

theorem trimStart (hr : IsResult r) : IsResult r.trimStart where
  word := by
    rw [Text.trimStart_trimStart]
    exact hr.word
  leading := by
    rw [Text.trimStart_trimStart]
    exact hr.leading
  plain := fun c hc => hr.plain c ((List.dropWhile_sublist _).subset hc)
  noAssignment := fun h => hr.noAssignment ((List.dropWhile_sublist _).subset h)
  simple := hr.simple.trimStart

/-- A function declaration has no template parameters, is a function, and is displayed as it
stands. -/
theorem templated (hr : IsResult r) :
    Templated.ofText (functionText r name list) = ⟨none, functionText r name list⟩ :=
  Templated.ofText_eq_self (hr.leadingWord_ne (by simp))

theorem kind (hr : IsResult r) : Kind.ofDeclaration (functionText r name list) = .function := by
  have hne : ∀ w ∈ Display.keywords, (functionText r name list).trimStart.leadingWord ≠ w :=
    fun w hw => hr.leadingWord_ne (List.mem_cons_of_mem _ hw)
  unfold Kind.ofDeclaration
  rw [hr.templated]
  dsimp only
  rw [if_neg (hne "namespace".toList (by decide)), if_neg (hne "class".toList (by decide)),
    if_neg (hne "enum".toList (by decide)), if_neg, if_neg (hne "typedef".toList (by decide)),
    if_neg (hne "using".toList (by decide))]
  rintro (h | h)
  · exact hne "struct".toList (by decide) h
  · exact hne "union".toList (by decide) h

theorem display (hr : IsResult r) :
    Display.ofDeclaration (functionText r name list) = functionText r name list := by
  have hdrop : Display.dropKeywords (functionText r name list) = functionText r name list := by
    rw [Display.dropKeywords, dif_neg]
    rintro ⟨hkeyword, -⟩
    exact hr.leadingWord_ne (List.mem_cons_of_mem _ (List.contains_iff_mem.mp hkeyword)) rfl
  rw [Display.ofDeclaration, hr.templated, hdrop, trimEnd_functionText]

end IsResult

/-! ### The identifier of a function -/

namespace Identifier

variable {r name list t : Text}

/-- The name of a function: characters of words and `::`. -/
structure IsName (name : Text) : Prop where
  ne_nil : name ≠ []
  chars : ∀ c ∈ name, Scope.isQualifierChar c = true
  keyword : Operator.find? name = none

theorem IsName.not_mem (h : IsName name) {c : Char} (hc : Scope.isQualifierChar c = false) :
    c ∉ name := fun hmem => by simp [h.chars c hmem] at hc

theorem IsName.simple (h : IsName name) : IsSimple name :=
  ⟨h.keyword, h.not_mem (by decide), h.not_mem (by decide)⟩

theorem IsName.dropPointerMark (h : IsName name) : dropPointerMark name = name := by
  obtain ⟨c, u, rfl⟩ := List.exists_cons_of_ne_nil h.ne_nil
  have hstar : c ≠ '*' := fun hc => h.not_mem (c := '*') (by decide) (by simp [hc])
  have hand : c ≠ '&' := fun hc => h.not_mem (c := '&') (by decide) (by simp [hc])
  simp [Identifier.dropPointerMark, hstar, hand]

theorem IsName.not_isBlank (h : IsName name) : ∀ c ∈ name, isBlank c = false := by
  intro c hc
  cases hb : isBlank c with
  | false => rfl
  | true =>
    have hq := h.chars c hc
    rw [Scope.isQualifierChar, isWordChar_of_isBlank hb, Bool.false_or, beq_iff_eq] at hq
    subst hq
    exact absurd hb (by decide)

/-- What follows the opening bracket does not begin with a pointer mark. -/
def StartsPlain (list : Text) : Prop :=
  ∀ c, list.trimStart.head? = some c → c ≠ '*' ∧ c ≠ '&'

theorem pointerName?_eq_none (h : StartsPlain t) : pointerName? ('(' :: t) = none := by
  have hmark : (t.trimStart.head?.any fun c => c == '*' || c == '&') = false := by
    cases hhead : t.trimStart.head? with
    | none => rfl
    | some c =>
      obtain ⟨h₁, h₂⟩ := h c hhead
      simp [h₁, h₂]
  simp only [pointerName?, hmark]
  simp

theorem StartsPlain.takeWhile (h : StartsPlain t) (p : Char → Bool) :
    StartsPlain (t.takeWhile p) := by
  intro c hc
  refine h c ?_
  have hne : Text.trimStart (t.takeWhile p) ≠ [] := by
    intro hnil
    rw [hnil] at hc
    exact absurd hc (by simp)
  have htrim := Text.trimStart_append (y := t.dropWhile p) hne
  rw [List.takeWhile_append_dropWhile] at htrim
  rw [htrim, List.head?_append, hc]
  rfl

/-- The naming part of a function declaration ends at its parameter list. -/
theorem naming_function (hr : IsResult r) (hname : IsName name) (hlist : IsSimple list)
    (hstart : StartsPlain (list ++ [')'])) (keywordLed : Bool) :
    naming keywordLed (functionText r name list) = (r ++ ' ' :: name, true) := by
  have hparen : '(' ∉ r ++ ' ' :: name := by
    have h₁ : '(' ∉ r := fun h => hr.plain _ h (by decide)
    have h₂ : '(' ∉ name := hname.not_mem (by decide)
    simp [h₁, h₂]
  have hassign : ∀ c ∈ r ++ ' ' :: name, (c != '=') = true := by
    have h₂ : '=' ∉ name := hname.not_mem (by decide)
    intro c hc
    simp only [bne_iff_ne]
    rintro rfl
    simp [hr.noAssignment, h₂] at hc
  have hfront : IsSimple (r ++ ' ' :: name) :=
    (isSimple_append_cons (by decide) (by decide)).mpr ⟨hr.simple, hname.simple⟩
  have hrest : IsSimple (list ++ [')']) :=
    (isSimple_append_cons (by decide) (by decide)).mpr ⟨hlist, isSimple_nil⟩
  have hsimple : ∀ {y : Text}, IsSimple y → IsSimple ((r ++ ' ' :: name) ++ '(' :: y) :=
    fun hy => (isSimple_append_cons (by decide) (by decide)).mpr ⟨hfront, hy⟩
  -- whether or not the text is cut at `=`, the list begins as before
  obtain ⟨y, hy, hystart, hcut⟩ : ∃ y, IsSimple y ∧ StartsPlain y ∧
      (if keywordLed then ((splitAtTop '=' (functionText r name list)).map Prod.fst).getD
        (functionText r name list) else functionText r name list) =
          (r ++ ' ' :: name) ++ '(' :: y := by
    cases keywordLed with
    | false => exact ⟨_, hrest, hstart, functionText_eq r name list⟩
    | true =>
      refine ⟨_, hrest.takeWhile, hstart.takeWhile _, ?_⟩
      rw [if_pos rfl, functionText_eq, map_fst_splitAtTop '=' (hsimple hrest),
        List.takeWhile_append_of_pos hassign]
      simp
  simp only [naming, hcut, splitAtTop_append_cons (hsimple hy) hparen, pointerName?_eq_none hystart]
  rfl

/-- With a parameter list, the identifier is the last word. -/
theorem choose_concat {words : List Text} (hne : words ≠ [])
    (hop : ∀ w ∈ words ++ [name], endsInOperator w = false) (keywordLed : Bool) :
    choose keywordLed true (words ++ [name]) = name := by
  obtain ⟨first, words, rfl⟩ := List.exists_cons_of_ne_nil hne
  obtain ⟨second, rest, hsecond⟩ : ∃ second rest, words ++ [name] = second :: rest :=
    List.exists_cons_of_ne_nil (by simp)
  have hdrop : (first :: second :: rest).dropWhile (fun w => !endsInOperator w) = [] := by
    rw [List.dropWhile_eq_nil_iff, ← hsecond]
    intro w hw
    simp [hop w hw]
  have hlast : (second :: rest).getLast (by simp) = name := by
    simp only [← hsecond, List.getLast_concat]
  rw [List.cons_append, hsecond, choose]
  simp only [hdrop]
  simpa using hlast

theorem endsInOperator_of_mem_words (h : Operator.find? t = none) :
    ∀ w ∈ t.words, endsInOperator w = false := by
  have hwords : ∀ w ∈ t.words, Operator.find? w = none := by
    refine Text.forall_mem_words (p := fun w => Operator.find? w = none) h ?_
    intro x y c hc h
    exact (Operator.find?_append_cons_eq_none (isWordChar_of_isBlank hc)).mp h
  exact fun w hw => endsInOperator_eq_false (hwords w hw)

/-- The identifier of a function declaration is its name. -/
theorem ofDeclaration_function (hr : IsResult r) (hname : IsName name) (hlist : IsSimple list)
    (hstart : StartsPlain (list ++ [')'])) :
    ofDeclaration (functionText r name list) = name := by
  have hr' := hr.trimStart
  have htrim : (functionText r.trimStart name list).trim = functionText r.trimStart name list := by
    rw [Text.trim, hr'.trimStart_functionText, Text.trimStart_trimStart,
      IsResult.trimEnd_functionText]
  have henum : joinScopedEnum (functionText r.trimStart name list) =
      functionText r.trimStart name list := by
    have hlead : (functionText r.trimStart name list).leadingWord ≠ "enum".toList := by
      rw [← hr.trimStart_functionText]
      exact hr.leadingWord_ne (by decide)
    rw [joinScopedEnum, scopedEnum?, if_neg fun h => hlead h.1]
  have hwords : declaredWords (r.trimStart ++ ' ' :: name) = r.words ++ [name] := by
    rw [declaredWords_eq_words ((isSimple_append_cons (by decide) (by decide)).mpr
      ⟨hr'.simple, hname.simple⟩), Text.words_append_blank (by decide), Text.words_trimStart,
      Text.words_of_forall_not_isBlank hname.ne_nil hname.not_isBlank]
  have hop : ∀ w ∈ r.words ++ [name], endsInOperator w = false := by
    intro w hw
    rcases List.mem_append.mp hw with hw | hw
    · exact endsInOperator_of_mem_words hr.simple.keyword w hw
    · rw [List.mem_singleton.mp hw]
      exact endsInOperator_eq_false hname.keyword
  rw [ofDeclaration, hr.trimStart_functionText, hr'.templated]
  simp only [htrim, henum, naming_function hr' hname hlist hstart, hwords,
    choose_concat (Text.words_ne_nil hr.word) hop, hname.dropPointerMark]

end Identifier

end DocTree
