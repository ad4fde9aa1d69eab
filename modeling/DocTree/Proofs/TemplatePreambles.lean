/-
Template preambles.

A declaration may have template preambles in front of it, one for each template that it is a
member of.  What the declaration says does not depend on them:

* `Closes`, `IsParameters` — texts that close what they open, and what may stand in a parameter
  list: round and square brackets are closed, and outside of them so are the angle brackets;
* `closeAngle_append` — a parameter list is read to the bracket that closes it;
* `Templated.preamble_withTemplates` — the preambles are taken off one after the other;
* `templates_transparent` — so kind, identifier and display form are those of the declaration
  alone.
-/
import DocTree.Proofs.Trimming

namespace DocTree

variable {step : Char → Int} {c : Char} {a : Nat} {b d : Int} {g t u rest : Text}

/-! ### Closed brackets -/

/-- How much deeper the end of a text is than its start, where `step` is the change at a
character. -/
def rise (step : Char → Int) (t : Text) : Int := t.foldr (fun c depth => step c + depth) 0

/-- From the depth `d` on, the text never gets below zero, and it ends there. -/
structure Closes (step : Char → Int) (d : Int) (t : Text) : Prop where
  nonneg : ∀ x, x <+: t → 0 ≤ d + rise step x
  closed : d + rise step t = 0

theorem rise_cons : rise step (c :: t) = step c + rise step t := rfl

theorem closes_nil : Closes step d [] ↔ d = 0 := by
  constructor
  · intro h
    simpa [rise] using h.closed
  · rintro rfl
    exact ⟨by simp [rise], rfl⟩

theorem closes_cons : Closes step d (c :: t) ↔ 0 ≤ d ∧ Closes step (d + step c) t := by
  have hrise : ∀ x, d + rise step (c :: x) = d + step c + rise step x := fun x => by
    rw [rise_cons, Int.add_assoc]
  constructor
  · intro h
    refine ⟨by simpa [rise] using h.nonneg [] (by simp), fun x hx => ?_, ?_⟩
    · rw [← hrise]
      exact h.nonneg _ (List.cons_prefix_cons.mpr ⟨rfl, hx⟩)
    · rw [← hrise]
      exact h.closed
  · rintro ⟨hd, h⟩
    refine ⟨fun x hx => ?_, (hrise t).trans h.closed⟩
    rcases List.prefix_cons_iff.mp hx with rfl | ⟨x, rfl, hx'⟩
    · simpa [rise] using hd
    · rw [hrise]
      exact h.nonneg x hx'

theorem Closes.le (h : Closes step d t) : 0 ≤ d := by
  cases t with
  | nil => exact Int.le_of_eq (closes_nil.mp h).symm
  | cons c t => exact (closes_cons.mp h).1

instance decidableCloses (step : Char → Int) : (d : Int) → (t : Text) → Decidable (Closes step d t)
  | _, [] => decidable_of_iff _ closes_nil.symm
  | d, c :: t =>
    have := decidableCloses step (d + step c) t
    decidable_of_iff _ closes_cons.symm

/-! ### Parameter lists -/

/-- How a character changes the number of open round and square brackets. -/
def bracketStep (c : Char) : Int :=
  if c == '(' || c == '[' then 1 else if c == ')' || c == ']' then -1 else 0

/-- The characters outside round and square brackets, of which `b` are open at the start. -/
def outsideBrackets : Int → Text → Text
  | _, [] => []
  | b, c :: t =>
    if b = 0 ∧ bracketStep c = 0 then c :: outsideBrackets b t
    else outsideBrackets (b + bracketStep c) t

/-- What may stand between the angle brackets of a template parameter list.  Inside round and square
brackets, `<` and `>` are comparisons. -/
structure IsParameters (t : Text) : Prop where
  brackets : Closes bracketStep 0 t
  angles : Closes angleStep 0 (outsideBrackets 0 t)

instance (t : Text) : Decidable (IsParameters t) :=
  decidable_of_iff (Closes bracketStep 0 t ∧ Closes angleStep 0 (outsideBrackets 0 t))
    ⟨fun h => ⟨h.1, h.2⟩, fun h => ⟨h.brackets, h.angles⟩⟩

theorem bracketStep_eq_zero : bracketStep c = 0 ↔
    (c == '(' || c == '[') = false ∧ (c == ')' || c == ']') = false := by
  unfold bracketStep
  cases c == '(' || c == '[' <;> cases c == ')' || c == ']' <;> simp

theorem closeAngle_bracket (hc : bracketStep c ≠ 0) :
    closeAngle a b (c :: t) =
      (closeAngle a (b + bracketStep c) t).map fun (group, after) => (c :: group, after) := by
  unfold bracketStep at hc ⊢
  rw [closeAngle]
  cases hopen : c == '(' || c == '[' with
  | true => rfl
  | false =>
    cases hclose : c == ')' || c == ']' with
    | true => rfl
    | false => exact absurd (by rw [hopen, hclose]; rfl) hc

theorem closeAngle_inside (hc : bracketStep c = 0) (hb : b ≠ 0) :
    closeAngle a b (c :: t) =
      (closeAngle a b t).map fun (group, after) => (c :: group, after) := by
  obtain ⟨hopen, hclose⟩ := bracketStep_eq_zero.mp hc
  have hinside : (b != 0) = true := by simpa using hb
  simp only [closeAngle, hopen, hclose, hinside, if_true]
  rfl

theorem closeAngle_outside (hc : bracketStep c = 0) (ha : 0 ≤ a + angleStep c) :
    closeAngle a 0 (c :: t) =
      (closeAngle (a + angleStep c).toNat 0 t).map fun (group, after) => (c :: group, after) := by
  obtain ⟨hopen, hclose⟩ := bracketStep_eq_zero.mp hc
  have houtside : ((0 : Int) != 0) = false := rfl
  unfold angleStep at ha ⊢
  rw [closeAngle, hopen, hclose, houtside]
  cases hless : c == '<' with
  | true => rfl
  | false =>
    cases hgreater : c == '>' with
    | true =>
      rw [hless, hgreater] at ha
      have hpos : 0 ≤ (a : Int) + -1 := ha
      obtain ⟨n, rfl⟩ := Nat.exists_eq_add_of_le' (show 1 ≤ a by omega)
      have hpred : ((n + 1 : Nat) + -1 : Int).toNat = n := by omega
      show _ = (closeAngle ((n + 1 : Nat) + -1 : Int).toNat 0 t).map _
      rw [hpred]
      rfl
    | false => rfl

/-- A parameter list is read to the bracket that closes it, where `a` angle brackets and `b` others
are open at the start. -/
theorem closeAngle_append (hg : Closes angleStep a (outsideBrackets b g))
    (hb : Closes bracketStep b g) (rest : Text) :
    closeAngle a b (g ++ '>' :: rest) = some (g ++ ['>'], rest) := by
  induction g generalizing a b with
  | nil =>
    obtain rfl := closes_nil.mp hb
    obtain rfl := Int.natCast_eq_zero.mp (closes_nil.mp hg)
    rfl
  | cons c g ih =>
    obtain ⟨-, hb'⟩ := closes_cons.mp hb
    rw [List.cons_append]
    by_cases hc : bracketStep c = 0
    · rw [hc, Int.add_zero] at hb'
      by_cases hzero : b = 0
      · subst hzero
        rw [outsideBrackets, if_pos ⟨rfl, hc⟩, closes_cons] at hg
        obtain ⟨-, hg⟩ := hg
        have hle := hg.le
        rw [closeAngle_outside hc hle, ih (by rwa [Int.toNat_of_nonneg hle]) hb']
        rfl
      · rw [outsideBrackets, if_neg fun h => hzero h.1, hc, Int.add_zero] at hg
        rw [closeAngle_inside hc hzero, ih hg hb']
        rfl
    · rw [outsideBrackets, if_neg fun h => hc h.2] at hg
      rw [closeAngle_bracket hc, ih hg hb']
      rfl

/-! ### Preambles -/

/-- A template parameter list, with the blanks around it. -/
structure TemplateList where
  before : Text := []
  parameters : Text
  after : Text := []
  isBlank_before : ∀ c ∈ before, isBlank c = true
  isParameters : IsParameters parameters
  isBlank_after : ∀ c ∈ after, isBlank c = true

namespace TemplateList

/-- The list in its angle brackets. -/
def list (l : TemplateList) : Text := '<' :: (l.parameters ++ ['>'])

/-- The list behind its keyword. -/
def text (l : TemplateList) : Text := "template".toList ++ (l.before ++ (l.list ++ l.after))

end TemplateList

/-- The declaration with template preambles in front of it. -/
def withTemplates (ls : List TemplateList) (d : Text) : Text := ls.flatMap TemplateList.text ++ d

namespace Text

/-- The leading word of a text is followed by no further word character. -/
theorem leadingWord_append (hg : ∀ c ∈ g, isWordChar c = true)
    (ht : ∀ c, t.head? = some c → isWordChar c = false) :
    leadingWord (g ++ t) = g ∧ afterWord (g ++ t) = t := by
  have hlead : leadingWord t = [] ∧ afterWord t = t := by
    cases t with
    | nil => exact ⟨rfl, rfl⟩
    | cons c t =>
      have hc := ht c rfl
      exact ⟨List.takeWhile_cons_of_neg (by simp [hc]), List.dropWhile_cons_of_neg (by simp [hc])⟩
  constructor
  · rw [leadingWord, List.takeWhile_append_of_pos hg]
    exact (congrArg (g ++ ·) hlead.1).trans (List.append_nil g)
  · rw [afterWord, List.dropWhile_append_of_pos hg]
    exact hlead.2

end Text

namespace TemplateList

variable {ls : List TemplateList}

/-- A text with preambles does not begin with a blank. -/
theorem head?_withTemplates (hd : ∀ c, t.head? = some c → isBlank c = false) :
    ∀ c, (withTemplates ls t).head? = some c → isBlank c = false := by
  cases ls with
  | nil => exact hd
  | cons l ls =>
    intro c hc
    obtain rfl : 't' = c := Option.some.inj hc
    rfl

theorem text_append (l : TemplateList) (t : Text) : l.text ++ t =
    "template".toList ++ (l.before ++ '<' :: (l.parameters ++ '>' :: (l.after ++ t))) := by
  show "template".toList ++ (l.before ++ ('<' :: (l.parameters ++ ['>']) ++ l.after)) ++ t = _
  rw [List.append_assoc]
  congr 1
  simp

/-- One preamble is taken off. -/
theorem preamble_text_append (l : TemplateList) (ht : ∀ c, t.head? = some c → isBlank c = false) :
    Templated.preamble (l.text ++ t) =
      (l.list :: (Templated.preamble t).1, (Templated.preamble t).2) := by
  have hhead : ∀ c, (l.before ++ '<' :: (l.parameters ++ '>' :: (l.after ++ t))).head? = some c →
      isWordChar c = false := by
    intro c hc
    cases hbefore : l.before with
    | nil =>
      rw [hbefore] at hc
      obtain rfl : '<' = c := Option.some.inj hc
      decide
    | cons e before =>
      rw [hbefore] at hc
      obtain rfl : e = c := Option.some.inj hc
      exact isWordChar_of_isBlank (l.isBlank_before e (by simp [hbefore]))
  obtain ⟨hlead, hafter⟩ := Text.leadingWord_append (g := "template".toList)
    (List.forall_iff_forall_mem.mp (by decide)) hhead
  have hopen : (l.before ++ '<' :: (l.parameters ++ '>' :: (l.after ++ t))).trimStart =
      '<' :: (l.parameters ++ '>' :: (l.after ++ t)) := by
    refine Text.trimStart_blank_append l.isBlank_before fun c hc => ?_
    obtain rfl : '<' = c := Option.some.inj hc
    rfl
  have hclose := closeAngle_append (a := 0) l.isParameters.angles l.isParameters.brackets
    (l.after ++ t)
  have htrim : (l.after ++ t).trimStart = t := Text.trimStart_blank_append l.isBlank_after ht
  rw [text_append, Templated.preamble, if_pos hlead]
  split
  · rename_i rest' h
    rw [hafter, hopen] at h
    obtain rfl := (List.cons.inj h).2
    split
    · rename_i group after hclose'
      rw [hclose] at hclose'
      obtain ⟨rfl, rfl⟩ := Prod.mk.inj (Option.some.inj hclose')
      simp only [htrim]
      rfl
    · rename_i hclose'
      rw [hclose] at hclose'
      exact absurd hclose' (by simp)
  · rename_i hne
    exact absurd (by rw [hafter, hopen]) (hne _)

/-- All preambles are taken off. -/
theorem preamble_withTemplates (ls : List TemplateList)
    (hd : ∀ c, t.head? = some c → isBlank c = false) (hword : t.leadingWord ≠ "template".toList) :
    Templated.preamble (withTemplates ls t) = (ls.map list, t) := by
  induction ls with
  | nil =>
    show Templated.preamble t = ([], t)
    rw [Templated.preamble, if_neg hword]
  | cons l ls ih =>
    have happend : withTemplates (l :: ls) t = l.text ++ withTemplates ls t := by
      simp [withTemplates]
    rw [happend, preamble_text_append l (head?_withTemplates hd), ih]
    rfl

end TemplateList

/-- **Template preambles are transparent.** One preamble or more is taken off with the blanks around
each list, the lists are kept with one space between them, and the declaration has the kind, the
identifier and the display form that it has alone. -/
theorem templates_transparent {ls : List TemplateList} {d : Text} (hls : ls ≠ [])
    (hstart : ∀ c, d.head? = some c → isBlank c = false)
    (hword : d.leadingWord ≠ "template".toList) :
    Templated.ofText (withTemplates ls d) =
        ⟨some (Text.join [' '] (ls.map TemplateList.list)), d⟩ ∧
      Kind.ofDeclaration (withTemplates ls d) = Kind.ofDeclaration d ∧
      Identifier.ofDeclaration (withTemplates ls d) = Identifier.ofDeclaration d ∧
      Display.ofDeclaration (withTemplates ls d) = Display.ofDeclaration d := by
  have htrim : d.trimStart = d := Text.trimStart_eq_self hstart
  have htrim' : (withTemplates ls d).trimStart = withTemplates ls d :=
    Text.trimStart_eq_self (TemplateList.head?_withTemplates hstart)
  have halone : Templated.ofText d = ⟨none, d⟩ := by
    refine Templated.ofText_eq_self ?_
    rwa [htrim]
  have htemplated : Templated.ofText (withTemplates ls d) =
      ⟨some (Text.join [' '] (ls.map TemplateList.list)), d⟩ := by
    rw [Templated.ofText, htrim', TemplateList.preamble_withTemplates ls hstart hword]
    obtain ⟨l, ls, rfl⟩ := List.exists_cons_of_ne_nil hls
    rfl
  -- each of the three reads nothing but the body
  refine ⟨htemplated, ?_, ?_, ?_⟩
  · rw [Kind.ofDeclaration, Kind.ofDeclaration, htemplated, halone]
  · rw [Identifier.ofDeclaration, Identifier.ofDeclaration, htrim, htrim', htemplated, halone]
  · rw [Display.ofDeclaration, Display.ofDeclaration, htemplated, halone]

/-- The preambles of a member template of a class template, with a template among the parameters of
the first, and with comparisons in both. -/
def memberTemplates : List TemplateList :=
  [{ before := " ".toList
     parameters := "template <class> class C, bool N = (2 > 1)".toList
     after := "\n".toList
     isBlank_before := List.forall_iff_forall_mem.mp (by decide)
     isParameters := by decide +kernel
     isBlank_after := List.forall_iff_forall_mem.mp (by decide) },
   { parameters := "class U, int A[(3 < 4)]".toList
     isBlank_before := by simp
     isParameters := by decide +kernel
     isBlank_after := by simp }]

theorem templates_transparent_member :
    withTemplates memberTemplates "void C<U>::f(U u)".toList =
        ("template <template <class> class C, bool N = (2 > 1)>\n" ++
          "template<class U, int A[(3 < 4)]>void C<U>::f(U u)").toList ∧
      (∀ c, "void C<U>::f(U u)".toList.head? = some c → isBlank c = false) ∧
      Text.leadingWord "void C<U>::f(U u)".toList ≠ "template".toList ∧
      Templated.ofText (withTemplates memberTemplates "void C<U>::f(U u)".toList) =
        ⟨some ("<template <class> class C, bool N = (2 > 1)> " ++
          "<class U, int A[(3 < 4)]>").toList, "void C<U>::f(U u)".toList⟩ ∧
      Kind.ofDeclaration (withTemplates memberTemplates "void C<U>::f(U u)".toList) = .function ∧
      Identifier.ofDeclaration (withTemplates memberTemplates "void C<U>::f(U u)".toList) =
        "C<U>::f".toList ∧
      Display.ofDeclaration (withTemplates memberTemplates "void C<U>::f(U u)".toList) =
        "void C<U>::f(U u)".toList := by
  have hstart : ∀ c, "void C<U>::f(U u)".toList.head? = some c → isBlank c = false := by
    intro c hc
    obtain rfl := Option.some.inj hc
    rfl
  have hword : Text.leadingWord "void C<U>::f(U u)".toList ≠ "template".toList := by decide
  have hne : memberTemplates ≠ [] := List.cons_ne_nil _ _
  obtain ⟨htemplated, hkind, hidentifier, hdisplay⟩ := templates_transparent hne hstart hword
  refine ⟨by decide +kernel, hstart, hword, htemplated.trans ?_, hkind.trans ?_,
    hidentifier.trans ?_, hdisplay.trans ?_⟩
  · decide +kernel
  · decide +kernel
  · decide +kernel
  · decide +kernel

end DocTree
