/-
What remains of a declaration with default arguments.

The minimal form of a declaration is its text up to the closing bracket of the parameter list,
without the default values and with blanks collapsed, and then what the scan keeps of the text
behind it:

* `Minimal.State.run_above` — what the scan has kept up to the outermost level stays as it is;
* `Minimal.behind` — what is kept of a text behind a parameter list;
* `minimalForm_erases_defaults` — so the default values are erased, and they alone.
-/
import DocTree.Proofs.DefaultArguments

namespace DocTree

namespace Minimal.State

variable {s t : State} {c : Char} {after : Option Char} {k x front list : Text}

/-! ### What has been kept before -/

/-- The scan with further characters kept before. -/
def above (s : State) (k : Text) : State := { s with kept := s.kept ++ k }

/-- The spaces that go with a default value are not among the characters kept before: the scan is
at the outermost level, or it has kept a character of its own that is not a space. -/
def IsFirm (s : State) : Prop :=
  (s.depth = 0 ∧ s.removing = none) ∨ ∃ d ∈ s.kept, d ≠ ' '

theorem keep_above (s : State) (k : Text) (c : Char) : (s.above k).keep c = (s.keep c).above k := by
  obtain ⟨kept, before, depth, literal, _ | angles⟩ := s <;> rfl

theorem outside_above (s : State) (k : Text) (c : Char) (after : Option Char) :
    (s.above k).outside c after = (s.outside c after).map (above · k) := by
  obtain ⟨kept, before, depth, literal, _ | angles⟩ := s <;>
  · simp only [outside, above]
    grind

/-- Only a scan in the outermost brackets meets a default value. -/
theorem exists_of_outside_eq_none (h : s.IsFirm) (hout : s.outside c after = none) :
    ∃ d ∈ s.kept, d ≠ ' ' := by
  refine h.resolve_left fun ⟨hdepth, _⟩ => ?_
  simp only [outside, hdepth] at hout
  grind

/-- The step: what has been kept before stays. -/
theorem next_above (h : s.IsFirm) (k : Text) (c : Char) (after : Option Char) :
    (s.above k).next c after = (s.next c after).above k := by
  have hstep : ∀ t : State, { (t.above k).keep c with before := some c } =
      ({ t.keep c with before := some c } : State).above k := fun t => by
    rw [keep_above]
    rfl
  cases hlit : s.literal with
  | some l =>
    rw [next_of_literal hlit, next_of_literal (s := s.above k) hlit]
    exact hstep { s with literal := l.next c }
  | none =>
    have habove := outside_above s k c after
    cases hout : s.outside c after with
    | some t =>
      rw [hout] at habove
      rw [next_of_outside hlit hout, next_of_outside (s := s.above k) hlit habove]
      exact hstep t
    | none =>
      rw [hout] at habove
      obtain ⟨d, hd, hne⟩ := exists_of_outside_eq_none h hout
      have hlit' : (s.above k).literal = none := hlit
      have hdrop : (s.kept ++ k).dropWhile (· == ' ') = s.kept.dropWhile (· == ' ') ++ k := by
        rw [List.dropWhile_append, if_neg]
        rw [List.isEmpty_iff, List.dropWhile_eq_nil_iff]
        exact fun hall => hne (by simpa using hall d hd)
      simp only [next, hlit, hlit', hout, habove, Option.map_none]
      simp only [above, hdrop]

theorem IsFirm.next (h : s.IsFirm) (c : Char) (after : Option Char) : (s.next c after).IsFirm := by
  rcases h with ⟨hdepth, hremoving⟩ | ⟨d, hd, hne⟩
  · cases hlit : s.literal with
    | some l =>
      rw [next_of_literal hlit]
      exact .inl ⟨by simp [keep, hremoving, hdepth], by simp [keep, hremoving]⟩
    | none =>
      -- a bracket leads away from the outermost level, and it is kept
      obtain ⟨t, hout, ht, hlevel⟩ : ∃ t, s.outside c after = some t ∧ t.removing = none ∧
          (t.depth = 0 ∨ c ≠ ' ') := by
        simp only [outside, hdepth, hremoving]
        grind
      rw [next_of_outside hlit hout]
      rcases hlevel with hlevel | hlevel
      · exact .inl ⟨by simp [keep, ht, hlevel], by simp [keep, ht]⟩
      · exact .inr ⟨c, by simp [keep, ht], hlevel⟩
  · exact .inr ⟨d, mem_kept_next hne hd c after, hne⟩

/-- The run: what has been kept before stays. -/
theorem run_above (h : s.IsFirm) (k x : Text) : (s.above k).run x = (s.run x).above k := by
  induction x generalizing s with
  | nil => rfl
  | cons c x ih => rw [run, next_above h, ih (h.next c x.head?), run]

/-! ### The parameter list -/

/-- The scan behind a parameter list. -/
def afterList (kept : Text) : State where
  kept := kept
  before := some ')'

/-- Up to the closing bracket of a list without default values, everything is kept. -/
theorem feed_collapse_list (hfront : ∀ c ∈ front, c ∉ delimiters)
    (hlist : ∀ c ∈ list, c ∉ delimiters) (heq : '=' ∉ list) (after : Option Char) :
    feed after {} (Text.collapse (front ++ '(' :: (list ++ [')']))) =
      afterList (Text.collapse (front ++ '(' :: (list ++ [')']))).reverse := by
  have hopen : isBlank '(' = false := by decide
  have hclose : isBlank ')' = false := by decide
  obtain ⟨z, hz, hzmem⟩ := Text.exists_squeeze_concat hopen false front.trimStart
  obtain ⟨w, hw, hwmem⟩ := Text.exists_squeeze_concat hclose false list
  have hzplain : ∀ c ∈ z, c ∉ delimiters := by
    intro c hc
    rcases hzmem c hc with rfl | hc
    · decide
    · exact hfront c ((List.dropWhile_sublist _).subset hc)
  have hwplain : ∀ c ∈ w, c ∉ delimiters := by
    intro c hc
    rcases hwmem c hc with rfl | hc
    · decide
    · exact hlist c hc
  have hweq : '=' ∉ w := by
    intro hc
    rcases hwmem _ hc with h | hc
    · exact absurd h (by decide)
    · exact heq hc
  have hcollapse : Text.collapse (front ++ '(' :: (list ++ [')'])) =
      z ++ '(' :: (w ++ [')']) := by
    rw [Text.collapse_append_cons hopen, Text.collapse_eq_squeeze, Text.trimStart_append_cons hopen,
      hz, hw, List.append_assoc]
    rfl
  have hinside : feed (some ')') (inList ('(' :: z.reverse) (some '(')) w =
      inList (w.reverse ++ '(' :: z.reverse) (w.getLast?.or (some '(')) :=
    feed_of_plain rfl rfl hwplain (.inr hweq)
  rw [hcollapse, feed_append, feed_of_plain rfl rfl hzplain (.inl (by decide)), List.append_nil]
  calc feed after _ ('(' :: (w ++ [')']))
      = feed after (inList ('(' :: z.reverse) (some '(')) (w ++ [')']) := rfl
    _ = feed after (inList (w.reverse ++ '(' :: z.reverse) (w.getLast?.or (some '('))) [')'] := by
        rw [feed_append, List.head?_cons, Option.some_or, hinside]
    _ = afterList (')' :: (w.reverse ++ '(' :: z.reverse)) := rfl
    _ = afterList (z ++ '(' :: (w ++ [')'])).reverse := by simp

end Minimal.State

/-- What the minimal form keeps of a text behind a parameter list. -/
def Minimal.behind (rest : Text) : Text :=
  ((State.afterList []).run (Text.squeeze false rest)).kept.reverse

/-- Without default values, the minimal form is the text up to the closing bracket with its blanks
collapsed, and then what is kept of the rest. -/
theorem minimalForm_eq_collapse_append {front list : Text}
    (hfront : ∀ c ∈ front, c ∉ Minimal.State.delimiters)
    (hlist : ∀ c ∈ list, c ∉ Minimal.State.delimiters) (heq : '=' ∉ list) (rest : Text) :
    minimalForm (front ++ '(' :: (list ++ ')' :: rest)) =
      Text.collapse (front ++ '(' :: (list ++ [')'])) ++ Minimal.behind rest := by
  have hclose : isBlank ')' = false := by decide
  have hsplit : Text.collapse (front ++ '(' :: (list ++ ')' :: rest)) =
      Text.collapse (front ++ '(' :: (list ++ [')'])) ++ Text.squeeze false rest := by
    have := Text.collapse_append_cons hclose (x := front ++ '(' :: list) (y := rest)
    simpa using this
  have hfirm : (Minimal.State.afterList []).IsFirm := .inl ⟨rfl, rfl⟩
  rw [minimalForm, hsplit, Minimal.State.run_append,
    Minimal.State.feed_collapse_list hfront hlist heq]
  refine (congrArg (fun s : Minimal.State => s.kept.reverse)
    (Minimal.State.run_above hfirm _ _)).trans ?_
  simp [Minimal.State.above, Minimal.behind]

namespace Parameter

variable {p : Parameter}

theorem isErasable_iff : p.IsErasable ↔
    (p.text.getLast?.any fun e => !isBlank e) = true ∧
      (p.text.all fun c => !Minimal.State.delimiters.contains c && c != '=') = true ∧
      ∀ d ∈ p.value?, DefaultValue.IsClosed d := by
  simp only [List.all_eq_true, Bool.and_eq_true, Bool.not_eq_true', List.contains_eq_mem,
    decide_eq_false_iff_not, bne_iff_ne]
  constructor
  · rintro ⟨⟨x, e, hx, he⟩, hplain, heq, hclosed⟩
    refine ⟨by simp [hx, he], fun c hc => ⟨hplain c hc, fun h => heq (h ▸ hc)⟩, hclosed⟩
  · rintro ⟨hlast, hplain, hclosed⟩
    cases he : p.text.getLast? with
    | none => simp [he] at hlast
    | some e =>
      obtain ⟨x, hx⟩ := List.getLast?_eq_some_iff.mp he
      refine ⟨⟨x, e, hx, by simpa [he] using hlast⟩, fun c hc => (hplain c hc).1, ?_, hclosed⟩
      exact fun hc => (hplain _ hc).2 rfl

instance (p : Parameter) : Decidable p.IsErasable := decidable_of_iff' _ isErasable_iff

end Parameter

theorem mem_parameterList {ps : List Text} {c : Char} (h : c ∈ parameterList ps) :
    c = ',' ∨ c = ' ' ∨ ∃ p ∈ ps, c ∈ p := by
  cases ps with
  | nil => simp [parameterList, Text.join] at h
  | cons p ps =>
    rw [parameterList, Text.join_cons, List.mem_append, List.mem_flatMap] at h
    rcases h with h | ⟨q, hq, h⟩
    · exact .inr (.inr ⟨p, by simp, h⟩)
    · simp at h
      grind

/-- **Default arguments are erased exactly.**  Let the text in front of a parameter list be without
brackets and literals, and every default value closed.  Then the minimal form is that of the same
declaration without default values, which has lost nothing else: it begins with all of the
declaration up to the closing bracket, with blanks collapsed, and goes on with what is kept of the
text behind it. -/
theorem minimalForm_erases_defaults {front : Text}
    (hfront : ∀ c ∈ front, c ∉ Minimal.State.delimiters) {ps : List Parameter}
    (hps : ∀ p ∈ ps, p.IsErasable) (rest : Text) :
    minimalForm (front ++ '(' :: (parameterList (ps.map Parameter.written) ++ ')' :: rest)) =
        minimalForm (front ++ '(' :: (parameterList (ps.map Parameter.text) ++ ')' :: rest)) ∧
      minimalForm (front ++ '(' :: (parameterList (ps.map Parameter.text) ++ ')' :: rest)) =
        Text.collapse (front ++ '(' :: (parameterList (ps.map Parameter.text) ++ [')'])) ++
          Minimal.behind rest := by
  have hlist : ∀ c ∈ parameterList (ps.map Parameter.text),
      c ∉ Minimal.State.delimiters ∧ c ≠ '=' := by
    intro c hc
    rcases mem_parameterList hc with rfl | rfl | ⟨q, hq, hc⟩
    · decide
    · decide
    · obtain ⟨p, hp, rfl⟩ := List.mem_map.mp hq
      exact ⟨(hps p hp).plain c hc, fun heq => (hps p hp).noDefault (heq ▸ hc)⟩
  exact ⟨minimalForm_parameterList hfront hps rest,
    minimalForm_eq_collapse_append hfront (fun c hc => (hlist c hc).1)
      (fun hc => (hlist _ hc).2 rfl) rest⟩

/-- Parameters with a template argument list and a default value that spans lines. -/
def wrappedParameters : List Parameter :=
  [⟨"std::map<int, char> table".toList, some "\x7b\x7d".toList⟩,
    ⟨"int a".toList, none⟩,
    ⟨"Pair p".toList, some "make<int,\n   char>(f(1,\t2), \"),\\\"=\", '\\'')".toList⟩]

theorem minimalForm_erases_wrappedParameters :
    (∀ p ∈ wrappedParameters, p.IsErasable) ∧
      minimalForm ("void  f(".toList ++ (parameterList (wrappedParameters.map Parameter.written) ++
          ") const".toList)) =
        "void f(std::map<int, char> table, int a, Pair p) const".toList := by
  have hps : ∀ p ∈ wrappedParameters, p.IsErasable := by decide
  have hfront : ∀ c ∈ "void  f".toList, c ∉ Minimal.State.delimiters :=
    List.forall_iff_forall_mem.mp (by decide)
  obtain ⟨herased, hrest⟩ := minimalForm_erases_defaults hfront hps " const".toList
  refine ⟨hps, (herased.trans hrest).trans ?_⟩
  decide

end DocTree
