/-
Comments written and read again.

A comment with some directives and lines of text can be written in line form or in block form.
Both are read as the same:

* `Comment.Form.firstLine`, `Comment.Form.nextLine`, `Comment.closing` — how a comment is written;
* `Comment.linesFrom_line`, `Comment.linesFrom_block` — a comment takes the lines it is written on;
* `Comment.plainLine_firstLine`, `Comment.plainLine_nextLine` — and each of them is read as the text
  that was written there;
* `Comment.collect_written` — so both forms give the directives and the text.
-/
import DocTree.Proofs.DirectiveTokens
import DocTree.Proofs.Trimming

namespace DocTree

/-! ### Occurrences -/

theorem Text.has_iff {t piece : Text} : t.has piece = true ↔ piece <:+: t := by
  unfold has
  induction t with
  | nil => cases piece <;> simp [splitFirst, List.isPrefixOf?]
  | cons c rest ih =>
    rw [splitFirst, List.infix_cons_iff, ← ih]
    cases hprefix : piece.isPrefixOf? (c :: rest) with
    | some after =>
      have hpiece : piece <+: c :: rest :=
        ⟨after, List.isPrefixOf?_eq_some_iff_append_eq.mp hprefix⟩
      simp [hpiece]
    | none =>
      have hpiece : ¬ piece <+: c :: rest := by
        rintro ⟨after, hafter⟩
        rw [List.isPrefixOf?_eq_some_iff_append_eq.mpr hafter] at hprefix
        exact absurd hprefix (by simp)
      simp [hpiece]

namespace Comment

open Text

variable {token t first opening : Text} {ts lines rest more : List Text}

/-! ### Writing -/

/-- The first line of a comment, with its directives. -/
def Form.firstLine (form : Form) (directives text : Text) : Text :=
  form.marker ++ directives ++ ' ' :: text

/-- A further line of a comment. -/
def Form.nextLine : Form → Text → Text
  | .line, text => "//! ".toList ++ text
  | .block, text => " * ".toList ++ text

/-- The end of a comment in block form. -/
def closing : Text := " */".toList

theorem has_close_firstLine (t : Text) :
    (Form.block.firstLine [] t).has "*/".toList = t.has "*/".toList := by
  rw [Bool.eq_iff_iff, has_iff, has_iff]
  show ['*', '/'] <:+: '/' :: '*' :: '!' :: ' ' :: t ↔ ['*', '/'] <:+: t
  simp [List.infix_cons_iff]

theorem has_close_nextLine (t : Text) :
    (Form.block.nextLine t).has "*/".toList = t.has "*/".toList := by
  rw [Bool.eq_iff_iff, has_iff, has_iff]
  show ['*', '/'] <:+: ' ' :: '*' :: ' ' :: t ↔ ['*', '/'] <:+: t
  simp [List.infix_cons_iff]

theorem has_close_closing (t : Text) : (t ++ closing).has "*/".toList = true :=
  has_iff.mpr ⟨t ++ [' '], [], by simp [closing]⟩

/-! ### The lines of a written comment -/

theorem trimStart_marker_append (form : Form) (t : Text) :
    trimStart (form.marker ++ t) = form.marker ++ t := by
  cases form <;> rfl

/-- A comment in line form ends in front of the first line that is no line comment. -/
theorem linesFrom_line (hmore : ∀ next, more.head? = some next → isLineComment next = false) :
    linesFrom (Form.line.firstLine [] t) (ts.map Form.line.nextLine ++ more) =
      (t :: ts).map Form.line.nextLine := by
  have hall : ∀ x ∈ (t :: ts).map Form.line.nextLine, isLineComment x = true := by
    intro x hx
    obtain ⟨u, -, rfl⟩ := List.mem_map.mp hx
    rfl
  have hend : more.takeWhile isLineComment = [] := by
    cases more with
    | nil => rfl
    | cons next more => exact List.takeWhile_cons_of_neg (by simp [hmore next rfl])
  have hopened : opened? (trimStart (Form.line.firstLine [] t)) = some (.line, ' ' :: t) := by
    rw [Form.firstLine, List.append_nil, trimStart_marker_append, opened?_marker_append]
  rw [linesFrom, hopened]
  show ((t :: ts).map Form.line.nextLine ++ more).takeWhile isLineComment = _
  rw [List.takeWhile_append_of_pos hall, hend, List.append_nil]

theorem throughClose_append {close : Text} (hlines : ∀ x ∈ lines, x.has "*/".toList = false)
    (hclose : close.has "*/".toList = true) (more : List Text) :
    throughClose (lines ++ close :: more) = lines ++ [close] := by
  induction lines with
  | nil => rw [List.nil_append, throughClose, if_pos hclose, List.nil_append]
  | cons x lines ih =>
    have hx : ¬ x.has "*/".toList = true := Bool.eq_false_iff.mp (hlines x (by simp))
    rw [List.cons_append, throughClose, if_neg hx, ih fun y hy => hlines y (by simp [hy])]
    rfl

theorem linesFrom_block (t : Text) (rest : List Text) :
    linesFrom (Form.block.firstLine [] t) rest =
      throughClose (Form.block.firstLine [] t :: rest) := by
  have hopened : opened? (trimStart (Form.block.firstLine [] t)) = some (.block, ' ' :: t) := by
    rw [Form.firstLine, List.append_nil, trimStart_marker_append, opened?_marker_append]
  rw [linesFrom, hopened]

/-! ### The text of a written comment -/

/-- Only a closing `*/` is dropped together with the blanks at the end. -/
theorem dropClose_of_has (h : t.has "*/".toList = false) : dropClose t = t.trimEnd := by
  have hnone : "/*".toList.isPrefixOf? t.trimEnd.reverse = none := by
    cases hprefix : "/*".toList.isPrefixOf? t.trimEnd.reverse with
    | none => rfl
    | some before =>
      have hend : ['*', '/'] <:+ t.trimEnd := by
        rw [← List.reverse_prefix]
        exact ⟨before, List.isPrefixOf?_eq_some_iff_append_eq.mp hprefix⟩
      have hhas := has_iff.mpr (hend.isInfix.trans (trimEnd_isPrefix t).isInfix)
      exact absurd (hhas.symm.trans h) (by simp)
  unfold dropClose
  dsimp only
  rw [hnone]

theorem dropClose_closing (t : Text) : dropClose (t ++ closing) = t.trimEnd := by
  have hend : (t ++ closing).trimEnd = t ++ closing :=
    trimEnd_append_of_ne_nil (y := closing) (by decide)
  have hreverse : (t ++ closing).reverse = "/*".toList ++ ' ' :: t.reverse := by
    simp [closing]
  have hbefore : (' ' :: t.reverse).reverse = t ++ [' '] := by simp
  unfold dropClose
  dsimp only
  rw [hend, hreverse, List.isPrefixOf?_eq_some_iff_append_eq.mpr rfl]
  dsimp only
  rw [hbefore]
  exact trimEnd_append_of_all (by decide)

/-- A marker with one space behind it is dropped. -/
theorem plainLine_firstLine (form : Form) (t : Text) :
    plainLine (form.firstLine [] t) = dropClose t := by
  rw [plainLine, Form.firstLine, List.append_nil, trimStart_marker_append]
  cases form <;> rfl

theorem plainLine_nextLine (form : Form) (t : Text) :
    plainLine (form.nextLine t) = dropClose t := by
  cases form <;> rfl

/-! ### Both forms -/

/-- A comment of `n` lines with the given directives, and an item with the given text for it. -/
structure Reads (comment : Collected) (token : Text) (n : Nat) (text : Text) : Prop where
  directives : comment.directives = token
  length : comment.length = n
  item : ∀ location, (Source.itemOf comment location).plain = some text ∧
    (Source.itemOf comment location).summary = some (summary text)

/-- A comment whose lines are known is read as the texts on them. -/
theorem reads_of_lines (htoken : splitToken first = (token, opening))
    (hlines : linesFrom opening rest = lines) (hne : lines ≠ [])
    (hbreak : ∀ x ∈ lines, x ≠ [] ∧ '\n' ∉ x) :
    Reads (collect first rest) token lines.length (join ['\n'] (lines.map plainLine)).trim := by
  have hraw : (collect first rest).raw = join ['\n'] lines := by
    show dropEndWhile (· == '\n') (join ['\n'] (linesFrom (splitToken first).2 rest)) = _
    rw [htoken, hlines, dropEndWhile_join hne hbreak]
  have hsplit : (join ['\n'] lines).splitOn '\n' = lines :=
    List.splitOn_intercalate _ (fun x hx => (hbreak x hx).2) hne
  have hplain : plain (collect first rest).raw = (join ['\n'] (lines.map plainLine)).trim := by
    rw [hraw, plain, hsplit]
  refine ⟨?_, ?_, fun location => ?_⟩
  · show (splitToken first).1 = token
    rw [htoken]
  · show (linesFrom (splitToken first).2 rest).length = lines.length
    rw [htoken, hlines]
  · rw [← hplain]
    exact ⟨rfl, rfl⟩

theorem splitToken_firstLine (form : Form) (htoken : IsDirectives token)
    (hinside : ∀ d ∈ token, isBlank d = false ∧ d ≠ '*') (t : Text) :
    splitToken (form.firstLine token t) = (token, form.firstLine [] t) := by
  have hempty : form.firstLine [] t = form.marker ++ ' ' :: t := by
    rw [Form.firstLine, List.append_nil]
  rw [hempty]
  exact splitToken_marker_append form htoken hinside t

theorem ne_nil_firstLine (form : Form) (h : '\n' ∉ t) :
    form.firstLine [] t ≠ [] ∧ '\n' ∉ form.firstLine [] t := by
  cases form <;> simp [Form.firstLine, Form.marker, h]

theorem ne_nil_nextLine (form : Form) (h : '\n' ∉ t) :
    form.nextLine t ≠ [] ∧ '\n' ∉ form.nextLine t := by
  cases form <;> simp [Form.nextLine, h]

section Written

variable (htoken : IsDirectives token) (hinside : ∀ d ∈ token, isBlank d = false ∧ d ≠ '*')
  (htexts : ∀ x ∈ t :: ts, '\n' ∉ x ∧ x.has "*/".toList = false)

include htexts

theorem map_plainLine_nextLine (form : Form) :
    (ts.map form.nextLine).map plainLine = ts.map trimEnd := by
  rw [List.map_map]
  refine List.map_congr_left fun x hx => ?_
  exact (plainLine_nextLine form x).trans (dropClose_of_has (htexts x (by simp [hx])).2)

theorem plainLine_firstLine_of_has (form : Form) :
    plainLine (form.firstLine [] t) = trimEnd t :=
  (plainLine_firstLine form t).trans (dropClose_of_has (htexts t (by simp)).2)

include htoken hinside

theorem reads_line (hmore : ∀ next, more.head? = some next → ¬ "//".toList <+: trimStart next) :
    Reads (collect (Form.line.firstLine token t) (ts.map Form.line.nextLine ++ more)) token
      (ts.length + 1) (join ['\n'] ((t :: ts).map trimEnd)).trim := by
  have hends : ∀ next, more.head? = some next → isLineComment next = false := by
    intro next hnext
    rw [isLineComment, Bool.eq_false_iff, ne_eq, List.isPrefixOf_iff_prefix]
    exact hmore next hnext
  have hread := reads_of_lines (splitToken_firstLine .line htoken hinside t)
    (linesFrom_line hends) (by simp) fun x hx => by
      obtain ⟨u, hu, rfl⟩ := List.mem_map.mp hx
      exact ne_nil_nextLine .line (htexts u hu).1
  have hfirst : plainLine (Form.line.nextLine t) = trimEnd t :=
    plainLine_firstLine_of_has htexts .line
  rw [List.map_cons, List.map_cons, map_plainLine_nextLine htexts, hfirst] at hread
  simpa using hread

theorem reads_block (more : List Text) :
    Reads (collect (Form.block.firstLine token t) (ts.map Form.block.nextLine ++ closing :: more))
      token (ts.length + 2) (join ['\n'] ((t :: ts).map trimEnd)).trim := by
  have hopen : ∀ x ∈ Form.block.firstLine [] t :: ts.map Form.block.nextLine,
      x.has "*/".toList = false := by
    intro x hx
    rcases List.mem_cons.mp hx with rfl | hx
    · exact (has_close_firstLine t).trans (htexts t (by simp)).2
    · obtain ⟨u, hu, rfl⟩ := List.mem_map.mp hx
      exact (has_close_nextLine u).trans (htexts u (by simp [hu])).2
  have hclose : closing.has "*/".toList = true := has_close_closing []
  have hlines := (linesFrom_block t (ts.map Form.block.nextLine ++ closing :: more)).trans
    (throughClose_append hopen hclose more)
  have hread := reads_of_lines (splitToken_firstLine .block htoken hinside t) hlines (by simp)
    fun x hx => by
      rcases List.mem_append.mp hx with hx | hx
      · rcases List.mem_cons.mp hx with rfl | hx
        · exact ne_nil_firstLine .block (htexts t (by simp)).1
        · obtain ⟨u, hu, rfl⟩ := List.mem_map.mp hx
          exact ne_nil_nextLine .block (htexts u (by simp [hu])).1
      · rw [List.mem_singleton.mp hx]
        decide
  have hclosing : plainLine closing = [] := by decide
  rw [List.map_append, List.map_cons, List.map_cons, List.map_nil, map_plainLine_nextLine htexts,
    plainLine_firstLine_of_has htexts, hclosing, ← List.map_cons, join_concat (by simp),
    List.append_nil, trim_append_of_all (by decide)] at hread
  simpa using hread

theorem reads_closedLine (hts : ts = []) (more : List Text) :
    Reads (collect (Form.block.firstLine token (t ++ closing)) more) token 1
      (join ['\n'] ((t :: ts).map trimEnd)).trim := by
  have hclose : (Form.block.firstLine [] (t ++ closing)).has "*/".toList = true :=
    (has_close_firstLine _).trans (has_close_closing t)
  have hlines : linesFrom (Form.block.firstLine [] (t ++ closing)) more =
      [Form.block.firstLine [] (t ++ closing)] := by
    rw [linesFrom_block, throughClose, if_pos hclose]
  have hbreak : '\n' ∉ t ++ closing := by simp [closing, (htexts t (by simp)).1]
  have hread := reads_of_lines (splitToken_firstLine .block htoken hinside _) hlines (by simp)
    fun x hx => by
      rw [List.mem_singleton.mp hx]
      exact ne_nil_firstLine .block hbreak
  rw [List.map_singleton, plainLine_firstLine, dropClose_closing] at hread
  rw [hts]
  exact hread

end Written

/-- **Both forms of a comment are read as what was written.**  Take directives that fit into a
token, and lines of text without breaks and without `*/`.  They can be written in line form, in
front of the end or of a line that is no line comment, even behind blanks; in block form, in front
of anything; and, if there is one line of text, on one line in block form.  Read again, the comment
has the directives and the lines that were written, and its text is the lines of text without the
blanks at their ends, trimmed as a whole. -/
theorem collect_written (htoken : IsDirectives token)
    (hinside : ∀ d ∈ token, isBlank d = false ∧ d ≠ '*')
    (htexts : ∀ x ∈ t :: ts, '\n' ∉ x ∧ x.has "*/".toList = false) :
    (∀ more, (∀ next, more.head? = some next → ¬ "//".toList <+: trimStart next) →
        Reads (collect (Form.line.firstLine token t) (ts.map Form.line.nextLine ++ more)) token
          (ts.length + 1) (join ['\n'] ((t :: ts).map trimEnd)).trim) ∧
      (∀ more, Reads (collect (Form.block.firstLine token t)
          (ts.map Form.block.nextLine ++ closing :: more)) token
          (ts.length + 2) (join ['\n'] ((t :: ts).map trimEnd)).trim) ∧
      (ts = [] → ∀ more, Reads (collect (Form.block.firstLine token (t ++ closing)) more) token
          1 (join ['\n'] ((t :: ts).map trimEnd)).trim) :=
  ⟨fun _ hmore => reads_line htoken hinside htexts hmore, reads_block htoken hinside htexts,
    reads_closedLine htoken hinside htexts⟩

/-- A comment with a group and a sign, an empty line and a line that looks like a marker. -/
theorem collect_written_feed :
    IsDirectives "[Zoo]>".toList ∧
      Reads (collect "//![Zoo]> Feeds.".toList
        (["//! ", "//! * Daily. ", "void feed();"].map String.toList)) "[Zoo]>".toList 3
        "Feeds.\n\n* Daily.".toList ∧
      Reads (collect "/*![Zoo]> Feeds.".toList
        ([" * ", " * * Daily. ", " */", "void feed();"].map String.toList)) "[Zoo]>".toList 4
        "Feeds.\n\n* Daily.".toList := by
  have htoken : IsDirectives ('[' :: "Zoo".toList ++ ']' :: ">".toList) :=
    .group (by decide) (List.all_eq_true.mp (by decide))
  have hinside : ∀ d ∈ "[Zoo]>".toList, isBlank d = false ∧ d ≠ '*' := by
    intro d hd
    have hall : "[Zoo]>".toList.all (fun d => !isBlank d && d != '*') = true := by decide
    simpa using List.all_eq_true.mp hall d hd
  have htexts : ∀ x ∈ "Feeds.".toList :: [[], "* Daily. ".toList],
      '\n' ∉ x ∧ Text.has x "*/".toList = false := by decide
  have hmore : ∀ next, ["void feed();".toList].head? = some next →
      ¬ "//".toList <+: trimStart next := by
    rintro next ⟨⟩
    decide
  obtain ⟨hline, hblock, -⟩ := collect_written htoken hinside htexts
  exact ⟨htoken, hline _ hmore, hblock _⟩

/-- A line behind the comment that does not start with `//` is taken all the same, if only blanks
stand in front of it. -/
theorem not_reads_indentedLine :
    ¬ "//".toList <+: "  // B".toList ∧
      (collect (Form.line.firstLine [] "A".toList) ["  // B".toList]).length = 2 ∧
      ¬ Reads (collect (Form.line.firstLine [] "A".toList) ["  // B".toList]) [] 1 "A".toList := by
  have hlength : (collect (Form.line.firstLine [] "A".toList) ["  // B".toList]).length = 2 := by
    decide
  refine ⟨by decide, hlength, fun h => ?_⟩
  have hone := h.length
  rw [hlength] at hone
  exact absurd hone (by decide)

end Comment

end DocTree
