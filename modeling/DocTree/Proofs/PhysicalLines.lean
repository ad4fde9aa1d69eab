/-
Line numbers and physical lines.

The lines of a location are counted as the reader cuts them.  It cuts a file at its line ends, but
also at separators such as the form feed, which end no line of the file:

* `Text.lineEnds`, `isSeparator` — the line ends of a text, and what else it is cut at;
* `Text.hasLine_of_lines` — every line begins behind as many breaks as there are lines before it;
* `Opening` — a place in a text at which a comment opens;
* `Source.exists_opening` — every item of a file has its opening;
* `Extraction.shows_extract` — an extraction reports no other locations;
* `Extraction.line_eq_iff` — so a line is numbered as in the file exactly when no separator precedes
  the marker.
-/
import DocTree.Proofs.Coverage
import DocTree.Proofs.Reextraction

namespace DocTree

/-! ### Breaks of a text -/

/-- Whether a character ends a line for the reader, but no line of a file. -/
def isSeparator (c : Char) : Bool := isLineBreak c && c != '\n' && c != '\r'

namespace Text

variable {t x y line : Text} {before rest : List Text}

/-- The number of line ends of a text: a line feed, a carriage return, or both in this order. -/
def lineEnds : Text → Nat
  | [] => 0
  | '\r' :: '\n' :: rest => lineEnds rest + 1
  | c :: rest => (if c == '\n' || c == '\r' then 1 else 0) + lineEnds rest

/-- The number of lines that the reader cuts off a text. -/
def breaks (t : Text) : Nat := t.lineEnds + t.countP isSeparator

theorem lineEnds_cons {c : Char} (h : ∀ more, c = '\r' → t ≠ '\n' :: more) :
    lineEnds (c :: t) = (if c == '\n' || c == '\r' then 1 else 0) + lineEnds t := by
  rw [lineEnds]
  rintro more rfl rfl
  exact h more rfl rfl

theorem breaks_cons {c : Char} (h : ∀ more, c = '\r' → t ≠ '\n' :: more) :
    breaks (c :: t) = (if isLineBreak c then 1 else 0) + breaks t := by
  have hfeed : isLineBreak '\n' = true := by decide
  have hreturn : isLineBreak '\r' = true := by decide
  rw [breaks, breaks, lineEnds_cons h, List.countP_cons, isSeparator]
  by_cases hn : c = '\n'
  · subst hn
    simp [hfeed]
    omega
  · by_cases hr : c = '\r'
    · subst hr
      simp [hreturn]
      omega
    · simp [hn, hr]
      split <;> omega

theorem breaks_return_feed (t : Text) : breaks ('\r' :: '\n' :: t) = 1 + breaks t := by
  have hfeed : isSeparator '\n' = false := by decide
  have hreturn : isSeparator '\r' = false := by decide
  simp only [breaks, lineEnds, List.countP_cons, hfeed, hreturn]
  simp
  omega

theorem lineEnds_eq_zero (h : ∀ c ∈ t, isLineBreak c = false) : lineEnds t = 0 := by
  have hfeed : isLineBreak '\n' = true := by decide
  have hreturn : isLineBreak '\r' = true := by decide
  fun_induction lineEnds t with
  | case1 => rfl
  | case2 rest ih =>
    rw [h '\r' (by simp)] at hreturn
    exact absurd hreturn (by simp)
  | case3 c rest hpair ih =>
    have hc := h c (by simp)
    have hne : ¬ (c == '\n' || c == '\r') = true := by
      rw [Bool.or_eq_true, beq_iff_eq, beq_iff_eq]
      rintro (rfl | rfl)
      · exact absurd (hfeed.symm.trans hc) (by simp)
      · exact absurd (hreturn.symm.trans hc) (by simp)
    rw [if_neg hne, ih fun d hd => h d (by simp [hd])]

theorem lineEnds_append (h : ∀ c ∈ y, isLineBreak c = false) :
    lineEnds (x ++ y) = lineEnds x := by
  fun_induction lineEnds x with
  | case1 => exact lineEnds_eq_zero h
  | case2 rest ih => rw [List.cons_append, List.cons_append, lineEnds, ih]
  | case3 c rest hpair ih =>
    rw [List.cons_append, lineEnds_cons, ih]
    rintro more rfl heq
    -- the line feed stands in the first text, which is excluded, or in the second
    cases rest with
    | nil =>
      have hfeed : isLineBreak '\n' = false := h _ (by simp [show y = _ from heq])
      exact absurd hfeed (by decide)
    | cons d rest =>
      obtain ⟨rfl, -⟩ := List.cons.inj heq
      exact hpair rest rfl rfl

theorem lines_cons {c : Char} (h : ∀ more, c = '\r' → t ≠ '\n' :: more) :
    lines (c :: t) =
      if isLineBreak c then [] :: lines t
      else (c :: (lines t).headD []) :: (lines t).tail := by
  rw [lines.eq_3 c t h]
  cases lines t <;> rfl

/-- Unified line ends are cut like those of the file. -/
theorem lines_unifyBreaks (t : Text) : t.unifyBreaks.lines = t.lines := by
  fun_induction unifyBreaks t with
  | case1 => rfl
  | case2 rest ih =>
    rw [lines_cons (by simp), ih, lines]
    rfl
  | case3 c rest hpair ih =>
    have hrest : ∀ more, c = '\r' → rest ≠ '\n' :: more :=
      fun more hc heq => hpair more hc heq
    by_cases hc : c = '\r'
    · subst hc
      rw [lines_cons (c := '\r') hrest, if_pos (beq_self_eq_true _), lines_cons (by simp), ih]
      rfl
    · have hne : (c == '\r') = false := by simpa using hc
      rw [lines_cons hrest, hne, if_neg (by simp), lines_cons fun _ h => absurd h hc, ih]

/-- The text is empty or ends in a break, so that a line may begin behind it. -/
def EndsLine (t : Text) : Prop := t = [] ∨ ∃ x c, t = x ++ [c] ∧ isLineBreak c = true

theorem EndsLine.cons (h : t.EndsLine) {c : Char} (hc : isLineBreak c = true ∨ t ≠ []) :
    EndsLine (c :: t) := by
  rcases h with rfl | ⟨x, d, rfl, hd⟩
  · exact .inr ⟨[], c, rfl, hc.resolve_right (by simp)⟩
  · exact .inr ⟨c :: x, d, rfl, hd⟩

/-- A text begins with its first line. -/
theorem isPrefix_of_lines (h : t.lines = line :: rest) : line <+: t := by
  fun_induction lines t generalizing line rest with
  | case1 => exact absurd h (by simp)
  | case2 | case3 =>
    obtain ⟨rfl, -⟩ := List.cons.inj h
    exact List.nil_prefix
  | case4 c text =>
    obtain ⟨rfl, -⟩ := List.cons.inj h
    exact ⟨text, rfl⟩
  | case5 c text hpair hc first others hlines ih =>
    obtain ⟨rfl, -⟩ := List.cons.inj h
    exact List.prefix_cons_inj c |>.mpr (ih hlines)

/-- Behind `n` breaks, a line begins in the text, with the given lines after it. -/
def HasLine (t : Text) (n : Nat) (line : Text) (rest : List Text) : Prop :=
  ∃ front more : Text, t = front ++ (line ++ more) ∧ front.EndsLine ∧
    (line ++ more).lines = line :: rest ∧ front.breaks = n

theorem hasLine_zero (h : t.lines = line :: rest) : t.HasLine 0 line rest := by
  obtain ⟨more, rfl⟩ := isPrefix_of_lines h
  exact ⟨[], more, rfl, .inl rfl, h, rfl⟩

theorem HasLine.return_feed {n : Nat} (h : t.HasLine n line rest) :
    HasLine ('\r' :: '\n' :: t) (n + 1) line rest := by
  obtain ⟨front, more, rfl, hends, hlines, rfl⟩ := h
  refine ⟨'\r' :: '\n' :: front, more, rfl, ?_, hlines, ?_⟩
  · exact (hends.cons (.inl (by decide))).cons (.inr (by simp))
  · rw [breaks_return_feed, Nat.add_comm]

theorem HasLine.cons {n : Nat} {c : Char} (h : t.HasLine n line rest)
    (hpair : ∀ more, c = '\r' → t ≠ '\n' :: more) (hc : isLineBreak c = true ∨ n ≠ 0) :
    HasLine (c :: t) ((if isLineBreak c then 1 else 0) + n) line rest := by
  obtain ⟨front, more, rfl, hends, hlines, rfl⟩ := h
  refine ⟨c :: front, more, rfl, hends.cons (hc.imp_right ?_), hlines, breaks_cons ?_⟩
  · rintro hn rfl
    exact hn rfl
  · rintro rest hreturn rfl
    exact hpair _ hreturn rfl

/-- Every line begins behind as many breaks as there are lines before it. -/
theorem hasLine_of_lines (h : t.lines = before ++ line :: rest) :
    t.HasLine before.length line rest := by
  induction t using lines.induct generalizing before with
  | case1 => exact absurd h (by simp [lines])
  | case2 text ih =>
    rcases before with _ | ⟨first, before⟩
    · exact hasLine_zero h
    · rw [lines] at h
      exact (ih (List.cons.inj h).2).return_feed
  | case3 c text hpair hc ih =>
    rcases before with _ | ⟨first, before⟩
    · exact hasLine_zero h
    · rw [lines_cons hpair, if_pos hc] at h
      have := (ih (List.cons.inj h).2).cons hpair (.inl hc)
      rwa [if_pos hc, Nat.add_comm] at this
  | case4 c text hpair hc hnil ih =>
    rcases before with _ | ⟨first, before⟩
    · exact hasLine_zero h
    · rw [lines_cons hpair, if_neg hc, hnil] at h
      exact absurd (List.cons.inj h).2 (by simp)
  | case5 c text hpair hc cut others hlines ih =>
    rcases before with _ | ⟨first, before⟩
    · exact hasLine_zero h
    · rw [lines_cons hpair, if_neg hc, hlines] at h
      -- the first line goes on, so the same breaks precede the one looked for
      have hcut : lines text = (cut :: before) ++ line :: rest := by
        rw [hlines, List.cons_append]
        exact congrArg (cut :: ·) (List.cons.inj h).2
      have := (ih hcut).cons hpair (.inr (by simp))
      rwa [if_neg hc, Nat.zero_add] at this

end Text

/-! ### Where comments open -/

/-- A line that starts a comment consists of blanks, a marker and further text. -/
theorem Comment.exists_of_startsAt {line : Text} (h : startsAt line = true) :
    ∃ (indent : Text) (form : Form) (more : Text), line = indent ++ (form.marker ++ more) ∧
      ∀ c ∈ indent, isBlank c = true := by
  obtain ⟨⟨form, more⟩, hmore⟩ := Option.isSome_iff_exists.mp h
  refine ⟨line.takeWhile isBlank, form, more, ?_, fun c hc => List.mem_takeWhile_imp hc⟩
  rw [← opened?_eq_some.mp hmore]
  exact List.takeWhile_append_dropWhile.symm

/-- A place in a text at which a comment opens, with only blanks between the start of the line and
its marker. -/
structure Opening where
  /-- the text in front of the line -/
  front : Text
  indent : Text
  form : Comment.Form
  /-- the text behind the marker -/
  more : Text
  endsLine : front.EndsLine
  blank : ∀ c ∈ indent, isBlank c = true ∧ isLineBreak c = false

namespace Opening

/-- The text in front of the marker. -/
def before (o : Opening) : Text := o.front ++ o.indent

/-- The text from the start of the line on. -/
def onward (o : Opening) : Text := o.indent ++ (o.form.marker ++ o.more)

/-- The whole text. -/
def text (o : Opening) : Text := o.before ++ (o.form.marker ++ o.more)

/-- The item is read at the opening. -/
def Gives (o : Opening) (item : Item) : Prop :=
  ∃ location first rest, o.onward.lines = first :: rest ∧
    item = (Source.itemAt location first rest).1

theorem breaks_before (o : Opening) : o.before.breaks = o.front.breaks := by
  have hnone : o.indent.countP isSeparator = 0 := by
    rw [List.countP_eq_zero]
    intro c hc
    simp [isSeparator, (o.blank c hc).2]
  rw [before, Text.breaks, Text.lineEnds_append fun c hc => (o.blank c hc).2, List.countP_append,
    hnone, Text.breaks, Nat.add_zero]

end Opening

/-- Every item of a file is read at an opening, and its line counts the breaks in front of it. -/
theorem Source.exists_opening {file : Text} {bytes : List UInt8} {item : Item}
    (h : item ∈ scan file (Extraction.linesOf bytes)) :
    ∃ o : Opening, o.text = Utf8.decodeLossy bytes ∧ o.Gives item ∧
      item.locations = [⟨file, (1 + o.before.breaks : Nat)⟩] := by
  obtain ⟨before, line, rest, hlines, hstart, rfl⟩ := exists_itemAt_of_mem_scanFrom h
  rw [Extraction.linesOf, Text.lines_unifyBreaks] at hlines
  obtain ⟨front, tail, htext, hends, htail, hbreaks⟩ := Text.hasLine_of_lines hlines
  obtain ⟨indent, form, more, rfl, hblank⟩ := Comment.exists_of_startsAt hstart
  have hmem : indent ++ (form.marker ++ more) ∈ (Utf8.decodeLossy bytes).lines := by
    rw [hlines]
    simp
  have hindent : ∀ c ∈ indent, isBlank c = true ∧ isLineBreak c = false := fun c hc =>
    ⟨hblank c hc, Text.not_isLineBreak_of_mem_lines _ _ hmem c (List.mem_append_left _ hc)⟩
  let o : Opening := ⟨front, indent, form, more ++ tail, hends, hindent⟩
  have honward : o.onward = indent ++ (form.marker ++ more) ++ tail := by
    simp [o, Opening.onward]
  refine ⟨o, ?_, ⟨_, _, _, honward ▸ htail, rfl⟩, ?_⟩
  · rw [htext]
    simp [o, Opening.text, Opening.before]
  · rw [locations_itemAt, o.breaks_before, hbreaks]

/-! ### Locations of an extraction -/

/-- An insertion brings no locations but those of the item. -/
theorem Tree.shows_insert_cases {t : Tree} {parent q : Position} {x : Item} {l : Location}
    (h : (t.insert parent x).1.Shows q l) : t.Shows q l ∨ l ∈ x.locations := by
  cases hparent : t.get? parent with
  | none =>
    rw [insert, hparent] at h
    exact .inl h
  | some node =>
    rw [Shows, item?_insert hparent] at h
    split at h
    · obtain ⟨y, hy, hl⟩ := h
      obtain rfl := Option.some.inj hy
      cases hold : t.item? q with
      | none => exact .inr (by simpa [hold] using hl)
      | some z =>
        rw [hold] at hl
        exact (Item.mem_addLocations.mp hl).imp_left fun hl => ⟨z, hold, hl⟩
    · exact .inl h

/-- Placing items brings no locations but theirs, whether or not it fails. -/
theorem Source.shows_placeFrom {t : Tree} {cursor : Cursor} {items : List Item} {q : Position}
    {l : Location} (h : (placeFrom t cursor items).tree.Shows q l) :
    t.Shows q l ∨ ∃ item ∈ items, l ∈ item.locations := by
  induction items generalizing t cursor with
  | nil => exact .inl h
  | cons item rest ih =>
    cases hplace : t.place cursor item with
    | error e =>
      rw [Tree.tree_placeFrom_of_error hplace] at h
      exact .inl h
    | ok placed =>
      simp only [placeFrom, hplace] at h
      rcases ih h with h | ⟨other, hother, hl⟩
      · obtain ⟨parent, x, hdest, htree, -⟩ := Tree.place_eq_ok_iff.mp hplace
        obtain ⟨n, d, m, a, rfl⟩ := Tree.exists_eq_of_destination hdest
        rw [htree] at h
        exact (Tree.shows_insert_cases h).imp_right fun hl => ⟨item, by simp, hl⟩
      · exact .inr ⟨other, by simp [hother], hl⟩

namespace Extraction

variable {s : Surroundings} {settings : Settings} {t : Tree} {files : List Path} {p : Path}
  {q : Position} {l : Location}

/-- The item is collected from one of the files, which has the given bytes. -/
def Collects (s : Surroundings) (settings : Settings) (files : List Path) (bytes : List UInt8)
    (item : Item) : Prop :=
  ∃ p ∈ files, settings.supports p = true ∧ s.read p = .file bytes ∧
    item ∈ Source.scan (p.display s.cwd settings.sourceDir) (linesOf bytes)

theorem shows_readFile (h : (readFile s settings t p).tree.Shows q l) :
    t.Shows q l ∨ ∃ bytes item, Collects s settings [p] bytes item ∧ l ∈ item.locations := by
  unfold readFile at h
  split at h
  · exact .inl h
  · rename_i hsupports
    dsimp only at h
    split at h
    · exact .inl h
    · exact .inl h
    · exact .inl h
    · rename_i bytes hread
      have hplaced : (Source.placeAll t (p.display s.cwd settings.sourceDir)
          (linesOf bytes)).tree.Shows q l := by
        split at h <;> exact h
      rcases Source.shows_placeFrom hplaced with h | ⟨item, hitem, hl⟩
      · exact .inl h
      · exact .inr ⟨bytes, item, ⟨p, by simp, by simpa using hsupports, hread, hitem⟩, hl⟩

theorem shows_readFiles (h : (readFiles s settings t files).tree.Shows q l) :
    t.Shows q l ∨ ∃ bytes item, Collects s settings files bytes item ∧ l ∈ item.locations := by
  induction files generalizing t with
  | nil => exact .inl h
  | cons p rest ih =>
    have hfirst : (readFile s settings t p).tree.Shows q l → t.Shows q l ∨
        ∃ bytes item, Collects s settings (p :: rest) bytes item ∧ l ∈ item.locations := by
      intro h
      refine (shows_readFile h).imp_right ?_
      rintro ⟨bytes, item, ⟨p', hp', hcollects⟩, hl⟩
      obtain rfl := List.mem_singleton.mp hp'
      exact ⟨bytes, item, ⟨p', by simp, hcollects⟩, hl⟩
    rw [readFiles] at h
    dsimp only at h
    split at h
    · exact hfirst h
    · rcases ih h with h | ⟨bytes, item, ⟨p', hp', hcollects⟩, hl⟩
      · exact hfirst h
      · exact .inr ⟨bytes, item, ⟨p', by simp [hp'], hcollects⟩, hl⟩

/-- An extraction reports the locations that were there before and those of the items it has
collected, and no others. -/
theorem shows_extract (h : (extract s settings t files).tree.Shows q l) :
    (∃ q, t.Shows q l) ∨
      ∃ bytes item, Collects s settings files bytes item ∧ l ∈ item.locations := by
  obtain ⟨q', h'⟩ : ∃ q', (readFiles s settings t files).tree.Shows q' l := by
    rw [extract] at h
    split at h
    · exact ⟨q, h⟩
    · dsimp only at h
      split at h
      · obtain ⟨y, hy, hl⟩ := h
        obtain ⟨q', hq', -⟩ := (Tree.Relocates.sort _).onto q y hy
        exact ⟨q', y, hq', hl⟩
      · exact ⟨q, h⟩
  exact (shows_readFiles h').imp_left fun h => ⟨q', h⟩

/-- **Which line is reported.**  Whatever an extraction collects from a file opens somewhere in its
text, and the line of its location is one more than the number of line ends and separators in front
of the marker: it is the line of the file exactly when no separator precedes the marker.  The tree
shows no other locations, besides those that were there before. -/
theorem line_eq_iff (s : Surroundings) (settings : Settings) (t : Tree) (files : List Path) :
    (∀ bytes item, Collects s settings files bytes item →
      ∃ (o : Opening) (file : Text) (line : Nat),
      o.text = Utf8.decodeLossy bytes ∧ o.Gives item ∧ item.locations = [⟨file, line⟩] ∧
      line = 1 + o.before.lineEnds + o.before.countP isSeparator ∧
      (line = 1 + o.before.lineEnds ↔ ∀ c ∈ o.before, isSeparator c = false)) ∧
    ∀ q l, (extract s settings t files).tree.Shows q l → (∃ q, t.Shows q l) ∨
      ∃ bytes item, Collects s settings files bytes item ∧ item.locations = [l] := by
  have hopening : ∀ {bytes item}, Collects s settings files bytes item → ∃ (o : Opening)
      (file : Text), o.text = Utf8.decodeLossy bytes ∧ o.Gives item ∧
        item.locations = [⟨file, (1 + o.before.breaks : Nat)⟩] := by
    rintro bytes item ⟨p, -, -, -, hitem⟩
    obtain ⟨o, ho⟩ := Source.exists_opening hitem
    exact ⟨o, _, ho⟩
  refine ⟨fun bytes item hcollects => ?_, fun q l hshows => ?_⟩
  · obtain ⟨o, file, htext, hgives, hlocations⟩ := hopening hcollects
    have hline : 1 + o.before.breaks = 1 + o.before.lineEnds + o.before.countP isSeparator := by
      rw [Text.breaks]
      omega
    refine ⟨o, file, _, htext, hgives, hlocations, hline, ?_⟩
    rw [hline, Nat.add_eq_left, List.countP_eq_zero]
    simp
  · refine (shows_extract hshows).imp_right ?_
    rintro ⟨bytes, item, hcollects, hl⟩
    obtain ⟨o, file, -, -, hlocations⟩ := hopening hcollects
    rw [hlocations, List.mem_singleton] at hl
    exact ⟨bytes, item, hcollects, hlocations.trans (by rw [hl])⟩

/-- The surroundings in which `a.h` has the given text. -/
def oneHeader (text : Text) : Surroundings where
  cwd := []
  read := fun p =>
    if p.names = ["a.h".toList] then .file (text.map fun c => UInt8.ofNat c.toNat) else .missing

def headerPath : Path := .ofText "a.h".toList

/-- A header with line ends of each kind. -/
def mixedEnds : Text := "int x;\r\n\r//! A.\nclass A;\n  /*! B. */\r\nclass B;".toList

/-- The lines are those of the file. -/
theorem line_eq_mixedEnds :
    ∃ bytes, (oneHeader mixedEnds).read headerPath = .file bytes ∧
      (Source.scan "a.h".toList (linesOf bytes)).map Item.locations =
        [[⟨"a.h".toList, 3⟩], [⟨"a.h".toList, 5⟩]] ∧
      ∀ item ∈ Source.scan "a.h".toList (linesOf bytes), ∃ o : Opening,
        o.text = mixedEnds ∧ o.Gives item ∧
          ∃ file, item.locations = [⟨file, (1 + o.before.lineEnds : Nat)⟩] := by
  refine ⟨_, rfl, by decide +kernel, fun item hitem => ?_⟩
  have hdisplay : headerPath.display (oneHeader mixedEnds).cwd ({} : Settings).sourceDir =
      "a.h".toList := by
    decide +kernel
  have hcollects : Collects (oneHeader mixedEnds) {} [headerPath] _ item :=
    ⟨headerPath, by simp, by decide +kernel, rfl, by rw [hdisplay]; exact hitem⟩
  obtain ⟨o, file, line, htext, hgives, hlocations, -, hiff⟩ :=
    (line_eq_iff (oneHeader mixedEnds) {} .empty [headerPath]).1 _ item hcollects
  have hdecode : Utf8.decodeLossy (mixedEnds.map fun c => UInt8.ofNat c.toNat) = mixedEnds := by
    decide +kernel
  have hplain : ∀ c ∈ mixedEnds, isSeparator c = false :=
    List.forall_iff_forall_mem.mp (by decide +kernel)
  rw [hdecode] at htext
  have hbefore : ∀ c ∈ o.before, isSeparator c = false := fun c hc =>
    hplain c (htext ▸ List.mem_append_left _ hc)
  exact ⟨o, htext, hgives, file, by rw [hlocations, hiff.mpr hbefore]⟩

/-- A header whose first line holds a form feed. -/
def paged : Text := "\x0c\n//! A.\nclass A;\n".toList

/-- The reader takes the form feed for the end of a line: the class is said to be on the third line,
and its comment, the only one, opens on the second. -/
theorem line_ne_paged :
    (extract (oneHeader paged) {} .empty [headerPath]).failure = none ∧
      ((extract (oneHeader paged) {} .empty [headerPath]).tree.item? [0]).map Item.locations =
        some [⟨"a.h".toList, 3⟩] ∧
      ∀ before form more, paged = before ++ (Comment.Form.marker form ++ more) →
        1 + Text.lineEnds before = 2 := by
  refine ⟨by decide +kernel, by decide +kernel, fun before form more h => ?_⟩
  have hall : ∀ k < paged.length, (∃ form ∈ [Comment.Form.line, .block],
      form.marker <+: paged.drop k) → 1 + Text.lineEnds (paged.take k) = 2 := by
    decide +kernel
  have hlength : before.length < paged.length := by
    have hmarker : 0 < form.marker.length := by cases form <;> decide
    rw [h, List.length_append, List.length_append]
    omega
  have hline := hall before.length hlength ⟨form, by cases form <;> simp, ?_⟩
  · rwa [h, List.take_left] at hline
  · rw [h, List.drop_left]
    exact List.prefix_append _ _

end Extraction

end DocTree
