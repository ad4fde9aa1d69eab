/-
Declarations that are collected again.

What has been collected as a declaration ends in front of its terminator, and holds none itself:

* `Extent.readFrom_append` — a terminator stays where it is when the line goes on behind it, as
  long as that does not turn its `:` into a `::`;
* `Extent.exists_readLine_cut`, `Extent.exists_readLine_trimEnd` — so there is none in what is left
  of a line that is cut at its terminator or trimmed;
* `Extent.isSome_stateAfter_gather`, `Extent.isSome_stateAfter_trimEnd` — nor in the lines of a
  declaration, one after the other, nor in those of their trimmed text;
* `declarationAt?_splitOn` — the lines of a declaration are collected as the same declaration.
-/
import DocTree.Proofs.Coverage
import DocTree.Proofs.Trimming

namespace DocTree

namespace Extent

variable {s s' : State} {b after : Option Char} {c : Char} {n : Nat} {e line x y : Text}
  {lines ps : List Text}

/-! ### Terminators of a line -/

/-- Outside brackets, a `;`, a `{` and a `:` that is alone and belongs to no conditional end a
declaration. -/
theorem State.effect_eq_terminate : s.effect b c after = .terminate ↔
    s.depth = 0 ∧ (c = ';' ∨ c = '\x7b' ∨
      c = ':' ∧ b ≠ some ':' ∧ after ≠ some ':' ∧ s.conditionals = 0) := by
  constructor
  · intro h
    unfold State.effect at h
    split at h; · cases h
    split at h; · cases h
    split at h; · cases h
    split at h; · cases h
    rename_i hdepth
    refine ⟨Decidable.not_not.mp hdepth, ?_⟩
    split at h
    · rename_i hc
      rcases (Bool.or_eq_true _ _).mp hc with hc | hc
      · exact .inl (eq_of_beq hc)
      · exact .inr (.inl (eq_of_beq hc))
    split at h; · cases h
    split at h
    · rename_i hc
      simp only [Bool.and_eq_true, beq_iff_eq, bne_iff_ne] at hc
      split at h
      · rename_i hconditionals
        exact .inr (.inr ⟨hc.1.1, hc.1.2, hc.2, hconditionals⟩)
      · cases h
    · cases h
  · rintro ⟨hdepth, rfl | rfl | ⟨rfl, hb, hafter, hconditionals⟩⟩
    · simp [State.effect, hdepth, Literal.opened?]
    · simp [State.effect, hdepth, Literal.opened?]
    · simp [State.effect, hdepth, hb, hafter, hconditionals, Literal.opened?]

/-- What a character of a line does: it is the terminator, it starts a line comment, or the scan
goes on behind it. -/
inductive Move where
  | ends
  | comments
  | goes (s : State)

def State.move (s : State) (b : Option Char) (c : Char) (after : Option Char) : Move :=
  match s.literal with
  | some l => .goes { s with literal := l.next c }
  | none =>
    if c == '/' && after == some '/' then .comments
    else
      match s.effect b c after with
      | .terminate => .ends
      | .proceed s' => .goes s'

theorem readFrom_cons (s : State) (b : Option Char) (c : Char) (x : Text) :
    readFrom s b (c :: x) =
      match s.move b c x.head? with
      | .ends => .ended []
      | .comments => .continues s
      | .goes s' => (readFrom s' (some c) x).cons c := by
  rw [readFrom, State.move]
  cases s.literal with
  | some l => rfl
  | none =>
    dsimp only
    split
    · rfl
    · cases s.effect b c x.head? <;> rfl

theorem State.move_eq_ends : s.move b c after = .ends ↔
    s.literal = none ∧ s.depth = 0 ∧ (c = ';' ∨ c = '\x7b' ∨
      c = ':' ∧ b ≠ some ':' ∧ after ≠ some ':' ∧ s.conditionals = 0) := by
  rw [← State.effect_eq_terminate, State.move]
  cases s.literal with
  | some l => simp
  | none =>
    dsimp only
    split
    · rename_i hcomment
      obtain ⟨rfl, -⟩ : c = '/' ∧ after = some '/' := by simpa using hcomment
      simp [State.effect_eq_terminate]
    · cases s.effect b c after <;> simp

theorem Reading.cons_eq_ended {r : Reading} :
    r.cons c = .ended e ↔ ∃ e', r = .ended e' ∧ e = c :: e' := by
  cases r with
  | ended before => simp [Reading.cons, eq_comm]
  | continues s => simp [Reading.cons]

theorem readFrom_cons_eq_ended : readFrom s b (c :: x) = .ended e ↔
    s.move b c x.head? = .ends ∧ e = [] ∨
      ∃ s' e', s.move b c x.head? = .goes s' ∧ readFrom s' (some c) x = .ended e' ∧
        e = c :: e' := by
  rw [readFrom_cons]
  cases s.move b c x.head? with
  | ends => simp [eq_comm]
  | comments => simp
  | goes s' =>
    constructor
    · intro h
      obtain ⟨e', he', rfl⟩ := Reading.cons_eq_ended.mp h
      exact .inr ⟨s', e', rfl, he', rfl⟩
    · rintro (⟨hends, -⟩ | ⟨s'', e', hgoes, he', rfl⟩)
      · cases hends
      · obtain rfl := Move.goes.inj hgoes
        exact Reading.cons_eq_ended.mpr ⟨e', he', rfl⟩

/-- What ends a line: the characters in front of the terminator, and the terminator, which is no
`:` behind another one. -/
theorem exists_of_readFrom (h : readFrom s b line = .ended e) :
    ∃ c rest, line = e ++ c :: rest ∧ (c = ':' → e.getLast?.or b ≠ some ':') := by
  induction line generalizing s b e with
  | nil => exact absurd h (by simp [readFrom])
  | cons d line ih =>
    rcases readFrom_cons_eq_ended.mp h with ⟨hends, rfl⟩ | ⟨s', e', -, he', rfl⟩
    · refine ⟨d, line, rfl, ?_⟩
      rintro rfl
      obtain ⟨-, -, hc | hc | ⟨-, hb, -⟩⟩ := State.move_eq_ends.mp hends
      · exact absurd hc (by decide)
      · exact absurd hc (by decide)
      · exact hb
    · obtain ⟨c, rest, rfl, hc⟩ := ih he'
      refine ⟨c, rest, rfl, fun hcolon => ?_⟩
      have hlast := hc hcolon
      rw [Option.or_some] at hlast
      rwa [List.getLast?_cons, Option.some_or]

/-- A terminator stays where it is when the line goes on, unless that turns a `:` into a `::`. -/
theorem readFrom_append (h : readFrom s b x = .ended e)
    (hy : x.getLast? = some ':' → y.head? ≠ some ':') : readFrom s b (x ++ y) = .ended e := by
  induction x generalizing s b e with
  | nil => exact absurd h (by simp [readFrom])
  | cons c x ih =>
    rw [List.cons_append, readFrom_cons_eq_ended]
    rcases readFrom_cons_eq_ended.mp h with ⟨hends, rfl⟩ | ⟨s', e', hgoes, he', rfl⟩
    · obtain ⟨hliteral, hdepth, hc⟩ := State.move_eq_ends.mp hends
      refine .inl ⟨State.move_eq_ends.mpr ⟨hliteral, hdepth, ?_⟩, rfl⟩
      refine hc.imp_right (Or.imp_right ?_)
      rintro ⟨rfl, hb, hafter, hconditionals⟩
      refine ⟨rfl, hb, ?_, hconditionals⟩
      cases x with
      | nil => exact hy rfl
      | cons d x => exact hafter
    · have hne : x ≠ [] := by
        rintro rfl
        exact absurd he' (by simp [readFrom])
      have hhead : (x ++ y).head? = x.head? := List.head?_append_of_ne_nil x hne
      refine .inr ⟨s', e', by rwa [hhead], ih he' fun hlast => hy ?_, rfl⟩
      rw [List.getLast?_cons, hlast]
      rfl

/-- There is no terminator in the start of a line that ends behind it or not at all. -/
theorem exists_readFrom_eq_continues (h : ∀ e, readFrom s b (x ++ y) = .ended e → x <+: e)
    (hy : x.getLast? = some ':' → y.head? ≠ some ':') :
    ∃ s', readFrom s b x = .continues s' := by
  cases hx : readFrom s b x with
  | continues s' => exact ⟨s', rfl⟩
  | ended e =>
    obtain ⟨c, rest, rfl, -⟩ := exists_of_readFrom hx
    have hle := (h e (readFrom_append hx hy)).length_le
    rw [List.length_append, List.length_cons] at hle
    omega

/-- Blanks do not make a `:` into a `::`. -/
theorem head?_ne_colon (hblank : ∀ c, x.head? = some c → isBlank c = true) :
    x.head? ≠ some ':' := fun hhead => absurd (hblank ':' hhead) (by decide)

/-- There is none in a line that goes on, without the blanks at its end. -/
theorem exists_readLine_trimEnd (h : readLine s line = .continues s') :
    ∃ s'', readLine s line.trimEnd = .continues s'' := by
  obtain ⟨w, hw, hblank⟩ := Text.exists_dropEndWhile_append isBlank line
  have hw' : line.trimEnd ++ w = line := hw
  refine exists_readFrom_eq_continues (y := w) (fun e he => ?_) fun _ =>
    head?_ne_colon fun c hc => List.all_eq_true.mp hblank c (List.mem_of_head? hc)
  rw [hw'] at he
  exact absurd (he.symm.trans h) (by simp)

/-- Nor is there one in what stands in front of the terminator of a line. -/
theorem exists_readLine_cut (h : readLine s line = .ended e) :
    ∃ s', readLine s e.trimEnd = .continues s' := by
  obtain ⟨c, rest, rfl, hc⟩ := exists_of_readFrom h
  obtain ⟨w, hw, hblank⟩ := Text.exists_dropEndWhile_append isBlank e
  have hw' : e.trimEnd ++ w = e := hw
  refine exists_readFrom_eq_continues (y := w ++ c :: rest) (fun e' he' => ?_) fun hlast => ?_
  · rw [← List.append_assoc, hw'] at he'
    obtain rfl := Reading.ended.inj (h.symm.trans he')
    exact Text.trimEnd_isPrefix e
  · cases w with
    | nil =>
      rw [List.append_nil] at hw'
      rw [hw'] at hlast
      intro hcolon
      exact hc (Option.some.inj hcolon) (by rw [hlast]; rfl)
    | cons d w =>
      refine head?_ne_colon fun a ha => ?_
      obtain rfl : d = a := Option.some.inj ha
      exact List.all_eq_true.mp hblank d (List.mem_cons_self ..)

/-! ### Lines without a terminator -/

theorem removeIndent_zero (line : Text) : removeIndent 0 line = line := by
  cases line <;> rfl

theorem isSome_stateAfter_cons :
    (stateAfter 0 s (line :: lines)).isSome ↔
      ∃ s', readLine s line = .continues s' ∧ (stateAfter 0 s' lines).isSome := by
  rw [stateAfter, removeIndent_zero]
  cases readLine s line with
  | ended before => simp
  | continues s' => simp

/-- Lines without a terminator are collected as they stand. -/
theorem gather_eq_self (h : (stateAfter 0 s lines).isSome) : gather 0 s lines = lines := by
  induction lines generalizing s with
  | nil => rfl
  | cons line rest ih =>
    obtain ⟨s', hs', hrest⟩ := isSome_stateAfter_cons.mp h
    simp only [gather, removeIndent_zero, hs', ih hrest]

/-- What has been collected holds no terminator. -/
theorem isSome_stateAfter_gather (n : Nat) (s : State) (lines : List Text) :
    (stateAfter 0 s (gather n s lines)).isSome := by
  induction lines generalizing s with
  | nil => rfl
  | cons line rest ih =>
    rw [gather]
    cases hline : readLine s (removeIndent n line) with
    | ended before =>
      obtain ⟨s', hs'⟩ := exists_readLine_cut hline
      exact isSome_stateAfter_cons.mpr ⟨s', hs', rfl⟩
    | continues s' => exact isSome_stateAfter_cons.mpr ⟨s', hline, ih s'⟩

/-- Nor does its text, when it is trimmed and cut into lines again. -/
theorem isSome_stateAfter_trimEnd (hps : ps ≠ []) (hbreak : ∀ p ∈ ps, '\n' ∉ p)
    (h : (stateAfter 0 s ps).isSome) :
    (stateAfter 0 s ((Text.join ['\n'] ps).trimEnd.splitOn '\n')).isSome := by
  induction ps generalizing s with
  | nil => exact absurd rfl hps
  | cons p ps ih =>
    obtain ⟨hp, hbreak⟩ := List.forall_mem_cons.mp hbreak
    obtain ⟨s', hs', hrest⟩ := isSome_stateAfter_cons.mp h
    rcases Text.splitOn_trimEnd_join_cons hp ps with hlines | ⟨hne, hlines⟩
    · obtain ⟨s'', hs''⟩ := exists_readLine_trimEnd hs'
      rw [hlines]
      exact isSome_stateAfter_cons.mpr ⟨s'', hs'', rfl⟩
    · rw [hlines]
      exact isSome_stateAfter_cons.mpr ⟨s', hs', ih hne hbreak hrest⟩

/-! ### Collected lines -/

theorem removeIndent_length_indent (line : Text) :
    removeIndent line.indent.length line = line.trimStart := by
  induction line with
  | nil => rfl
  | cons c line ih =>
    rw [Text.indent, Text.trimStart]
    by_cases hc : isBlank c = true
    · rw [List.takeWhile_cons_of_pos hc, List.dropWhile_cons_of_pos hc, List.length_cons,
        removeIndent, if_pos hc]
      exact ih
    · rw [List.takeWhile_cons_of_neg hc, List.dropWhile_cons_of_neg hc]
      rfl

theorem removeIndent_sublist (n : Nat) (line : Text) : (removeIndent n line).Sublist line := by
  fun_induction removeIndent n line with
  | case1 n c rest hc ih => exact ih.cons c
  | case2 n c rest hc => exact List.Sublist.refl _
  | case3 => exact List.Sublist.refl _

/-- Every collected line comes from one of the lines. -/
theorem exists_sublist_of_mem_gather (h : x ∈ gather n s lines) :
    ∃ line ∈ lines, x.Sublist line := by
  induction lines generalizing s with
  | nil => simp [gather] at h
  | cons line rest ih =>
    rw [gather] at h
    cases hline : readLine s (removeIndent n line) with
    | ended before =>
      rw [hline] at h
      obtain rfl := List.mem_singleton.mp h
      obtain ⟨c, more, hcut, -⟩ := exists_of_readFrom hline
      refine ⟨line, List.mem_cons_self .., ?_⟩
      refine ((Text.trimEnd_isPrefix before).sublist.trans ?_).trans (removeIndent_sublist n line)
      rw [hcut]
      exact List.sublist_append_left before _
    | continues s' =>
      rw [hline] at h
      rcases List.mem_cons.mp h with rfl | h
      · exact ⟨line, List.mem_cons_self .., removeIndent_sublist n line⟩
      · obtain ⟨line', hmem, hsub⟩ := ih h
        exact ⟨line', List.mem_cons_of_mem _ hmem, hsub⟩

theorem length_gather_le (n : Nat) (s : State) (lines : List Text) :
    (gather n s lines).length ≤ lines.length := by
  induction lines generalizing s with
  | nil => exact Nat.le_refl 0
  | cons line rest ih =>
    rw [gather]
    split
    · simp
    · simpa using ih _

/-- The first of the collected lines is the start of the first line behind its indentation, and all
of it if others follow. -/
theorem exists_gather_eq_cons (first : Text) (rest : List Text) :
    ∃ p ps, gather first.indent.length s (first :: rest) = p :: ps ∧ p <+: first.trimStart ∧
      (ps ≠ [] → p = first.trimStart) := by
  rw [gather, removeIndent_length_indent]
  cases hline : readLine s first.trimStart with
  | ended before =>
    obtain ⟨c, more, hcut, -⟩ := exists_of_readFrom hline
    refine ⟨before.trimEnd, [], rfl, ?_, fun hne => absurd rfl hne⟩
    rw [hcut]
    exact (Text.trimEnd_isPrefix before).trans (List.prefix_append _ _)
  | continues s' => exact ⟨first.trimStart, _, rfl, List.prefix_rfl, fun _ => rfl⟩

/-- The first line of what has been collected is the start of the line it comes from, without the
indentation. -/
theorem exists_splitOn_eq_cons {first : Text} {p : Text} (hp : p <+: first.trimStart)
    (hps : ps ≠ [] → p = first.trimStart) (hbreak : '\n' ∉ p) (hfirst : first.trim ≠ [])
    (hne : (Text.join ['\n'] (p :: ps)).trimEnd ≠ []) :
    ∃ c x more, (Text.join ['\n'] (p :: ps)).trimEnd.splitOn '\n' = (c :: x) :: more ∧
      c :: x <+: first.trimStart ∧ isBlank c = false := by
  obtain ⟨l, more, hsplit, hl, hlne⟩ : ∃ l more,
      (Text.join ['\n'] (p :: ps)).trimEnd.splitOn '\n' = l :: more ∧
        l <+: first.trimStart ∧ l ≠ [] := by
    rcases Text.splitOn_trimEnd_join_cons hbreak ps with hsplit | ⟨hmore, hsplit⟩
    · refine ⟨_, _, hsplit, (Text.trimEnd_isPrefix p).trans hp, fun hnil => hne ?_⟩
      rw [hnil] at hsplit
      exact (List.intercalate_splitOn '\n').symm.trans (congrArg (Text.join ['\n']) hsplit)
    · refine ⟨_, _, hsplit, hp, fun hnil => hfirst ?_⟩
      rw [Text.trim, ← hps hmore, hnil]
      rfl
  obtain ⟨c, x, rfl⟩ := List.exists_cons_of_ne_nil hlne
  refine ⟨c, x, more, hsplit, hl, ?_⟩
  obtain ⟨z, hz⟩ := hl
  exact Text.isBlank_eq_false_of_trimStart hz.symm

end Extent

namespace Comment

/-- A comment that starts in the start of a line starts in that line. -/
theorem startsAt_of_isPrefix {line first : Text} (h : line <+: first.trimStart)
    (hline : ∀ c, line.head? = some c → isBlank c = false) (hstart : startsAt line = true) :
    startsAt first = true := by
  rw [startsAt, Text.trimStart_eq_self hline, isSome_opened?_iff] at hstart
  obtain ⟨form, hform⟩ := hstart
  exact isSome_opened?_iff.mpr ⟨form, hform.trans h⟩

end Comment

/-- Lines without a terminator are a declaration, if the first of them begins with a character that
is no blank and starts no comment. -/
theorem declarationAt?_of_isSome {line : Text} {more : List Text} {c : Char}
    (hhead : line.head? = some c) (hc : isBlank c = false) (hstart : Comment.startsAt line = false)
    (hopen : (Extent.stateAfter 0 {} (line :: more)).isSome) :
    declarationAt? (line :: more) =
      some ((line :: more).length, (Text.join ['\n'] (line :: more)).trimEnd) := by
  obtain ⟨x, rfl⟩ := List.head?_eq_some_iff.mp hhead
  have hindent : Text.indent (c :: x) = [] := List.takeWhile_cons_of_neg (by simp [hc])
  have htrim : Text.trimStart (c :: x) = c :: x := List.dropWhile_cons_of_neg (by simp [hc])
  have hne : Text.trim (c :: x) ≠ [] := by
    rw [Text.trim, htrim]
    intro hnil
    have hall := Text.dropEndWhile_eq_nil_iff.mp hnil
    simp [hc] at hall
  have hgather : Extent.gather (Text.indent (c :: x)).length {} ((c :: x) :: more) =
      (c :: x) :: more := by
    rw [hindent]
    exact Extent.gather_eq_self hopen
  exact declarationAt?_eq_some.mpr
    ⟨c :: x, more, rfl, hne, hstart, by rw [hgather], by rw [hgather]⟩

/-- **A declaration holds no further terminator.**  A declaration that has been collected from some
lines, and is not empty, takes at least one line and none behind the last; it neither begins nor
ends with a blank; and from its own lines the same declaration is collected, which takes them
all. -/
theorem declarationAt?_splitOn {lines : List Text} {index used : Nat} {d : Text}
    (hlines : ∀ line ∈ lines, '\n' ∉ line)
    (h : declarationAt? (lines.drop index) = some (used, d)) (hd : d ≠ []) :
    (index < index + used ∧ index + used ≤ lines.length) ∧
      (∃ c, d.head? = some c ∧ isBlank c = false) ∧
      (∃ c, d.getLast? = some c ∧ isBlank c = false) ∧
      declarationAt? (d.splitOn '\n') = some ((d.splitOn '\n').length, d) := by
  obtain ⟨first, rest, hdrop, hfirst, hstart, hused, rfl⟩ := declarationAt?_eq_some.mp h
  rw [hdrop] at hused hd ⊢
  obtain ⟨p, ps, hgather, hp, hps⟩ := Extent.exists_gather_eq_cons (s := {}) first rest
  have hbreak : ∀ q ∈ p :: ps, '\n' ∉ q := by
    intro q hq hmem
    rw [← hgather] at hq
    obtain ⟨line, hline, hsub⟩ := Extent.exists_sublist_of_mem_gather hq
    rw [← hdrop] at hline
    exact hlines line (List.mem_of_mem_drop hline) (hsub.subset hmem)
  have hopen := Extent.isSome_stateAfter_gather first.indent.length {} (first :: rest)
  have hlength := Extent.length_gather_le first.indent.length {} (first :: rest)
  rw [← hused, ← hdrop, List.length_drop] at hlength
  rw [hgather] at hused hopen hd ⊢
  rw [List.length_cons] at hused
  obtain ⟨c, x, more, hsplit, hx, hc⟩ := Extent.exists_splitOn_eq_cons hp hps
    (hbreak p (List.mem_cons_self ..)) hfirst hd
  have hread := Extent.isSome_stateAfter_trimEnd (List.cons_ne_nil p ps) hbreak hopen
  have hjoin : Text.join ['\n'] ((c :: x) :: more) = (Text.join ['\n'] (p :: ps)).trimEnd := by
    rw [← hsplit]
    exact List.intercalate_splitOn '\n'
  refine ⟨⟨by omega, by omega⟩, ⟨c, ?_, hc⟩, Text.exists_getLast?_trimEnd hd, ?_⟩
  · rw [← hjoin, Text.join_cons]
    rfl
  · have hcomment : Comment.startsAt (c :: x) = false := by
      rw [← Bool.not_eq_true]
      intro h
      have hhead : ∀ e, (c :: x).head? = some e → isBlank e = false := fun e he =>
        Option.some.inj he ▸ hc
      exact absurd (Comment.startsAt_of_isPrefix hx hhead h) (by simp [hstart])
    rw [hsplit] at hread ⊢
    rw [declarationAt?_of_isSome rfl hc hcomment hread, hjoin, Text.trimEnd_trimEnd]

/-- A constructor with parameters on two lines, which ends in front of its initializers. -/
def wrappedConstructor : List Text :=
  ["//! Makes one.", "    Widget(int a,", "           char b = ':') : c(a ? b : a) \x7b",
    "    \x7d"].map String.toList

theorem declarationAt?_wrappedConstructor :
    (∀ line ∈ wrappedConstructor, '\n' ∉ line) ∧
      declarationAt? (wrappedConstructor.drop 1) =
        some (2, "Widget(int a,\n       char b = ':')".toList) ∧
      "Widget(int a,\n       char b = ':')".toList ≠ [] ∧
      declarationAt? ("Widget(int a,\n       char b = ':')".toList.splitOn '\n') =
        some (2, "Widget(int a,\n       char b = ':')".toList) := by
  have hlines : ∀ line ∈ wrappedConstructor, '\n' ∉ line :=
    List.forall_iff_forall_mem.mp (by decide)
  have hread : declarationAt? (wrappedConstructor.drop 1) =
      some (2, "Widget(int a,\n       char b = ':')".toList) := by decide +kernel
  have hne : "Widget(int a,\n       char b = ':')".toList ≠ [] := by decide
  obtain ⟨-, -, -, hagain⟩ := declarationAt?_splitOn hlines hread hne
  have hlength : ("Widget(int a,\n       char b = ':')".toList.splitOn '\n').length = 2 := by
    decide
  rw [hlength] at hagain
  exact ⟨hlines, hread, hne, hagain⟩

end DocTree
