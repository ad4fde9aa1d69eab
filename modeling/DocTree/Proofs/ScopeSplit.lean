/-
Cutting qualified names into scopes.

A qualified name is cut at its `::`, except inside angle brackets and from the first
keyword `operator` on.

* `Scope.join_split` — the segments joined by `::` give the name back;
* `Scope.split_qualified_iff` — names and an identifier joined by `::` are cut into just
  these exactly when each name is one segment by itself;
* `Scope.ReadsBack` — what a name is like that, in front of `::`, leads to a scope of that
  name.
-/
import DocTree.Scope
import Mathlib.Data.List.Basic
import Mathlib.Data.List.TakeWhile

namespace DocTree

/-- The mark between the scopes of a qualified name. -/
def scopeMark : Text := [':', ':']

/-- The qualified name of `name` in the given scopes. -/
def qualified (scopes : List Text) (name : Text) : Text := Text.join scopeMark (scopes ++ [name])

/-- Whether a text is a word: not empty, and word characters only. -/
def IsWord (t : Text) : Prop := t ≠ [] ∧ ∀ c ∈ t, isWordChar c = true

instance (t : Text) : Decidable (IsWord t) :=
  decidable_of_iff (t ≠ [] ∧ t.all isWordChar = true) (by rw [List.all_eq_true, IsWord])

theorem isWordChar_colon : isWordChar ':' = false := by decide

theorem IsWord.not_mem {t : Text} (h : IsWord t) {c : Char} (hc : isWordChar c = false) : c ∉ t :=
  fun hmem => by simp [h.2 c hmem] at hc

/-- A text that begins with `w` does so in front of the first character that `w` has not. -/
theorem isPrefix_append_cons_iff {w z y : Text} {c : Char} (hc : c ∉ w) :
    w <+: z ++ c :: y ↔ w <+: z := by
  constructor
  · intro h
    rcases List.prefix_or_prefix_of_prefix h (List.prefix_append z (c :: y)) with h' | ⟨r, rfl⟩
    · exact h'
    · rw [List.prefix_append_right_inj] at h
      cases r with
      | nil => simp
      | cons d r =>
        obtain ⟨rfl, -⟩ := List.cons_prefix_cons.mp h
        simp at hc
  · exact fun h => h.trans (List.prefix_append z (c :: y))

theorem qualified_nil (name : Text) : qualified [] name = name := by
  simp [qualified, Text.join, List.intercalate]

theorem qualified_cons (s : Text) (scopes : List Text) (name : Text) :
    qualified (s :: scopes) name = s ++ ':' :: ':' :: qualified scopes name := by
  unfold qualified Text.join
  cases scopes <;> simp [List.intercalate, scopeMark]

/-! ### The keyword `operator` -/

namespace Operator

variable {before : Option Char} {c : Char} {x y t : Text}

theorem isWordChar_keyword : ∀ c ∈ keyword, isWordChar c = true :=
  List.forall_iff_forall_mem.mp (by decide)

theorem isWordChar_symbol : ∀ c ∈ symbols, isWordChar c = false :=
  List.forall_iff_forall_mem.mp (by decide)

theorem standsAt_eq_true :
    standsAt before t = true ↔
      ∃ after, t = keyword ++ after ∧ before.any isWordChar = false ∧
        after.head?.any isWordChar = false := by
  unfold standsAt
  cases h : keyword.isPrefixOf? t with
  | none =>
    constructor
    · intro hfalse
      exact absurd hfalse (by simp)
    · rintro ⟨after, heq, -⟩
      rw [List.isPrefixOf?_eq_some_iff_append_eq.mpr heq.symm] at h
      exact absurd h (by simp)
  | some after =>
    have heq := List.isPrefixOf?_eq_some_iff_append_eq.mp h
    constructor
    · intro htrue
      refine ⟨after, heq.symm, ?_⟩
      simpa using htrue
    · rintro ⟨after', heq', hrest⟩
      obtain rfl := List.append_cancel_left (heq.trans heq')
      simpa using hrest

/-- Whether the keyword stands at some place is decided before the next character that
belongs to no word. -/
theorem standsAt_append_cons (hc : isWordChar c = false) :
    standsAt before (x ++ c :: y) = standsAt before x := by
  have hkey : c ∉ keyword := by
    intro hmem
    simp [isWordChar_keyword c hmem] at hc
  have hhead : ∀ x' : Text, (x' ++ c :: y).head?.any isWordChar = x'.head?.any isWordChar := by
    intro x'
    cases x' <;> simp [hc]
  rw [Bool.eq_iff_iff, standsAt_eq_true, standsAt_eq_true]
  constructor
  · rintro ⟨after, h, hbefore, hafter⟩
    -- the keyword ends in front of `c`
    obtain ⟨x', rfl⟩ := (isPrefix_append_cons_iff hkey).mp ⟨after, h.symm⟩
    obtain rfl : x' ++ c :: y = after := by simpa using h
    exact ⟨x', rfl, hbefore, by rwa [hhead] at hafter⟩
  · rintro ⟨after, rfl, hbefore, hafter⟩
    exact ⟨after ++ c :: y, by simp, hbefore, by rwa [hhead]⟩

theorem standsAt_cons_eq_false (hc : isWordChar c = false) : standsAt before (c :: t) = false :=
  (standsAt_append_cons (x := []) hc).trans (standsAt_nil before)

/-- A character that belongs to no word in front of a text is as good as none. -/
theorem findFrom_some_of_not_isWordChar (hc : isWordChar c = false) (t : Text) :
    findFrom (some c) t = find? t := by
  cases t with
  | nil => rfl
  | cons d t => simp [find?, findFrom, standsAt, hc]

/-- The keyword is searched apart on both sides of a character that belongs to no word. -/
theorem findFrom_append_cons (hc : isWordChar c = false) :
    findFrom before (x ++ c :: y) =
      (findFrom before x <|> (find? y).map (· + (x.length + 1))) := by
  induction x generalizing before with
  | nil => simp [findFrom, standsAt_cons_eq_false hc, findFrom_some_of_not_isWordChar hc]
  | cons d x ih =>
    have hlocal : standsAt before (d :: (x ++ c :: y)) = standsAt before (d :: x) :=
      standsAt_append_cons (x := d :: x) hc
    simp only [List.cons_append, findFrom, hlocal]
    split
    · rfl
    · rw [ih]
      cases findFrom (some d) x with
      | none => cases find? y <;> simp; omega
      | some i => rfl

theorem find?_append_cons (hc : isWordChar c = false) :
    find? (x ++ c :: y) = (find? x <|> (find? y).map (· + (x.length + 1))) :=
  findFrom_append_cons hc

theorem find?_append_cons_eq_none (hc : isWordChar c = false) :
    find? (x ++ c :: y) = none ↔ find? x = none ∧ find? y = none := by
  rw [find?_append_cons hc]
  cases find? x <;> simp

theorem findFrom_some_of_isWordChar (hc : isWordChar c = true)
    (ht : ∀ d ∈ t, isWordChar d = true) : findFrom (some c) t = none := by
  induction t generalizing c with
  | nil => rfl
  | cons d t ih =>
    have hstands : standsAt (some c) (d :: t) = false := by
      rw [Bool.eq_false_iff, Ne, standsAt_eq_true]
      rintro ⟨after, -, hbefore, -⟩
      simp [hc] at hbefore
    rw [findFrom, hstands, ih (ht d (by simp)) fun e he => ht e (by simp [he])]
    rfl

/-- In a word, the keyword can only be the word itself. -/
theorem find?_of_forall_isWordChar (ht : ∀ d ∈ t, isWordChar d = true) :
    find? t = if t = keyword then some 0 else none := by
  cases t with
  | nil => rfl
  | cons d t =>
    have hstands : standsAt none (d :: t) = true ↔ d :: t = keyword := by
      rw [standsAt_eq_true]
      constructor
      · rintro ⟨after, heq, -, hafter⟩
        cases after with
        | nil => simpa using heq
        | cons e after => simp [ht e (by simp [heq])] at hafter
      · intro heq
        exact ⟨[], by simpa using heq, rfl, rfl⟩
    rw [find?, findFrom,
      findFrom_some_of_isWordChar (ht d (by simp)) fun e he => ht e (by simp [he])]
    exact if_congr hstands rfl rfl

theorem lt_of_findFrom_eq_some {i : Nat} (h : findFrom before t = some i) : i < t.length := by
  induction t generalizing before i with
  | nil => simp [findFrom] at h
  | cons d t ih =>
    rw [findFrom] at h
    split at h
    · obtain rfl := Option.some.inj h
      simp
    · obtain ⟨j, hj, rfl⟩ := Option.map_eq_some_iff.mp h
      simpa using ih hj

end Operator

/-! ### Segments -/

namespace Scope

variable {tail n f : Text} {d : Int}

theorem splitFrom_cut (tail rest : Text) :
    splitFrom tail 0 (':' :: ':' :: rest) = [] :: splitFrom tail 0 rest := by
  rw [splitFrom]
  simp

/-- Everywhere else a character goes to the segment it stands in. -/
theorem splitFrom_cons {c : Char} {rest : Text}
    (h : ¬ (d = 0 ∧ c = ':' ∧ rest.head? = some ':')) :
    splitFrom tail d (c :: rest) = (splitFrom tail (d + angleStep c) rest).modifyHead (c :: ·) := by
  rw [splitFrom.eq_def]
  split
  · simp_all
  · rename_i rest' heq
    obtain ⟨rfl, rfl⟩ := List.cons.inj heq
    rw [if_neg fun hd => h ⟨hd, rfl, rfl⟩]
    simp [angleStep]
  · rename_i heq
    obtain ⟨rfl, rfl⟩ := List.cons.inj heq
    rfl

theorem splitFrom_ne_nil (tail : Text) (d : Int) (t : Text) : splitFrom tail d t ≠ [] := by
  fun_induction splitFrom tail d t with
  | case1 => simp
  | case2 => simp
  | case3 _ _ _ ih => cases h : splitFrom tail _ _ <;> simp_all
  | case4 _ _ _ _ ih => cases h : splitFrom tail _ _ <;> simp_all

theorem split_ne_nil (name : Text) : split name ≠ [] := by
  unfold split
  split <;> exact splitFrom_ne_nil _ _ _

/-- The segments joined again give the text with the tail. -/
theorem join_splitFrom (tail : Text) (d : Int) (t : Text) :
    Text.join scopeMark (splitFrom tail d t) = t ++ tail := by
  have hcons : ∀ (c : Char) {segments : List Text}, segments ≠ [] →
      Text.join scopeMark (segments.modifyHead (c :: ·)) = c :: Text.join scopeMark segments := by
    intro c segments hne
    obtain ⟨first, rest, rfl⟩ := List.exists_cons_of_ne_nil hne
    cases rest <;> simp [Text.join, List.intercalate]
  fun_induction splitFrom tail d t with
  | case1 => simp [Text.join, List.intercalate]
  | case2 rest ih =>
    obtain ⟨first, more, hsplit⟩ := List.exists_cons_of_ne_nil (splitFrom_ne_nil tail 0 rest)
    rw [hsplit] at ih ⊢
    simpa [Text.join, List.intercalate, scopeMark] using ih
  | case3 d rest _ ih => rw [hcons _ (splitFrom_ne_nil _ _ _), ih]; rfl
  | case4 d c rest _ ih => rw [hcons _ (splitFrom_ne_nil _ _ _), ih]; rfl

/-- Cutting loses nothing. -/
theorem join_split (name : Text) : Text.join scopeMark (split name) = name := by
  unfold split
  split
  · rw [join_splitFrom, List.append_nil]
  · rw [join_splitFrom, List.take_append_drop]

theorem splitFrom_of_not_mem (tail : Text) (d : Int) {t : Text} (h : ':' ∉ t) :
    splitFrom tail d t = [t ++ tail] := by
  induction t generalizing d with
  | nil => simp [splitFrom]
  | cons c t ih =>
    have hc : c ≠ ':' := fun heq => h (by simp [heq])
    rw [splitFrom_cons (by simp [hc]), ih (d + angleStep c) fun hmem => h (by simp [hmem])]
    rfl

/-- The tail ends the last segment. -/
theorem suffix_getLast_splitFrom (tail : Text) (d : Int) (t : Text) :
    ∃ front last, splitFrom tail d t = front ++ [last] ∧ tail <:+ last := by
  have hcons : ∀ (c : Char) {segments : List Text},
      (∃ front last, segments = front ++ [last] ∧ tail <:+ last) →
        ∃ front last, segments.modifyHead (c :: ·) = front ++ [last] ∧ tail <:+ last := by
    rintro c segments ⟨front, last, rfl, hlast⟩
    cases front with
    | nil => exact ⟨[], c :: last, rfl, hlast.trans (List.suffix_cons c last)⟩
    | cons first front => exact ⟨(c :: first) :: front, last, rfl, hlast⟩
  fun_induction splitFrom tail d t with
  | case1 => exact ⟨[], tail, rfl, List.suffix_refl tail⟩
  | case2 rest ih =>
    obtain ⟨front, last, hsplit, hlast⟩ := ih
    exact ⟨[] :: front, last, by rw [hsplit]; rfl, hlast⟩
  | case3 d rest _ ih => exact hcons ':' ih
  | case4 d c rest _ ih => exact hcons c ih

/-- How many more angle brackets a text opens than it closes. -/
def angleDepth (t : Text) : Int := t.foldr (fun c d => angleStep c + d) 0

theorem angleDepth_cons (c : Char) (t : Text) : angleDepth (c :: t) = angleStep c + angleDepth t :=
  rfl

theorem angleDepth_append (x y : Text) : angleDepth (x ++ y) = angleDepth x + angleDepth y := by
  induction x with
  | nil => simp [angleDepth]
  | cons c x ih =>
    rw [List.cons_append, angleDepth_cons, ih, angleDepth_cons]
    omega

theorem angleDepth_eq_zero {t : Text} (hopen : '<' ∉ t) (hclose : '>' ∉ t) : angleDepth t = 0 := by
  induction t with
  | nil => rfl
  | cons c t ih =>
    rw [List.mem_cons, not_or] at hopen hclose
    rw [angleDepth_cons, ih hopen.2 hclose.2]
    simp [angleStep, Ne.symm hopen.1, Ne.symm hclose.1]

/-- A text is not cut exactly when every `::` in it stands inside of angle brackets. -/
theorem splitFrom_eq_singleton_iff {t : Text} :
    splitFrom tail d t = [t ++ tail] ↔
      ∀ x y, t = x ++ ':' :: ':' :: y → d + angleDepth x ≠ 0 := by
  induction t generalizing d with
  | nil => exact iff_of_true rfl (by simp)
  | cons c t ih =>
    by_cases hcut : d = 0 ∧ c = ':' ∧ t.head? = some ':'
    · obtain ⟨rfl, rfl, hhead⟩ := hcut
      obtain ⟨y, rfl⟩ := List.head?_eq_some_iff.mp hhead
      refine iff_of_false (fun h => ?_) fun h => h [] y rfl rfl
      rw [splitFrom_cut] at h
      exact splitFrom_ne_nil _ _ _ (List.cons.inj h).2
    · have hhead : (splitFrom tail (d + angleStep c) t).modifyHead (c :: ·) = [c :: t ++ tail] ↔
          splitFrom tail (d + angleStep c) t = [t ++ tail] := by
        cases splitFrom tail (d + angleStep c) t <;> simp
      rw [splitFrom_cons hcut, hhead, ih]
      constructor
      · intro h x y heq
        cases x with
        | nil =>
          obtain ⟨rfl, rfl⟩ := List.cons.inj heq
          exact fun hd => hcut ⟨by simpa [angleDepth] using hd, rfl, rfl⟩
        | cons e x =>
          obtain ⟨rfl, htail⟩ := List.cons.inj heq
          have := h x y htail
          rw [angleDepth_cons]
          omega
      · rintro h x y rfl
        have := h (c :: x) y rfl
        rw [angleDepth_cons] at this
        omega

/-- At the running depth `d`, a `::` after the text is the first that cuts: it is outside
angle brackets, and each that begins earlier is inside. -/
def IsSegmentAt (d : Int) (n : Text) : Prop :=
  d + angleDepth n = 0 ∧ ∀ x y, n ++ [':'] = x ++ ':' :: ':' :: y → d + angleDepth x ≠ 0

theorem isSegmentAt_nil : IsSegmentAt d [] ↔ d = 0 := by
  have hshort : ∀ x y : Text, [':'] ≠ x ++ ':' :: ':' :: y := by
    intro x y h
    have := congrArg List.length h
    simp at this
    omega
  simp [IsSegmentAt, angleDepth, hshort]

theorem isSegmentAt_cons {c : Char} :
    IsSegmentAt d (c :: n) ↔
      ¬ (d = 0 ∧ c = ':' ∧ (n ++ [':']).head? = some ':') ∧ IsSegmentAt (d + angleStep c) n := by
  unfold IsSegmentAt
  constructor
  · rintro ⟨hclosed, hinside⟩
    refine ⟨?_, by rw [angleDepth_cons] at hclosed; omega, ?_⟩
    · rintro ⟨rfl, rfl, hhead⟩
      obtain ⟨y, hy⟩ := List.head?_eq_some_iff.mp hhead
      exact hinside [] y (by simp [hy]) rfl
    · intro x y h
      have := hinside (c :: x) y (by simp [h])
      rw [angleDepth_cons] at this
      omega
  · rintro ⟨hcut, hclosed, hinside⟩
    refine ⟨by rw [angleDepth_cons]; omega, ?_⟩
    intro x y h
    rw [List.cons_append] at h
    cases x with
    | nil =>
      obtain ⟨rfl, htail⟩ := List.cons.inj h
      have hd : d ≠ 0 := fun hd => hcut ⟨hd, rfl, by rw [htail]; rfl⟩
      simpa [angleDepth] using hd
    | cons e x =>
      obtain ⟨rfl, htail⟩ := List.cons.inj h
      have := hinside x y htail
      rw [angleDepth_cons]
      omega

/-- A name in front of `::` is the first segment exactly when this `::` is the first that
cuts; the text after it is then cut on its own. -/
theorem splitFrom_append_mark {rest : Text} {segments : List Text} :
    splitFrom tail d (n ++ ':' :: ':' :: rest) = n :: segments ↔
      IsSegmentAt d n ∧ segments = splitFrom tail 0 rest := by
  induction n generalizing d with
  | nil =>
    rw [isSegmentAt_nil, List.nil_append]
    by_cases hd : d = 0
    · subst hd
      simp [splitFrom_cut, eq_comm]
    · -- inside angle brackets the mark belongs to the segment
      refine iff_of_false (fun h => ?_) (fun h => hd h.1)
      rw [splitFrom_cons (by simp [hd])] at h
      cases hs : splitFrom tail (d + angleStep ':') (':' :: rest) with
      | nil => exact splitFrom_ne_nil _ _ _ hs
      | cons first more => simp [hs] at h
  | cons c n ih =>
    have hhead : (n ++ ':' :: ':' :: rest).head? = (n ++ [':']).head? := by
      cases n <;> rfl
    rw [isSegmentAt_cons, List.cons_append]
    by_cases hcut : d = 0 ∧ c = ':' ∧ (n ++ [':']).head? = some ':'
    · -- the name begins with a mark of its own
      refine iff_of_false (fun h => ?_) (fun h => h.1.1 hcut)
      obtain ⟨rfl, rfl, hcolon⟩ := hcut
      obtain ⟨r, hr⟩ := List.head?_eq_some_iff.mp (hhead.trans hcolon)
      rw [hr, splitFrom_cut] at h
      simp at h
    · rw [splitFrom_cons (by rw [hhead]; exact hcut), and_iff_right hcut, ← ih]
      cases splitFrom tail (d + angleStep c) (n ++ ':' :: ':' :: rest) <;> simp

/-- Scopes in front of a name are cut off exactly when each is one segment; the name is then cut on
its own. -/
theorem splitFrom_qualified_iff {scopes segments : List Text} :
    splitFrom tail 0 (qualified scopes n) = scopes ++ segments ↔
      (∀ s ∈ scopes, IsSegmentAt 0 s) ∧ segments = splitFrom tail 0 n := by
  induction scopes with
  | nil => simp [qualified_nil, eq_comm]
  | cons s scopes ih =>
    rw [qualified_cons, List.cons_append, splitFrom_append_mark,
      eq_comm (a := scopes ++ segments), ih, List.forall_mem_cons, and_assoc]

/-- The part of a qualified name in front of the name itself. -/
def qualifier (scopes : List Text) : Text := (scopes.map (· ++ scopeMark)).flatten

theorem qualifier_cons (s : Text) (scopes : List Text) :
    qualifier (s :: scopes) = s ++ ':' :: ':' :: qualifier scopes := by
  simp [qualifier, scopeMark]

theorem qualified_eq (scopes : List Text) (name : Text) :
    qualified scopes name = qualifier scopes ++ name := by
  induction scopes with
  | nil => simp [qualified_nil, qualifier]
  | cons s scopes ih => rw [qualified_cons, ih]; simp [qualifier_cons]

theorem exists_qualifier_eq {scopes : List Text} (h : scopes ≠ []) :
    ∃ x, qualifier scopes = x ++ [':'] := by
  obtain ⟨scopes, s, rfl⟩ := List.eq_nil_or_concat scopes |>.resolve_left h
  exact ⟨qualifier scopes ++ s ++ [':'], by simp [qualifier, scopeMark]⟩

theorem find?_qualified (scopes : List Text) (name : Text) :
    Operator.find? (qualified scopes name) =
      (Operator.find? (qualifier scopes) <|>
        (Operator.find? name).map (· + (qualifier scopes).length)) := by
  rw [qualified_eq]
  by_cases h : scopes = []
  · subst h
    rw [qualifier, List.map_nil, List.flatten_nil, List.nil_append]
    cases Operator.find? name <;> rfl
  · -- the character in front of the name belongs to no word
    obtain ⟨x, hx⟩ := exists_qualifier_eq h
    have hend : Operator.find? (x ++ [':']) = Operator.find? x := by
      rw [Operator.find?_append_cons isWordChar_colon]
      cases Operator.find? x <;> rfl
    rw [hx, hend, List.append_assoc, List.singleton_append,
      Operator.find?_append_cons isWordChar_colon, List.length_append]
    rfl

theorem find?_qualifier_eq_none {scopes : List Text} :
    Operator.find? (qualifier scopes) = none ↔ ∀ s ∈ scopes, Operator.find? s = none := by
  have hcolon : ∀ u : Text, Operator.find? (':' :: u) = none ↔ Operator.find? u = none := fun u =>
    (Operator.find?_append_cons_eq_none (x := []) isWordChar_colon).trans (and_iff_right rfl)
  induction scopes with
  | nil => exact iff_of_true rfl (by simp)
  | cons s scopes ih =>
    rw [qualifier_cons, Operator.find?_append_cons_eq_none isWordChar_colon, hcolon,
      List.forall_mem_cons]
    exact and_congr_right fun _ => ih

/-- Names and an identifier joined by `::` are cut into just these exactly when no name
holds the keyword and each is one segment by itself. -/
theorem split_qualified_iff (scopes : List Text) (hcolon : ':' ∉ f)
    (hf : ∀ i, Operator.find? f = some i → i = 0) :
    split (qualified scopes f) = scopes ++ [f] ↔
      ∀ s ∈ scopes, Operator.find? s = none ∧ IsSegmentAt 0 s := by
  have hcut : ∀ name tail : Text, ':' ∉ name →
      (splitFrom tail 0 (qualified scopes name) = scopes ++ [name ++ tail] ↔
        ∀ s ∈ scopes, IsSegmentAt 0 s) := by
    intro name tail hname
    rw [splitFrom_qualified_iff, splitFrom_of_not_mem _ _ hname, and_iff_left rfl]
  rw [forall₂_and, ← find?_qualifier_eq_none, split, find?_qualified]
  cases hq : Operator.find? (qualifier scopes) with
  | some i =>
    -- the last segment would be longer than the identifier
    refine iff_of_false (fun hsplit => ?_) (by simp)
    have hlt := Operator.lt_of_findFrom_eq_some hq
    obtain ⟨front, last, heq, hlast⟩ :=
      suffix_getLast_splitFrom ((qualified scopes f).drop i) 0 ((qualified scopes f).take i)
    have hlastf : last = f := by
      have : front ++ [last] = scopes ++ [f] := heq.symm.trans hsplit
      exact List.singleton_inj.mp (List.append_inj' this rfl).2
    have hlen := hlast.length_le
    rw [hlastf, List.length_drop, qualified_eq, List.length_append] at hlen
    omega
  | none =>
    cases hfind : Operator.find? f with
    | none => simpa using hcut f [] hcolon
    | some i =>
      -- the identifier is the keyword itself, and all of the last segment
      obtain rfl := hf i hfind
      have hdrop : (qualified scopes f).drop (qualifier scopes).length = f := by
        rw [qualified_eq, List.drop_left]
      have htake : (qualified scopes f).take (qualifier scopes).length = qualified scopes [] := by
        rw [qualified_eq, qualified_eq, List.take_left, List.append_nil]
      simpa [hdrop, htake] using hcut [] f (by simp)

/-- Names that are segments are cut off, and what comes behind them is cut as it is by itself. -/
theorem split_qualified_append {scopes : List Text}
    (hscopes : ∀ s ∈ scopes, Operator.find? s = none ∧ IsSegmentAt 0 s) (f : Text) :
    split (qualified scopes f) = scopes ++ split f := by
  have hcut : ∀ tail x : Text,
      splitFrom tail 0 (qualified scopes x) = scopes ++ splitFrom tail 0 x := fun _ _ =>
    splitFrom_qualified_iff.mpr ⟨fun s hs => (hscopes s hs).2, rfl⟩
  have hkeyword : Operator.find? (qualifier scopes) = none :=
    find?_qualifier_eq_none.mpr fun s hs => (hscopes s hs).1
  rw [split, split, find?_qualified, hkeyword]
  cases Operator.find? f with
  | none => exact hcut [] f
  | some i =>
    -- the keyword stands behind the names
    have htake : (qualified scopes f).take (i + (qualifier scopes).length) =
        qualified scopes (f.take i) := by
      rw [qualified_eq, qualified_eq, Nat.add_comm, List.take_length_add_append]
    have hdrop : (qualified scopes f).drop (i + (qualifier scopes).length) = f.drop i := by
      rw [qualified_eq, Nat.add_comm, List.drop_length_add_append]
    show splitFrom ((qualified scopes f).drop (i + (qualifier scopes).length)) 0
      ((qualified scopes f).take (i + (qualifier scopes).length)) = _
    rw [htake, hdrop]
    exact hcut (f.drop i) (f.take i)

theorem split_qualified (names : List Text) (hf : IsWord f) :
    split (qualified names f) = names ++ [f] ↔
      ∀ n ∈ names, Operator.find? n = none ∧ IsSegmentAt 0 n := by
  refine split_qualified_iff names (hf.not_mem isWordChar_colon) fun i hi => ?_
  rw [Operator.find?_of_forall_isWordChar hf.2] at hi
  split at hi
  · exact (Option.some.inj hi).symm
  · exact absurd hi (by simp)

theorem qualified_ne_nil {names : List Text} (hf : IsWord f) : qualified names f ≠ [] := by
  rw [qualified_eq]
  simp [hf.1]

/-! ### Template arguments -/

/-- The text ends in template arguments, on one line. -/
def EndsInArguments (t : Text) : Prop :=
  ∃ x y, '\n' ∉ y ∧ (t = x ++ '<' :: (y ++ ['>']) ∨ t = x ++ '<' :: (y ++ ['>', '\n']))

theorem closing?_eq_some {t after : Text} :
    closing? t = some after ↔
      (after = [] ∨ after = ['\n']) ∧ ∃ y, '\n' ∉ y ∧ t = y ++ '>' :: after := by
  unfold closing?
  rw [Option.ite_none_right_eq_some]
  constructor
  · rintro ⟨⟨hlast, hafter⟩, heq⟩
    obtain rfl := Option.some.inj heq
    obtain ⟨y, hy⟩ := List.getLast?_eq_some_iff.mp hlast
    refine ⟨hafter, y, fun hmem => ?_, ?_⟩
    · have := List.mem_takeWhile_imp (hy ▸ List.mem_append_left _ hmem)
      simp at this
    · calc t = t.takeWhile (· != '\n') ++ t.dropWhile (· != '\n') :=
            List.takeWhile_append_dropWhile.symm
        _ = _ := by rw [hy, List.append_assoc]; rfl
  · rintro ⟨hafter, y, hy, rfl⟩
    have hall : ∀ c ∈ y ++ ['>'], (c != '\n') = true := by
      intro c hc
      rcases List.mem_append.mp hc with hc | hc
      · simpa using fun heq : c = '\n' => hy (heq ▸ hc)
      · simp [List.mem_singleton.mp hc]
    have hsplit : y ++ '>' :: after = (y ++ ['>']) ++ after := by simp
    have htake : (y ++ '>' :: after).takeWhile (· != '\n') = y ++ ['>'] := by
      rw [hsplit, List.takeWhile_append_of_pos hall]
      rcases hafter with rfl | rfl <;> simp
    have hdrop : (y ++ '>' :: after).dropWhile (· != '\n') = after := by
      rw [hsplit, List.dropWhile_append_of_pos hall]
      rcases hafter with rfl | rfl <;> simp
    simp [htake, hdrop, hafter]

theorem endsInArguments_cons {c : Char} {rest : Text} :
    EndsInArguments (c :: rest) ↔
      (c = '<' ∧ (closing? rest).isSome) ∨ EndsInArguments rest := by
  constructor
  · rintro ⟨x, y, hy, h⟩
    cases x with
    | nil =>
      left
      rcases h with h | h <;> obtain ⟨rfl, rfl⟩ := List.cons.inj h
      · exact ⟨rfl, by rw [closing?_eq_some.mpr ⟨.inl rfl, y, hy, rfl⟩]; rfl⟩
      · exact ⟨rfl, by rw [closing?_eq_some.mpr ⟨.inr rfl, y, hy, rfl⟩]; rfl⟩
    | cons d x =>
      exact .inr ⟨x, y, hy, h.imp (fun h => (List.cons.inj h).2) fun h => (List.cons.inj h).2⟩
  · rintro (⟨rfl, hsome⟩ | ⟨x, y, hy, h⟩)
    · obtain ⟨after, hafter⟩ := Option.isSome_iff_exists.mp hsome
      obtain ⟨rfl | rfl, y, hy, rfl⟩ := closing?_eq_some.mp hafter
      · exact ⟨[], y, hy, .inl rfl⟩
      · exact ⟨[], y, hy, .inr rfl⟩
    · exact ⟨c :: x, y, hy, h.imp (fun h => by rw [h]; rfl) fun h => by rw [h]; rfl⟩

/-- A text either keeps its end or loses some of it. -/
theorem dropArguments_eq_or_lt (n : Text) :
    (dropArguments n = n ∧ ¬ EndsInArguments n) ∨
      ((dropArguments n).length < n.length ∧ EndsInArguments n) := by
  induction n with
  | nil => exact .inl ⟨rfl, fun ⟨x, y, _, h⟩ => by simp at h⟩
  | cons c rest ih =>
    rw [dropArguments, endsInArguments_cons]
    by_cases hopen : c = '<' ∧ (closing? rest).isSome
    · obtain ⟨rfl, hsome⟩ := hopen
      obtain ⟨after, hafter⟩ := Option.isSome_iff_exists.mp hsome
      obtain ⟨-, y, -, hrest⟩ := closing?_eq_some.mp hafter
      right
      refine ⟨?_, .inl ⟨rfl, hsome⟩⟩
      rw [if_pos rfl, hafter, hrest]
      simp
      omega
    · have hnone : (if c = '<' then closing? rest else none) = none := by
        by_cases hc : c = '<'
        · simpa [hc] using fun h => hopen ⟨hc, h⟩
        · rw [if_neg hc]
      rw [hnone]
      rcases ih with ⟨heq, hends⟩ | ⟨hlt, hends⟩
      · exact .inl ⟨congrArg (c :: ·) heq, fun h => h.elim hopen hends⟩
      · exact .inr ⟨Nat.succ_lt_succ hlt, .inr hends⟩

/-- What a name is like that, in front of `::`, leads to a scope of that name. -/
structure ReadsBack (n : Text) : Prop where
  /-- it does not hold the keyword -/
  keyword : Operator.find? n = none
  /-- it is one segment -/
  segment : IsSegmentAt 0 n
  /-- a scope is looked up without the template arguments at its end, so it has none -/
  arguments : ¬ EndsInArguments n

theorem readsBack_iff :
    ReadsBack n ↔ split (n ++ scopeMark) = [n, []] ∧ dropArguments n = n := by
  have hsplit : split (n ++ scopeMark) = [n, []] ↔ Operator.find? n = none ∧ IsSegmentAt 0 n := by
    have h := split_qualified_iff (f := []) [n] (by simp) (by
      intro i hi
      simp [Operator.find?, Operator.findFrom] at hi)
    rwa [qualified_cons, qualified_nil, List.forall_mem_singleton] at h
  have hdrop : dropArguments n = n ↔ ¬ EndsInArguments n := by
    rcases dropArguments_eq_or_lt n with ⟨heq, hends⟩ | ⟨hlt, hends⟩
    · exact iff_of_true heq hends
    · exact iff_of_false (fun heq => by rw [heq] at hlt; omega) (fun h => h hends)
  rw [hsplit, hdrop]
  exact ⟨fun h => ⟨⟨h.keyword, h.segment⟩, h.arguments⟩, fun h => ⟨h.1.1, h.1.2, h.2⟩⟩

instance : Decidable (ReadsBack n) := decidable_of_iff' _ readsBack_iff

/-- Every word but the keyword is read back. -/
theorem readsBack_of_isWord (h : IsWord n) (hkey : n ≠ Operator.keyword) : ReadsBack n where
  keyword := by rw [Operator.find?_of_forall_isWordChar h.2, if_neg hkey]
  segment := by
    refine ⟨?_, fun x y heq => ?_⟩
    · rw [angleDepth_eq_zero (h.not_mem (by decide)) (h.not_mem (by decide))]
      rfl
    · have hcount := congrArg (List.count ':') heq
      have hnone : n.count ':' = 0 := List.count_eq_zero.mpr (h.not_mem isWordChar_colon)
      simp [hnone] at hcount
      omega
  arguments := by
    rintro ⟨x, y, -, rfl | rfl⟩ <;> exact h.not_mem (c := '<') (by decide) (by simp)

end Scope

end DocTree
