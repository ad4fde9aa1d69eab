/-
Directives one after the other.

Directives are read and carried out from left to right, so a text leads where its second part leads
from the target of its first part, if it is cut outside of bracketed groups and no `~` stands there:

* `Directive.groupAfter` — whether a bracketed group is open behind a text;
* `Directive.readFrom_append` — what is read of the first part does not hang on the second;
* `Directive.foldlM_step_keep` — carrying out directives keeps the flag that the target comes with,
  and cites the text only for a bracket that is not closed;
* `Directive.carryOut_append` — the law of composition, and that the root is one place, whether or
  not it is written as a position.
-/
import DocTree.Proofs.StandingAlone

namespace DocTree

namespace Directive

/-! ### Reading in two parts -/

section Reading

variable {a b : Text} {o : Option Text} {c : Char} {rest : Text}

/-- Whether a bracketed group is open behind a text, when one was open in front of it or not. -/
def groupAfter : Bool → Text → Bool
  | inGroup, [] => inGroup
  | true, c :: rest => groupAfter (c != ']') rest
  | false, c :: rest => groupAfter (c == '[') rest

/-- No `~` of the text stands outside of bracketed groups. -/
def TildesInGroups (inGroup : Bool) (a : Text) : Prop :=
  ∀ i < a.length, a[i]? = some '~' → groupAfter inGroup (a.take i) = true

instance (inGroup : Bool) (a : Text) : Decidable (TildesInGroups inGroup a) :=
  inferInstanceAs
    (Decidable (∀ i < a.length, a[i]? = some '~' → groupAfter inGroup (a.take i) = true))

/-- The directive that is complete with a character, behind an open group or none. -/
def completedBy (o : Option Text) (c : Char) : List Directive :=
  match o with
  | some path => if c == ']' then [.descend path] else []
  | none =>
    if c == '>' then [.adopt] else if c == '<' then [.up] else if c == '^' then [.top] else []

/-- The open group behind a character. -/
def groupBehind (o : Option Text) (c : Char) : Option Text :=
  match o with
  | some path => if c == ']' then none else some (path ++ [c])
  | none => if c == '[' then some [] else none

theorem groupAfter_cons (o : Option Text) (c : Char) (rest : Text) :
    groupAfter o.isSome (c :: rest) = groupAfter (groupBehind o c).isSome rest := by
  cases o with
  | none => cases hc : c == '[' <;> simp [groupAfter, groupBehind, hc]
  | some path => cases hc : c == ']' <;> simp [groupAfter, groupBehind, hc, bne]

/-- Unless a `~` ends it, reading goes on behind each character. -/
theorem readFrom_cons (hc : o = none → c ≠ '~') (rest : Text) :
    readFrom o (c :: rest) = completedBy o c ++ readFrom (groupBehind o c) rest := by
  cases o with
  | some path =>
    rw [readFrom]
    by_cases hclose : c = ']' <;> simp [completedBy, groupBehind, hclose]
  | none =>
    have htilde : (c == '~') = false := by simpa using hc rfl
    rw [readFrom, htilde]
    by_cases hopen : c = '['
    · subst hopen
      rfl
    · have hopen' : (c == '[') = false := by simpa using hopen
      simp only [Bool.false_eq_true, if_false, completedBy, groupBehind, hopen']
      split
      · rfl
      · split
        · rfl
        · split <;> rfl

theorem TildesInGroups.cons_iff :
    TildesInGroups o.isSome (c :: rest) ↔
      (o = none → c ≠ '~') ∧ TildesInGroups (groupBehind o c).isSome rest := by
  constructor
  · intro h
    refine ⟨?_, fun i hi htilde => ?_⟩
    · rintro rfl rfl
      exact absurd (h 0 (by simp) rfl) (by simp [groupAfter])
    · have := h (i + 1) (by simpa using hi) (by simpa using htilde)
      rwa [List.take_succ_cons, groupAfter_cons] at this
  · rintro ⟨hc, h⟩ i hi htilde
    cases i with
    | zero =>
      obtain rfl : c = '~' := by simpa using htilde
      cases o with
      | none => exact absurd rfl (hc rfl)
      | some path => rfl
    | succ i =>
      rw [List.take_succ_cons, groupAfter_cons]
      exact h i (by simpa using hi) (by simpa using htilde)

theorem completedBy_cases {d : Directive} (h : d ∈ completedBy o c) :
    d ≠ asIs ∧ d ≠ unclosed := by
  unfold completedBy at h
  split at h <;> split_ifs at h <;> simp_all

/-- Without a `~` outside of groups, no comment is said to stand on its own. -/
theorem asIs_not_mem_readFrom (h : TildesInGroups o.isSome a) : asIs ∉ readFrom o a := by
  induction a generalizing o with
  | nil => cases o <;> simp [readFrom]
  | cons c rest ih =>
    obtain ⟨hc, hrest⟩ := TildesInGroups.cons_iff.mp h
    rw [readFrom_cons hc, List.mem_append, not_or]
    exact ⟨fun hd => (completedBy_cases hd).1 rfl, ih hrest⟩

/-- What is read of a text that ends outside of groups does not hang on what follows. -/
theorem readFrom_append (h : TildesInGroups o.isSome a) (hclosed : groupAfter o.isSome a = false)
    (b : Text) : readFrom o (a ++ b) = readFrom o a ++ read b ∧ unclosed ∉ readFrom o a := by
  induction a generalizing o with
  | nil =>
    cases o with
    | none => simp [readFrom, read]
    | some path => exact absurd hclosed (by simp [groupAfter])
  | cons c rest ih =>
    obtain ⟨hc, hrest⟩ := TildesInGroups.cons_iff.mp h
    rw [groupAfter_cons] at hclosed
    obtain ⟨hread, hunclosed⟩ := ih hrest hclosed
    rw [List.cons_append, readFrom_cons hc, readFrom_cons hc, hread, List.append_assoc,
      List.mem_append, not_or]
    exact ⟨rfl, fun hd => (completedBy_cases hd).2 rfl, hunclosed⟩

end Reading

/-! ### Carrying out in two parts -/

section CarryingOut

variable {α β γ : Type} {t : Tree} {source source' : Text} {start start' : Cursor}
  {d : Directive} {ds : List Directive} {p q : Position} {path : Text} {e : Error}

/-- Computations whose steps go hand in hand, from values to their images, go hand in hand. -/
theorem foldlM_map_of_step {f : α → γ → Except Error α} {g : β → γ → Except Error β} {φ : α → β}
    {ε : Error → Error} {cs : List γ}
    (hstep : ∀ a, ∀ c ∈ cs, g (φ a) c = ((f a c).mapError ε).map φ) (a : α) :
    cs.foldlM g (φ a) = ((cs.foldlM f a).mapError ε).map φ := by
  induction cs generalizing a with
  | nil => rfl
  | cons c cs ih =>
    rw [List.foldlM_cons, List.foldlM_cons, hstep a c (by simp)]
    cases f a c with
    | error e => rfl
    | ok next => exact ih (fun a c hc => hstep a c (by simp [hc])) next

/-- The error, where it cites the directives, with other ones. -/
def citing (source : Text) : Error → Error
  | .unclosed _ => .unclosed source
  | e => e

/-- The target, where the item becomes the cursor if it was to before. -/
def keep (adopts : Bool) (target : Target) : Target :=
  { target with adopts := adopts || target.adopts }

/-- What holds of the failure of every step holds of the failure of a computation. -/
theorem foldlM_error {f : α → γ → Except Error α} {P : Error → Prop}
    (hstep : ∀ a c e, f a c = .error e → P e) {cs : List γ} {a : α} {e : Error}
    (h : cs.foldlM f a = .error e) : P e := by
  induction cs generalizing a with
  | nil => exact absurd h (by simp [pure, Except.pure])
  | cons c cs ih =>
    rw [List.foldlM_cons] at h
    cases hfirst : f a c with
    | ok next =>
      rw [hfirst] at h
      exact ih h
    | error e' =>
      rw [hfirst] at h
      obtain rfl := Except.error.inj h
      exact hstep a c _ hfirst

/-- A path that leads nowhere does not cite directives. -/
theorem citing_of_find (h : t.find p path = .error e) (source : Text) : citing source e = e := by
  refine foldlM_error (P := fun e => citing source e = e) (fun q segment e hstep => ?_) h
  unfold Tree.findStep at hstep
  split at hstep
  · rw [← Except.error.inj hstep]
    rfl
  · split at hstep
    · exact absurd hstep (by simp)
    · rw [← Except.error.inj hstep]
      rfl

/-- What a target comes with is kept, and directives other than `~` do not hang on the start. -/
theorem step_keep (hd : d ≠ asIs) (adopts : Bool) (target : Target) :
    step t source' start' (keep adopts target) d =
      ((step t source start target d).mapError (citing source')).map (keep adopts) := by
  cases d with
  | asIs => exact absurd rfl hd
  | adopt => simp [step, keep, Except.mapError, Except.map]
  | up | top | unclosed => rfl
  | descend path =>
    simp only [step, keep]
    cases hfind : t.find (target.parent.getD []) path with
    | ok p => rfl
    | error e => simp [Except.mapError, Except.map, citing_of_find hfind]

theorem foldlM_step_keep (hds : asIs ∉ ds) (adopts : Bool) (target : Target) :
    ds.foldlM (step t source' start') (keep adopts target) =
      ((ds.foldlM (step t source start) target).mapError (citing source')).map (keep adopts) :=
  foldlM_map_of_step
    (fun target _ hd => step_keep (fun h => hds (h ▸ hd)) adopts target) target

/-- Where no bracket is left open, it does not matter of which text the directives are. -/
theorem foldlM_step_congr (hasIs : asIs ∉ ds) (hunclosed : unclosed ∉ ds) (target : Target) :
    ds.foldlM (step t source' start) target = ds.foldlM (step t source start) target := by
  induction ds generalizing target with
  | nil => rfl
  | cons d ds ih =>
    rw [List.mem_cons, not_or] at hasIs hunclosed
    have hstep : step t source' start target d = step t source start target d := by
      cases d with
      | unclosed => exact absurd rfl hunclosed.1
      | asIs | adopt | up | top | descend path => rfl
    rw [List.foldlM_cons, List.foldlM_cons, hstep]
    exact congrArg _ (funext fun next => ih hasIs.2 hunclosed.2 next)

/-- A path leads below where it starts, at least by one node. -/
theorem ne_nil_of_find (h : t.find p path = .ok q) : q ≠ [] := by
  -- the last segment has led there
  rw [Tree.find, ← List.dropLast_append_getLast (List.splitOn_ne_nil '.' path),
    List.foldlM_append] at h
  obtain ⟨r, -, h⟩ := bind_eq_ok.mp h
  obtain ⟨r', hstep, h⟩ := bind_eq_ok.mp h
  obtain rfl := Except.ok.inj h
  obtain ⟨-, i, -, rfl⟩ := Tree.findStep_eq_ok_iff.mp hstep
  simp

end CarryingOut

/-! ### The root as a cursor -/

section Root

variable {t : Tree} {source : Text} {cursor : Cursor} {target : Target}

/-- The cursor, where the root is not written as a position. -/
def offRoot : Cursor → Cursor
  | some [] => none
  | cursor => cursor

@[simp] theorem getD_offRoot (cursor : Cursor) : (offRoot cursor).getD [] = cursor.getD [] := by
  rcases cursor with _ | _ | ⟨i, p⟩ <;> rfl

theorem offRoot_eq_self (h : cursor ≠ some []) : offRoot cursor = cursor := by
  rcases cursor with _ | _ | ⟨i, p⟩
  · rfl
  · exact absurd rfl h
  · rfl

theorem enclosing_ne_root (cursor : Cursor) : enclosing cursor ≠ some [] := by
  cases cursor with
  | none => simp [enclosing]
  | some p =>
    unfold enclosing
    dsimp only
    split
    · simp
    · rename_i hne
      exact fun h => hne (Option.some.inj h)

theorem enclosing_offRoot (cursor : Cursor) :
    enclosing (offRoot cursor) = offRoot (enclosing cursor) := by
  rw [offRoot_eq_self (enclosing_ne_root cursor)]
  rcases cursor with _ | _ | ⟨i, p⟩ <;> rfl

/-- The target, where the root is not written as a position. -/
def unrooted (target : Target) : Target :=
  { target with parent := offRoot target.parent }

theorem step_unrooted (d : Directive) (target : Target) :
    step t source none (unrooted target) d =
      ((step t source (some []) target d).mapError id).map unrooted := by
  cases d with
  | asIs | adopt | top | unclosed => rfl
  | up => simp only [step, unrooted, enclosing_offRoot]; rfl
  | descend path =>
    simp only [step, unrooted, getD_offRoot]
    cases hfind : t.find (target.parent.getD []) path with
    | error e => rfl
    | ok q =>
      have hq : offRoot (some q) = some q :=
        offRoot_eq_self fun h => ne_nil_of_find hfind (Option.some.inj h)
      simp only [Except.mapError, Except.map, unrooted, hq]

/-- The root is one place for directives, whether or not it is written as a position. -/
theorem carryOut_unrooted (t : Tree) (source : Text) :
    carryOut t source none = (carryOut t source (some [])).map unrooted := by
  have h : (read source).foldlM (step t source none) (unrooted { parent := some [] }) =
      (((read source).foldlM (step t source (some [])) { parent := some [] }).mapError id).map
        unrooted :=
    foldlM_map_of_step (fun target d _ => step_unrooted d target) _
  unfold carryOut
  refine h.trans ?_
  cases (read source).foldlM (step t source (some [])) { parent := some [] } <;> rfl

/-- From elsewhere, directives never lead to the root as a position. -/
theorem parent_ne_root (hcursor : cursor ≠ some []) (h : carryOut t source cursor = .ok target) :
    target.parent ≠ some [] := by
  refine foldlM_keeps (P := fun target : Target => target.parent ≠ some []) ?_ hcursor h
  intro target d target' hparent hstep
  cases d with
  | asIs => exact Except.ok.inj hstep ▸ hcursor
  | adopt => exact Except.ok.inj hstep ▸ hparent
  | up => exact Except.ok.inj hstep ▸ enclosing_ne_root target.parent
  | top =>
    obtain rfl := Except.ok.inj hstep
    simp
  | descend path =>
    simp only [step] at hstep
    cases hfind : t.find (target.parent.getD []) path with
    | error e => simp [hfind] at hstep
    | ok q =>
      rw [hfind] at hstep
      obtain rfl := Except.ok.inj hstep
      simpa using ne_nil_of_find hfind
  | unclosed => simp [step] at hstep

end Root

/-! ### The law of composition -/

/-- Directives of two texts, of which the first one ends outside of groups and neither has a `~`
there, are carried out one after the other. -/
theorem carryOut_two {a b : Text} (hclosed : groupAfter false a = false)
    (ha : TildesInGroups false a) (hb : TildesInGroups false b) (t : Tree) (cursor : Cursor) :
    carryOut t (a ++ b) cursor = do
      let target ← carryOut t a cursor
      let next ← (carryOut t b target.parent).mapError (citing (a ++ b))
      return { next with adopts := target.adopts || next.adopts } := by
  have hasIs : asIs ∉ read a := asIs_not_mem_readFrom (o := none) ha
  have hasIs' : asIs ∉ read b := asIs_not_mem_readFrom (o := none) hb
  obtain ⟨hread, hunclosed⟩ : read (a ++ b) = read a ++ read b ∧ unclosed ∉ read a :=
    readFrom_append (o := none) ha hclosed b
  have hfirst : (read a).foldlM (step t (a ++ b) cursor) { parent := cursor } =
      carryOut t a cursor := foldlM_step_congr hasIs hunclosed _
  rw [carryOut, hread, List.foldlM_append, hfirst]
  cases htarget : carryOut t a cursor with
  | error e => rfl
  | ok target =>
    have hflag : target.asIs = false := by
      rcases carryOut_cases htarget with ⟨hmem, -⟩ | ⟨-, hflag, -⟩
      · exact absurd hmem hasIs
      · exact hflag
    have hkeep : target = keep target.adopts { parent := target.parent } := by
      obtain ⟨parent, asIs, adopts⟩ := target
      simp_all [keep]
    have hsecond : (read b).foldlM (step t (a ++ b) cursor)
          (keep target.adopts { parent := target.parent }) =
        ((carryOut t b target.parent).mapError (citing (a ++ b))).map (keep target.adopts) :=
      foldlM_step_keep hasIs' _ _
    rw [← hkeep] at hsecond
    refine hsecond.trans ?_
    change ((carryOut t b target.parent).mapError (citing (a ++ b))).map (keep target.adopts) =
      (carryOut t b target.parent).mapError (citing (a ++ b)) >>= fun next =>
        pure { next with adopts := target.adopts || next.adopts }
    cases carryOut t b target.parent <;> rfl

/-- **Directives are carried out from left to right.**  In every tree and from every cursor, when a
text ends outside of bracketed groups and neither it nor a second one has a `~` there, both texts
together lead where the second one leads from the target of the first, and the item becomes the
cursor if either says so; when one of them fails, so do both, with its error.  From the root, it
does not matter whether that is written as a position; from elsewhere, directives lead to no cursor
or to a node below the root. -/
theorem carryOut_append :
    (∀ (a b : Text) (t : Tree) (cursor : Cursor), groupAfter false a = false →
      TildesInGroups false a → TildesInGroups false b →
        carryOut t (a ++ b) cursor = do
          let target ← carryOut t a cursor
          let next ← (carryOut t b target.parent).mapError (citing (a ++ b))
          return { next with adopts := target.adopts || next.adopts }) ∧
      (∀ (t : Tree) (source : Text),
        carryOut t source none = (carryOut t source (some [])).map unrooted) ∧
      ∀ (t : Tree) (source : Text) (cursor : Cursor) (target : Target), t.HasCursor cursor →
        cursor ≠ some [] → carryOut t source cursor = .ok target →
          t.HasCursor target.parent ∧ target.parent ≠ some [] :=
  ⟨fun _ _ t cursor hclosed ha hb => carryOut_two hclosed ha hb t cursor, carryOut_unrooted,
    fun _ _ _ _ hcursor hroot h => ⟨hcursor.carryOut h, parent_ne_root hroot h⟩⟩

/-- A namespace with a class in it. -/
def nestedScopes : Tree where
  item := {}
  children := [{
    item := { name := some "Zoo".toList, kind := some .nameSpace }
    key := some "Zoo".toList
    children := [{
      item := { name := some "Ark".toList, kind := some .classType }
      key := some "Ark".toList }] }]

/-- Into the namespace, and from there into the class; or back up, and then nowhere. -/
theorem carryOut_append_nestedScopes :
    carryOut nestedScopes ("x[Zoo]>".toList ++ "[Ark]".toList) none =
        .ok { parent := some [0, 0], adopts := true } ∧
      carryOut nestedScopes ("[Zoo.Ark]<<".toList ++ "[Ark".toList) none =
        .error (.unclosed "[Zoo.Ark]<<[Ark".toList) ∧
      nestedScopes.HasCursor (some [0, 0]) ∧ some [0, 0] ≠ some ([] : Position) := by
  obtain ⟨hparts, -, hplace⟩ := carryOut_append
  refine ⟨?_, ?_, ?_⟩
  · rw [hparts _ _ _ _ (by decide) (by decide) (by decide)]
    rfl
  · rw [hparts _ _ _ _ (by decide) (by decide) (by decide)]
    rfl
  · exact hplace nestedScopes "[Zoo.Ark]".toList none { parent := some [0, 0] }
      (fun p hp => absurd hp (by simp)) (by simp) (by rfl)

end Directive

end DocTree
