/-
Where operator tokens stand.

The scans of a declaration come to its operator tokens from left to right.  Their places can be
told without a scan: a token stands wherever the keyword is a whole word, since no token begins
inside of another one.

* `Operator.find?_eq_some_iff` — the first place of the keyword;
* `Operator.lt_tokenEnd_iff` — a token begins where the keyword is a whole word;
* `Operator.tokenEnd_eq_self` — but not inside of another token;
* `Operator.markTokens_eq_mapIdx` — so the characters that are marked are those in a token.
-/
import DocTree.Proofs.FunctionText
import Mathlib.Order.Nat

namespace DocTree

namespace Operator

variable {t x y : Text} {c : Char} {i j k n : Nat}

/-! ### Places of the keyword -/

/-- The keyword is a whole word of the text, from the index `i` on. -/
def IsWordAt (t : Text) (i : Nat) : Prop :=
  ∃ x y, t = x ++ (keyword ++ y) ∧ x.length = i ∧
    x.getLast?.any isWordChar = false ∧ y.head?.any isWordChar = false

theorem IsWordAt.getElem?_eq (h : IsWordAt t i) : t[i]? = some 'o' := by
  obtain ⟨x, y, rfl, rfl, -⟩ := h
  rw [List.getElem?_append_right (Nat.le_refl _), Nat.sub_self]
  rfl

theorem standsAt_eq_true_iff_isWordAt :
    standsAt x.getLast? y = true ↔ IsWordAt (x ++ y) x.length := by
  rw [standsAt_eq_true]
  constructor
  · rintro ⟨after, rfl, hbefore, hafter⟩
    exact ⟨x, after, rfl, rfl, hbefore, hafter⟩
  · rintro ⟨x', after, heq, hlength, hbefore, hafter⟩
    obtain ⟨rfl, rfl⟩ := List.append_inj heq hlength.symm
    exact ⟨after, rfl, hbefore, hafter⟩

theorem findFrom_eq_some_iff :
    findFrom x.getLast? y = some i ↔
      IsWordAt (x ++ y) (x.length + i) ∧ ∀ j < i, ¬ IsWordAt (x ++ y) (x.length + j) := by
  induction y generalizing x i with
  | nil =>
    refine iff_of_false (by simp [findFrom]) ?_
    rintro ⟨hword, -⟩
    have hchar := hword.getElem?_eq
    rw [List.append_nil, List.getElem?_eq_none (Nat.le_add_right _ _)] at hchar
    exact absurd hchar (by simp)
  | cons c y ih =>
    have hnext := fun i => ih (x := x ++ [c]) (i := i)
    simp only [List.getLast?_concat, List.append_assoc, List.singleton_append, List.length_append,
      List.length_singleton] at hnext
    rw [findFrom]
    by_cases hword : IsWordAt (x ++ c :: y) x.length
    · rw [if_pos (standsAt_eq_true_iff_isWordAt.mpr hword)]
      constructor
      · rintro ⟨⟩
        exact ⟨hword, fun j hj => absurd hj (Nat.not_lt_zero j)⟩
      · rintro ⟨-, hleast⟩
        cases i with
        | zero => rfl
        | succ i => exact absurd hword (hleast 0 (Nat.succ_pos i))
    · rw [if_neg fun h => hword (standsAt_eq_true_iff_isWordAt.mp h)]
      cases i with
      | zero =>
        refine iff_of_false (fun h => ?_) fun h => hword h.1
        obtain ⟨j, -, hj⟩ := Option.map_eq_some_iff.mp h
        exact absurd hj (Nat.succ_ne_zero j)
      | succ i =>
        have hshift : ∀ j, x.length + 1 + j = x.length + (j + 1) := fun j => by omega
        rw [Option.map_eq_some_iff]
        simp only [Nat.add_right_cancel_iff, exists_eq_right, hnext, hshift]
        refine and_congr_right fun _ => ⟨fun h j hj => ?_, fun h j hj => h _ (by omega)⟩
        cases j with
        | zero => exact hword
        | succ j => exact h j (by omega)

/-- The keyword is found at the first place where it is a whole word. -/
theorem find?_eq_some_iff : find? t = some i ↔ IsLeast {i | IsWordAt t i} i := by
  have hfrom := findFrom_eq_some_iff (x := []) (y := t) (i := i)
  simp only [List.nil_append, List.length_nil, Nat.zero_add] at hfrom
  rw [find?, ← List.getLast?_nil, hfrom]
  exact and_congr_right fun _ =>
    ⟨fun h j hj => Nat.le_of_not_lt fun hlt => h j hlt hj,
      fun h j hlt hj => Nat.not_le_of_lt hlt (h hj)⟩

/-- Where it is not found, it is no word of the text at all. -/
theorem find?_eq_none_iff : find? t = none ↔ ∀ i, ¬ IsWordAt t i := by
  constructor
  · intro hnone i hword
    classical
    have hfound := find?_eq_some_iff.mpr (Nat.isLeast_find ⟨i, hword⟩)
    rw [hnone] at hfound
    exact absurd hfound (by simp)
  · intro h
    cases hfind : find? t with
    | none => rfl
    | some i => exact absurd (find?_eq_some_iff.mp hfind).1 (h i)

/-! ### Tokens -/

theorem tokenEnd_append : tokenEnd (x ++ y) x.length = x.length + tokenLength x.getLast? y := by
  have hbefore : (if x.length = 0 then none else (x ++ y)[x.length - 1]?) = x.getLast? := by
    rcases List.eq_nil_or_concat x with rfl | ⟨x, c, rfl⟩
    · rfl
    · simp
  unfold tokenEnd
  simp only [hbefore, List.drop_left]

theorem le_tokenEnd : i ≤ tokenEnd t i := Nat.le_add_right _ _

/-- A token begins just where the keyword is a whole word. -/
theorem lt_tokenEnd_iff : i < tokenEnd t i ↔ IsWordAt t i := by
  by_cases hi : i < t.length
  · obtain ⟨x, y, rfl, rfl⟩ : ∃ x y, t = x ++ y ∧ x.length = i :=
      ⟨t.take i, t.drop i, (List.take_append_drop i t).symm, List.length_take_of_le hi.le⟩
    rw [tokenEnd_append, ← standsAt_eq_true_iff_isWordAt, ← Bool.not_eq_false,
      ← tokenLength_eq_zero_iff]
    omega
  · have hdrop : t.drop i = [] := List.drop_eq_nil_of_le (Nat.not_lt.mp hi)
    refine iff_of_false ?_ fun h => hi (List.getElem?_eq_some_iff.mp h.getElem?_eq).1
    rw [tokenEnd, hdrop, tokenLength_eq_zero_iff.mpr (standsAt_nil _)]
    omega

/-- The symbol of an operator and the gap in front of it hold no word characters. -/
theorem isWordChar_of_mem_symbol (h : c ∈ t.take (symbolLength t)) : isWordChar c = false := by
  have hreach : ∀ s : Text, s <+: t.dropWhile isSpaceOrTab → (∀ d ∈ s, isWordChar d = false) →
      c ∈ t.take ((t.takeWhile isSpaceOrTab).length + s.length) → isWordChar c = false := by
    rintro s ⟨u, hu⟩ hs hmem
    have ht : t = (t.takeWhile isSpaceOrTab ++ s) ++ u := by
      rw [List.append_assoc, hu, List.takeWhile_append_dropWhile]
    have htake : t.take ((t.takeWhile isSpaceOrTab).length + s.length) =
        t.takeWhile isSpaceOrTab ++ s := by
      rw [← List.length_append]
      exact (List.prefix_iff_eq_take.mp ⟨u, ht.symm⟩).symm
    rcases List.mem_append.mp (htake ▸ hmem) with hgap | hsymbol
    · exact isWordChar_of_isBlank (isBlank_of_isSpaceOrTab (List.mem_takeWhile_imp hgap))
    · exact hs c hsymbol
  unfold symbolLength at h
  simp only [Bool.or_eq_true, List.isPrefixOf_iff_prefix] at h
  split at h
  · rename_i hbrackets
    rcases hbrackets with hround | hsquare
    · exact hreach _ hround (List.forall_iff_forall_mem.mp (by decide)) h
    · exact hreach _ hsquare (List.forall_iff_forall_mem.mp (by decide)) h
  · split at h
    · simp at h
    · rename_i n hn
      refine hreach _ (List.takeWhile_prefix symbols.contains)
        (fun d hd => isWordChar_symbol d ?_) ?_
      · simpa using List.mem_takeWhile_imp hd
      · rwa [hn]

/-- No token begins inside of another one. -/
theorem tokenEnd_eq_self (hi : IsWordAt t i) (hlt : i < j) (hj : j < tokenEnd t i) :
    tokenEnd t j = j := by
  by_contra hne
  have hword : IsWordAt t j := lt_tokenEnd_iff.mp (lt_of_le_of_ne le_tokenEnd (Ne.symm hne))
  obtain ⟨x, y, rfl, rfl, hx, hy⟩ := hi
  obtain ⟨x', y', heq, rfl, hbefore, -⟩ := hword
  rw [tokenEnd_append, tokenLength, if_pos (standsAt_eq_true.mpr ⟨y, rfl, hx, hy⟩),
    List.drop_left] at hj
  -- something stands between the two
  obtain ⟨m, rfl⟩ : x <+: x' := List.prefix_of_prefix_length_le ⟨_, rfl⟩ ⟨_, heq.symm⟩ hlt.le
  have hm : m ≠ [] := by
    rintro rfl
    simp at hlt
  rw [List.append_assoc, List.append_cancel_left_eq] at heq
  rw [List.length_append] at hj
  rcases List.append_eq_append_iff.mp heq with ⟨r, rfl, rfl⟩ | ⟨r, hkey, -⟩
  · -- the first token would hold the second keyword in its symbol
    have hmem : 'o' ∈ (r ++ (keyword ++ y')).take (symbolLength (r ++ (keyword ++ y'))) := by
      rw [List.length_append] at hj
      obtain ⟨n, hn⟩ := Nat.exists_eq_add_of_lt
        (show r.length < symbolLength (r ++ (keyword ++ y')) by omega)
      rw [hn, Nat.add_assoc, List.take_length_add_append]
      exact List.mem_append_right r (List.mem_cons_self ..)
    exact absurd (isWordChar_of_mem_symbol hmem) (by decide)
  · -- the second keyword would stand behind a character of the first one
    have hlast : (x ++ m).getLast? = some (m.getLast hm) := by
      rw [List.getLast?_append, List.getLast?_eq_some_getLast hm]
      rfl
    have hmem : m.getLast hm ∈ keyword := hkey ▸ List.mem_append_left r (List.getLast_mem hm)
    rw [hlast, Option.any_some, isWordChar_keyword _ hmem] at hbefore
    exact absurd hbefore (by simp)

/-- The character at the index `k` belongs to an operator token. -/
def InToken (t : Text) (k : Nat) : Prop := ∃ i ≤ k, k < tokenEnd t i

instance (t : Text) (k : Nat) : Decidable (InToken t k) :=
  inferInstanceAs (Decidable (∃ i, i ≤ k ∧ k < tokenEnd t i))

/-- At the index `k`, just `n` characters are left of the tokens that begin in front of it. -/
structure LeftAt (t : Text) (k n : Nat) : Prop where
  reach : ∀ i < k, tokenEnd t i ≤ k + n
  opened : n ≠ 0 → ∃ i < k, tokenEnd t i = k + n

theorem leftAt_zero (t : Text) : LeftAt t 0 0 := ⟨by simp, by simp⟩

theorem LeftAt.reach_succ {m : Nat} (h : LeftAt t k n) (hn : n ≤ m + 1)
    (hk : tokenEnd t k ≤ k + 1 + m) : ∀ i < k + 1, tokenEnd t i ≤ k + 1 + m := by
  intro i hi
  rcases Nat.lt_succ_iff_lt_or_eq.mp hi with hi | rfl
  · have := h.reach i hi
    omega
  · exact hk

/-- The next character of a token: no other one begins there. -/
theorem LeftAt.inside (h : LeftAt t k (n + 1)) : InToken t k ∧ LeftAt t (k + 1) n := by
  obtain ⟨i, hi, hend⟩ := h.opened (Nat.succ_ne_zero n)
  have hself : tokenEnd t k = k :=
    tokenEnd_eq_self (lt_tokenEnd_iff.mp (by omega)) hi (by omega)
  exact ⟨⟨i, hi.le, by omega⟩, h.reach_succ (by omega) (by omega),
    fun _ => ⟨i, by omega, by omega⟩⟩

theorem LeftAt.enter (h : LeftAt t k 0) (hk : tokenEnd t k = k + (n + 1)) :
    InToken t k ∧ LeftAt t (k + 1) n :=
  ⟨⟨k, Nat.le_refl k, by omega⟩, h.reach_succ (by omega) (by omega),
    fun _ => ⟨k, by omega, by omega⟩⟩

theorem LeftAt.pass (h : LeftAt t k 0) (hk : tokenEnd t k = k) :
    ¬ InToken t k ∧ LeftAt t (k + 1) 0 := by
  refine ⟨?_, h.reach_succ (by omega) (by omega), fun hzero => absurd rfl hzero⟩
  rintro ⟨i, hi, hlt⟩
  rcases Nat.lt_or_eq_of_le hi with hi | rfl
  · exact Nat.not_lt_of_le (h.reach i hi) hlt
  · omega

/-- The walk through a text marks the characters that belong to a token. -/
theorem markTokensFrom_eq_mapIdx (h : LeftAt (x ++ y) x.length n) :
    markTokensFrom tokenLength n x.getLast? y =
      y.mapIdx fun k c => (c, decide (InToken (x ++ y) (x.length + k))) := by
  induction y generalizing x n with
  | nil => cases n <;> rfl
  | cons c y ih =>
    have hnext := fun n => ih (x := x ++ [c]) (n := n)
    simp only [List.getLast?_concat, List.append_assoc, List.singleton_append, List.length_append,
      List.length_singleton, Nat.add_assoc, Nat.add_comm 1] at hnext
    rw [List.mapIdx_cons, Nat.add_zero]
    cases n with
    | succ n =>
      obtain ⟨hin, hleft⟩ := h.inside
      rw [markTokensFrom, hnext n hleft, decide_eq_true hin]
    | zero =>
      have hend := tokenEnd_append (x := x) (y := c :: y)
      cases hlen : tokenLength x.getLast? (c :: y) with
      | zero =>
        obtain ⟨hout, hleft⟩ := h.pass (by omega)
        rw [markTokensFrom_of_eq_zero hlen, hnext 0 hleft, decide_eq_false hout]
      | succ n =>
        obtain ⟨hin, hleft⟩ := h.enter (hlen ▸ hend)
        rw [markTokensFrom_of_eq_succ hlen, hnext n hleft, decide_eq_true hin]

/-- The characters that are marked are those in a token. -/
theorem markTokens_eq_mapIdx (t : Text) :
    markTokens tokenLength t = t.mapIdx fun k c => (c, decide (InToken t k)) := by
  have h := markTokensFrom_eq_mapIdx (x := []) (leftAt_zero t)
  simpa [markTokens] using h

end Operator

end DocTree
