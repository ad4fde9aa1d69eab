/-
Laws of trimming.

Trimming the end of a text depends on its last part alone, unless that is blank:

* `Text.trimEnd_append_of_all`, `Text.trimEnd_append_of_ne_nil` — the two cases;
* `Text.trim_append_of_all` — blanks at the end do not matter to a trimmed text;
* `Text.dropEndWhile_join` — joined lines end in a break only if the last one is empty;
* `Text.splitOn_trimEnd_join_cons` — trimming the end of some lines leaves the first line as it is,
  unless those behind it are blank.
-/
import DocTree.Proofs.FunctionText

namespace DocTree.Text

variable {c : Char} {g t x y : Text} {ls : List Text}

/-! ### The start -/

/-- Blanks in front of a text that does not begin with one are trimmed. -/
theorem trimStart_blank_append (hg : ∀ c ∈ g, isBlank c = true)
    (ht : ∀ c, t.head? = some c → isBlank c = false) : trimStart (g ++ t) = t := by
  rw [trimStart, List.dropWhile_append_of_pos hg]
  cases t with
  | nil => rfl
  | cons c t => exact List.dropWhile_cons_of_neg (by simp [ht c rfl])

theorem trimStart_eq_self (ht : ∀ c, t.head? = some c → isBlank c = false) : trimStart t = t :=
  trimStart_blank_append (g := []) (by simp) ht

/-! ### The end -/

theorem trimEnd_isPrefix (t : Text) : trimEnd t <+: t := by
  obtain ⟨s, hs, -⟩ := exists_dropEndWhile_append isBlank t
  exact ⟨s, hs⟩

theorem trimEnd_append_of_all (hy : y.all isBlank = true) : trimEnd (x ++ y) = trimEnd x := by
  unfold trimEnd
  induction x with
  | nil => exact dropEndWhile_eq_nil_iff.mpr hy
  | cons c x ih => rw [List.cons_append, dropEndWhile, dropEndWhile, ih]

theorem dropEndWhile_append_of_ne_nil {p : Char → Bool} (hy : dropEndWhile p y ≠ []) :
    dropEndWhile p (x ++ y) = x ++ dropEndWhile p y := by
  induction x with
  | nil => rfl
  | cons c x ih =>
    rw [List.cons_append, dropEndWhile, ih]
    cases hkept : x ++ dropEndWhile p y with
    | nil => exact absurd (List.append_eq_nil_iff.mp hkept).2 hy
    | cons d kept => rw [List.cons_append, hkept]

theorem trimEnd_append_of_ne_nil (hy : trimEnd y ≠ []) : trimEnd (x ++ y) = x ++ trimEnd y :=
  dropEndWhile_append_of_ne_nil hy

theorem trimEnd_trimEnd (t : Text) : trimEnd (trimEnd t) = trimEnd t := by
  obtain ⟨s, hs, hall⟩ := exists_dropEndWhile_append isBlank t
  have hs' : trimEnd t ++ s = t := hs
  conv_rhs => rw [← hs', trimEnd_append_of_all hall]

theorem exists_getLast?_trimEnd (h : trimEnd t ≠ []) :
    ∃ c, (trimEnd t).getLast? = some c ∧ isBlank c = false := by
  rcases List.eq_nil_or_concat (trimEnd t) with hnil | ⟨u, c, hconcat⟩
  · exact absurd hnil h
  · rw [List.concat_eq_append] at hconcat
    exact ⟨c, by rw [hconcat, List.getLast?_concat], isBlank_eq_false_of_trimEnd hconcat⟩

theorem trim_trimEnd (t : Text) : trim (trimEnd t) = trim t := by
  obtain ⟨s, hs, hall⟩ := exists_dropEndWhile_append isBlank t
  have hs' : trimEnd t ++ s = t := hs
  by_cases hnil : trimStart (trimEnd t) = []
  · -- nothing but blanks
    have hblank : t.all isBlank = true := by
      rw [← hs', List.all_append, hall, Bool.and_true, List.all_eq_true]
      intro c hc
      rw [← indent_append_trimStart (trimEnd t), hnil, List.append_nil] at hc
      exact List.mem_takeWhile_imp hc
    have hend : trimEnd t = [] := dropEndWhile_eq_nil_iff.mpr hblank
    have hstart : trimStart t = [] := by
      rw [trimStart, List.dropWhile_eq_nil_iff]
      exact List.all_eq_true.mp hblank
    rw [hend, trim, trim, hstart]
    rfl
  · conv_rhs => rw [← hs']
    rw [trim, trim, trimStart_append hnil, trimEnd_append_of_all hall]

theorem trim_append_of_all (hy : y.all isBlank = true) : trim (x ++ y) = trim x := by
  rw [← trim_trimEnd, trimEnd_append_of_all hy, trim_trimEnd]

/-! ### Lines -/

theorem join_concat {separator : Text} (hls : ls ≠ []) (x : Text) :
    join separator (ls ++ [x]) = join separator ls ++ separator ++ x := by
  induction ls with
  | nil => exact absurd rfl hls
  | cons y ls ih =>
    cases ls with
    | nil => simp [join, List.intercalate_cons_cons]
    | cons z ls =>
      have hrest := ih (by simp)
      simp only [join, List.cons_append, List.intercalate_cons_cons] at hrest ⊢
      rw [hrest]
      simp

/-- Joined lines do not end in a break if the last of them is not empty. -/
theorem dropEndWhile_join (hne : ls ≠ []) (hls : ∀ x ∈ ls, x ≠ [] ∧ '\n' ∉ x) :
    dropEndWhile (· == '\n') (join ['\n'] ls) = join ['\n'] ls := by
  have hself : ∀ x ∈ ls, dropEndWhile (· == '\n') x = x := by
    intro x hx
    obtain ⟨s, hs, hall⟩ := exists_dropEndWhile_append (· == '\n') x
    cases s with
    | nil => rwa [List.append_nil] at hs
    | cons c s =>
      have hc : c = '\n' := by simpa using (List.all_eq_true.mp hall) c (by simp)
      exact absurd (hs ▸ by simp [hc]) (hls x hx).2
  rcases List.eq_nil_or_concat ls with rfl | ⟨front, x, rfl⟩
  · exact absurd rfl hne
  · rw [List.concat_eq_append] at hself hls ⊢
    have hx := hself x (by simp)
    by_cases hfront : front = []
    · rw [hfront, List.nil_append, join, List.intercalate_singleton, hx]
    · rw [join_concat hfront, dropEndWhile_append_of_ne_nil (by rw [hx]; exact (hls x (by simp)).1),
        hx]

/-- Trimming the end of some lines trims the first of them, or leaves it as it is and trims the
others. -/
theorem splitOn_trimEnd_join_cons (hx : '\n' ∉ x) (ls : List Text) :
    (trimEnd (join ['\n'] (x :: ls))).splitOn '\n' = [trimEnd x] ∨
      ls ≠ [] ∧ (trimEnd (join ['\n'] (x :: ls))).splitOn '\n' =
        x :: (trimEnd (join ['\n'] ls)).splitOn '\n' := by
  have hend : (trimEnd x).splitOn '\n' = [trimEnd x] :=
    List.splitOn_eq_singleton fun hmem => hx ((trimEnd_isPrefix x).subset hmem)
  cases ls with
  | nil => exact .inl (by rwa [join, List.intercalate_singleton])
  | cons y ls =>
    have hjoin : join ['\n'] (x :: y :: ls) = x ++ '\n' :: join ['\n'] (y :: ls) := by
      simp [join, List.intercalate_cons_cons]
    rw [hjoin]
    by_cases hblank : trimEnd (join ['\n'] (y :: ls)) = []
    · left
      have hall := dropEndWhile_eq_nil_iff.mp hblank
      rw [trimEnd_append_of_all (by rw [List.all_cons, hall]; rfl), hend]
    · right
      have hbreak : trimEnd ('\n' :: join ['\n'] (y :: ls)) =
          '\n' :: trimEnd (join ['\n'] (y :: ls)) :=
        trimEnd_append_of_ne_nil (x := ['\n']) hblank
      rw [trimEnd_append_of_ne_nil (by simp [hbreak]), hbreak,
        List.splitOn_append_cons_self_of_not_mem hx]
      exact ⟨List.cons_ne_nil y ls, rfl⟩

end DocTree.Text
