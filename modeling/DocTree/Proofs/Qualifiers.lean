/-
Removing the qualifiers that name a scope.

Below a scope, a declaration is shown without the qualifiers that name it.  In a text
without template arguments these are simple: `scope::` or `::scope::`, not behind a word
character or a colon.

* `Scope.qualifierLength_eq` — where such a qualifier stands;
* `Scope.removeQualifiers_append_cons` — qualifiers are removed apart on both sides of a
  character that cannot be part of one;
* `Scope.removeQualifiers_qualified` — what is left of a qualified name below all its scopes;
* `Scope.filter_removeQualifiers` — only word characters and colons are lost.
-/
import DocTree.Proofs.ScopeSplit

namespace DocTree

/-! ### Tokens on both sides of a character -/

section Tokens

variable {len : TokenLength} {x y t : Text} {c : Char}

theorem markTokensFrom_of_eq_zero {before : Option Char} (h : len before (c :: t) = 0) :
    markTokensFrom len 0 before (c :: t) = (c, false) :: markTokensFrom len 0 (some c) t := by
  rw [markTokensFrom, h]

theorem markTokensFrom_of_eq_succ {before : Option Char} {n : Nat}
    (h : len before (c :: t) = n + 1) :
    markTokensFrom len 0 before (c :: t) = (c, true) :: markTokensFrom len n (some c) t := by
  rw [markTokensFrom, h]

/-- Where no token goes over `c`, the tokens before and after it are found apart. -/
theorem markTokensFrom_append_cons {inside : Nat} (before : Option Char)
    (hlocal : ∀ b z, z <:+ x → len b (z ++ c :: y) = len b z)
    (hfits : ∀ b z, z <:+ x → len b z ≤ z.length) (hinside : inside ≤ x.length) :
    markTokensFrom len inside before (x ++ c :: y) =
      markTokensFrom len inside before x ++ (c, false) :: markTokensFrom len 0 (some c) y := by
  induction x generalizing inside before with
  | nil =>
    obtain rfl : inside = 0 := by simpa using hinside
    have hsame : len before (c :: y) = len before [] := hlocal before [] (List.suffix_refl [])
    have hfit := hfits before [] (List.suffix_refl [])
    exact markTokensFrom_of_eq_zero (hsame.trans (Nat.le_zero.mp hfit))
  | cons d x ih =>
    have hrest : ∀ {n : Nat} {b : Option Char}, n ≤ x.length →
        markTokensFrom len n b (x ++ c :: y) =
          markTokensFrom len n b x ++ (c, false) :: markTokensFrom len 0 (some c) y :=
      ih _ (fun b z hz => hlocal b z (hz.trans (List.suffix_cons d x)))
        (fun b z hz => hfits b z (hz.trans (List.suffix_cons d x)))
    rw [List.cons_append]
    cases inside with
    | succ n =>
      rw [markTokensFrom, markTokensFrom, hrest (by simpa using hinside)]
      rfl
    | zero =>
      have hlen : len before (d :: (x ++ c :: y)) = len before (d :: x) :=
        hlocal before (d :: x) (List.suffix_refl _)
      have hfit := hfits before (d :: x) (List.suffix_refl _)
      cases h : len before (d :: x) with
      | zero =>
        rw [markTokensFrom_of_eq_zero h, markTokensFrom_of_eq_zero (hlen.trans h),
          hrest (Nat.zero_le _)]
        rfl
      | succ n =>
        rw [h, List.length_cons] at hfit
        rw [markTokensFrom_of_eq_succ h, markTokensFrom_of_eq_succ (hlen.trans h),
          hrest (Nat.le_of_succ_le_succ hfit)]
        rfl

/-- Marked characters are those of tokens. -/
theorem forall_mem_markTokensFrom {p : Char → Prop} {inside : Nat} {before : Option Char}
    (hlen : ∀ b z, z <:+ t → ∀ d ∈ z.take (len b z), p d) (hinside : ∀ d ∈ t.take inside, p d) :
    ∀ m ∈ markTokensFrom len inside before t, m.2 = true → p m.1 := by
  induction t generalizing inside before with
  | nil => cases inside <;> simp [markTokensFrom]
  | cons d t ih =>
    have hrest : ∀ {n : Nat} {b : Option Char}, (∀ e ∈ t.take n, p e) →
        ∀ m ∈ markTokensFrom len n b t, m.2 = true → p m.1 := fun hn =>
      ih (fun b z hz => hlen b z (hz.trans (List.suffix_cons d t))) hn
    cases inside with
    | succ n =>
      rw [List.take_succ_cons, List.forall_mem_cons] at hinside
      rw [markTokensFrom, List.forall_mem_cons]
      exact ⟨fun _ => hinside.1, hrest hinside.2⟩
    | zero =>
      have htoken := hlen before (d :: t) (List.suffix_refl _)
      cases h : len before (d :: t) with
      | zero =>
        rw [markTokensFrom_of_eq_zero h, List.forall_mem_cons]
        exact ⟨fun hfalse => absurd hfalse (by simp), hrest (by simp)⟩
      | succ n =>
        rw [h, List.take_succ_cons, List.forall_mem_cons] at htoken
        rw [markTokensFrom_of_eq_succ h, List.forall_mem_cons]
        exact ⟨fun _ => htoken.1, hrest htoken.2⟩

end Tokens

/-! ### Where a qualifier stands -/

namespace Scope

variable {s x y t : Text} {c : Char} {before : Option Char}

/-- Whether a character may be part of a qualifier. -/
def isQualifierChar (c : Char) : Bool := isWordChar c || c == ':'

theorem scopeMark_isPrefix : scopeMark <+: t ↔ ∃ rest, t = ':' :: ':' :: rest :=
  ⟨fun ⟨rest, h⟩ => ⟨rest, h.symm⟩, fun ⟨rest, h⟩ => ⟨rest, h.symm⟩⟩

theorem plainQualifierLength_eq (ht : '<' ∉ t) :
    plainQualifierLength s t = if s ++ scopeMark <+: t then some (s.length + 2) else none := by
  unfold plainQualifierLength
  cases h : s.isPrefixOf? t with
  | none =>
    rw [if_neg]
    rintro ⟨rest, hrest⟩
    rw [List.append_assoc] at hrest
    rw [List.isPrefixOf?_eq_some_iff_append_eq.mpr hrest] at h
    exact absurd h (by simp)
  | some rest =>
    obtain rfl := List.isPrefixOf?_eq_some_iff_append_eq.mp h
    have hmark : s ++ scopeMark <+: s ++ rest ↔ ∃ r, rest = ':' :: ':' :: r := by
      rw [List.prefix_append_right_inj, scopeMark_isPrefix]
    split
    · rename_i r heq
      rw [if_pos (hmark.mpr ⟨r, Option.some.inj heq⟩)]
    · rename_i r heq
      exact absurd (by rw [Option.some.inj heq]; simp) ht
    · rename_i hno _
      rw [if_neg]
      intro hpre
      obtain ⟨r, rfl⟩ := hmark.mp hpre
      exact hno r rfl

/-- In a text without `<`, a qualifier is the scope between marks, of which the first may be
missing. -/
theorem qualifierLength_eq (ht : '<' ∉ t) :
    qualifierLength s before t =
      if before.any isQualifierChar then 0
      else if scopeMark ++ (s ++ scopeMark) <+: t then s.length + 4
      else if s ++ scopeMark <+: t then s.length + 2 else 0 := by
  unfold qualifierLength
  refine if_congr Iff.rfl rfl ?_
  rw [plainQualifierLength_eq ht]
  by_cases hmark : ∃ rest, t = ':' :: ':' :: rest
  · obtain ⟨rest, rfl⟩ := hmark
    have hrest : '<' ∉ rest := fun h => ht (by simp [h])
    have habs : scopeMark ++ (s ++ scopeMark) <+: ':' :: ':' :: rest ↔ s ++ scopeMark <+: rest :=
      List.prefix_append_right_inj scopeMark
    simp only [plainQualifierLength_eq hrest]
    by_cases hpre : s ++ scopeMark <+: rest
    · rw [if_pos hpre, if_pos (habs.mpr hpre)]
      rfl
    · rw [if_neg hpre, if_neg (mt habs.mp hpre)]
      split <;> rfl
  · have habs : ¬ scopeMark ++ (s ++ scopeMark) <+: t := by
      rintro ⟨rest, hrest⟩
      exact hmark ⟨s ++ scopeMark ++ rest, by rw [← hrest]; simp [scopeMark]⟩
    rw [if_neg habs]
    split
    · rename_i rest
      exact absurd ⟨rest, rfl⟩ hmark
    · by_cases hpre : s ++ scopeMark <+: t
      · rw [if_pos hpre, if_pos hpre]
        rfl
      · rw [if_neg hpre, if_neg hpre]
        rfl

/-- A qualifier as it may stand in a text without `<`. -/
def IsQualifier (s w : Text) : Prop := w = s ++ scopeMark ∨ w = scopeMark ++ (s ++ scopeMark)

theorem IsQualifier.getLast? {w : Text} (h : IsQualifier s w) : w.getLast? = some ':' := by
  have hlast : scopeMark.getLast? = some ':' := rfl
  rcases h with rfl | rfl <;> simp [List.getLast?_append, hlast]

theorem IsQualifier.isQualifierChar {w : Text} (h : IsQualifier s w) (hs : IsWord s) :
    ∀ d ∈ w, isQualifierChar d = true := by
  have hscope : ∀ d ∈ s, Scope.isQualifierChar d = true := fun d hd => by
    simp [Scope.isQualifierChar, hs.2 d hd]
  have hmark : ∀ d ∈ scopeMark, Scope.isQualifierChar d = true := List.all_eq_true.mp (by decide)
  intro d hd
  rcases h with rfl | rfl
  · exact (List.mem_append.mp hd).elim (hscope d) (hmark d)
  · exact (List.mem_append.mp hd).elim (hmark d) fun hd =>
      (List.mem_append.mp hd).elim (hscope d) (hmark d)

/-- A token is a qualifier, or there is none. -/
theorem qualifierLength_cases (ht : '<' ∉ t) (before : Option Char) :
    qualifierLength s before t = 0 ∨
      ∃ w, IsQualifier s w ∧ w <+: t ∧ qualifierLength s before t = w.length := by
  rw [qualifierLength_eq ht]
  split_ifs with hbefore habs hplain
  · exact .inl rfl
  · exact .inr ⟨_, .inr rfl, habs, by simp [scopeMark]⟩
  · exact .inr ⟨_, .inl rfl, hplain, by simp [scopeMark]⟩
  · exact .inl rfl

theorem length_qualifier_le (ht : '<' ∉ t) (before : Option Char) :
    qualifierLength s before t ≤ t.length := by
  rcases qualifierLength_cases ht before with h | ⟨w, -, hpre, h⟩
  · rw [h]
    exact Nat.zero_le _
  · rw [h]
    exact hpre.length_le

/-! ### Removing qualifiers apart -/

/-- A character over which no qualifier goes parts the text. -/
theorem removeQualifier_append (ht : '<' ∉ x ++ c :: y)
    (hlocal : ∀ w, IsQualifier s w → ∀ z, w <+: z ++ c :: y ↔ w <+: z) :
    removeQualifier s (x ++ c :: y) =
      removeQualifier s x ++
        c :: unmark ((markTokensFrom (qualifierLength s) 0 (some c) y).filter fun m => !m.2) := by
  have hx : ∀ z, z <:+ x → '<' ∉ z := fun z hz h => ht (by simp [hz.subset h])
  have hxy : ∀ z, z <:+ x → '<' ∉ z ++ c :: y := by
    intro z hz h
    rcases List.mem_append.mp h with h | h
    · exact hx z hz h
    · exact ht (List.mem_append_right x h)
  have hsame : ∀ b z, z <:+ x → qualifierLength s b (z ++ c :: y) = qualifierLength s b z := by
    intro b z hz
    rw [qualifierLength_eq (hxy z hz), qualifierLength_eq (hx z hz)]
    simp only [hlocal _ (.inl rfl), hlocal _ (.inr rfl)]
  have hmarks := markTokensFrom_append_cons none hsame
    (fun b z hz => length_qualifier_le (hx z hz) b) (Nat.zero_le _)
  rw [removeQualifier, removeTokens, markTokens, hmarks]
  simp [removeQualifier, removeTokens, markTokens, unmark]

theorem removeQualifier_append_cons (hs : IsWord s) (hc : isQualifierChar c = false)
    (ht : '<' ∉ x ++ c :: y) :
    removeQualifier s (x ++ c :: y) = removeQualifier s x ++ c :: removeQualifier s y := by
  rw [removeQualifier_append ht]
  · -- behind such a character a qualifier may begin as at the start of a text
    have hstart : markTokensFrom (qualifierLength s) 0 (some c) y =
        markTokensFrom (qualifierLength s) 0 none y := by
      cases y with
      | nil => rfl
      | cons d y =>
        have hsame : qualifierLength s (some c) (d :: y) = qualifierLength s none (d :: y) := by
          have hd : '<' ∉ d :: y := fun h => ht (by simp at h ⊢; grind)
          rw [qualifierLength_eq hd, qualifierLength_eq hd]
          simp [hc]
        simp only [markTokensFrom, hsame]
    rw [hstart]
    rfl
  · intro w hw z
    exact isPrefix_append_cons_iff fun h => by simp [hw.isQualifierChar hs c h] at hc

/-- A qualifier ends in a colon, so another last character stays. -/
theorem removeQualifier_concat (hc : c ≠ ':') (ht : '<' ∉ x ++ [c]) :
    removeQualifier s (x ++ [c]) = removeQualifier s x ++ [c] := by
  rw [removeQualifier_append ht]
  · rfl
  · intro w hw z
    rw [List.prefix_concat_iff]
    refine or_iff_right fun h => ?_
    have hlast := hw.getLast?
    rw [h, List.getLast?_concat] at hlast
    exact hc (Option.some.inj hlast)

theorem removeQualifier_sublist (s t : Text) : (removeQualifier s t).Sublist t := by
  have h : (removeQualifier s t).Sublist (unmark (markTokens (qualifierLength s) t)) :=
    List.filter_sublist.map Prod.fst
  rwa [unmark, map_fst_markTokens] at h

/-- Only characters of qualifiers are lost. -/
theorem filter_removeQualifier {p : Char → Bool} (hs : IsWord s) (ht : '<' ∉ t)
    (hp : ∀ d, isQualifierChar d = true → p d = false) :
    (removeQualifier s t).filter p = t.filter p := by
  have hmarks : ∀ m ∈ markTokens (qualifierLength s) t, m.2 = true → p m.1 = false := by
    refine forall_mem_markTokensFrom (p := fun d => p d = false) (fun b z hz d hd => ?_) (by simp)
    have hz' : '<' ∉ z := fun h => ht (hz.subset h)
    rcases qualifierLength_cases hz' b with h | ⟨w, hw, hpre, h⟩
    · rw [h] at hd
      simp at hd
    · rw [h, ← List.prefix_iff_eq_take.mp hpre] at hd
      exact hp d (hw.isQualifierChar hs d hd)
  calc (removeQualifier s t).filter p
      = (unmark (markTokens (qualifierLength s) t)).filter p := by
        unfold removeQualifier removeTokens unmark
        rw [List.filter_map, List.filter_map, List.filter_filter]
        refine congrArg _ (List.filter_congr fun m hm => ?_)
        cases hm2 : m.2 with
        | false => simp
        | true => simp [hmarks m hm hm2]
    _ = t.filter p := by rw [unmark, map_fst_markTokens]

/-! ### Qualified names -/

/-- Where no colon is left behind qualifier characters, no qualifier begins behind one more. -/
theorem markTokensFrom_qualifierLength_append {f : Text}
    (hbefore : before.any isQualifierChar = true)
    (hx : ∀ d ∈ x, isQualifierChar d = true) (hcolon : ':' ∉ f) (hangle : '<' ∉ f) :
    markTokensFrom (qualifierLength s) 0 before (x ++ f) = (x ++ f).map (·, false) := by
  induction x generalizing before with
  | nil =>
    rw [List.nil_append]
    clear hbefore hx
    induction f generalizing before with
    | nil => rfl
    | cons c f ih =>
      have hzero : qualifierLength s before (c :: f) = 0 := by
        rcases qualifierLength_cases hangle before with h | ⟨w, hw, hpre, -⟩
        · exact h
        · exact absurd (hpre.subset (List.mem_of_getLast? hw.getLast?)) hcolon
      rw [markTokensFrom_of_eq_zero hzero, ih (fun h => hcolon (by simp [h]))
        fun h => hangle (by simp [h])]
      rfl
  | cons d x ih =>
    have hzero : qualifierLength s before (d :: (x ++ f)) = 0 := by
      unfold qualifierLength
      exact if_pos hbefore
    have hd : (some d).any isQualifierChar = true := hx d (by simp)
    rw [List.cons_append, markTokensFrom_of_eq_zero hzero, ih hd fun e he => hx e (by simp [he])]
    rfl

/-- Inside a name, where the character in front belongs to the name too, no qualifier begins. -/
theorem markTokensFrom_qualifierLength (hc : isQualifierChar c = true)
    (ht : ∀ d ∈ t, isQualifierChar d = true) :
    markTokensFrom (qualifierLength s) 0 (some c) t = t.map (·, false) := by
  have hbefore : (some c).any isQualifierChar = true := hc
  have hmarks := markTokensFrom_qualifierLength_append (s := s) (f := []) hbefore ht (by simp)
    (by simp)
  rwa [List.append_nil] at hmarks

theorem markTokensFrom_append_of_length (len : TokenLength) (before : Option Char) (u t : Text) :
    markTokensFrom len u.length before (u ++ t) =
      u.map (·, true) ++ markTokensFrom len 0 (u.getLast?.or before) t := by
  induction u generalizing before with
  | nil => rfl
  | cons c u ih =>
    rw [List.length_cons, List.cons_append, markTokensFrom, ih]
    cases u <;> simp [List.getLast?_cons]

/-- A token that is as long as a piece of the text is that piece. -/
theorem markTokensFrom_of_eq_length {len : TokenLength} {before : Option Char} {u : Text}
    (hu : u ≠ []) (h : len before (u ++ t) = u.length) :
    markTokensFrom len 0 before (u ++ t) =
      u.map (·, true) ++ markTokensFrom len 0 u.getLast? t := by
  obtain ⟨c, u, rfl⟩ := List.exists_cons_of_ne_nil hu
  have hfirst : len before (c :: (u ++ t)) = u.length + 1 := h
  rw [List.cons_append, markTokensFrom_of_eq_succ hfirst, markTokensFrom_append_of_length]
  simp [List.getLast?_cons]

theorem isQualifierChar_of_mem_qualifier {scopes : List Text} (hscopes : ∀ n ∈ scopes, IsWord n) :
    ∀ d ∈ qualifier scopes, isQualifierChar d = true := by
  intro d hd
  obtain ⟨x, hx, hd⟩ := List.mem_flatten.mp hd
  obtain ⟨n, hn, rfl⟩ := List.mem_map.mp hx
  rcases List.mem_append.mp hd with hd | hd
  · simp [isQualifierChar, (hscopes n hn).2 d hd]
  · exact List.all_eq_true.mp (by decide) d hd

theorem isQualifierChar_of_mem_qualified {scopes : List Text} {f : Text}
    (hscopes : ∀ n ∈ scopes, IsWord n) (hf : IsWord f) :
    ∀ d ∈ qualified scopes f, isQualifierChar d = true := by
  intro d hd
  rw [qualified_eq] at hd
  rcases List.mem_append.mp hd with hd | hd
  · exact isQualifierChar_of_mem_qualifier hscopes d hd
  · simp [isQualifierChar, hf.2 d hd]

theorem not_mem_qualified {scopes : List Text} {f : Text} (hscopes : ∀ n ∈ scopes, IsWord n)
    (hf : IsWord f) (hc : isQualifierChar c = false) : c ∉ qualified scopes f := fun h => by
  simp [isQualifierChar_of_mem_qualified hscopes hf c h] at hc

/-- The first scope of a qualified name is removed where it stands, and nowhere else. -/
theorem removeQualifier_qualified {scopes : List Text} {f : Text} (hs : IsWord s)
    (hscopes : ∀ n ∈ scopes, IsWord n) (hf : IsWord f) :
    removeQualifier s (qualified (s :: scopes) f) = qualified scopes f := by
  have hangle : '<' ∉ qualified (s :: scopes) f :=
    not_mem_qualified (by simpa using ⟨hs, hscopes⟩) hf rfl
  have heq : qualified (s :: scopes) f = (s ++ scopeMark) ++ qualified scopes f := by
    rw [qualified_cons]
    simp [scopeMark]
  rw [heq] at hangle ⊢
  have hlen : qualifierLength s none ((s ++ scopeMark) ++ qualified scopes f) =
      (s ++ scopeMark).length := by
    have habs : ¬ scopeMark ++ (s ++ scopeMark) <+: (s ++ scopeMark) ++ qualified scopes f := by
      obtain ⟨a, u, rfl⟩ := List.exists_cons_of_ne_nil hs.1
      intro h
      have ha := hs.2 a (by simp)
      rw [← (List.cons_prefix_cons.mp h).1, isWordChar_colon] at ha
      exact absurd ha (by simp)
    rw [qualifierLength_eq hangle, if_neg (by simp), if_neg habs,
      if_pos (List.prefix_append _ _)]
    simp [scopeMark]
  have hlast : (s ++ scopeMark).getLast? = some ':' := by
    simp [List.getLast?_append, scopeMark]
  rw [removeQualifier, removeTokens, markTokens,
    markTokensFrom_of_eq_length (by simp [scopeMark]) hlen, hlast,
    markTokensFrom_qualifierLength rfl (isQualifierChar_of_mem_qualified hscopes hf)]
  simp [unmark, List.filter_map, Function.comp_def]

theorem removeQualifier_of_not_mem (hcolon : ':' ∉ t) (hangle : '<' ∉ t) :
    removeQualifier s t = t := by
  have hnone : ∀ m ∈ markTokens (qualifierLength s) t, m.2 = true → False := by
    refine forall_mem_markTokensFrom (p := fun _ => False) (fun b z hz d hd => ?_) (by simp)
    rcases qualifierLength_cases (fun h => hangle (hz.subset h)) b with h | ⟨w, hw, hpre, -⟩
    · rw [h] at hd
      simp at hd
    · exact hcolon (hz.subset (hpre.subset (List.mem_of_getLast? hw.getLast?)))
  have hfilter : (markTokens (qualifierLength s) t).filter (fun m => !m.2) =
      markTokens (qualifierLength s) t :=
    List.filter_eq_self.mpr fun m hm => by simpa using fun h => hnone m hm h
  rw [removeQualifier, removeTokens, hfilter, unmark, map_fst_markTokens]

/-! ### Several scopes -/

section Scopes

variable {scopes : List Text}

theorem removeQualifiers_cons (s : Text) (scopes : List Text) (t : Text) :
    removeQualifiers (s :: scopes) t = removeQualifiers scopes (removeQualifier s t) := rfl

theorem removeQualifiers_sublist (scopes : List Text) (t : Text) :
    (removeQualifiers scopes t).Sublist t := by
  induction scopes generalizing t with
  | nil => exact List.Sublist.refl t
  | cons s scopes ih => exact (ih _).trans (removeQualifier_sublist s t)

theorem removeQualifiers_append_cons (hscopes : ∀ s ∈ scopes, IsWord s)
    (hc : isQualifierChar c = false) (ht : '<' ∉ x ++ c :: y) :
    removeQualifiers scopes (x ++ c :: y) =
      removeQualifiers scopes x ++ c :: removeQualifiers scopes y := by
  induction scopes generalizing x y with
  | nil => rfl
  | cons s scopes ih =>
    have hs := hscopes s (by simp)
    have hrest : '<' ∉ removeQualifier s x ++ c :: removeQualifier s y := by
      rw [← removeQualifier_append_cons hs hc ht]
      exact fun h => ht ((removeQualifier_sublist _ _).subset h)
    rw [removeQualifiers_cons, removeQualifier_append_cons hs hc ht,
      ih (fun n hn => hscopes n (by simp [hn])) hrest]
    rfl

theorem removeQualifiers_concat (hc : c ≠ ':') (ht : '<' ∉ x ++ [c]) :
    removeQualifiers scopes (x ++ [c]) = removeQualifiers scopes x ++ [c] := by
  induction scopes generalizing x with
  | nil => rfl
  | cons s scopes ih =>
    have hrest : '<' ∉ removeQualifier s x ++ [c] := by
      rw [← removeQualifier_concat hc ht]
      exact fun h => ht ((removeQualifier_sublist _ _).subset h)
    rw [removeQualifiers_cons, removeQualifier_concat hc ht, ih hrest]
    rfl

theorem filter_removeQualifiers {p : Char → Bool} (hscopes : ∀ s ∈ scopes, IsWord s)
    (ht : '<' ∉ t) (hp : ∀ d, isQualifierChar d = true → p d = false) :
    (removeQualifiers scopes t).filter p = t.filter p := by
  induction scopes generalizing t with
  | nil => rfl
  | cons s scopes ih =>
    have hrest : '<' ∉ removeQualifier s t := fun h => ht ((removeQualifier_sublist _ _).subset h)
    exact (ih (fun n hn => hscopes n (by simp [hn])) hrest).trans
      (filter_removeQualifier (hscopes s (by simp)) ht hp)

theorem removeQualifiers_of_not_mem (hcolon : ':' ∉ t) (hangle : '<' ∉ t) :
    removeQualifiers scopes t = t := by
  induction scopes with
  | nil => rfl
  | cons s scopes ih =>
    rw [removeQualifiers_cons, removeQualifier_of_not_mem hcolon hangle, ih]

theorem removeQualifiers_nil (scopes : List Text) : removeQualifiers scopes [] = [] :=
  removeQualifiers_of_not_mem (by simp) (by simp)

/-- A character that cannot be part of a qualifier stays in front of a text. -/
theorem removeQualifiers_separator (hscopes : ∀ s ∈ scopes, IsWord s)
    (hc : isQualifierChar c = false) (ht : '<' ∉ c :: t) :
    removeQualifiers scopes (c :: t) = c :: removeQualifiers scopes t := by
  have h := removeQualifiers_append_cons (x := []) hscopes hc ht
  rwa [removeQualifiers_nil] at h

/-- Below all its scopes, the identifier is left of a qualified name. -/
theorem removeQualifiers_qualified {f : Text} (hscopes : ∀ s ∈ scopes, IsWord s) (hf : IsWord f) :
    removeQualifiers scopes (qualified scopes f) = f := by
  induction scopes with
  | nil => exact qualified_nil f
  | cons s scopes ih =>
    have hrest : ∀ n ∈ scopes, IsWord n := fun n hn => hscopes n (by simp [hn])
    rw [removeQualifiers_cons, removeQualifier_qualified (hscopes s (by simp)) hrest hf, ih hrest]

end Scopes

end Scope

end DocTree
