/-
The segments of a qualified name.

A qualified name is cut wherever a scan comes to a `::` outside angle brackets.  What this gives
can be told without the scan:

* `Scope.splitFrom_eq_iff` — the segments of a text with a tail behind it;
* `Scope.exists_split_eq` — the tail of a qualified name begins at the first keyword `operator`;
* `Scope.split_eq_iff` — the segments are the one list of texts that, joined again, give the name,
  and that is cut at each `::` outside angle brackets in front of the keyword, as early as
  possible.
-/
import DocTree.Proofs.OperatorTokens

namespace DocTree

namespace Scope

variable {head last own q s tail : Text} {scopes : List Text}

/-- Each `::` in the text stands inside of angle brackets. -/
def MarksInside (t : Text) : Prop := ∀ x y, t = x ++ ':' :: ':' :: y → angleDepth x ≠ 0

/-- A segment in front of `::` closes its angle brackets and holds no `::` outside them, not even
together with the `::` behind it. -/
theorem isSegmentAt_zero_iff :
    IsSegmentAt 0 s ↔ angleDepth s = 0 ∧ MarksInside s ∧ s.getLast? ≠ some ':' := by
  have hcolon : angleDepth [':'] = 0 := rfl
  constructor
  · rintro ⟨hclosed, hinside⟩
    rw [Int.zero_add] at hclosed
    refine ⟨hclosed, fun x y heq => ?_, fun hlast => ?_⟩
    · have := hinside x (y ++ [':']) (by rw [heq]; simp)
      rwa [Int.zero_add] at this
    · obtain ⟨x, rfl⟩ := List.getLast?_eq_some_iff.mp hlast
      have := hinside x [] (by simp)
      rw [angleDepth_append, hcolon] at hclosed
      omega
  · rintro ⟨hclosed, hinside, hlast⟩
    refine ⟨by omega, fun x y heq => ?_⟩
    rw [Int.zero_add]
    rcases List.eq_nil_or_concat y with rfl | ⟨y, c, rfl⟩
    · -- the mark would begin at the end of the segment
      refine absurd ?_ hlast
      have : s ++ [':'] = (x ++ [':']) ++ [':'] := by simpa using heq
      rw [List.append_cancel_right this, List.getLast?_concat]
    · have : s ++ [':'] = (x ++ ':' :: ':' :: y) ++ [c] := by simpa using heq
      exact hinside x y (List.append_inj_left' this rfl)

theorem splitFrom_qualified_concat_iff :
    splitFrom tail 0 (qualified scopes own) = scopes ++ [own ++ tail] ↔
      (∀ s ∈ scopes, IsSegmentAt 0 s) ∧ MarksInside own := by
  rw [splitFrom_qualified_iff, eq_comm (a := [own ++ tail]), splitFrom_eq_singleton_iff]
  simp only [MarksInside, Int.zero_add]

/-- The segments of a text, the last of which goes on with the tail. -/
theorem splitFrom_eq_iff :
    splitFrom tail 0 head = scopes ++ [last] ↔
      ∃ own, last = own ++ tail ∧ qualified scopes own = head ∧
        (∀ s ∈ scopes, IsSegmentAt 0 s) ∧ MarksInside own := by
  constructor
  · intro h
    obtain ⟨front, last', hsplit, own, rfl⟩ := suffix_getLast_splitFrom tail 0 head
    obtain ⟨rfl, hlast⟩ := List.append_inj' (h.symm.trans hsplit) rfl
    obtain rfl := List.singleton_inj.mp hlast
    -- joined again, the segments give the text with its tail
    have hjoin := join_splitFrom tail 0 head
    rw [h, ← qualified, qualified_eq, ← List.append_assoc, List.append_cancel_right_eq,
      ← qualified_eq] at hjoin
    exact ⟨own, rfl, hjoin, splitFrom_qualified_concat_iff.mp (hjoin.symm ▸ h)⟩
  · rintro ⟨own, rfl, rfl, h⟩
    exact splitFrom_qualified_concat_iff.mpr h

/-- The part of a qualified name from the first keyword on, and nothing where there is none. -/
def keywordTail (q : Text) : Text := q.drop ((Operator.find? q).getD q.length)

theorem exists_split_eq (q : Text) :
    ∃ head, q = head ++ keywordTail q ∧ split q = splitFrom (keywordTail q) 0 head := by
  refine ⟨q.take ((Operator.find? q).getD q.length), (List.take_append_drop _ q).symm, ?_⟩
  unfold split keywordTail
  cases Operator.find? q <;> simp

/-- **Cutting a qualified name is lossless and exact.**  The keyword is found at the first place
where it is a whole word, and the segments are the one list of texts for which this holds: joined
again, they give the name; all of them but the last close their angle brackets, hold no `::` outside
them and leave no colon to the next `::`; and the last one is a text without a `::` outside angle
brackets, followed by all that comes from the keyword on. -/
theorem split_eq_iff (q : Text) :
    (∀ i, Operator.find? q = some i ↔ IsLeast {i | Operator.IsWordAt q i} i) ∧
      ∀ segments, split q = segments ↔
        Text.join scopeMark segments = q ∧
          (∀ s ∈ segments.dropLast, angleDepth s = 0 ∧ MarksInside s ∧ s.getLast? ≠ some ':') ∧
          ∃ own, segments.getLast? = some (own ++ keywordTail q) ∧ MarksInside own := by
  refine ⟨fun i => Operator.find?_eq_some_iff, fun segments => ?_⟩
  obtain ⟨head, hq, hsplit⟩ := exists_split_eq q
  constructor
  · rintro rfl
    obtain ⟨scopes, last, hlast⟩ := (List.eq_nil_or_concat' (split q)).resolve_left (split_ne_nil q)
    obtain ⟨own, rfl, -, hscopes, hinside⟩ := splitFrom_eq_iff.mp (hsplit.symm.trans hlast)
    refine ⟨join_split q, ?_, own, ?_, hinside⟩
    · rw [hlast, List.dropLast_concat]
      exact fun s hs => isSegmentAt_zero_iff.mp (hscopes s hs)
    · rw [hlast, List.getLast?_concat]
  · rintro ⟨hjoin, hscopes, own, hlast, hinside⟩
    obtain ⟨scopes, rfl⟩ := List.getLast?_eq_some_iff.mp hlast
    rw [List.dropLast_concat] at hscopes
    -- without the tail, the joined segments are the text that is scanned
    have hhead : qualified scopes own = head := by
      rw [← qualified, qualified_eq, ← List.append_assoc, ← qualified_eq] at hjoin
      exact List.append_cancel_right (hjoin.trans hq)
    rw [hsplit, splitFrom_eq_iff]
    exact ⟨own, rfl, hhead, fun s hs => isSegmentAt_zero_iff.mpr (hscopes s hs), hinside⟩

/-- Of overlapping marks the first one cuts, and `operator` inside of a longer word is no
keyword. -/
example :
    split "A:::f<B::C>::myoperator::operator D::E".toList =
      ["A".toList, ":f<B::C>".toList, "myoperator".toList, "operator D::E".toList] := by
  decide

end Scope

end DocTree
