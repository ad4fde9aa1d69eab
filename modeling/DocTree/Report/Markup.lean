/-
Texts with tags.

A tag such as `[bold]` changes how the text after it is shown, and `[/bold]` ends that.
Between its brackets a tag begins with a small letter or one of `#`, `/` and `@`.  A
backslash in front takes the meaning of a tag away, and another one that of the
backslash.  An outline is printed without styles, so its tags only disappear.

* `Markup.escaped` — the markup for a text that is to be shown as it is;
* `Markup.shown` — what a markup shows.
-/
import DocTree.Report.Pictograph

namespace DocTree.Markup

/-- Whether a tag may begin with a character. -/
def startsTag (c : Char) : Bool := ('a' ≤ c && c ≤ 'z') || c == '#' || c == '/' || c == '@'

/-- The tag at the start of a text, and the text after it.  There is no bracket inside
a tag. -/
def tag? : Text → Option (Text × Text)
  | '[' :: c :: rest =>
    let body := rest.takeWhile fun d => d != '[' && d != ']'
    match rest.drop body.length with
    | ']' :: after => if startsTag c then some ('[' :: c :: body ++ [']'], after) else none
    | _ => none
  | _ => none

theorem length_of_tag? {t tag after : Text} (h : tag? t = some (tag, after)) :
    after.length < t.length := by
  unfold tag? at h
  split at h
  · next c rest =>
    simp only at h
    split at h
    · next after' hdrop =>
      split at h
      · have hlen := congrArg List.length hdrop
        simp only [Option.some.injEq, Prod.mk.injEq] at h
        rw [List.length_drop, List.length_cons] at hlen
        rw [← h.2]
        simp only [List.length_cons]
        omega
      · simp at h
    · simp at h
  · simp at h

/-- A piece of a markup: a tag with a number of backslashes in front of it, or the text
between two of those. -/
inductive Piece where
  | text (t : Text)
  | tag (backslashes : Nat) (t : Text)
deriving DecidableEq, Repr

/-- Puts a character in front of some pieces. -/
def consText (c : Char) : List Piece → List Piece
  | .text t :: rest => .text (c :: t) :: rest
  | ps => .text [c] :: ps

/-- The pieces of a markup. -/
def pieces (t : Text) : List Piece :=
  match t with
  | [] => []
  | c :: rest =>
    let backslashes := ((c :: rest).takeWhile (· == '\\')).length
    match _h : tag? ((c :: rest).drop backslashes) with
    | some (tag, after) => .tag backslashes tag :: pieces after
    | none => consText c (pieces rest)
termination_by t.length
decreasing_by
  · have := length_of_tag? _h
    rw [List.length_drop] at this
    simp only [List.length_cons] at this ⊢
    omega
  · simp

/-! ### Showing a text as it is -/

/-- Whether a text ends in a backslash with no backslash in front. -/
def endsInBackslash (t : Text) : Bool :=
  match t.reverse with
  | '\\' :: '\\' :: _ => false
  | '\\' :: _ => true
  | _ => false

/-- The markup for a text that is to be shown as it is.  A single backslash at the end
is doubled as well, for the sake of a tag after it. -/
def escaped (t : Text) : Text :=
  let markup := (pieces t).flatMap fun
    | .text t => t
    | .tag n t => List.replicate (2 * n + 1) '\\' ++ t
  if endsInBackslash markup then markup ++ ['\\'] else markup

/-! ### What is shown -/

/-- Takes the backslash away from brackets that belong to no tag. -/
def openBrackets : Text → Text
  | '\\' :: '[' :: rest => '[' :: openBrackets rest
  | c :: rest => c :: openBrackets rest
  | [] => []

/-- What a piece shows: of a tag half of its backslashes, and the tag itself if their
number is odd. -/
def Piece.shown : Piece → Text
  | .text t => (openBrackets t).pictured
  | .tag n t => List.replicate (n / 2) '\\' ++ (if n % 2 = 1 then t.pictured else [])

/-- What a markup shows. -/
def shown (markup : Text) : Text := (pieces markup).flatMap Piece.shown

end DocTree.Markup
