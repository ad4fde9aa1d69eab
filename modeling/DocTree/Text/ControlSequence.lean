/-
Control sequences of terminals.

A control sequence is the escape character and `[`, then parameters, then intermediate
characters, and a final character that names its effect.  Each of the three kinds is a
range of ASCII.  Output that does not go to a terminal leaves control sequences out.

* `Text.withoutControls_of_forall_ne` — a text without the escape character stays as it is.
-/
import DocTree.Text.Basic

namespace DocTree.Text

/-- Whether a character is part of the parameters of a control sequence: digits, the
separators `:` and `;`, and `<` to `?`. -/
def isParameter (c : Char) : Bool := '0' ≤ c && c ≤ '?'

/-- Whether a character may stand between the parameters and the end of a control
sequence. -/
def isIntermediate (c : Char) : Bool := ' ' ≤ c && c ≤ '/'

/-- Whether a character ends a control sequence. -/
def isFinal (c : Char) : Bool := '@' ≤ c && c ≤ '~'

/-- The length of the control sequence at the start of a text, zero if there is
none. -/
def controlLength : Text → Nat
  | '\x1b' :: '[' :: rest =>
    let parameters := rest.takeWhile isParameter
    let rest := rest.drop parameters.length
    let intermediates := rest.takeWhile isIntermediate
    match rest.drop intermediates.length with
    | c :: _ => if isFinal c then parameters.length + intermediates.length + 3 else 0
    | [] => 0
  | _ => 0

/-- The text without its control sequences, of which the first `skipped` characters
are part of one. -/
def plainAfter : Nat → Text → Text
  | _, [] => []
  | skipped + 1, _ :: rest => plainAfter skipped rest
  | 0, c :: rest =>
    match controlLength (c :: rest) with
    | 0 => c :: plainAfter 0 rest
    | n + 1 => plainAfter n rest

/-- The text without its control sequences. -/
def withoutControls (t : Text) : Text := plainAfter 0 t

theorem controlLength_eq_zero {c : Char} (rest : Text) (h : c ≠ '\x1b') :
    controlLength (c :: rest) = 0 := by
  unfold controlLength
  split
  · simp_all
  · rfl

theorem withoutControls_of_forall_ne {t : Text} (h : ∀ c ∈ t, c ≠ '\x1b') :
    withoutControls t = t := by
  unfold withoutControls
  induction t with
  | nil => rfl
  | cons c rest ih =>
    rw [plainAfter, controlLength_eq_zero rest (h c (by simp))]
    simp [ih fun d hd => h d (by simp [hd])]

end DocTree.Text
