/-
Scalars of a settings document.

* `Yaml.quotedScalar?` — a scalar in quotes;
* `Yaml.plainScalar` — a plain scalar.

Both may go on over several lines.  The line breaks inside them are folded, without
the blanks around them: a single line feed becomes a space, and of several in a row
all but the first stay.
-/
import DocTree.Yaml.Character

namespace DocTree.Yaml

/-! ### Folding -/

/-- What follows a line break inside a scalar: the breaks of the empty lines, and the
column, the text and whether there is a document marker, where the next line that is
not empty goes on. -/
structure Continuation where
  breaks : Text
  column : Nat
  marker : Bool
  text : Text

/-- Passes over empty lines, from a column of a line on. -/
def emptyLines (isBlank : Char → Bool) (column : Nat) : Text → Continuation
  | [] => ⟨[], column, false, []⟩
  | c :: rest =>
    if column = 0 && atMarker (c :: rest) then ⟨[], column, true, c :: rest⟩
    else if isBreak c then
      let next := emptyLines isBlank 0 rest
      { next with breaks := breakChar c :: next.breaks }
    else if isBlank c then emptyLines isBlank (column + 1) rest
    else ⟨[], column, false, c :: rest⟩

/-- A line break and those of the empty lines after it, folded. -/
def fold (first : Char) (breaks : Text) : Text :=
  if breakChar first != '\n' then first :: breaks
  else if breaks.isEmpty then [' ']
  else breaks

/-! ### Quoted scalars -/

/-- The characters that are written with a backslash and one letter. -/
def escapes : List (Char × Char) :=
  [('0', '\x00'), ('a', '\x07'), ('b', '\x08'), ('t', '\t'), ('\t', '\t'), ('n', '\n'),
    ('v', '\x0b'), ('f', '\x0c'), ('r', '\r'), ('e', '\x1b'), (' ', ' '), ('"', '"'),
    ('\\', '\\'), ('/', '/'), ('N', '\u0085'), ('_', '\u00a0'), ('L', '\u2028'),
    ('P', '\u2029')]

/-- The number of digits after a backslash and a letter that announces a code
point. -/
def codeLength? : Char → Option Nat
  | 'x' => some 2
  | 'u' => some 4
  | 'U' => some 8
  | _ => none

/-- The value of a hexadecimal digit. -/
def hexValue? (c : Char) : Option Nat :=
  if '0' ≤ c ∧ c ≤ '9' then some (c.toNat - '0'.toNat)
  else if 'a' ≤ c ∧ c ≤ 'f' then some (c.toNat - 'a'.toNat + 10)
  else if 'A' ≤ c ∧ c ≤ 'F' then some (c.toNat - 'A'.toNat + 10)
  else none

/-- The character with the code point that `n` hexadecimal digits give. -/
def codePoint? (n : Nat) (t : Text) : Option Char := do
  let digits ← (t.take n).mapM hexValue?
  let code := digits.foldl (fun m d => 16 * m + d) 0
  if digits.length = n ∧ code.isValidChar then some (Char.ofNat code) else none

/-- The characters that an escape stands for, given the text after its backslash, and
the text after it.  An escaped line break stands for the breaks of the empty lines
after it. -/
def escape? : Text → Option (Text × Text)
  | [] => none
  | c :: rest =>
    match escapes.lookup c, codeLength? c with
    | some d, _ => some ([d], rest)
    | none, some n => (codePoint? n rest).map fun d => ([d], rest.drop n)
    | none, none =>
      if isBreak c then
        let next := emptyLines isSpaceOrTab 0 rest
        if next.marker then none else some (next.breaks, next.text)
      else none

/-- The text up to the closing quote, and the text after it.  In single quotes a doubled
quote stands for itself, in double quotes a backslash starts an escape. -/
def quotedBody? (quote : Char) : Nat → Text → Option (Text × Text)
  | 0, _ => none
  | _, [] => none
  | fuel + 1, c :: rest =>
    if c == quote then
      if quote == '\x27' && rest.head? == some '\x27' then do
        let (t, after) ← quotedBody? quote fuel rest.tail
        return ('\x27' :: t, after)
      else some ([], rest)
    else if c == '\\' && quote == '"' then do
      let (part, rest) ← escape? rest
      let (t, after) ← quotedBody? quote fuel rest
      return (part ++ t, after)
    else if isGap c then do
      let blanks := (c :: rest).takeWhile isSpaceOrTab
      match (c :: rest).dropWhile isSpaceOrTab with
      | [] => none
      | d :: below =>
        if isBreak d then
          let next := emptyLines isSpaceOrTab 0 below
          if next.marker then none
          else
            let (t, after) ← quotedBody? quote fuel next.text
            return (fold d next.breaks ++ t, after)
        else
          let (t, after) ← quotedBody? quote fuel (d :: below)
          return (blanks ++ t, after)
    else do
      let (t, after) ← quotedBody? quote fuel rest
      return (c :: t, after)

/-- The scalar whose opening quote stands at the start of a text, and the text after
its closing quote. -/
def quotedScalar? : Text → Option (Text × Text)
  | [] => none
  | quote :: rest => quotedBody? quote (rest.length + 1) rest

/-! ### Plain scalars -/

/-- Whether a plain scalar starts here. -/
def startsPlain (inFlow : Bool) : Text → Bool
  | [] => false
  | c :: rest =>
    !isGap c &&
      (!indicators.contains c ||
        (!atGap rest && (c == '-' || (!inFlow && (c == '?' || c == ':')))))

/-- Whether a plain scalar cannot go on here: at a gap, at a `:` that makes it a key,
and inside brackets at a bracket, a comma or a question mark. -/
def stopsPlain (inFlow : Bool) : Text → Bool
  | [] => true
  | c :: rest =>
    isGap c || (c == ':' && (atGap rest || (inFlow && rest.head?.any flowIndicators.contains))) ||
      (inFlow && (c == '?' || flowIndicators.contains c))

/-- The characters up to where a plain scalar cannot go on, and the text after them. -/
def plainWord (inFlow : Bool) : Text → Text × Text
  | [] => ([], [])
  | c :: rest =>
    if stopsPlain inFlow (c :: rest) then ([], c :: rest)
    else
      let (word, after) := plainWord inFlow rest
      (c :: word, after)

/-- A plain scalar as it was read: its text, whether a line break follows it, and the
text from the next thing after it on. -/
structure PlainScalar where
  text : Text
  broken : Bool
  after : Text

/-- What separates two words of a plain scalar. -/
structure Separation where
  /-- the spaces, or the line breaks as folded -/
  text : Text
  /-- whether it has a line break -/
  broken : Bool
  /-- whether the scalar has to end here -/
  ends : Bool
  after : Text

/-- The separation at the start of a text.  Outside brackets a scalar goes on only on
lines whose column is at least `column`. -/
def separation (inFlow : Bool) (column : Nat) (t : Text) : Separation :=
  let spaces := t.takeWhile (· == ' ')
  match t.dropWhile (· == ' ') with
  | [] => ⟨spaces, false, true, []⟩
  | c :: rest =>
    if isBreak c then
      let next := emptyLines (· == ' ') 0 rest
      let ends := next.marker || next.text.head? == some '#' || stopsPlain inFlow next.text ||
        (!inFlow && next.column < column)
      ⟨fold c next.breaks, true, ends, next.text⟩
    else ⟨spaces, false, spaces.isEmpty || c == '#' || stopsPlain inFlow (c :: rest), c :: rest⟩

/-- The plain scalar at the start of a text. -/
def plainFrom (inFlow : Bool) (column : Nat) : Nat → Text → PlainScalar
  | 0, t => ⟨[], false, t⟩
  | fuel + 1, t =>
    let (word, after) := plainWord inFlow t
    let gap := separation inFlow column after
    if gap.ends then ⟨word, gap.broken, gap.after⟩
    else
      let more := plainFrom inFlow column fuel gap.after
      { more with text := word ++ gap.text ++ more.text }

/-- The plain scalar at the start of a text, inside brackets or in a block that leaves
it the columns from `column` on. -/
def plainScalar (inFlow : Bool) (column : Nat) (t : Text) : PlainScalar :=
  plainFrom inFlow column (t.length + 1) t

end DocTree.Yaml
