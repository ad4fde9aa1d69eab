/-
Tokens of a settings document.

Structure is given by indentation (block form) or by brackets (flow form).  A token is
a bracket, an indicator, a scalar, or the start or end of a block, which no character
stands for:

* a dash or a key further to the right than the block around it starts a block, and a
  token further to the left ends one;
* a key is known as such only at the `:` after it.  Until then a token is a
  `Candidate`: the colon has to follow on the same line, and within
  `Candidate.maxLength` characters.

`Token.scan?` gives the tokens of a text.
-/
import DocTree.Yaml.Scalar

namespace DocTree.Yaml

/-- A token of a document. -/
inductive Token where
  | documentStart
  | documentEnd
  | blockSequence
  | blockMapping
  | blockEnd
  | openBracket
  | closeBracket
  | openBrace
  | closeBrace
  | comma
  | dash
  /-- stands in front of a key -/
  | key
  | colon
  | plain (t : Text)
  | quoted (t : Text)
deriving DecidableEq, Repr

/-! ### Places -/

/-- A place in a document, with the text from there on. -/
structure Place where
  index : Nat := 0
  line : Nat := 0
  column : Nat := 0
  text : Text

namespace Place

/-- The place after the next character.  A byte order mark takes no column. -/
def next (p : Place) : Place :=
  match p.text with
  | [] => p
  | c :: rest =>
    if isBreak c then ⟨p.index + 1, p.line + 1, 0, rest⟩
    else ⟨p.index + 1, p.line, if c == '\ufeff' then p.column else p.column + 1, rest⟩

/-- The place after `n` characters. -/
def advance (p : Place) : Nat → Place
  | 0 => p
  | n + 1 => p.next.advance n

/-- The place from which on the text is `rest`. -/
def moveTo (p : Place) (rest : Text) : Place := p.advance (p.text.length - rest.length)

end Place

/-! ### The state of a scan -/

/-- A token that becomes a key if a colon follows. -/
structure Candidate where
  /-- the number of tokens in front of it -/
  number : Nat
  /-- whether there has to be a key, since a block goes on in this column -/
  required : Bool
  start : Place

/-- The number of characters within which the colon of a key has to follow. -/
def Candidate.maxLength : Nat := 1024

/-- Whether it is too late for a colon at a place. -/
def Candidate.isPast (c : Candidate) (p : Place) : Bool :=
  c.start.line != p.line || p.index - c.start.index > maxLength

/-- How far a text has been scanned. -/
structure Scan where
  place : Place
  tokens : Array Token := #[]
  /-- the columns of the open blocks, the innermost first -/
  columns : List Nat := []
  /-- for each open bracket, the candidate in front of it, the innermost first -/
  outside : List (Option Candidate) := []
  candidate : Option Candidate := none
  /-- whether a key may stand here -/
  keyAllowed : Bool := true

namespace Scan

/-- Whether the place is inside brackets. -/
def inFlow (s : Scan) : Bool := !s.outside.isEmpty

/-- Adds a token that is `n` characters long. -/
def push (s : Scan) (t : Token) (n : Nat) : Scan :=
  { s with tokens := s.tokens.push t, place := s.place.advance n }

/-- Ends the blocks whose columns satisfy `p`, from the innermost on.  There are no
blocks inside brackets. -/
def closeBlocks (p : Nat → Bool) (s : Scan) : Scan :=
  if s.inFlow then s
  else
    let closed := s.columns.takeWhile p
    { s with
      columns := s.columns.drop closed.length
      tokens := s.tokens ++ closed.map fun _ => Token.blockEnd }

/-- Whether a column starts a new block. -/
def opensBlock (s : Scan) (column : Nat) : Bool :=
  !s.inFlow && s.columns.head?.all (· < column)

/-- Starts a block at a column, if it is a new one, with its token at a number. -/
def openBlock (t : Token) (column number : Nat) (s : Scan) : Scan :=
  if s.opensBlock column then
    { s with
      columns := column :: s.columns
      tokens := s.tokens.insertIdxIfInBounds number t }
  else s

/-- Gives up the candidate; it must not be one that has to be a key. -/
def dropCandidate? (s : Scan) : Option Scan :=
  if s.candidate.any (·.required) then none else some { s with candidate := none }

/-- Gives up the candidates for which it is too late. -/
def dropPast? (s : Scan) : Option Scan :=
  let past (c : Candidate) := c.isPast s.place
  if (s.candidate :: s.outside).any fun c => c.any fun c => past c && c.required then none
  else
    some { s with
      candidate := s.candidate.filter (!past ·)
      outside := s.outside.map fun c => c.filter (!past ·) }

/-- Makes the token that comes next a candidate, where a key may stand. -/
def nominate? (s : Scan) : Option Scan :=
  if !s.keyAllowed then some s
  else
    s.dropCandidate?.map fun s =>
      { s with
        candidate := some
          { number := s.tokens.size
            required := !s.inFlow && s.columns.head? == some s.place.column
            start := s.place } }

/-! ### One token -/

/-- The text after spaces, comments and line breaks, and whether there is a line break
among them. -/
def skipGaps (inComment broken : Bool) : Text → Bool × Text
  | [] => (broken, [])
  | c :: rest =>
    if isBreak c then skipGaps false true rest
    else if inComment || c == ' ' then skipGaps inComment broken rest
    else if c == '#' then skipGaps true broken rest
    else (broken, c :: rest)

/-- Goes on to the next token.  In block form a key may stand at the start of a
line. -/
def toToken (s : Scan) : Scan :=
  let (broken, rest) := skipGaps false false s.place.text
  { s with place := s.place.moveTo rest, keyAllowed := s.keyAllowed || (broken && !s.inFlow) }

/-- A line that marks the start or end of a document. -/
def marker? (t : Token) (s : Scan) : Option Scan :=
  (s.closeBlocks fun _ => true).dropCandidate?.map fun s =>
    { s.push t 3 with keyAllowed := false }

/-- A bracket that opens. -/
def opening? (t : Token) (s : Scan) : Option Scan :=
  s.nominate?.map fun s =>
    { s.push t 1 with
      outside := s.candidate :: s.outside, candidate := none, keyAllowed := true }

/-- A bracket that closes. -/
def closing? (t : Token) (s : Scan) : Option Scan := do
  let s ← s.dropCandidate?
  match s.outside with
  | [] => none
  | c :: outside => return { s.push t 1 with outside, candidate := c, keyAllowed := false }

/-- A comma. -/
def comma? (s : Scan) : Option Scan :=
  s.dropCandidate?.map fun s => { s.push .comma 1 with keyAllowed := true }

/-- The dash of an item. -/
def dash? (s : Scan) : Option Scan := do
  if !s.inFlow && !s.keyAllowed then none
  else
    let s ← (s.openBlock .blockSequence s.place.column s.tokens.size).dropCandidate?
    return { s.push .dash 1 with keyAllowed := true }

/-- The indicator `t` of a key or value that has no key candidate in front of it. -/
def bare? (t : Token) (s : Scan) : Option Scan := do
  if !s.inFlow && !s.keyAllowed then none
  else
    let s ← (s.openBlock .blockMapping s.place.column s.tokens.size).dropCandidate?
    return { s.push t 1 with keyAllowed := !s.inFlow }

/-- A colon, which makes the candidate a key. -/
def colon? (s : Scan) : Option Scan :=
  match s.candidate with
  | none => s.bare? .colon
  | some c =>
    let s := { s with tokens := s.tokens.insertIdxIfInBounds c.number .key }
    let s := s.openBlock .blockMapping c.start.column c.number
    some { s.push .colon 1 with candidate := none, keyAllowed := false }

/-- A scalar in quotes. -/
def quoted? (s : Scan) : Option Scan := do
  let s ← s.nominate?
  let (t, after) ← quotedScalar? s.place.text
  return { s with
    tokens := s.tokens.push (.quoted t), place := s.place.moveTo after, keyAllowed := false }

/-- A plain scalar.  It stands to the right of the block around it. -/
def plain? (s : Scan) : Option Scan := do
  let s ← s.nominate?
  let column := (s.columns.head?.map (· + 1)).getD 0
  let scalar := plainScalar s.inFlow column s.place.text
  return { s with
    tokens := s.tokens.push (.plain scalar.text)
    place := s.place.moveTo scalar.after
    keyAllowed := scalar.broken }

/-- Reads the token that starts with the character `c`. -/
def token? (s : Scan) (c : Char) (rest : Text) : Option Scan :=
  if s.place.column = 0 && atMarker (c :: rest) then
    s.marker? (if c == '-' then .documentStart else .documentEnd)
  else if c == '[' then s.opening? .openBracket
  else if c == '\x7b' then s.opening? .openBrace
  else if c == ']' then s.closing? .closeBracket
  else if c == '\x7d' then s.closing? .closeBrace
  else if c == ',' then s.comma?
  else if c == '-' && atGap rest then s.dash?
  else if c == '?' && (s.inFlow || atGap rest) then s.bare? .key
  else if c == ':' && (s.inFlow || atGap rest) then s.colon?
  else if c == '"' || c == '\x27' then s.quoted?
  else if startsPlain s.inFlow (c :: rest) then s.plain?
  else none

/-- Reads all tokens that are left. -/
def finish? : Nat → Scan → Option (List Token)
  | 0, _ => none
  | fuel + 1, s => do
    let s ← s.toToken.dropPast?
    let s := s.closeBlocks (s.place.column < ·)
    match s.place.text with
    | [] => (s.closeBlocks fun _ => true).dropCandidate?.map (·.tokens.toList)
    | c :: rest => finish? fuel (← s.token? c rest)

end Scan

/-- The tokens of a text; a byte order mark in front of it is passed over. -/
def Token.scan? (t : Text) : Option (List Token) :=
  let start : Place := { text := t }
  Scan.finish? (t.length + 1)
    { place := if t.head? == some '\ufeff' then start.next else start }

end DocTree.Yaml
