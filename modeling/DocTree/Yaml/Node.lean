/-
The syntax of a settings document.

A node is a scalar, a sequence or a mapping.  What is left out, such as the value of a
key that has none, is the empty plain scalar.

`Node.ofTokens?` gives the node that some tokens spell; each function under it returns
the tokens after what it has read.
-/
import DocTree.Yaml.Token

namespace DocTree.Yaml

/-- A part of a document, before it is known what its scalars stand for. -/
inductive Node where
  | plain (t : Text)
  | quoted (t : Text)
  | seq (items : List Node)
  | map (entries : List (Node × Node))

namespace Node

/-- What is left out. -/
def empty : Node := .plain []

/-- The tokens in front of which an item, key or value of a block is left out. -/
def endsInBlock : Token → Bool
  | .dash | .key | .colon | .blockEnd => true
  | _ => false

/-- The tokens in front of which a key or value of a block mapping is left out; a dash
there starts a sequence. -/
def endsEntry : Token → Bool
  | .key | .colon | .blockEnd => true
  | _ => false

/-- The tokens in front of which a key or value in brackets is left out. -/
def endsInFlow : Token → Bool
  | .colon | .comma | .closeBracket | .closeBrace => true
  | _ => false

/-- What `read` finds, or nothing in front of a token at which it is left out. -/
def orEmpty (ends : Token → Bool) (read : List Token → Option (Node × List Token))
    (ts : List Token) : Option (Node × List Token) :=
  if ts.head?.any ends then some (empty, ts) else read ts

/-- What `read` finds after a colon, or nothing if there is none. -/
def afterColon (ends : Token → Bool) (read : List Token → Option (Node × List Token)) :
    List Token → Option (Node × List Token)
  | .colon :: rest => orEmpty ends read rest
  | ts => some (empty, ts)

/-- An item of a sequence in brackets; a key and its value make a mapping. -/
def flowItem : Node × Option Node → Node
  | (v, none) => v
  | (k, some v) => .map [(k, v)]

/-- An entry of a mapping in brackets. -/
def flowEntry : Node × Option Node → Node × Node
  | (k, v) => (k, v.getD empty)

mutual

/-- The node at the start of some tokens. -/
def read? : Nat → List Token → Option (Node × List Token)
  | 0, _ => none
  | _, .plain t :: rest => some (.plain t, rest)
  | _, .quoted t :: rest => some (.quoted t, rest)
  | fuel + 1, .openBracket :: rest => do
    let (parts, rest) ← flowParts? fuel .closeBracket rest
    return (.seq (parts.map flowItem), rest)
  | fuel + 1, .openBrace :: rest => do
    let (parts, rest) ← flowParts? fuel .closeBrace rest
    return (.map (parts.map flowEntry), rest)
  | fuel + 1, .blockSequence :: rest =>
    match items? fuel rest with
    | some (items, .blockEnd :: rest) => some (.seq items, rest)
    | _ => none
  | fuel + 1, .blockMapping :: rest =>
    match entries? fuel rest with
    | some (entries, .blockEnd :: rest) => some (.map entries, rest)
    | _ => none
  | _, _ => none

/-- A key or value of a block mapping.  The sequence that it may be can have its dashes
in the column of the mapping, and then no block of its own. -/
def content? : Nat → List Token → Option (Node × List Token)
  | 0, _ => none
  | fuel + 1, .dash :: rest => do
    let (items, rest) ← items? fuel (.dash :: rest)
    return (.seq items, rest)
  | fuel + 1, ts => read? fuel ts

/-- Items, each after its dash. -/
def items? : Nat → List Token → Option (List Node × List Token)
  | 0, _ => none
  | fuel + 1, .dash :: rest => do
    let (item, rest) ← orEmpty endsInBlock (read? fuel) rest
    let (items, rest) ← items? fuel rest
    return (item :: items, rest)
  | _, ts => some ([], ts)

/-- Entries, each with its key. -/
def entries? : Nat → List Token → Option (List (Node × Node) × List Token)
  | 0, _ => none
  | fuel + 1, .key :: rest => do
    let (key, rest) ← orEmpty endsEntry (content? fuel) rest
    let (value, rest) ← afterColon endsEntry (content? fuel) rest
    let (entries, rest) ← entries? fuel rest
    return ((key, value) :: entries, rest)
  | _, ts => some ([], ts)

/-- What stands in brackets, up to the closing one: nodes, and keys with their
values. -/
def flowParts? : Nat → Token → List Token → Option (List (Node × Option Node) × List Token)
  | 0, _, _ => none
  | fuel + 1, close, ts =>
    if ts.head? = some close then some ([], ts.tail)
    else do
      let (part, rest) ←
        match ts with
        | .key :: rest => do
          let (key, rest) ← orEmpty endsInFlow (read? fuel) rest
          let (value, rest) ← afterColon endsInFlow (read? fuel) rest
          pure ((key, some value), rest)
        | ts => do
          let (node, rest) ← read? fuel ts
          pure ((node, none), rest)
      match rest with
      | .comma :: rest =>
        let (parts, rest) ← flowParts? fuel close rest
        return (part :: parts, rest)
      | t :: rest => if t = close then some ([part], rest) else none
      | [] => none

end

/-- The node that the tokens of a document spell.  A document may be marked at its
start and its end; if it is empty, so is the node. -/
def ofTokens? (ts : List Token) : Option Node := do
  let body := if ts.head? = some .documentStart then ts.tail else ts
  let isEmpty := body.isEmpty || (body.length < ts.length && body.head? = some .documentEnd)
  let (node, rest) ← if isEmpty then some (empty, body) else read? (3 * ts.length + 3) body
  if rest.all (· = .documentEnd) then some node else none

end Node

end DocTree.Yaml
