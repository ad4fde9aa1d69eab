/-
Reading a settings document.

The text of a document is read as tokens, the tokens as a node, and the node as a
value: its plain scalars get their meaning, and its mappings one value for each key.

`Yaml.read?` gives the value of a whole document, `none` if it is malformed.
-/
import DocTree.Text.Lines
import DocTree.Yaml.Node
import DocTree.Yaml.Value

namespace DocTree.Yaml

/-! ### Values of nodes -/

/-- The entries of a mapping. -/
def entries? : Yaml → Option (List (Yaml × Yaml))
  | .map entries => some entries
  | _ => none

/-- The entries that a mapping takes in from its merge key: those of a mapping, or of
several, of which the first ones win. -/
def merged? : Yaml → Option (List (Yaml × Yaml))
  | .map entries => some entries
  | .seq items => (items.mapM entries?).map fun all => all.reverse.flatten
  | _ => none

mutual

/-- The value of a node. -/
def ofNode? : Node → Option Yaml
  | .plain t => ofPlain? t
  | .quoted t => some (.str t)
  | .seq items => (ofNodes? items).map .seq
  | .map entries => (ofEntries? entries).map fun (taken, own) => mapOf (taken ++ own)

def ofNodes? : List Node → Option (List Yaml)
  | [] => some []
  | n :: rest => do
    let v ← ofNode? n
    let vs ← ofNodes? rest
    return v :: vs

/-- The entries that a mapping takes in from others, and its own.  Keys are scalars. -/
def ofEntries? : List (Node × Node) → Option (List (Yaml × Yaml) × List (Yaml × Yaml))
  | [] => some ([], [])
  | (k, v) :: rest => do
    let value ← ofNode? v
    let (taken, own) ← ofEntries? rest
    match k with
    | .plain t =>
      if t == mergeKey then return ((← merged? value) ++ taken, own)
      -- the other reserved word is a text as a key
      else if reserved.contains t then return (taken, (.str t, value) :: own)
      else return (taken, (← ofPlain? t, value) :: own)
    | .quoted t => return (taken, (.str t, value) :: own)
    | _ => none

end

/-! ### Documents -/

/-- The value of a document. -/
def read? (t : Text) : Option Yaml :=
  if !t.all isAllowed then none
  else (Token.scan? t.unifyBreaks).bind fun ts => (Node.ofTokens? ts).bind ofNode?

end DocTree.Yaml
