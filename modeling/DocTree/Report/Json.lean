/-
Trees as JSON.

JSON is written with two spaces of indentation for each level and in ASCII only:
other characters are given by their UTF-16 units.
-/
import DocTree.Text.Quoted
import DocTree.Tree.Basic

namespace DocTree

/-- A JSON value without numbers. -/
inductive Json where
  | null
  | bool (b : Bool)
  | str (t : Text)
  | arr (items : List Json)
  | obj (fields : List (Text × Json))

namespace Json

def ofText? : Option Text → Json
  | none => .null
  | some t => .str t

/-- The escape for a UTF-16 unit. -/
def unit (n : Nat) : Text := '\\' :: 'u' :: hexDigits 4 n

/-- One character inside a string. -/
def renderChar (c : Char) : Text :=
  if c == '"' || c == '\\' then ['\\', c]
  else if c == '\n' then ['\\', 'n']
  else if c == '\r' then ['\\', 'r']
  else if c == '\t' then ['\\', 't']
  else if c.toNat == 0x08 then ['\\', 'b']
  else if c.toNat == 0x0C then ['\\', 'f']
  else if 0x20 ≤ c.toNat && c.toNat < 0x7F then [c]
  else if c.toNat < 0x10000 then unit c.toNat
  else
    let n := c.toNat - 0x10000
    unit (0xD800 + n / 0x400) ++ unit (0xDC00 + n % 0x400)

/-- A string in quotes. -/
def renderText (t : Text) : Text := '"' :: t.flatMap renderChar ++ ['"']

/-- A line break with the indentation of a level. -/
def newline (level : Nat) : Text := '\n' :: List.replicate (2 * level) ' '

/-- The parts of a list or an object between its brackets. -/
def enclose (opening closing : Char) (level : Nat) (parts : List Text) : Text :=
  if parts.isEmpty then [opening, closing]
  else
    opening :: newline (level + 1) ++ Text.join (',' :: newline (level + 1)) parts ++
      newline level ++ [closing]

mutual

/-- A value at a level of indentation. -/
def renderAt (level : Nat) : Json → Text
  | .null => "null".toList
  | .bool b => if b then "true".toList else "false".toList
  | .str t => renderText t
  | .arr items => enclose '[' ']' level (renderItems (level + 1) items)
  | .obj fields => enclose '\x7b' '\x7d' level (renderFields (level + 1) fields)

def renderItems (level : Nat) : List Json → List Text
  | [] => []
  | v :: rest => renderAt level v :: renderItems level rest

def renderFields (level : Nat) : List (Text × Json) → List Text
  | [] => []
  | (k, v) :: rest =>
    (renderText k ++ ": ".toList ++ renderAt level v) :: renderFields level rest

end

/-- A value as a text of several lines. -/
def render (v : Json) : Text := renderAt 0 v

end Json

namespace Tree

mutual

/-- A node and the nodes below it as JSON. -/
def toJson : Tree → Json
  | ⟨item, _, children⟩ =>
    .obj
      [("name".toList, .ofText? item.name),
       ("qualified_name".toList, .ofText? item.qualifiedName),
       ("kind".toList, .ofText? (item.kind.map Kind.name)),
       ("signature".toList, .ofText? item.display),
       ("summary".toList, .ofText? item.summary),
       ("doc".toList, .ofText? item.plain),
       ("locations".toList, .arr (item.locations.map fun l => .str l.render)),
       ("include_as_is".toList, .bool item.asIs),
       ("children".toList, .arr (listToJson children))]

def listToJson : List Tree → List Json
  | [] => []
  | t :: rest => toJson t :: listToJson rest

end

/-- All nodes below the root as JSON. -/
def entitiesJson (t : Tree) : Json :=
  .obj [("entities".toList, .arr (listToJson t.children))]

end Tree

end DocTree
