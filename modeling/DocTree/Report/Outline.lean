/-
Trees as outlines.

An outline shows each node on a line of its own, with guides that lead from a node to
those below it.
-/
import DocTree.Report.Markup
import DocTree.Tree.Basic

namespace DocTree.Tree

/-- A node in an outline, as markup: its name, its kind and where it is declared. -/
def labelMarkup (item : Item) : Text :=
  "[bold]".toList ++
    (match item.name with
      | some (c :: rest) => Markup.escaped (c :: rest)
      | _ => "[italic](text)[/italic]".toList) ++
    "[/bold] [dim](".toList ++ (item.kind.map Kind.name).getD "text".toList ++ "; from '".toList ++
    Markup.escaped (Text.join "; ".toList (item.locations.map Location.render)) ++
    "')[/dim]".toList

/-- A node in an outline. -/
def label (item : Item) : Text := Markup.shown (labelMarkup item)

mutual

/-- The lines of a node, with `guide` in front of them; `last` for the last of its
siblings. -/
def outlineNode (guide : Text) (last : Bool) : Tree → List Text
  | ⟨item, _, children⟩ =>
    (guide ++ (if last then "└── ".toList else "├── ".toList) ++ label item) ::
      outlineList (guide ++ (if last then "    ".toList else "│   ".toList)) children

/-- The lines of some siblings. -/
def outlineList (guide : Text) : List Tree → List Text
  | [] => []
  | t :: rest => outlineNode guide rest.isEmpty t ++ outlineList guide rest

end

/-- The lines of an outline. -/
def outline (t : Tree) : List Text := "Hierarchy".toList :: outlineList [] t.children

end DocTree.Tree
