/-
What can go wrong, and how it is reported.
-/
import DocTree.Item
import DocTree.Text.Quoted

namespace DocTree

/-- The causes of failure. -/
inductive Error where
  /-- a segment of a path or qualified name that names no scope, with the
  declaration and the place at fault where they are known -/
  | unresolved (segment path : Text) (declaration : Option Text) (location : Option Location)
  /-- a path with an empty segment -/
  | emptySegment (path : Text)
  /-- directives with a bracket that is never closed -/
  | unclosed (directives : Text)
  | missingFile (path : Text)
  | isDirectory (path : Text)
  | nameTooLong (path : Text)
deriving DecidableEq, Repr

namespace Error

/-- Adds declaration and place of the item at fault to an unresolved segment. -/
def forItem (item : Item) : Error → Error
  | .unresolved segment path _ _ =>
    .unresolved segment path item.declaration item.locations.head?
  | e => e

/-- The text of an error. -/
def message : Error → Text
  | .unresolved segment path declaration location =>
    "Undeclared identifier '".toList ++ segment ++ "' in '".toList ++ path ++ "'".toList ++
      (match declaration with
        | some (c :: rest) => " (".toList ++ Text.collapse (c :: rest) ++ ")".toList
        | _ => []) ++
      (match location with
        | some l => " at ".toList ++ l.render
        | none => [])
  | .emptySegment path =>
    "Invalid command string '[".toList ++ path ++ "]': empty path segment".toList
  | .unclosed directives =>
    "Invalid command string '".toList ++ directives ++ "': unterminated '['".toList
  | .missingFile path => "File not found: ".toList ++ path
  | .isDirectory path => "[Errno 21] Is a directory: ".toList ++ path.quoted
  | .nameTooLong path => "[Errno 36] File name too long: ".toList ++ path.quoted

end Error

end DocTree
