/-
Kinds of declarations.

The kind of a declaration is read off its leading keyword, after the template
preamble.  A declaration that no keyword leads is a function.
-/
import DocTree.Declaration.Template

namespace DocTree

/-- What a declaration declares.  A union counts as a struct, and `enum struct`
as an enum class. -/
inductive Kind where
  | nameSpace
  | classType
  | structType
  | enumType
  | enumClass
  | typeDef
  | usingAlias
  | function
deriving DecidableEq, Repr

namespace Kind

/-- The word for a kind in outlines, logs and data. -/
def name : Kind → Text
  | .nameSpace => "namespace".toList
  | .classType => "class".toList
  | .structType => "struct".toList
  | .enumType => "enum".toList
  | .enumClass => "enum-class".toList
  | .typeDef => "typedef".toList
  | .usingAlias => "using".toList
  | .function => "function".toList

/-- All kinds. -/
def all : List Kind :=
  [.nameSpace, .classType, .structType, .enumType, .enumClass, .typeDef, .usingAlias, .function]

/-- The kind of a given name. -/
def ofName? (t : Text) : Option Kind := all.find? fun k => k.name = t

theorem ofName?_name (k : Kind) : ofName? k.name = some k := by
  cases k <;> decide

end Kind

/-- For a text led by `enum class` or `enum struct`, the text from the second
keyword on. -/
def scopedEnum? (t : Text) : Option Text :=
  let rest := t.afterWord
  let tail := rest.trimStart
  if t.leadingWord = "enum".toList ∧ rest.head?.any isBlank ∧
      (tail.leadingWord = "class".toList ∨ tail.leadingWord = "struct".toList)
  then some tail else none

/-- The kind of a declaration. -/
def Kind.ofDeclaration (t : Text) : Kind :=
  let body := (Templated.ofText t).body.trimStart
  let word := body.leadingWord
  if word = "namespace".toList then .nameSpace
  else if word = "class".toList then .classType
  else if word = "enum".toList then if (scopedEnum? body).isSome then .enumClass else .enumType
  else if word = "struct".toList ∨ word = "union".toList then .structType
  else if word = "typedef".toList then .typeDef
  else if word = "using".toList then .usingAlias
  else .function

end DocTree
