/-
Identifiers of declarations.

The identifier is read off the text before the parameter list:

* after a declaration keyword (`class Foo`, `using Alias = …`) it is the next
  word;
* in all other declarations it is the last word, which skips return types and
  specifiers; a single word is the name of a constructor or destructor;
* a function pointer (`void (*Callback)(int)`) is named inside its parentheses;
* a conversion operator keeps its target type (`Foo::operator std::string`).

One leading `*` or `&` is dropped.  An anonymous scope has the empty identifier.
-/
import DocTree.Declaration.Kind
import DocTree.Declaration.Words

namespace DocTree.Identifier

/-- The keywords after which the identifier is the next word.  Scoped enums have
been joined to one word. -/
def leadingKeywords : List Text :=
  ["namespace".toList, "class".toList, "struct".toList, "union".toList, "enum_class".toList,
    "enum_struct".toList, "enum".toList, "using".toList]

/-- Joins the two keywords of a scoped enum to one word. -/
def joinScopedEnum (t : Text) : Text :=
  match scopedEnum? t with
  | some tail => "enum_".toList ++ tail
  | none => t

/-- The name in a pointer declarator, `(*name)` or `(&name)`, at the start of a
text. -/
def pointerName? : Text → Option Text
  | '(' :: rest =>
    let isMark := fun c => c == '*' || c == '&'
    let isNameChar := fun c => isWordChar c || c == ':' || c == '~'
    let marked := Text.trimStart rest
    let named := Text.trimStart (marked.dropWhile isMark)
    let name := named.takeWhile isNameChar
    let closed := Text.trimStart (named.dropWhile isNameChar)
    if (marked.head?.any isMark) && !name.isEmpty && closed.head? == some ')' then some name
    else none
  | _ => none

/-- Whether a word ends in the whole word `operator`, which makes the words from
there on a conversion operator. -/
def endsInOperator (word : Text) : Bool :=
  match Operator.keyword.reverse.isPrefixOf? word.reverse with
  | some before => !before.head?.any isWordChar
  | none => false

/-- The part of a declaration that names it, and whether a parameter list
follows. -/
def naming (keywordLed : Bool) (t : Text) : Text × Bool :=
  -- an alias is named before its `=`, whatever brackets come after
  let t := if keywordLed then ((splitAtTop '=' t).map Prod.fst).getD t else t
  match splitAtTop '(' t with
  | some (before, list) => ((pointerName? list).getD before, true)
  -- a variable is named before its initializer
  | none => (if keywordLed then t else ((splitAtTop '=' t).map Prod.fst).getD t, false)

/-- Chooses the identifier among the words that name a declaration. -/
def choose (keywordLed hasList : Bool) (words : List Text) : Text :=
  match words with
  | [] => []
  -- a keyword alone declares an anonymous scope
  | [word] => if keywordLed && !hasList then [] else word
  | first :: second :: rest =>
    let all := first :: second :: rest
    match all.dropWhile fun w => !endsInOperator w with
    | [] => if keywordLed && !hasList then second else (second :: rest).getLast (by simp)
    | conversion => Text.join [' '] conversion

/-- The text without one leading `*` or `&`. -/
def dropPointerMark : Text → Text
  | c :: rest => if c == '*' || c == '&' then rest else c :: rest
  | [] => []

/-- The identifier of a declaration, with the scopes written in front of it. -/
def ofDeclaration (t : Text) : Text :=
  let body := joinScopedEnum (Templated.ofText t.trimStart).body.trim
  let keywordLed := leadingKeywords.contains body.leadingWord
  let (names, hasList) := naming keywordLed body
  dropPointerMark (choose keywordLed hasList (declaredWords names))

end DocTree.Identifier
