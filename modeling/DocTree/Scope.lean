/-
Scopes in qualified names.

A qualified name such as `Outer::Inner<T>::method` lists the scopes down to a
declaration.

* `Scope.split` — the segments of a qualified name, cut at the `::` outside
  template arguments and before the first `operator`;
* `Scope.dropArguments` — a segment without the template arguments at its end;
* `Scope.removeQualifier` — a text without the qualifiers that name a given
  scope.
-/
import DocTree.Declaration.Angle

namespace DocTree.Scope

/-! ### Segments -/

/-- Cuts a text at each `::` where the running depth of angle brackets is zero,
and adds `tail` to the last segment. -/
def splitFrom (tail : Text) : Int → Text → List Text
  | _, [] => [tail]
  | depth, ':' :: ':' :: rest =>
    if depth = 0 then [] :: splitFrom tail depth rest
    else (splitFrom tail depth (':' :: rest)).modifyHead (':' :: ·)
  | depth, c :: rest => (splitFrom tail (depth + angleStep c) rest).modifyHead (c :: ·)

/-- The segments of a qualified name.  From the first `operator` on, everything
belongs to the last segment. -/
def split (name : Text) : List Text :=
  match Operator.find? name with
  | none => splitFrom [] 0 name
  | some i => splitFrom (name.drop i) 0 (name.take i)

/-! ### Template arguments of a segment -/

/-- Whether the text after a `<` closes it at the end of a segment, on the same
line.  Gives what stands after the closing bracket: nothing or a line break. -/
def closing? (t : Text) : Option Text :=
  let line := t.takeWhile (· != '\n')
  let after := t.dropWhile (· != '\n')
  if line.getLast? = some '>' ∧ (after = [] ∨ after = ['\n']) then some after else none

/-- The segment without the template arguments at its end. -/
def dropArguments : Text → Text
  | [] => []
  | c :: rest =>
    match if c = '<' then closing? rest else none with
    | some after => after
    | none => c :: dropArguments rest

/-! ### Qualifiers -/

/-- The length of template arguments after their `<`, up to and with the first
`>::`.  Arguments hold no `;` and no brace. -/
def argumentsLength : Text → Option Nat
  | '>' :: ':' :: ':' :: _ => some 3
  | c :: rest =>
    if c == ';' || c == '\x7b' || c == '\x7d' then none
    else (argumentsLength rest).map (· + 1)
  | [] => none

/-- The length of `scope::` or `scope<…>::` at the start of a text. -/
def plainQualifierLength (scope t : Text) : Option Nat :=
  match scope.isPrefixOf? t with
  | some (':' :: ':' :: _) => some (scope.length + 2)
  | some ('<' :: rest) => (argumentsLength rest).map (scope.length + 1 + ·)
  | _ => none

/-- The length of a qualifier at the start of a text, which may begin with `::`
and is not the end of a longer name. -/
def qualifierLength (scope : Text) : TokenLength := fun before t =>
  if before.any fun c => isWordChar c || c == ':' then 0
  else
    let absolute :=
      match t with
      | ':' :: ':' :: rest => (plainQualifierLength scope rest).map (· + 2)
      | _ => none
    -- a leading `::` is part of the qualifier where that gives one
    (absolute <|> plainQualifierLength scope t).getD 0

/-- The text without the qualifiers that name `scope`. -/
def removeQualifier (scope t : Text) : Text := removeTokens (qualifierLength scope) t

/-- The text without the qualifiers that name any of the scopes, which are
removed in order. -/
def removeQualifiers (scopes : List Text) (t : Text) : Text :=
  scopes.foldl (fun t scope => removeQualifier scope t) t

end DocTree.Scope
