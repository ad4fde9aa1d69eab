/-
Integers in a settings document.

An integer may have a sign, and underscores between its digits.  It is written

* in base two after `0b`, in base sixteen after `0x`, in base eight after any other
  leading `0`, else in base ten;
* or as several groups with a `:` between them, as in hours, minutes and seconds: each
  group after the first is a number below sixty.
-/
import DocTree.Text.Basic

namespace DocTree.Yaml

/-- The value of a digit, in any base up to sixteen. -/
def digitValue (c : Char) : Nat :=
  if c.isDigit then c.toNat - '0'.toNat else c.toLower.toNat - 'a'.toNat + 10

/-- Whether a character is a digit of a base. -/
def isDigitOf (base : Nat) (c : Char) : Bool :=
  (c.isDigit || ('a' ≤ c.toLower && c.toLower ≤ 'f')) && digitValue c < base

/-- The number that digits give in a base; underscores do not count. -/
def ofDigits (base : Nat) (t : Text) : Nat :=
  (t.filter (· != '_')).foldl (fun n c => base * n + digitValue c) 0

/-- Whether a text is made of digits of a base and underscores, with at least one
character. -/
def isDigits (base : Nat) (t : Text) : Bool :=
  !t.isEmpty && t.all fun c => c == '_' || isDigitOf base c

/-- Whether a text is a number in base ten without a leading zero. -/
def isDecimal : Text → Bool
  | [] => false
  | c :: rest => c.isDigit && c != '0' && rest.all fun d => d == '_' || d.isDigit

/-- Whether a text is a number below sixty, with one or two digits. -/
def isSixtieth : Text → Bool
  | [c] => c.isDigit
  | [c, d] => '0' ≤ c && c ≤ '5' && d.isDigit
  | _ => false

/-- How the digits of an integer are to be read. -/
inductive Numeral where
  | digits (base : Nat) (t : Text)
  | groups (first : Text) (rest : List Text)
deriving DecidableEq, Repr

namespace Numeral

/-- Reads an integer without its sign. -/
def ofText? : Text → Option Numeral
  | '0' :: 'b' :: t => if isDigits 2 t then some (.digits 2 t) else none
  | '0' :: 'x' :: t => if isDigits 16 t then some (.digits 16 t) else none
  | '0' :: t => if t.isEmpty || isDigits 8 t then some (.digits 8 ('0' :: t)) else none
  | t =>
    match t.splitOn ':' with
    | [] => none
    | first :: rest =>
      if !isDecimal first || !rest.all isSixtieth then none
      else if rest.isEmpty then some (.digits 10 first)
      else some (.groups first rest)

/-- The number that is written; there has to be a digit. -/
def value? : Numeral → Option Nat
  | .digits base t => if t.all (· == '_') then none else some (ofDigits base t)
  | .groups first rest =>
    some (rest.foldl (fun n t => 60 * n + ofDigits 10 t) (ofDigits 10 first))

end Numeral

end DocTree.Yaml
