/-
Values of a settings file.

The settings are written in a small part of YAML: mappings, sequences and scalars.
A plain scalar stands for nothing, a truth value, an integer or a text.

* `Yaml.ofPlain?` — what a plain scalar stands for;
* `Yaml.insert` — a mapping in which the last value of a key counts, at the place
  of the first;
* `Yaml.isTrue`, `Yaml.shown` — a value as a truth value and as text.
-/
import DocTree.Text.Quoted
import DocTree.Yaml.Numeral

namespace DocTree

/-- A value of a settings file. -/
inductive Yaml where
  | null
  | bool (b : Bool)
  | int (n : Int)
  | str (t : Text)
  | seq (items : List Yaml)
  | map (entries : List (Yaml × Yaml))

namespace Yaml

/-! ### Scalars -/

/-- The words for truth and falsehood, in small letters. -/
def truthWords : List (Text × Bool) :=
  [("true".toList, true), ("yes".toList, true), ("on".toList, true),
    ("false".toList, false), ("no".toList, false), ("off".toList, false)]

/-- The three spellings of a word: in small letters, in capitals, and with a
capital at the start. -/
def spellings (word : Text) : List Text :=
  [word, word.map Char.toUpper,
    match word with
    | c :: rest => c.toUpper :: rest
    | [] => []]

/-- The integer that a plain scalar spells: `some none` if it has the form of one but
no digits. -/
def int? : Text → Option (Option Int)
  | '-' :: rest => (Numeral.ofText? rest).map fun n => n.value?.map fun m => -(m : Int)
  | '+' :: rest => (Numeral.ofText? rest).map fun n => n.value?.map Int.ofNat
  | t => (Numeral.ofText? t).map fun n => n.value?.map Int.ofNat

/-- The key under which a mapping takes in the entries of others. -/
def mergeKey : Text := "<<".toList

/-- The plain scalars that stand for no value. -/
def reserved : List Text := [mergeKey, "=".toList]

/-- What a plain scalar stands for. -/
def ofPlain? (t : Text) : Option Yaml :=
  if t.isEmpty || t == ['~'] || (spellings "null".toList).contains t then some .null
  else if reserved.contains t then none
  else
    match truthWords.find? fun (word, _) => (spellings word).contains t with
    | some (_, b) => some (.bool b)
    | none =>
      match int? t with
      | some n => n.map .int
      | none => some (.str t)

/-! ### Mappings -/

/-- The number that a scalar is compared by as a key: truth values count as zero
and one. -/
def keyNumber? : Yaml → Option Int
  | .int n => some n
  | .bool b => some (if b then 1 else 0)
  | _ => none

/-- Whether two scalars are the same key. -/
def sameKey : Yaml → Yaml → Bool
  | .null, .null => true
  | .str s, .str t => s == t
  | a, b => a.keyNumber?.isSome && a.keyNumber? == b.keyNumber?

/-- The entries with the value of one key set. -/
def insert (key value : Yaml) : List (Yaml × Yaml) → List (Yaml × Yaml)
  | [] => [(key, value)]
  | (k, v) :: rest =>
    if sameKey k key then (k, value) :: rest else (k, v) :: insert key value rest

/-- The mapping with the given entries, in order. -/
def mapOf (entries : List (Yaml × Yaml)) : Yaml :=
  .map (entries.foldl (fun known (k, v) => insert k v known) [])

/-- The value of a key that is a text. -/
def get? (key : Text) (entries : List (Yaml × Yaml)) : Option Yaml :=
  (entries.find? fun (k, _) => sameKey k (.str key)).map Prod.snd

/-! ### Other views -/

/-- Whether a value counts as true: it is neither missing nor false, zero or
empty. -/
def isTrue : Yaml → Bool
  | .null => false
  | .bool b => b
  | .int n => n != 0
  | .str t => !t.isEmpty
  | .seq items => !items.isEmpty
  | .map entries => !entries.isEmpty

mutual

/-- A value inside another one, as text. -/
def nested : Yaml → Text
  | .null => "None".toList
  | .bool b => if b then "True".toList else "False".toList
  | .int n => Text.ofInt n
  | .str t => t.quoted
  | .seq items => '[' :: Text.join ", ".toList (nestedItems items) ++ [']']
  | .map entries => '\x7b' :: Text.join ", ".toList (nestedEntries entries) ++ ['\x7d']

def nestedItems : List Yaml → List Text
  | [] => []
  | v :: rest => nested v :: nestedItems rest

def nestedEntries : List (Yaml × Yaml) → List Text
  | [] => []
  | (k, v) :: rest => (nested k ++ ": ".toList ++ nested v) :: nestedEntries rest

end

/-- A value as text: a text is itself. -/
def shown : Yaml → Text
  | .str t => t
  | v => v.nested

end Yaml

end DocTree
