/-
Arguments of the command line.

Options may be written in full (`--config DIR`, `--config=DIR`) or short (`-c DIR`,
`-cDIR`), and short ones without a value may be run together.  `--` ends the options.
Where options and other arguments may mix, all are read; otherwise reading ends at
the first argument that is no option.

* `Arguments.read` — the options given, in order, and the other arguments.
-/
import DocTree.Text.Basic

namespace DocTree

/-- The options of the program, with or without a value. -/
inductive Switch where
  | help
  | version
  | verbose
  | config
  | entity
deriving DecidableEq, Repr

namespace Switch

/-- The full name of an option, without its dashes. -/
def fullName : Switch → Text
  | .help => "help".toList
  | .version => "version".toList
  | .verbose => "verbose".toList
  | .config => "config".toList
  | .entity => "entity".toList

/-- The letter of an option. -/
def letter : Switch → Option Char
  | .help => none
  | .version => some 'v'
  | .verbose => some 'V'
  | .config => some 'c'
  | .entity => some 'e'

/-- Whether an option takes a value. -/
def takesValue : Switch → Bool
  | .config | .entity => true
  | _ => false

end Switch

namespace Arguments

/-- Why arguments are refused. -/
inductive Refusal where
  | unknownOption
  | missingValue (name : Text)
  | unwantedValue (name : Text)
deriving DecidableEq, Repr

/-- An option with its value, empty if it takes none. -/
abbrev Given := Switch × Text

/-- What one argument gives: some options, and perhaps an option, by the name it was
called, that takes the next argument as its value. -/
structure Reading where
  given : List Given := []
  awaiting : Option (Switch × Text) := none

/-- Reads the letters of short options. -/
def readLetters (options : List Switch) : Text → Except Refusal Reading
  | [] => .ok {}
  | c :: rest =>
    match options.find? fun o => o.letter == some c with
    | none => .error .unknownOption
    | some o =>
      if o.takesValue then
        -- what is left of the argument is the value
        if rest.isEmpty then .ok { awaiting := some (o, ['-', c]) }
        else .ok { given := [(o, rest)] }
      else (readLetters options rest).map fun r => { r with given := (o, []) :: r.given }

/-- Reads an option written in full, without its dashes. -/
def readFull (options : List Switch) (t : Text) : Except Refusal Reading :=
  let name := t.takeWhile (· != '=')
  let shown := '-' :: '-' :: name
  match options.find? fun o => o.fullName == name, t.dropWhile (· != '=') with
  | none, _ => .error .unknownOption
  | some o, [] => .ok (if o.takesValue then { awaiting := some (o, shown) }
      else { given := [(o, [])] })
  | some o, _ :: value =>
    if o.takesValue then .ok { given := [(o, value)] } else .error (.unwantedValue shown)

/-- Reads an argument that begins with a dash. -/
def readOption (options : List Switch) : Text → Except Refusal Reading
  | '-' :: '-' :: rest => readFull options rest
  | '-' :: rest => readLetters options rest
  | _ => .error .unknownOption

/-- Whether an argument is an option: a dash alone is not. -/
def isOption (arg : Text) : Bool := arg.head? == some '-' && arg.length > 1

/-- Reads arguments: the options and the other arguments.  Unless `mixed`, reading ends
at the first argument that is no option. -/
def read (options : List Switch) (mixed : Bool) :
    List Text → Except Refusal (List Given × List Text)
  | [] => .ok ([], [])
  | arg :: rest =>
    if arg == "--".toList then .ok ([], rest)
    else if isOption arg then
      match readOption options arg with
      | .error e => .error e
      | .ok ⟨given, none⟩ =>
        (read options mixed rest).map fun (g, others) => (given ++ g, others)
      | .ok ⟨given, some (o, name)⟩ =>
        match rest with
        | [] => .error (.missingValue name)
        | value :: rest =>
          (read options mixed rest).map fun (g, others) => (given ++ (o, value) :: g, others)
    else if mixed then (read options mixed rest).map fun (g, others) => (g, arg :: others)
    else .ok ([], arg :: rest)

/-- The last value given for an option. -/
def valueOf? (o : Switch) (given : List Given) : Option Text :=
  (given.reverse.find? fun g => g.1 == o).map Prod.snd

/-- The first of the options that are answered at once: help and version. -/
def urgent? (given : List Given) : Option Switch :=
  (given.find? fun g => g.1 == .help || g.1 == .version).map Prod.fst

end Arguments

end DocTree
