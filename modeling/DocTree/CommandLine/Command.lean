/-
The commands of the program.

* `tree` — the outline of the documentation tree;
* `index` — the names of the top-level nodes, one on a line;
* `dump` — the whole tree as JSON;
* `show` — one node, named by its path, as JSON.

`CommandLine.interpret` reads the arguments of the program, and `CommandLine.run`
answers them, given the surroundings in which files are read.
-/
import DocTree.CommandLine.Arguments
import DocTree.Extraction
import DocTree.Report.Json
import DocTree.Report.Outline
import DocTree.Text.ControlSequence

namespace DocTree

/-- A command of the program; `node` shows one node. -/
inductive Command where
  | tree
  | index
  | dump
  | node
deriving DecidableEq, Repr

namespace Command

def name : Command → Text
  | .tree => "tree".toList
  | .index => "index".toList
  | .dump => "dump".toList
  | .node => "show".toList

def ofName? (t : Text) : Option Command :=
  [Command.tree, .index, .dump, .node].find? fun c => c.name == t

/-- The options that a command takes. -/
def options : Command → List Switch
  | .node => [.help, .config, .entity]
  | _ => [.help, .config]

end Command

/-- What a command is to do. -/
structure Job where
  command : Command
  verbose : Bool
  files : List Path
  /-- the project's root, unless it is the working directory -/
  root : Option Path
  /-- the path of the node to show -/
  entity : Text

/-- The paths that a job may read. -/
def Job.paths (cwd : List Text) (job : Job) : List Path :=
  Settings.pathIn cwd job.root :: job.files

/-- What the program answers: the usage text, with an exit code, or exit code and
output. -/
inductive Response where
  | usage (exit : Nat)
  | output (exit : Nat) (stdout stderr : Text)
deriving DecidableEq, Repr

namespace CommandLine

/-- Texts as lines, each ended by a line feed. -/
def linesText (ts : List Text) : Text := ts.flatMap fun t => t ++ ['\n']

/-- A line for an error. -/
def errorLine (e : Error) : Text := Text.withoutControls ("Error: ".toList ++ e.message)

/-- The exit code of a failed extraction. -/
def exitCode : Error → Nat
  | .isDirectory _ | .nameTooLong _ => 2
  | _ => 1

/-- The width of the boxes around messages. -/
def boxWidth : Nat := 2000

/-- A message in a box. -/
def boxed (message : Text) : List Text :=
  let bar := fun n => List.replicate n '─'
  let title := "╭─ Error ".toList
  [title ++ bar (boxWidth - title.length - 1) ++ ['╮'],
    "│ ".toList ++ message ++ List.replicate (boxWidth - 4 - message.length) ' ' ++ " │".toList,
    '╰' :: bar (boxWidth - 2) ++ ['╯']]

/-- The answer to arguments that are refused. -/
def refused : Arguments.Refusal → Response
  | .unknownOption => .usage 2
  | .missingValue name =>
    .output 2 []
      (linesText (boxed ("Option '".toList ++ name ++ "' requires an argument.".toList)))
  | .unwantedValue name =>
    .output 2 []
      (linesText (boxed ("Option '".toList ++ name ++ "' does not take a value.".toList)))

/-- The answer to an urgent option. -/
def answerUrgent : Switch → Response
  | .version => .output 0 "hactdoc version 0.1.0\n".toList []
  | _ => .usage 0

/-- What a command prints for a tree. -/
def print (t : Tree) (entity : Text) : Command → Except Error Text
  | .tree => .ok (linesText t.outline)
  | .index => .ok (linesText (t.childNames.map Text.withoutControls))
  | .dump => .ok (linesText [t.entitiesJson.render])
  | .node =>
    (t.find [] entity).map fun p =>
      linesText [((t.get? p).getD Tree.empty).toJson.render]

/-- The lines of the log that are shown: with `verbose` all of them, else only
warnings. -/
def shownLog (verbose : Bool) (trace : List Event) : List Text :=
  (trace.filter fun e => verbose || e.level == .warning).map Event.render

/-- Carries out a job. -/
def execute (s : Surroundings) (job : Job) : Response :=
  match Settings.load s job.root with
  | .error e => .output (exitCode e) [] (linesText [errorLine e])
  | .ok settings =>
    let run := Extraction.extract s settings Tree.empty job.files
    let log := shownLog job.verbose run.trace
    match run.failure with
    | some e => .output (exitCode e) [] (linesText (log ++ [errorLine e]))
    | none =>
      match print run.tree job.entity job.command with
      | .ok text => .output 0 text (linesText log)
      | .error e => .output 1 [] (linesText (log ++ [errorLine e]))

/-! ### Arguments -/

/-- The job that a command and its arguments ask for.  At least one file is needed, and
an entity to show. -/
def jobOf (verbose : Bool) (command : Command) (args : List Text) : Except Response Job :=
  match Arguments.read command.options true args with
  | .error r => .error (refused r)
  | .ok (given, files) =>
    match Arguments.urgent? given with
    | some o => .error (answerUrgent o)
    | none =>
      let entity := Arguments.valueOf? .entity given
      if files.isEmpty || (command == .node && entity.isNone) then .error (.usage 2)
      else
        .ok { command, verbose
              files := files.map Path.ofText
              root := (Arguments.valueOf? .config given).map Path.ofText
              entity := entity.getD [] }

/-- The options of the program itself. -/
def options : List Switch := [.help, .version, .verbose]

/-- Answers an argument in the place of a command that is none.  An option there, after
`--`, is still read as one. -/
def unknownCommand (args : List Text) : Response :=
  match Arguments.read options false args with
  | .error r => refused r
  | .ok (given, _) => ((Arguments.urgent? given).map answerUrgent).getD (.usage 2)

/-- The job that the arguments of the program ask for, or the answer if they ask for
none. -/
def interpret (args : List Text) : Except Response Job :=
  if args.isEmpty then .error (.usage 2)
  else
    match Arguments.read options false args with
    | .error r => .error (refused r)
    | .ok (given, rest) =>
      match Arguments.urgent? given, rest with
      | some o, _ => .error (answerUrgent o)
      | none, [] => .error (.output 0 [] [])
      | none, name :: args =>
        match Command.ofName? name with
        | some command => jobOf (Arguments.valueOf? .verbose given).isSome command args
        | none => .error (unknownCommand (name :: args))

/-- Answers the arguments of the program. -/
def run (s : Surroundings) (args : List Text) : Response :=
  match interpret args with
  | .error r => r
  | .ok job => execute s job

end CommandLine

end DocTree
