/-
Extraction.

An extraction reads files in order into one tree: later files may name scopes of
earlier ones.  Files with other suffixes are passed over.  In the end the top-level
nodes are sorted, if the settings say so.  The first failure ends the extraction.
-/
import DocTree.Settings
import DocTree.Source
import DocTree.Tree.Order

namespace DocTree.Extraction

/-- The lines of a file with the given bytes. -/
def linesOf (bytes : List UInt8) : List Text := (Utf8.decodeLossy bytes).unifyBreaks.lines

/-- The outcome of an extraction: the tree as far as it got, the log, and the
failure that ended it. -/
structure Run where
  tree : Tree
  trace : List Event
  failure : Option Error

/-- The event of an extraction with the given text. -/
def event (level : Level) (message : Text) : Event := ⟨level, .extraction, message⟩

/-- What the log says after a file. -/
def doneEvent (found : Nat) : Event :=
  event .info ("Parsing done, found ".toList ++ Text.ofInt found ++
    " entities, took 0.000 s".toList)

/-- Reads one file into a tree. -/
def readFile (s : Surroundings) (settings : Settings) (t : Tree) (p : Path) : Run :=
  -- the suffix is looked at first: a file passed over need not exist
  if !settings.supports p then
    ⟨t, [event .warning ("Skipping unsupported file: ".toList ++ p.render)], none⟩
  else
    let begun := event .info ("Parsing file: ".toList ++ p.render)
    match s.read p with
    | .missing => ⟨t, [begun], some (.missingFile p.render)⟩
    | .directory => ⟨t, [begun], some (.isDirectory p.render)⟩
    | .tooLong => ⟨t, [begun], some (.nameTooLong p.render)⟩
    | .file bytes =>
      let run := Source.placeAll t (p.display s.cwd settings.sourceDir) (linesOf bytes)
      match run.outcome with
      | .error e => ⟨run.tree, begun :: run.trace, some e⟩
      | .ok placed => ⟨run.tree, begun :: run.trace ++ [doneEvent placed.length], none⟩

/-- Reads files into a tree, up to the first failure. -/
def readFiles (s : Surroundings) (settings : Settings) : Tree → List Path → Run
  | t, [] => ⟨t, [], none⟩
  | t, p :: rest =>
    let run := readFile s settings t p
    match run.failure with
    | some _ => run
    | none =>
      let more := readFiles s settings run.tree rest
      { more with trace := run.trace ++ more.trace }

/-- Extracts the documentation of files into a tree. -/
def extract (s : Surroundings) (settings : Settings) (t : Tree) (files : List Path) : Run :=
  let run := readFiles s settings t files
  match run.failure with
  | some _ => run
  | none =>
    { tree := if settings.sortTopLevel then run.tree.sortChildren else run.tree
      trace := run.trace ++ [event .info "Parsed all files, took 0.000 s".toList]
      failure := none }

end DocTree.Extraction
