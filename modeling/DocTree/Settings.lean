/-
Settings of an extraction.

The settings stand in the file `.hactdoc` of the project's root, in the section
`extract`.  A file that is missing, cannot be read or holds anything unexpected gives
the default settings as a whole; only a path that is too long is a failure.
-/
import DocTree.Error
import DocTree.FileTree
import DocTree.Text.Lowercase
import DocTree.Text.Utf8
import DocTree.Yaml.Document

namespace DocTree

/-- The settings of an extraction. -/
structure Settings where
  /-- the directory that locations are shown relative to -/
  sourceDir : Option Text := none
  /-- the suffixes of the files that are read -/
  extensions : List Text :=
    [".h", ".hh", ".hpp", ".hxx", ".c", ".cc", ".cpp", ".cxx"].map String.toList
  /-- whether the top-level nodes are sorted in the end -/
  sortTopLevel : Bool := true
deriving DecidableEq, Repr

namespace Settings

/-- Whether a file is read, by its suffix in any case. -/
def supports (s : Settings) (p : Path) : Bool :=
  (s.extensions.map Text.lower).contains p.suffix.lower

/-- The suffixes that a value lists: a single text, the items of a sequence or the
keys of a mapping. -/
def extensions? : Yaml → Option (List Text)
  | .str t => some [t]
  | .seq items => some (items.map Yaml.shown)
  | .map entries => some (entries.map fun (k, _) => k.shown)
  | _ => none

/-- The source directory that a value names, seen from the project's root. -/
def sourceDir? (root : Path) : Yaml → Option (Option Text)
  | .null => some none
  | .str t => some (some (root.append (Path.ofText t)).render)
  | _ => none

/-- The settings in a section; what it leaves out has its default. -/
def ofSection? (root : Path) (entries : List (Yaml × Yaml)) : Option Settings := do
  let default : Settings := {}
  let extensions ←
    match Yaml.get? "extensions".toList entries with
    | none => some default.extensions
    | some v => extensions? v
  let sourceDir ←
    match Yaml.get? "source_dir".toList entries with
    | none => some default.sourceDir
    | some v => sourceDir? root v
  let sortTopLevel :=
    match Yaml.get? "sort_top_level".toList entries with
    | none => default.sortTopLevel
    | some v => v.isTrue
  return { sourceDir, extensions, sortTopLevel }

/-- The settings in a document. -/
def ofDocument? (root : Path) (text : Text) : Option Settings :=
  match Yaml.read? text with
  | some (.map entries) =>
    match Yaml.get? "extract".toList entries with
    | none => some {}
    | some (.map body) => ofSection? root body
    | some _ => none
  | _ => none

/-- The root of a project: the working directory unless another one is given. -/
def rootIn (cwd : List Text) (root : Option Path) : Path :=
  root.getD { slashes := 1, names := cwd }

/-- The path of a project's settings. -/
def pathIn (cwd : List Text) (root : Option Path) : Path :=
  (rootIn cwd root).append (Path.ofText ".hactdoc".toList)

/-- The settings of a project. -/
def load (s : Surroundings) (root : Option Path) : Except Error Settings :=
  let path := pathIn s.cwd root
  match s.read path with
  | .file bytes => .ok (((Utf8.decode? bytes).bind (ofDocument? (rootIn s.cwd root))).getD {})
  | .tooLong => .error (.nameTooLong path.render)
  | _ => .ok {}

end Settings

end DocTree
