import BraceTemplate.Engine.Basic
import BraceTemplate.Loading.FileTree

/-!
Loaders that answer at once: from a table of sources, and from files.
-/

namespace BraceTemplate.Loader

/-- Answers from a table of sources by name. -/
def ofTable (sources : Members String) : Loader :=
  .immediate fun name =>
    match sources.find? name with
    | some source => .ok source
    | .none => .error (.loader name "no such template")

/-- Answers from the files below a root; a name without an extension gets the given one. -/
def ofFiles (tree : FileTree) (root : String) (extension : Option String) : Loader :=
  .immediate fun name =>
    let path := FilePath.resolve root extension name
    match tree.read path with
    | .ok source => .ok source
    | .error fault => .error (.loader name (path ++ ": " ++ fault.message))

end BraceTemplate.Loader
