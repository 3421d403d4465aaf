import BraceTemplate.Members

/-!
Paths of files, and trees of text files that are read by a path.
-/

/-! ## Paths

A path is segments with slashes between them. A path that starts with a slash stands for itself; any
other is taken below a root. The file name of a path is its last segment that says something, empty
segments and single dots aside.
-/

namespace BraceTemplate.FilePath

def join (root path : String) : String :=
  match path.toList with
  | '/' :: _ => path
  | _ =>
    match root.toList.getLast? with
    | none => path
    | some last => if last = '/' then root ++ path else root ++ "/" ++ path

def segments (path : String) : List String :=
  path.splitOn "/"

def isIdle (segment : String) : Bool :=
  segment == "" || segment == "."

def reversedSegments (path : String) : List String :=
  (segments path).reverse.dropWhile isIdle

/-- A path split at its file name; none where it has no file name. -/
def splitFileName? (path : String) : Option (List String × String) :=
  match reversedSegments path with
  | [] => none
  | name :: outer => if name = ".." then none else some (outer.reverse, name)

/-- A file name split at its last dot; none without a dot, or with one dot at the start alone. -/
def splitExtension? (name : String) : Option (String × String) :=
  let reversed := name.toList.reverse
  let extension := reversed.takeWhile (· ≠ '.')
  match reversed.dropWhile (· ≠ '.') with
  | [] | [_] => none
  | _ :: stem => some (String.ofList stem.reverse, String.ofList extension.reverse)

def extension? (path : String) : Option String :=
  (splitFileName? path).bind fun split => (splitExtension? split.2).map Prod.snd

def stem (name : String) : String :=
  ((splitExtension? name).map Prod.fst).getD name

/-- Replaces the extension of the file name of a path; an empty one takes it away. A path without a
file name stays as it is. -/
def withExtension (path extension : String) : String :=
  match splitFileName? path with
  | none => path
  | some (outer, name) =>
    "/".intercalate (outer ++ [stem name]) ++ (if extension.isEmpty then "" else "." ++ extension)

/-- The path of the file for a name: a name without an extension gets the given one, if any. -/
def resolve (root : String) (extension : Option String) (name : String) : String :=
  let path := join root name
  match extension with
  | none => path
  | some added => if (extension? name).isSome then path else withExtension path added

end BraceTemplate.FilePath

/-! ## Trees

A path is followed segment by segment from the top; what is not a directory has nothing below it.
-/

namespace BraceTemplate

/-- Why a file cannot be read. -/
inductive FileFault where
  | notFound
  | notDirectory
  | isDirectory
  | nameTooLong
  /-- The path holds a character that ends every path. -/
  | nullCharacter
deriving Repr, DecidableEq

def FileFault.message : FileFault → String
  | notFound => "No such file or directory (os error 2)"
  | notDirectory => "Not a directory (os error 20)"
  | isDirectory => "Is a directory (os error 21)"
  | nameTooLong => "File name too long (os error 36)"
  | nullCharacter => "file name contained an unexpected NUL byte"

/-- Files by the segments of their places, and directories that are there even without files. -/
structure FileTree where
  files : List (List String × String)
  directories : List (List String)

namespace FileTree

def under (root : String) (files : Members String) : FileTree :=
  let place := fun path => (FilePath.segments path).filter fun segment => !FilePath.isIdle segment
  ⟨files.map fun entry => (place (FilePath.join root entry.1), entry.2), [place root]⟩

def file? (tree : FileTree) (place : List String) : Option String :=
  (tree.files.find? fun entry => entry.1 == place).map Prod.snd

/-- Whether there is a directory at a place: the top, and whatever leads to a file or a directory.
-/
def isDirectory (tree : FileTree) (place : List String) : Bool :=
  place.isEmpty ||
    tree.directories.any (fun directory => place.isPrefixOf directory) ||
    tree.files.any fun entry => place.isPrefixOf entry.1 && place != entry.1

def longestSegment : Nat := 255

def longestPath : Nat := 4095

def follow (tree : FileTree) (place : List String) : List String → Except FileFault (List String)
  | [] => .ok place
  | segment :: rest =>
    if !tree.isDirectory place then .error .notDirectory
    else if FilePath.isIdle segment then tree.follow place rest
    else if segment = ".." then tree.follow place.dropLast rest
    else if longestSegment < segment.utf8ByteSize then .error .nameTooLong
    else
      let next := place ++ [segment]
      if tree.isDirectory next || (tree.file? next).isSome then tree.follow next rest
      else .error .notFound

/-- Reads the file at a path. -/
def read (tree : FileTree) (path : String) : Except FileFault String :=
  if path.contains '\x00' then .error .nullCharacter
  else if longestPath < path.utf8ByteSize then .error .nameTooLong
  else if path.isEmpty then .error .notFound
  else
    match tree.follow [] (FilePath.segments path) with
    | .error fault => .error fault
    | .ok place =>
      match tree.file? place with
      | some text => .ok text
      | none => .error .isDirectory

end FileTree

end BraceTemplate
