/-
A tree of files and directories, and the operations on it.

The tree is a list of places, each a directory or a file; the root is always a
directory. A path is walked step by step from the root or from the working directory,
and every step needs a directory to stand in, so `a/../b` needs `a` to be there.

What a system has besides is left out. There are no links, neither symbolic ones nor two names for
one file: a place has one path without `.` and `..`, and going up from a directory always leads to
where it was entered from. There are no permissions and no owners, and a disk is never full: an
operation fails for its path or for what is in its way, never halfway. A file is written at once and
whole (`write`); what a program would leave that is broken off while it writes is not represented.
-/
import ReleasePipeline.Files.Content
import ReleasePipeline.Path

set_option autoImplicit false

namespace ReleasePipeline

/-! ## Errors -/

/-- Why the system refuses an operation. -/
inductive IoError where
  | notFound
  | permissionDenied
  | alreadyExists
  | notADirectory
  | isADirectory
  | nameTooLong
  /-- A text file is not UTF-8. -/
  | notText
  /-- A path holds a character that no path can hold. -/
  | nulInPath
  /-- A program, an argument or a variable holds a character that none can hold. -/
  | nulInCommand
  /-- A program cannot be given so long an argument or variable. -/
  | argumentsTooLong
  deriving DecidableEq, Inhabited, Repr

/-- The wording of the error. -/
def IoError.message : IoError → String
  | .notFound => "No such file or directory (os error 2)"
  | .permissionDenied => "Permission denied (os error 13)"
  | .alreadyExists => "File exists (os error 17)"
  | .notADirectory => "Not a directory (os error 20)"
  | .isADirectory => "Is a directory (os error 21)"
  | .nameTooLong => "File name too long (os error 36)"
  | .notText => "stream did not contain valid UTF-8"
  | .nulInPath => "file name contained an unexpected NUL byte"
  | .nulInCommand => "nul byte found in provided data"
  | .argumentsTooLong => "Argument list too long (os error 7)"

/-! ## The tree -/

/-- A place in the tree: the names on the way to it, the innermost first. -/
abbrev Place := List String

/-- What is at a place. -/
inductive FileNode where
  | directory
  | file (content : Content)
  deriving Inhabited

/-- A tree of files, and the directory that paths start from. -/
structure Files where
  nodes : List (Place × FileNode) := []
  workingDirectory : Place := []
  deriving Inhabited

namespace Files

/-- What the row of a place says. -/
def row? (place : Place) : List (Place × FileNode) → Option FileNode
  | [] => none
  | (p, n) :: rest => if p = place then some n else row? place rest

/-- What is at a place. -/
def node? (fs : Files) (place : Place) : Option FileNode :=
  if place = [] then some .directory else row? place fs.nodes

/-- Puts something at a place, in the row that the place has already. -/
def putRow (place : Place) (node : FileNode) : List (Place × FileNode) → List (Place × FileNode)
  | [] => [(place, node)]
  | (p, n) :: rest => if p = place then (p, node) :: rest else (p, n) :: putRow place node rest

/-- Puts something at a place. -/
def put (fs : Files) (place : Place) (node : FileNode) : Files :=
  { fs with nodes := putRow place node fs.nodes }

/-- Takes away what is at a place. -/
def drop (fs : Files) (place : Place) : Files :=
  { fs with nodes := fs.nodes.filter fun row => row.1 ≠ place }

/-- The names in a directory, each with what it names. -/
def children (fs : Files) (place : Place) : List (String × FileNode) :=
  fs.nodes.filterMap fun (p, n) =>
    match p with
    | name :: parent => if parent = place then some (name, n) else none
    | [] => none

theorem row?_putRow (place : Place) (node : FileNode) (rows : List (Place × FileNode))
    (p : Place) :
    row? p (putRow place node rows) = if p = place then some node else row? p rows := by
  induction rows with
  | nil =>
    by_cases h : p = place
    · simp [putRow, row?, h]
    · simp [putRow, row?, h, Ne.symm h]
  | cons row rest ih =>
    obtain ⟨q, n⟩ := row
    rw [putRow]
    by_cases hq : q = place
    · subst hq
      by_cases h : p = q
      · simp [row?, h]
      · simp [row?, h, Ne.symm h]
    · by_cases h : q = p
      · subst h
        simp [row?, hq]
      · simp only [hq, if_false, row?, h, ih]

/-- Putting something at a place changes nothing elsewhere. -/
theorem node?_put (fs : Files) {place : Place} (node : FileNode) (hp : place ≠ []) (p : Place) :
    (fs.put place node).node? p = if p = place then some node else fs.node? p := by
  unfold node? put
  by_cases h : p = []
  · subst h
    simp [Ne.symm hp]
  · simp only [h, if_false, row?_putRow]

/-! ## Walking -/

/-- The path of the working directory from the root on. -/
def workingPath (fs : Files) : Path := ⟨"/" ++ "/".intercalate fs.workingDirectory.reverse⟩

/-- The longest name that a place can have, in bytes. -/
def maxNameBytes : Nat := 255

/-- The longest path, in bytes. -/
def maxPathBytes : Nat := 4095

/-- Goes on from a place by the spellings between the slashes of a path. -/
def walk (fs : Files) : Place → List (List Char) → Except IoError Place
  | place, [] => .ok place
  | place, piece :: rest =>
    -- two slashes in a row are one
    if piece = [] then walk fs place rest
    else
      match fs.node? place with
      | none => .error .notFound
      | some (.file _) => .error .notADirectory
      | some .directory =>
        if piece = ['.'] then walk fs place rest
        -- above the root is the root
        else if piece = ['.', '.'] then walk fs place.tail rest
        else
          let name := String.ofList piece
          if maxNameBytes < name.utf8ByteSize then .error .nameTooLong
          else walk fs (name :: place) rest

/-- Where the walk along a path begins. -/
def start (fs : Files) (p : Path) : Place := if p.isAbsolute then [] else fs.workingDirectory

/-- Refuses the paths that no file can have. -/
def checkPath (p : Path) : Except IoError Unit :=
  if p.text.toList.contains '\x00' then .error .nulInPath
  else if p.text = "" then .error .notFound
  else if maxPathBytes < p.text.utf8ByteSize then .error .nameTooLong
  else .ok ()

/-- Finds what a path names. A path that ends in a slash names a directory. -/
def find (fs : Files) (p : Path) : Except IoError (Place × FileNode) := do
  checkPath p
  let place ← fs.walk (fs.start p) p.pieces
  match fs.node? place with
  | none => .error .notFound
  | some .directory => .ok (place, .directory)
  | some (.file c) => if p.endsInSlash then .error .notADirectory else .ok (place, .file c)

/-- The path names a regular file. -/
def isFile (fs : Files) (p : Path) : Bool :=
  match fs.find p with
  | .ok (_, .file _) => true
  | _ => false

/-- The path names a directory. -/
def isDirectory (fs : Files) (p : Path) : Bool :=
  match fs.find p with
  | .ok (_, .directory) => true
  | _ => false

/-- The path names something. -/
def exists? (fs : Files) (p : Path) : Bool :=
  match fs.find p with
  | .ok _ => true
  | .error _ => false

/-! ## Reading -/

/-- Opens what a path names for reading, be it a directory. -/
def openNode (fs : Files) (p : Path) : Except IoError FileNode := do
  let (_, node) ← fs.find p
  .ok node

/-- Reads what was opened: a directory cannot be read. -/
def readNode : FileNode → Except IoError Content
  | .directory => .error .isADirectory
  | .file c => .ok c

/-- Reads a file. -/
def read (fs : Files) (p : Path) : Except IoError Content := do
  readNode (← fs.openNode p)

/-! ## Changing -/

/-- Finds the place at which a path would put a new file or directory: all steps but the last
have to be there, and the last has to be a name. -/
def findNew (fs : Files) (p : Path) (pieces : List (List Char)) :
    Except IoError (Option Place) := do
  let steps := pieces.filter (· ≠ [])
  match steps.getLast? with
  | none => .ok none
  | some last =>
    let parent ← fs.walk (fs.start p) steps.dropLast
    match fs.node? parent with
    | none => .error .notFound
    | some (.file _) => .error .notADirectory
    | some .directory =>
      -- a step that stays or goes up leads to a directory that is there already
      if last = ['.'] ∨ last = ['.', '.'] then .ok none
      else
        let name := String.ofList last
        if maxNameBytes < name.utf8ByteSize then .error .nameTooLong
        else .ok (some (name :: parent))

/-- Writes a file, in place of the one that is there; it holds all of `c` afterwards or is left as
it was. -/
def write (fs : Files) (p : Path) (c : Content) : Except IoError Files := do
  checkPath p
  match ← fs.findNew p p.pieces with
  | none => .error .isADirectory
  | some place =>
    if p.endsInSlash then .error .isADirectory
    else
      match fs.node? place with
      | some .directory => .error .isADirectory
      | _ => .ok (fs.put place (.file c))

/-- Creates one directory. -/
def createDirectory (fs : Files) (p : Path) : Except IoError Files := do
  checkPath p
  match ← fs.findNew p p.pieces with
  | none => .error .alreadyExists
  | some place =>
    match fs.node? place with
    | some _ => .error .alreadyExists
    | none => .ok (fs.put place .directory)

/-- The paths above a path, the nearest first, as far as they are neither empty nor the
root. -/
def ancestors : Nat → Path → List Path
  | 0, _ => []
  | n + 1, p =>
    match p.parent? with
    | none => []
    | some above =>
      -- the working directory and the root are there and need not be created
      if above.text = "" ∨ above.parent? = none then [] else above :: ancestors n above

/-- Creates a directory after those above it. Of the directories on the way, given from the
nearest, those that are missing are created from the outermost; one that is there
already is no error. -/
def createChain (fs : Files) (p : Path) : List Path → Except (Files × IoError) Files
  | [] =>
    match fs.createDirectory p with
    | .ok fs => .ok fs
    -- who created it does not matter
    | .error e => if fs.isDirectory p then .ok fs else .error (fs, e)
  | above :: further =>
    match fs.createDirectory p with
    | .ok fs => .ok fs
    | .error .notFound =>
      -- the directory above is missing: first that one, then this one again
      match createChain fs above further with
      | .error e => .error e
      | .ok fs =>
        match fs.createDirectory p with
        | .ok fs => .ok fs
        | .error e => if fs.isDirectory p then .ok fs else .error (fs, e)
    | .error e => if fs.isDirectory p then .ok fs else .error (fs, e)

/-- Creates a directory and those above it that are missing. What was created before an
error stays. -/
def createDirectories (fs : Files) (p : Path) : Except (Files × IoError) Files :=
  if p.text = "" ∨ p.parent? = none then .ok fs
  else createChain fs p (ancestors p.text.length p)

/-- Removes a file. -/
def remove (fs : Files) (p : Path) : Except IoError Files := do
  let (place, node) ← fs.find p
  match node with
  | .directory => .error .isADirectory
  | .file _ => .ok (fs.drop place)

end Files

end ReleasePipeline
