import MeshOnboard.Files.Error
import MeshOnboard.Files.Path
import MeshOnboard.Table
import MeshOnboard.Text.Utf8

/-!
# File trees

A `Tree` holds directories and files at places; a place is the list of the names that lead to it
from the root.  A path is followed name by name: every name but the last has to lead to a directory,
`.` stays and `..` goes up.  Each operation gives the tree after it, which is the same tree where
the operation fails, but for `Tree.makeDirectories`, which keeps the directories it has made.
-/

namespace MeshOnboard

/-- The name of a directory or a file within its directory. -/
abbrev FileName : Type := List Char

/-- The names that lead from the root to a directory or a file. -/
abbrev Place : Type := List FileName

/-- What is at a place. -/
inductive FileNode where
  | directory
  | file (content : List UInt8)
  deriving DecidableEq

/-- The directories and files of a system, without the root. -/
structure Tree where
  nodes : Table Place FileNode

namespace Tree

/-- The tree that has only its root. -/
def empty : Tree := ⟨∅⟩

/-- What is at a place; the root is always a directory. -/
def node? (t : Tree) (p : Place) : Option FileNode :=
  if p = [] then some .directory else t.nodes.find? p

/-- The tree with a node put at a place. -/
def put (t : Tree) (p : Place) (n : FileNode) : Tree := ⟨t.nodes.put p n⟩

/-- The tree without what is at a place. -/
def erase (t : Tree) (p : Place) : Tree := ⟨t.nodes.erase p⟩

/-! ### Following paths -/

/-- The octets a name may have. -/
def maxName : Nat := 255

/-- The octets a path may have. -/
def maxPath : Nat := 4095

/-- The number of octets of a text. -/
def octets (cs : List Char) : Nat := (String.ofList cs).utf8ByteSize

/-- The place that a name leads to from a place, whether there is something at it or not. -/
def step (t : Tree) (here : Place) (name : FileName) : Except FileError Place :=
  match t.node? here with
  | none => .error .notFound
  | some (.file _) => .error .notDirectory
  | some .directory =>
    if name = ['.'] then .ok here
    else if name = ['.', '.'] then .ok here.dropLast
    else if maxName < octets name then .error .nameTooLong
    else .ok (here ++ [name])

/-- The place that names lead to from a place. -/
def follow (t : Tree) (here : Place) : List FileName → Except FileError Place
  | [] => .ok here
  | name :: names => (t.step here name).bind fun next => t.follow next names

/-- The names of a path, if the system takes its text for a path. -/
def namesOf (p : Path) : Except FileError (List FileName) :=
  if '\x00' ∈ p.chars then .error .nulInName
  else if p.chars = [] then .error .notFound
  else if maxPath < octets p.chars then .error .nameTooLong
  else .ok p.names

/-- The place that a path leads to, whether there is something at it or not. -/
def locate (t : Tree) (p : Path) : Except FileError Place :=
  (namesOf p).bind (t.follow [])

/-! ### Files -/

/-- The content of a file. -/
def read (t : Tree) (p : Path) : Except FileError (List UInt8) :=
  match t.locate p with
  | .error e => .error e
  | .ok place =>
    match t.node? place with
    | none => .error .notFound
    | some .directory => .error .isDirectory
    | some (.file content) => .ok content

/-- The text of a file. -/
def readText (t : Tree) (p : Path) : Except FileError String :=
  match t.read p with
  | .error e => .error e
  | .ok content =>
    match Utf8.read? content with
    | none => .error .notText
    | some cs => .ok (String.ofList cs)

/-- The tree in which a file, made where there is none, has the given content. -/
def write (t : Tree) (p : Path) (content : List UInt8) : Tree × Except FileError Unit :=
  match t.locate p with
  | .error e => (t, .error e)
  | .ok place =>
    match t.node? place with
    | some .directory => (t, .error .isDirectory)
    | _ => (t.put place (.file content), .ok ())

/-- The tree without a file. -/
def remove (t : Tree) (p : Path) : Tree × Except FileError Unit :=
  match t.locate p with
  | .error e => (t, .error e)
  | .ok place =>
    match t.node? place with
    | none => (t, .error .notFound)
    | some .directory => (t, .error .isDirectory)
    | some (.file _) => (t.erase place, .ok ())

/-! ### Directories -/

/-- Whether names lead to a directory from the root. -/
def isDirectory (t : Tree) (names : List FileName) : Bool :=
  match t.follow [] names with
  | .error _ => false
  | .ok place => t.node? place = some .directory

/-- The tree with one more directory; all names but the last have to lead to one. -/
def makeDirectory (t : Tree) (names : List FileName) : Tree × Except FileError Unit :=
  match t.follow [] names with
  | .error e => (t, .error e)
  | .ok place =>
    match t.node? place with
    | some _ => (t, .error .alreadyExists)
    | none => (t.put place .directory, .ok ())

/-- The tree with a directory in which an attempt to make it ended with `e`: there may be one. -/
def orExisting (t : Tree) (names : List FileName) (e : FileError) : Tree × Except FileError Unit :=
  if t.isDirectory names then (t, .ok ()) else (t, .error e)

/-- The names that lead to the directory that holds what the names lead to. -/
def parent (names : List FileName) : List FileName :=
  (names.filter (· ≠ ['.'])).dropLast

theorem length_parent_lt {names : List FileName} (h : names ≠ []) :
  (parent names).length < names.length
  := by
  have hf := List.length_filter_le (· ≠ ['.']) names
  have hn := List.length_pos_iff.2 h
  simp only [parent, List.length_dropLast]
  omega

/-- The tree with a directory and all those above it that are missing. -/
def makeDirectories (t : Tree) (names : List FileName) : Tree × Except FileError Unit :=
  if _h : names = [] then (t, .ok ())
  else
    match t.makeDirectory names with
    | (t, .ok ()) => (t, .ok ())
    | (t, .error .notFound) =>
      match t.makeDirectories (parent names) with
      | (t, .error e) => (t, .error e)
      | (t, .ok ()) =>
        match t.makeDirectory names with
        | (t, .ok ()) => (t, .ok ())
        | (t, .error e) => t.orExisting names e
    | (t, .error e) => t.orExisting names e
termination_by names.length
decreasing_by exact length_parent_lt _h

/-- The tree with the directory that a path leads to and all those above it. -/
def createDirectory (t : Tree) (p : Path) : Tree × Except FileError Unit :=
  if p.chars = [] then (t, .ok ())
  else
    match namesOf p with
    | .error e => (t, .error e)
    | .ok names => t.makeDirectories names

end Tree

end MeshOnboard
