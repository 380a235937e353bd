import Landscape.Settings.FilePath

namespace Landscape

/-!
# File trees

A tree of folders and files in memory, which commands can run over.
-/

inductive FileTree where
  /-- A file; without content if its bytes are no text. -/
  | file (content : Option String)
  | folder (entries : List (String × FileTree))

namespace FileTree

def empty : FileTree := folder []

def child? (name : String) : FileTree → Option FileTree
  | file _ => none
  | folder entries => entries.lookup name

def setChild (name : String) (t : FileTree) : FileTree → FileTree
  | file _ => folder [(name, t)]
  | folder entries => folder (entries.filter (fun e => e.1 ≠ name) ++ [(name, t)])

/-- Put a tree at a path; folders on the way are made where they are missing. -/
def insert (t : FileTree) : List String → FileTree → FileTree
  | [], _ => t
  | name :: names, around => setChild name (insert t names ((around.child? name).getD empty)) around

def parts (path : String) : List String := (path.toList.splitOn '/').map String.ofList

/-- The failure on a path that goes on behind a file. -/
def notFolder : ReadFailure := .other "Not a directory (os error 20)"

/-- The failure on a folder that is read as a file. -/
def isFolder : ReadFailure := .other "Is a directory (os error 21)"

def noText : ReadFailure := .other "stream did not contain valid UTF-8"

/-- Follow the parts of a path; `above` holds the folders around the one reached. Around the
outermost there are folders whose entries are not known. -/
def follow (above : List FileTree) (t : FileTree) : List String → Except ReadFailure FileTree
  | [] => .ok t
  | part :: rest =>
      match t with
      | file _ => .error notFolder
      | folder _ =>
          if part = "" ∨ part = "." then follow above t rest
          else if part = ".." then
            match above with
            | [] => follow [] empty rest
            | a :: above => follow above a rest
          else
            match t.child? part with
            | none => .error .notFound
            | some c => follow (t :: above) c rest

/-- The tree or file at a path; an empty path leads nowhere. Of absolute paths only those
behind `root`, the place of the tree, lead into it. -/
def find (t : FileTree) (root : String) (path : String) : Except ReadFailure FileTree :=
  match parts path with
  | [] | [""] => .error .notFound
  | first :: rest =>
      if first = root then follow [] t rest
      else if first = "" then follow [] empty rest
      else follow [] t (first :: rest)

def read (t : FileTree) (root : String) (path : String) : Except ReadFailure String :=
  match t.find root path with
  | .error f => .error f
  | .ok (folder _) => .error isFolder
  | .ok (file none) => .error noText
  | .ok (file (some content)) => .ok content

end FileTree

end Landscape
