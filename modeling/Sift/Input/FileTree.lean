import Sift.Input.Content
import Sift.Input.Path

/-!
# File trees

A `FileTree` is a file or a directory with everything below it. Paths are looked up piece by
piece: a single dot stays, two dots go back to the directory above, and every piece needs a
directory to start from.

**Walks.** A walk through a directory comes to everything below it, in the order in which entries
are listed. It ends at the first thing it cannot get past.
-/

namespace Sift

/-- A file with its content, a directory with its entries, or what no walk gets past: a directory
that cannot be listed, or a link to nowhere. -/
inductive FileTree where
  | file (content : Content)
  | directory (entries : List (String × FileTree))
  | blocked (cause : Cause)

namespace FileTree

instance : Inhabited FileTree := ⟨directory []⟩

/-- Follows pieces of a path from a tree; `above` are the directories that lead to it, the nearest
first. -/
def follow (above : List FileTree) : FileTree → List (List Char) → Option FileTree
  | t, [] => some t
  | file _, _ :: _ => none
  | blocked _, _ :: _ => none
  | directory entries, piece :: rest =>
    if piece = [] ∨ piece = ['.'] then follow above (directory entries) rest
    else if piece = ['.', '.'] then
      match above with
      | parent :: above => follow above parent rest
      | [] => none
    else
      match entries.lookup (String.ofList piece) with
      | some t => follow (directory entries :: above) t rest
      | none => none

/-- What a relative path leads to. -/
def find? (t : FileTree) (path : List Char) : Option FileTree :=
  match path with
  | [] => none
  | '/' :: _ => none
  | path => follow [] t (Path.pieces path)

mutual

/-- All files below a directory, with the names that lead to them. -/
def files : FileTree → List (List String × Content)
  | file content => [([], content)]
  | directory entries => filesOf entries
  | blocked _ => []

/-- All files below the entries of a directory. -/
def filesOf : List (String × FileTree) → List (List String × Content)
  | [] => []
  | (name, t) :: rest => (files t).map (fun f => (name :: f.1, f.2)) ++ filesOf rest

end

mutual

/-- Why a walk through a tree does not come to its end. -/
def obstacle? : FileTree → Option Cause
  | file _ => none
  | directory entries => obstacleOf? entries
  | blocked cause => some cause

/-- Why a walk through the entries of a directory does not come to its end. -/
def obstacleOf? : List (String × FileTree) → Option Cause
  | [] => none
  | (_, t) :: rest => (obstacle? t).or (obstacleOf? rest)

end

/-- The tree with an entry where names lead to, in directories that are made on the way. -/
def insert (t : FileTree) (names : List String) (entry : FileTree) : FileTree :=
  match names, t with
  | [], _ => entry
  | name :: names, directory entries =>
    let inner := (entries.lookup name).getD (directory [])
    directory (entries.filter (·.1 ≠ name) ++ [(name, insert inner names entry)])
  | name :: names, _ => directory [(name, insert (directory []) names entry)]

end FileTree

end Sift
