/-!
# Paths

A path is a text of names between slashes. A name has an extension if it has a dot that is not
its first character: the text behind the last such dot.
-/

namespace Sift.Path

/-- The pieces of a path between slashes. -/
def pieces (path : List Char) : List (List Char) := path.splitOn '/'

/-- The name a path ends in, without slashes and single dots behind it; two dots are no name. -/
def fileName? (path : List Char) : Option (List Char) :=
  match ((pieces path).filter fun p => p ≠ [] ∧ p ≠ ['.']).getLast? with
  | some name => if name = ['.', '.'] then none else some name
  | none => none

/-- The extension of a name. -/
def nameExtension? (name : List Char) : Option (List Char) :=
  match name.reverse.dropWhile (· ≠ '.') with
  | _ :: _ :: _ => some (name.reverse.takeWhile (· ≠ '.')).reverse
  | _ => none

/-- The extension of the name a path ends in. -/
def extension? (path : List Char) : Option (List Char) := (fileName? path).bind nameExtension?

/-- Whether a path has the given extension. -/
def hasExtension (path : List Char) (extension : String) : Bool :=
  extension? path == some extension.toList

/-- The path of something inside a directory, given by the names that lead to it. -/
def join (path : List Char) (names : List String) : List Char :=
  let base := if path.getLast? = some '/' then path else path ++ ['/']
  base ++ ['/'].intercalate (names.map String.toList)

end Sift.Path
