/-
This file defines the paths of files, whose parts are separated by slashes.
-/

namespace ContactRules.Path

def isAbsolute (path : String) : Bool := path.toList.head? = some '/'

/-- This splits at each slash. -/
def parts : List Char → List (List Char)
  | [] => [[]]
  | '/' :: rest => [] :: parts rest
  | character :: rest =>
      match parts rest with
      | [] => [[character]]
      | part :: others => (character :: part) :: others

/-- An empty part and a single dot stand for nothing. -/
def isVoid (part : List Char) : Bool := part.isEmpty || part = ['.']

def dropVoidEnd (parts : List (List Char)) : List (List Char) :=
  (parts.reverse.dropWhile isVoid).reverse

/-- This puts slashes between parts. -/
def glue (parts : List (List Char)) : List Char :=
  List.intercalate ['/'] parts

/-- This is the path of the directory that holds a file. -/
def parent (path : String) : String :=
  let above := dropVoidEnd (dropVoidEnd (parts path.toList)).dropLast
  if above.isEmpty && isAbsolute path then "/" else String.ofList (glue above)

/-- This is a path as seen from a directory. -/
def join (directory path : String) : String :=
  if isAbsolute path || directory.isEmpty then path
  else if directory.toList.getLast? = some '/' then directory ++ path
  else directory ++ "/" ++ path

/-- These are the steps from directory to directory that lead to a file. A path that ends with a void
part names no file. -/
def steps? (path : String) : Option (List (List Char)) :=
  let all := parts path.toList
  if all.getLast?.all isVoid then none else some (all.filter fun part => !isVoid part)

/-- This walks from a place along steps, each of which must start from a directory. Two dots lead back. -/
def walk? (isDirectory : List (List Char) → Bool) :
    List (List Char) → List (List Char) → Option (List (List Char))
  | place, [] => some place
  | place, step :: rest =>
      if !isDirectory place then none
      else if step = ['.', '.'] then walk? isDirectory place.dropLast rest
      else walk? isDirectory (place ++ [step]) rest

end ContactRules.Path
