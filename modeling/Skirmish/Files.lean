/-!
# Files

A tree of text files. Paths go from directory to directory; `.` stays, `..` goes up, and every
directory on the way must be there. Nothing is outside the tree.
-/

namespace Skirmish

/-- Text files by the names that lead to them. -/
structure FileTree where
  files : List (List String × String)

namespace FileTree

def parts (path : String) : List String := path.splitToList (· = '/')

def ofList (files : List (String × String)) : FileTree :=
  ⟨files.map fun f => (parts f.1, f.2)⟩

/-- Whether a place in the tree is a directory. -/
def isDirectory (t : FileTree) (place : List String) : Bool :=
  place.isEmpty || t.files.any fun f => place.isPrefixOf f.1 && place.length < f.1.length

/-- Whether a part of a path leads nowhere else. -/
def stays (part : String) : Bool := part = "" || part = "."

/-- Where parts of a path lead. -/
def walk (t : FileTree) : List String → List String → Option (List String)
  | place, [] => some place
  | place, part :: rest =>
    if !t.isDirectory place then none
    else if stays part then t.walk place rest
    else if part = ".." then if place.isEmpty then none else t.walk place.dropLast rest
    else t.walk (place ++ [part]) rest

def read? (t : FileTree) (path : String) : Option String :=
  if path.startsWith "/" then none
  else (t.walk [] (parts path)).bind fun place => t.files.lookup place

def parent (path : String) : String :=
  match (parts path).reverse.dropWhile stays with
  | [] => ""
  | _ :: above => String.intercalate "/" (above.dropWhile stays).reverse

/-- A path as seen from a directory. -/
def join (directory path : String) : String :=
  if directory = "" ∨ path.startsWith "/" then path else directory ++ "/" ++ path

end FileTree

end Skirmish
