import TaskGraph.Text.Lines
set_option autoImplicit false

/-! Paths of files. Slashes that repeat and components that stay in
place do not count; a step to the parent is kept. -/

namespace TaskGraph

/-- A path: the slashes it begins with, none, one or two, and its components. -/
structure Path where
  root : String
  parts : List String
deriving DecidableEq

namespace Path

/-- The slashes that a path begins with: exactly two are kept, any other number counts as one. -/
def rootOf (text : List Char) : String :=
  match (text.takeWhile (· = '/')).length with
  | 0 => ""
  | 2 => "//"
  | _ => "/"

def ofString (text : String) : Path :=
  let pieces := (Text.splitAt '/' text.toList).map String.ofList
  ⟨rootOf text.toList, pieces.filter fun piece => piece ≠ "" && piece ≠ "."⟩

def text (path : Path) : String :=
  if path.root.isEmpty && path.parts.isEmpty then "."
  else path.root ++ String.intercalate "/" path.parts

def name (path : Path) : String := (path.parts.getLast?).getD ""

def parent (path : Path) : Path := { path with parts := path.parts.dropLast }

def stemOf (name : List Char) : List Char :=
  let extension := (name.reverse.takeWhile (· ≠ '.')).length
  let before := name.length - (extension + 1)
  if name.contains '.' && 0 < extension && 0 < before then name.take before else name

def stem (path : Path) : String := String.ofList (stemOf path.name.toList)

end Path
end TaskGraph
