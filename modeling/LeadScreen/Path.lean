import LeadScreen.Text.Basic

set_option autoImplicit false

/-!
# Paths

A path is a sequence of parts between slashes. Empty parts and single points say nothing. The last
part is the name; what follows its last point is an ending, unless the point comes first or last.
-/

namespace LeadScreen.Path

def parts (path : Text) : List Text :=
  (Text.splitOn '/' path).filter fun part => !(part.isEmpty || part == ['.'])

/-- What a path that starts at the root starts with: one slash, or two if there are exactly two. -/
def root (path : Text) : Text :=
  match path with
  | '/' :: '/' :: '/' :: _ => ['/']
  | '/' :: '/' :: _ => ['/', '/']
  | '/' :: _ => ['/']
  | _ => []

/-- Parts as a path from a root; a path of nothing is a point. -/
def ofParts (root : Text) (parts : List Text) : Text :=
  let shown := root ++ Text.joinWith ['/'] parts
  if shown.isEmpty then ['.'] else shown

def normal (path : Text) : Text :=
  ofParts (root path) (parts path)

def parent (path : Text) : Text :=
  ofParts (root path) (parts path).dropLast

/-- The name at the end of a path; empty when the path has no parts. -/
def name (path : Text) : Text :=
  (parts path).getLastD []

def withoutEnding (name : Text) : Text :=
  let ending := (name.reverse.takeWhile (· != '.')).length
  if ending = 0 || name.length ≤ ending + 1 then name
  else name.take (name.length - ending - 1)

/-- The name at the end of a path, without its ending. -/
def stem (path : Text) : Text :=
  withoutEnding (name path)

/-- Whether a path leads upwards only, so that it leads to a folder. -/
def isUpward (path : Text) : Bool :=
  (parts path).all (· == ['.', '.'])

example : stem "dir/a.b.csv".toList = "a.b".toList := by decide +kernel

example : stem ".csv".toList = ".csv".toList := by decide +kernel

example : parent "a".toList = ".".toList := by decide +kernel

example : normal "./a//b/".toList = "a/b".toList := by decide +kernel

end LeadScreen.Path
