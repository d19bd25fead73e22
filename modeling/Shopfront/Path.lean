/-! Paths from a start directory, as texts with slashes between their parts. A place is the list of
names that lead to it; above the start, it is told by the number of steps up. -/

namespace Shopfront.Path

def parts (path : String) : List String := path.splitOn "/"

/-- The place that a part leads to from another one. -/
def follow (place : List String) (part : String) : List String :=
  if part = "" ∨ part = "." then place
  else if part = ".." ∧ place.getLast?.any (· ≠ "..") then place.dropLast
  else place ++ [part]

/-- Every place on the way along the parts, the start included. -/
def places : List String → List String → List (List String)
  | place, [] => [place]
  | place, part :: rest => place :: places (follow place part) rest

/-- The place that a path leads to. -/
def resolve (path : String) : List String := (parts path).foldl follow []

/-- The place that a path leads to, if every place on the way is a folder. -/
def reach? (isFolder : List String → Bool) (path : String) : Option (List String) :=
  if (places [] (parts path)).dropLast.all isFolder then some (resolve path) else none

/-- The parts in front of the last one; slashes at their end do not count. -/
def folder (path : String) : List String :=
  ((parts path).dropLast.reverse.dropWhile (· = "")).reverse

def joined (ps : List String) : String := "/".intercalate ps

/-- The path without detours. -/
def normalized (path : String) : String := joined (resolve path)

end Shopfront.Path
