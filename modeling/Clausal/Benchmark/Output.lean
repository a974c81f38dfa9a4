import Clausal.Files
import Clausal.Total

/-!
# Fresh names for output

A table of results never replaces an older one: if its path is taken, a number in parentheses is put in
front of the ending, and the first number whose path is free is used.
-/

namespace Clausal.Benchmark

/-- Characters with a mark put in front of every ending `.csv`. -/
def markEndings (mark : List Char) : List Char → List Char
  | '.' :: 'c' :: 's' :: 'v' :: rest => mark ++ ['.', 'c', 's', 'v'] ++ markEndings mark rest
  | character :: rest => character :: markEndings mark rest
  | [] => []

/-- A path with a number in parentheses in front of every ending. -/
def numbered (base : String) (index : Nat) : String :=
  String.ofList (markEndings s!" ({index})".toList base.toList)

/-- The path itself if it is free, else the first numbered one that is, out of at most so many. -/
def freePath (taken : String → Bool) (limit : Nat) (base : String) : String :=
  if !taken base then base
  else match (List.range limit).find? fun index => !taken (numbered base (index + 1)) with
    | some index => numbered base (index + 1)
    | none => base

/-- The number of paths that a file tree can lead to, directories included. -/
def pathCount (files : Files) : Nat :=
  total (files.entries.map fun entry => entry.1.length) + 1

/-- The free path for a table of results. -/
def freePathIn (files : Files) (base : String) : String :=
  freePath files.has (pathCount files) base

end Clausal.Benchmark
