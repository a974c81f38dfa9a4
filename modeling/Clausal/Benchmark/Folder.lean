/-!
# Folders of instances

Where instances lie and what their folder says about them. A place is a list of names below a root, or
below the working directory; empty names and those that stand for the same directory are left out.
Places are ordered by their names, not as texts, so that everything in a folder stands together.

The name of a folder may tell the verdict of its instances: its words are told apart by hyphens,
underscores, full stops and blanks. A word that starts with `uuf` or a last word `unsat` says that the
instances have no model, otherwise a word that starts with `uf` or a last word `sat` says that they have
one.
-/

namespace Clausal.Benchmark

/-- A place in a file tree. -/
structure Place where
  /-- The root that the names are below; empty for the working directory. -/
  root : String
  /-- The names from the root down. -/
  names : List String
deriving DecidableEq

namespace Place

/-- The place that a path leads to. Exactly two slashes in front are a root of their own. -/
def ofPath (path : String) : Place :=
  let slashes := (path.toList.takeWhile (· = '/')).length
  { root := if slashes = 0 then "" else if slashes = 2 then "//" else "/"
    names := (path.splitOn "/").filter fun name => name ≠ "" ∧ name ≠ "." }

/-- The path of a place. -/
def path (place : Place) : String :=
  if place.root = "" ∧ place.names = [] then "."
  else place.root ++ "/".intercalate place.names

/-- The root, if there is one, and the names. -/
def parts (place : Place) : List String :=
  if place.root = "" then place.names else place.root :: place.names

/-- The last name; empty if there is none. -/
def name (place : Place) : String :=
  place.names.getLastD ""

/-- The name of the directory that holds the place; empty if it has none. -/
def folder (place : Place) : String :=
  place.names.dropLast.getLastD ""

/-- The first place comes before the second one or is the same. -/
def notAfter (left right : Place) : Bool :=
  !(right.parts < left.parts)

end Place

/-- Instances by the folders they lie in. -/
abbrev Groups := List (String × List Place)

/-- Adds a place to the group of its folder; a new folder goes to the end. -/
def addToGroup (groups : Groups) (place : Place) : Groups :=
  if groups.any (·.1 == place.folder) then
    groups.map fun group =>
      if group.1 == place.folder then (group.1, group.2 ++ [place]) else group
  else groups ++ [(place.folder, [place])]

/-- Places in order, put together by folders. Folders come in the order of their first places. -/
def groupByFolder (places : List Place) : Groups :=
  (places.mergeSort Place.notAfter).foldl addToGroup []

/-- The character stands between words of a folder's name. -/
def isDivider (character : Char) : Bool :=
  character = '-' || character = '_' || character = '.' || character = ' '

/-- The words of a folder's name, in small letters. -/
def folderWords (folder : String) : List String :=
  ((folder.toLower.toList.splitOnP isDivider).filter (!·.isEmpty)).map String.ofList

/-- The verdict that the name of a folder tells, if it tells one. -/
def expectedVerdict (folder : String) : Option Bool :=
  let words := folderWords folder
  if words.any (·.startsWith "uuf") || words.getLast? = some "unsat" then some false
  else if words.any (·.startsWith "uf") || words.getLast? = some "sat" then some true
  else none

end Clausal.Benchmark
