import ScriptTree.Text.Utf8

/-!
# Paths

The results of a run are named after the documents: the name of a document without what stands
behind its last point, and an ending of its own.
-/

namespace ScriptTree

namespace Path

/-- The parts of a path between the slashes. -/
def parts : Text → List Text
  | [] => [[]]
  | c :: cs =>
    if c = '/' then [] :: parts cs
    else match parts cs with
      | [] => [[c]]
      | p :: ps => (c :: p) :: ps

/-- The parts of a path that lead to another place. Empty parts and parts that stay where they are
do not count. -/
def steps (path : Text) : List Text :=
  (parts path).filter fun p => !p.isEmpty && p != ['.']

/-- The name at the end of a path. A path that ends with a step upwards has no name. -/
def name? (path : Text) : Option Text :=
  match (steps path).getLast? with
  | some ['.', '.'] => none
  | name => name

/-- The paths of the folders around that of a path, from the inside to the outside. The place where
a path starts is not among them. -/
def around (path : Text) : List Text :=
  let root := path.takeWhile (· = '/')
  (List.range ((steps path).length - 1)).reverse.map fun n =>
    root.take 1 ++ ['/'].intercalate ((steps path).take (n + 1))

/-- A name without what stands behind its last point. A point at the beginning does not count. -/
def stem (name : Text) : Text :=
  let ending := name.reverse.takeWhile (· ≠ '.')
  let kept := name.length - (ending.length + 1)
  if kept = 0 then name else name.take kept

/-- The name of the result for a document. -/
def outputName (path : Text) : Text :=
  ((name? path).map stem).getD "output".toList ++ ".estree.json".toList

/-- The path of a name in a folder. -/
def join (folder name : Text) : Text :=
  if folder.isEmpty ∨ folder.getLast? = some '/' then folder ++ name
  else folder ++ '/' :: name

end Path

end ScriptTree
