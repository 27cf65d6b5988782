import ScriptTree.Command.Run

/-!
# A disk in memory

A volume is a tree of folders and files. Paths are followed part by part: every part but the
last has to lead to a folder. A path that does not start with a slash is followed from the
working folder. Parts and whole paths are bounded in length, counted in bytes.

This belongs to the outer layer of the command: it stands in for the file system, so that a run can
be followed as a value. No conversion knows of it, and what is proved of runs holds for every
`ScriptTree.Disk`.
-/

namespace ScriptTree

/-- What a path may lead to. -/
inductive VolumeEntry
  | folder
  | file (content : Text)
  deriving DecidableEq, Repr

/-- Folders and files by their place: the names on the way down from the root. -/
structure Volume where
  /-- The working folder. -/
  home : List Text := []
  entries : List (List Text × VolumeEntry) := []
  deriving DecidableEq, Repr

namespace Volume

/-- What is in a place. The root is always a folder. -/
def at? (v : Volume) (place : List Text) : Option VolumeEntry :=
  if place.isEmpty then some .folder else v.entries.lookup place

/-- Puts an entry in a place. -/
def put (v : Volume) (place : List Text) (e : VolumeEntry) : Volume :=
  { v with entries := (place, e) :: v.entries.filter (·.1 ≠ place) }

/-- The place next to a place that one part of a path leads to. -/
def next (place : List Text) (part : Text) : List Text :=
  if part = [] ∨ part = ['.'] then place
  else if part = ['.', '.'] then place.dropLast
  else place ++ [part]

/-- The most bytes that a part of a path may have. -/
def partLimit : Nat := 255

/-- The most bytes that a path may have. -/
def pathLimit : Nat := 4095

/-- Follows the parts of a path. There may be nothing in the place at the end. -/
def follow (v : Volume) : (place : List Text) → List Text → Except FileError (List Text)
  | place, [] => .ok place
  | place, part :: parts => match v.at? place with
    | none => .error .notFound
    | some (.file _) => .error .notADirectory
    | some .folder =>
      if partLimit < Text.byteLength part then .error .invalidFilename
      else follow v (next place part) parts

/-- The place that parts of a path lead to from where the path starts. The empty path leads
nowhere. -/
def place (v : Volume) (path : Text) (parts : List Text) : Except FileError (List Text) :=
  if path.contains '\x00' then .error .invalidInput
  else if pathLimit < Text.byteLength path then .error .invalidFilename
  else match path.head? with
    | none => .error .notFound
    | some '/' => v.follow [] parts
    | some _ => v.follow v.home parts

/-- The content of a file. -/
def read (v : Volume) (path : String) : Except FileError Text := do
  match v.at? (← v.place path.toList (Path.parts path.toList)) with
  | none => .error .notFound
  | some .folder => .error .isADirectory
  | some (.file content) => .ok content

/-- A path leads to a folder. -/
def isFolder (v : Volume) (path : String) : Bool :=
  match v.place path.toList (Path.parts path.toList) with
  | .ok place => v.at? place = some .folder
  | .error _ => false

/-- Makes a folder. Slashes may follow its name. -/
def makeFolder (v : Volume) (path : String) : Except FileError Volume := do
  let place ← v.place path.toList ((Path.parts path.toList).filter (!·.isEmpty))
  match v.at? place with
  | some _ => .error .alreadyExists
  | none => .ok (v.put place .folder)

/-- Writes a file. -/
def write (v : Volume) (path : String) (content : Text) : Except FileError Volume := do
  let place ← v.place path.toList (Path.parts path.toList)
  match v.at? place with
  | some .folder => .error .isADirectory
  | _ => .ok (v.put place (.file content))

/-- Puts folders on the way down to a place and into the place itself. -/
def putFolders (v : Volume) (place : List Text) : Volume :=
  (List.range place.length).foldl (fun v n => v.put (place.take (n + 1)) .folder) v

/-- The volume of some files below its working folder. -/
def ofFiles (home : List Text) (files : List (String × Text)) : Volume :=
  files.foldl (fun v f =>
    let place := home ++ Path.steps f.1.toList
    (v.putFolders place.dropLast).put place (.file f.2)) (putFolders { home := home } home)

/-! ### The volume as a disk -/

/-- A volume and what was printed. -/
structure Session where
  volume : Volume
  printed : Text := []

/-- An access that changes the volume if it succeeds. -/
def change (f : Volume → Except FileError Volume) : StateM Session (Except FileError Unit) :=
  modifyGet fun s => match f s.volume with
    | .error e => (.error e, s)
    | .ok v => (.ok (), { s with volume := v })

/-- The volume as a disk. -/
def disk : Disk (StateM Session) where
  read path := do pure ((← get).volume.read path)
  isFolder path := do pure ((← get).volume.isFolder path)
  makeFolder path := change (·.makeFolder path)
  write path content := change (·.write path content)
  print text := modify fun s => { s with printed := s.printed ++ text }

end Volume

end ScriptTree
