import Shortlist.Files.Path
import Shortlist.Text.Quoted
import Shortlist.Text.Utf8

/-!
# File trees

A `Tree` holds files and directories and knows the current directory.  A path is followed name by
name: a point stays, two points go to the directory above, and every name but the last has to lead
to a directory.  No name may hold a null character or be longer than `nameLimit`.  Directories are
made as far as they are missing; files are written as a whole or at their end.
-/

namespace Shortlist

/-- The names that lead from the root to a place. -/
abbrev Place := List String

/-- What is at a place. -/
inductive Item where
  | file (content : Text.Bytes)
  | directory
deriving DecidableEq

/-- The content of a file. -/
def Item.content? : Item → Option Text.Bytes
  | .file content => some content
  | .directory => none

/-- Files and directories, and the current directory. -/
structure Tree where
  here : Place
  items : List (Place × Item)

/-- Why something cannot be done at the end of a path: nothing is there, a file is in the way, a
file or a directory is there, or no such name can be. -/
inductive Obstacle where
  | missing
  | throughFile
  | file
  | directory
  | nameTooLong
  | nullCharacter
deriving DecidableEq

/-- An obstacle and the path at which it was met. -/
structure Obstructed where
  obstacle : Obstacle
  path : Path
deriving DecidableEq

/-- The number and the words for an obstacle. -/
def Obstacle.text : Obstacle → String
  | .missing => "[Errno 2] No such file or directory"
  | .throughFile => "[Errno 20] Not a directory"
  | .file => "[Errno 17] File exists"
  | .directory => "[Errno 21] Is a directory"
  | .nameTooLong => "[Errno 36] File name too long"
  | .nullCharacter => "embedded null byte"

/-- The message about an obstacle. -/
def Obstructed.message (o : Obstructed) : String :=
  match o.obstacle with
  | .nullCharacter => o.obstacle.text
  | obstacle => obstacle.text ++ ": " ++ Text.quoted o.path.toText

namespace Tree

/-! ## Places -/

/-- What is at a place; the root is a directory. -/
def item? (t : Tree) (place : Place) : Option Item :=
  if place = [] then some .directory else (t.items.find? fun i => i.1 = place).map (·.2)

/-- Puts an item at a place. -/
def put (t : Tree) (place : Place) (item : Item) : Tree :=
  { t with items := (place, item) :: t.items.filter fun i => i.1 ≠ place }

/-- What is in a tree and was not in another one, in the order in which it was put there. -/
def changesSince (t earlier : Tree) : List (Place × Item) :=
  t.items.reverse.filter fun i => earlier.item? i.1 ≠ some i.2

/-- The place to which a name leads from another one, whatever is there. -/
def go (place : Place) (name : String) : Place :=
  if name = "" ∨ name = "." then place
  else if name = ".." then place.dropLast
  else place ++ [name]

/-- The greatest number of bytes of a name. -/
def nameLimit : Nat := 255

/-- The greatest number of bytes of a path. -/
def pathLimit : Nat := 4095

/-- The place to which a name leads from a directory. -/
def step (t : Tree) (place : Place) (name : String) : Except Obstacle Place :=
  match t.item? place with
  | some .directory =>
    if name.utf8ByteSize > nameLimit then .error .nameTooLong else .ok (go place name)
  | some (.file _) => .error .throughFile
  | none => .error .missing

/-- The place to which names lead. -/
def follow (t : Tree) (start : Place) (names : List String) : Except Obstacle Place :=
  names.foldlM t.step start

/-- The place from which a path starts. -/
def start (t : Tree) (p : Path) : Place := if p.root = "" then t.here else []

/-- The place that a path means, whatever is there. -/
def resolve (t : Tree) (p : Path) : Place := p.names.foldl go (t.start p)

/-- The path from the root to a place. -/
def absolute (place : Place) : Path := ⟨"/", place⟩

/-! ## Reading and writing -/

/-- The place of a path. -/
def placeOf (t : Tree) (p : Path) : Except Obstructed Place :=
  if p.hasNullCharacter then .error ⟨.nullCharacter, p⟩
  else if p.toText.utf8ByteSize > pathLimit then .error ⟨.nameTooLong, p⟩
  else
    match t.follow (t.start p) p.names with
    | .ok place => .ok place
    | .error obstacle => .error ⟨obstacle, p⟩

/-- What a path leads to, if anything is there. -/
def look? (t : Tree) (p : Path) : Option Item := (t.placeOf p).toOption.bind t.item?

/-- The content of the file at the end of a path. -/
def read (t : Tree) (p : Path) : Except Obstructed Text.Bytes := do
  match t.item? (← t.placeOf p) with
  | some (.file content) => return content
  | some .directory => throw ⟨.directory, p⟩
  | none => throw ⟨.missing, p⟩

/-- The content of the file at the end of a path, or nothing if nothing is there. -/
def readIfThere (t : Tree) (p : Path) : Except Obstructed (Option Text.Bytes) :=
  match t.read p with
  | .ok content => .ok (some content)
  | .error o => if o.obstacle = .missing ∨ o.obstacle = .throughFile then .ok none else .error o

/-- Writes a file at the end of a path; its directory has to be there. -/
def write (t : Tree) (p : Path) (content : Text.Bytes) : Except Obstructed Tree := do
  let place ← t.placeOf p
  match t.item? place.dropLast, t.item? place with
  | _, some .directory => throw ⟨.directory, p⟩
  | some .directory, _ => return t.put place (.file content)
  | some (.file _), _ => throw ⟨.throughFile, p⟩
  | none, _ => throw ⟨.missing, p⟩

/-- Writes at the end of a file, which is made if nothing is there. -/
def append (t : Tree) (p : Path) (content : Text.Bytes) : Except Obstructed Tree :=
  t.write p (((t.look? p).bind Item.content?).getD [] ++ content)

/-! ## Directories -/

/-- Makes a directory in one that is there; one that is there already is left as it is. -/
def makeDirectory (t : Tree) (p : Path) : Except Obstructed Tree := do
  let place ← t.placeOf p
  match t.item? place.dropLast, t.item? place with
  | _, some .directory => return t
  | _, some (.file _) => throw ⟨.file, p⟩
  | some .directory, none => return t.put place .directory
  | some (.file _), none => throw ⟨.throughFile, p⟩
  | none, none => throw ⟨.missing, p⟩

/-- Makes a directory and those above it; the names are given from the last to the first. -/
def makeUpward (t : Tree) (root : String) : List String → Except Obstructed Tree
  | [] => .ok t
  | name :: above =>
    let p : Path := ⟨root, (name :: above).reverse⟩
    match t.makeDirectory p with
    | .ok t => .ok t
    | .error o =>
      if o.obstacle = .missing then do
        let t ← t.makeUpward root above
        t.makeDirectory p
      else .error o

/-- Makes a directory and those above it. -/
def makeDirectories (t : Tree) (p : Path) : Except Obstructed Tree :=
  t.makeUpward p.root p.names.reverse

end Tree

end Shortlist
