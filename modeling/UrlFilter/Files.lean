import UrlFilter.Files.Path

/-!
# Files

The files that lists are read from and kept in form a tree.  Each *location*, the list of names from
the root down, holds a folder, a file or nothing.  A file has bytes and the time of its last change.
Times are counted in ticks of a clock.

A path is followed part by part.  Every part but the last must lead to a folder.  Paths that do not
start at the root start at the folder `home`.

An operation that fails names the cause.

The tree is simpler than those of real systems, and what is said of loads is said of such trees.
Every folder and file may be read and written by whoever likes to.  There is always room for more
bytes.  A location is reached by its own names only, so there are no links, neither to the same file
nor to another path.  Between two operations of one load nobody else changes anything.
-/

namespace UrlFilter

/-- Why an operation on files or on a connection fails. -/
inductive IoFault where
  /-- There is nothing at the path. -/
  | notFound
  /-- There is something at the path already. -/
  | alreadyExists
  /-- The path leads through a file. -/
  | notFolder
  /-- There is a folder where a file is needed. -/
  | isFolder
  /-- A name or the whole path is too long. -/
  | nameTooLong
  /-- The path holds a character with the number zero. -/
  | zeroInPath
  /-- The connection was closed before all bytes had come. -/
  | disconnected
  /-- The bytes that were read are no text. -/
  | notText
  deriving DecidableEq, Repr

/-- The words for a fault. -/
def IoFault.message : IoFault → String
  | notFound => "No such file or directory (os error 2)"
  | alreadyExists => "File exists (os error 17)"
  | notFolder => "Not a directory (os error 20)"
  | isFolder => "Is a directory (os error 21)"
  | nameTooLong => "File name too long (os error 36)"
  | zeroInPath => "file name contained an unexpected NUL byte"
  | disconnected => "Peer disconnected"
  | notText => "stream did not contain valid UTF-8"

/-- A point in time, in ticks. -/
abbrev Time := Int

/-- What a location holds. -/
inductive Node where
  /-- A folder, with the time of its making. -/
  | folder (modified : Time)
  /-- A file, with the time of its last change. -/
  | file (bytes : Bytes) (modified : Time)
  deriving DecidableEq, Repr

namespace Node

/-- Whether there are no bytes; a folder is never empty. -/
def isEmpty : Node → Bool
  | folder _ => false
  | file bytes _ => bytes.isEmpty

/-- The time of the last change. -/
def modified : Node → Time
  | folder modified => modified
  | file _ modified => modified

/-- Whether there is a folder. -/
def isFolder : Node → Bool
  | folder _ => true
  | file _ _ => false

end Node

/-- The names from the root down. -/
abbrev Location := List Text

/-- A tree of files. -/
structure Files where
  /-- Where paths start that do not start at the root. -/
  home : Location
  /-- What the locations hold. -/
  nodes : List (Location × Node)
  deriving Repr

namespace Files

/-! ## Locations -/

/-- The tree in which there is nothing in the home folder. -/
def empty (home : Location) : Files := ⟨home, []⟩

/-- What a location holds. -/
def get? (fs : Files) (place : Location) : Option Node := fs.nodes.lookup place

/-- Whether there is a folder at a location; the home folder and those above it are always there. -/
def isFolderAt (fs : Files) (place : Location) : Bool :=
  place.isPrefixOf fs.home || (fs.get? place).any Node.isFolder

/-- Whether there is anything at a location. -/
def hasAt (fs : Files) (place : Location) : Bool :=
  place.isPrefixOf fs.home || (fs.get? place).isSome

/-- The tree after something was put at a location. -/
def put (fs : Files) (place : Location) (node : Node) : Files :=
  ⟨fs.home, (place, node) :: fs.nodes.filter fun e => e.1 ≠ place⟩

/-- The tree after what is at a location was taken away. -/
def erase (fs : Files) (place : Location) : Files := ⟨fs.home, fs.nodes.filter fun e => e.1 ≠ place⟩

/-! ## Paths -/

/-- Where a path starts. -/
def start (fs : Files) (p : Path) : Location := if p.isAbsolute then [] else fs.home

/-- Where the parts of a path lead. -/
def walk (fs : Files) (here : Location) : List Text → Except IoFault Location
  | [] => .ok here
  | part :: rest =>
    if !fs.isFolderAt here then .error .notFolder
    else if Path.isStay part then fs.walk here rest
    else if Path.isUp part then fs.walk here.dropLast rest
    else if Path.isLongPart part then .error .nameTooLong
    else if fs.hasAt (here ++ [part]) then fs.walk (here ++ [part]) rest
    else .error .notFound

/-- What is wrong with a path before it is followed. -/
def pathFault? (p : Path) : Option IoFault :=
  if p.holdsZero then some .zeroInPath
  else if p.isBlank then some .notFound
  else if p.isLong then some .nameTooLong
  else none

/-- The location that a path leads to; there must be something. -/
def resolve (fs : Files) (p : Path) : Except IoFault Location :=
  match pathFault? p with
  | some fault => .error fault
  | none => fs.walk (fs.start p) p

/-- Whether there is anything at a path. -/
def has (fs : Files) (p : Path) : Bool := (fs.resolve p).isOk

/-- Whether there is a folder at a path. -/
def isFolder (fs : Files) (p : Path) : Bool :=
  match fs.resolve p with
  | .ok place => fs.isFolderAt place
  | .error _ => false

/-! ## Reading -/

/-- What is at a path. -/
def stat (fs : Files) (p : Path) : Except IoFault Node :=
  match fs.resolve p with
  | .error fault => .error fault
  | .ok place => .ok ((fs.get? place).getD (.folder 0))

/-- The bytes of the file at a path. -/
def read (fs : Files) (p : Path) : Except IoFault Bytes :=
  match fs.stat p with
  | .error fault => .error fault
  | .ok (.folder _) => .error .isFolder
  | .ok (.file bytes _) => .ok bytes

/-! ## Changing -/

/-- The location of a name inside the folder of a path, where something may be put. -/
def locateChild (fs : Files) (folder : Path) (name : Text) : Except IoFault Location :=
  match pathFault? (folder.child name) with
  | some fault => .error fault
  | none =>
    match fs.walk (fs.start folder) folder with
    | .error fault => .error fault
    | .ok place =>
      if !fs.isFolderAt place then .error .notFolder
      else if Path.isLongPart name then .error .nameTooLong
      else .ok (place ++ [name])

/-- Makes a folder with a name inside another one. -/
def makeFolderIn (fs : Files) (now : Time) (start : Location) (above : List Text) (name : Text) :
    Except IoFault Files :=
  match fs.walk start above with
  | .error fault => .error fault
  | .ok place =>
    if !fs.isFolderAt place then .error .notFolder
    else if Path.isUp name then .error .alreadyExists
    else if Path.isLongPart name then .error .nameTooLong
    else if fs.hasAt (place ++ [name]) then .error .alreadyExists
    else .ok (fs.put (place ++ [name]) (.folder now))

/-- Whether parts lead to a folder. -/
def leadToFolder (fs : Files) (start : Location) (parts : List Text) : Bool :=
  match fs.walk start parts with
  | .ok place => fs.isFolderAt place
  | .error _ => false

/-- Makes a folder, where it may be there already. -/
def ensureFolder (fs : Files) (now : Time) (start : Location) (above : List Text) (name : Text) :
    Except IoFault Files :=
  match fs.makeFolderIn now start above name with
  | .ok fs => .ok fs
  | .error fault => if fs.leadToFolder start (above ++ [name]) then .ok fs else .error fault

/-- Makes the folder of parts, the last of them first, and the folders above it that are missing.
What was made before a failure stays. -/
def makeFoldersFrom (fs : Files) (now : Time) (start : Location) :
    List Text → Except IoFault Unit × Files
  | [] => (.ok (), fs)
  | name :: above =>
    match fs.ensureFolder now start above.reverse name with
    | .ok fs => (.ok (), fs)
    | .error .notFound =>
      match fs.makeFoldersFrom now start above with
      | (.error fault, fs) => (.error fault, fs)
      | (.ok (), fs) =>
        match fs.ensureFolder now start above.reverse name with
        | .ok fs => (.ok (), fs)
        | .error fault => (.error fault, fs)
    | .error fault => (.error fault, fs)

/-- Makes the folder at a path and the folders above it that are missing. -/
def makeFolders (fs : Files) (now : Time) (p : Path) : Except IoFault Unit × Files :=
  if p.moves.isEmpty then (.ok (), fs)
  else if p.holdsZero then (.error .zeroInPath, fs)
  else if p.isLong then (.error .nameTooLong, fs)
  else fs.makeFoldersFrom now (fs.start p) p.moves.reverse

/-- Writes a file with a name inside the folder of a path, over the one that is there. -/
def write (fs : Files) (now : Time) (folder : Path) (name : Text) (bytes : Bytes) :
    Except IoFault Files :=
  match fs.locateChild folder name with
  | .error fault => .error fault
  | .ok place =>
    if fs.isFolderAt place then .error .isFolder else .ok (fs.put place (.file bytes now))

/-- Takes the file with a name inside the folder of a path away, if it is there. -/
def remove (fs : Files) (folder : Path) (name : Text) : Files :=
  match fs.locateChild folder name with
  | .error _ => fs
  | .ok place => if fs.isFolderAt place then fs else fs.erase place

/-- Gives a file inside the folder of a path another name, over the file that has it. -/
def rename (fs : Files) (folder : Path) (source target : Text) : Except IoFault Files :=
  match fs.locateChild folder source with
  | .error fault => .error fault
  | .ok old =>
    match fs.locateChild folder target with
    | .error fault => .error fault
    | .ok new =>
      match fs.get? old with
      | none => .error .notFound
      | some node =>
        if fs.isFolderAt new then .error .isFolder else .ok ((fs.erase old).put new node)

/-! ## Whole trees -/

/-- The tree after something was put at a path, below folders that are made where they are
missing. -/
def plant (fs : Files) (now : Time) (p : Path) (node : Node) : Files :=
  let parts := p.moves
  let (_, fs) := fs.makeFoldersFrom now (fs.start p) (parts.dropLast.reverse)
  match fs.walk (fs.start p) parts.dropLast, parts.getLast? with
  | .ok place, some name =>
    if fs.isFolderAt (place ++ [name]) then fs else fs.put (place ++ [name]) node
  | _, _ => fs

/-- What is in the home folder, by the path from there. -/
def listing (fs : Files) : List (Path × Node) :=
  fs.nodes.filterMap fun e => (fs.home.isPrefixOf? e.1).map fun p => (p, e.2)

end Files

end UrlFilter
