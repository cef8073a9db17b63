import StyleGuide.Disk.Fault
import StyleGuide.Disk.Node

/-!
# Disks

A disk is a tree of files and the place in it where relative paths start. Following a path takes
one segment after the other. A name is followed through a symbolic link, and what a link in the
last place stands for is up to the operation. A path goes through forty links at most, which also
ends every cycle.

## Main definitions

* `Disk`: A tree of files with a working directory.
* `Disk.Target`, `Disk.Ending`, `Disk.walk`: Where a list of segments leads.
* `Disk.readText`, `Disk.writeText`: Reading and writing a file.
* `Disk.readDirectory`: The entries of a directory.
* `Disk.makeDirectory`, `Disk.makeDirectories`: Making a directory, with those above it.
-/

namespace StyleGuide

/-- A tree of files and the place where relative paths start. -/
structure Disk where
  root : Disk.Node
  cwd : Disk.Location

namespace Disk

/-- Where a path leads: to a place that is there, or to a name that is missing in a directory. -/
inductive Target where
  | present (location : Location)
  | absent (parent : Location) (name : Text)
  deriving DecidableEq, Repr

/-- How many links a path goes through at most. -/
def linkLimit : Nat := 40

/-- How many bytes a name has at most. -/
def nameLimit : Nat := 255

/-- How many bytes a path has at most. -/
def pathLimit : Nat := 4095

/-- The place where a path starts. -/
def startOf (path : Path) (here : Location) : Location :=
  if Path.isAbsolute path then [] else here

/-- The segments of a path. A slash at its end asks for a directory, as a dot does. -/
def segmentsOf (path : Path) : List Text :=
  Path.segments path ++ if Path.wantsDirectory path then [Path.here] else []

/-- What a link in the last place of a path stands for. -/
inductive Ending where
  /-- The link itself. -/
  | link
  /-- What it leads to. -/
  | target
  /-- A file that is about to be written, which a path that ends in a slash never names. -/
  | file
  deriving DecidableEq, Repr

/-- The segments that lead to the directory around the last segment. -/
def segmentsAround (path : Path) : List Text :=
  (Path.segments path).dropLast ++ [Path.here]

/-- Where segments lead from a place. `expand` says where to go on behind a link; an empty link
    leads nowhere. -/
def walkBy (expand : Location → List Text → Except Fault Target) (root : Node) (ending : Ending) :
    Location → List Text → Except Fault Target
  | here, [] => .ok (.present here)
  | here, segment :: rest =>
    match root.at? here with
    | some (.directory entries) =>
      if segment = Path.here then walkBy expand root ending here rest
      else if segment = Path.above then walkBy expand root ending here.dropLast rest
      else if nameLimit < segment.utf8Size then .error .nameTooLong
      else match Keyed.get? entries segment with
        | none => if rest.isEmpty then .ok (.absent here segment) else .error .notFound
        | some (.link target) =>
          if rest.isEmpty && ending = .link then .ok (.present (here ++ [segment]))
          else if target.isEmpty then .error .notFound
          else if rest.isEmpty && ending = .file && Path.wantsDirectory target then do
            let _ ← expand (startOf target here) (segmentsAround target)
            .error .isADirectory
          else expand (startOf target here) (segmentsOf target ++ rest)
        | some _ => walkBy expand root ending (here ++ [segment]) rest
    | _ => .error .notADirectory

/-- Where segments lead from a place, through `links` more links at most. -/
def walk (root : Node) (ending : Ending) : (links : Nat) → Location → List Text →
    Except Fault Target
  | 0 => walkBy (fun _ _ => .error .tooManyLinks) root ending
  | links + 1 => walkBy (walk root ending links) root ending

/-- A path that the system accepts. -/
def checkPath (path : Path) : Except Fault Unit :=
  if path.contains (Char.ofNat 0) then .error .zeroInName
  else if path.isEmpty then .error .notFound
  else if pathLimit < path.utf8Size then .error .nameTooLong
  else .ok ()

/-- Where a path leads. -/
def resolve (disk : Disk) (ending : Ending) (path : Path) : Except Fault Target := do
  checkPath path
  walk disk.root ending linkLimit (startOf path disk.cwd) (segmentsOf path)

/-- The node that a path leads to, through all links. -/
def lookup (disk : Disk) (path : Path) : Except Fault Node := do
  match ← disk.resolve .target path with
  | .absent _ _ => .error .notFound
  | .present location =>
    match disk.root.at? location with
    | some node => .ok node
    | none => .error .notFound

/-- Whether a path leads to a file. -/
def isFile (disk : Disk) (path : Path) : Bool :=
  match disk.lookup path with
  | .ok (.file _) => true
  | _ => false

/-- The text of a file. -/
def readText (disk : Disk) (path : Path) : Except Fault Text := do
  match ← disk.lookup path with
  | .file (.text text) => .ok text
  | .file (.bytes _) => .error .notText
  | .directory _ => .error .isADirectory
  | .link _ => .error .notFound

/-- The disk with a node at a place. -/
def putAt (disk : Disk) (location : Location) (node : Node) : Disk :=
  { disk with root := disk.root.putAt location node }

/-- Write a text into a file, which is made if it is not there. A path that ends in a slash never
    names a file. -/
def writeText (disk : Disk) (path : Path) (text : Text) : Except Fault Disk := do
  checkPath path
  if Path.wantsDirectory path then
    let _ ← walk disk.root .file linkLimit (startOf path disk.cwd) (segmentsAround path)
    .error .isADirectory
  else
    match ← disk.resolve .file path with
    | .absent parent name => .ok (disk.putAt (parent ++ [name]) (.file (.text text)))
    | .present location =>
      match disk.root.at? location with
      | some (.directory _) => .error .isADirectory
      | _ => .ok (disk.putAt location (.file (.text text)))

/-- The entries of a directory. -/
def readDirectory (disk : Disk) (path : Path) : Except Fault (List (Text × Node)) := do
  match ← disk.lookup path with
  | .directory entries => .ok entries
  | _ => .error .notADirectory

/-- Make the directory that segments lead to. Whatever is there already, even a link that leads
    nowhere, is in the way. -/
def makeDirectory (disk : Disk) (start : Location) (segments : List Text) : Except Fault Disk :=
  match segments.getLast? with
  | none => .error .alreadyExists
  | some last => do
    if last = Path.here ∨ last = Path.above then
      match ← walk disk.root .target linkLimit start (segments.dropLast ++ [Path.here]) with
      | .present _ => .error .alreadyExists
      | .absent _ _ => .error .notFound
    else
      match ← walk disk.root .link linkLimit start segments with
      | .present _ => .error .alreadyExists
      | .absent parent name => .ok (disk.putAt (parent ++ [name]) Node.empty)

/-- Whether segments lead to a directory. -/
def leadsToDirectory (disk : Disk) (start : Location) (segments : List Text) : Bool :=
  match walk disk.root .target linkLimit start segments with
  | .ok (.present location) => (disk.root.at? location).any Node.isDirectory
  | _ => false

/-- Make a directory, or accept the one that is there. -/
def ensureDirectory (disk : Disk) (start : Location) (segments : List Text) :
    Disk × Except Fault Unit :=
  match disk.makeDirectory start segments with
  | .ok disk => (disk, .ok ())
  | .error fault =>
    (disk, if disk.leadsToDirectory start segments then .ok () else .error fault)

/-- Make the directory that segments lead to. Where something above it is missing, the directory
    above is made first; `above` holds the names that lead to that one, the last first.
    Directories that have been made stay, also when a later one cannot be made. -/
def makeWithParents (disk : Disk) (start : Location) (segments above : List Text) :
    Disk × Except Fault Unit :=
  match above with
  | [] => disk.ensureDirectory start segments
  | name :: rest =>
    match disk.makeDirectory start segments with
    | .error .notFound =>
      match makeWithParents disk start (name :: rest).reverse rest with
      | (disk, .ok ()) => disk.ensureDirectory start segments
      | failed => failed
    | _ => disk.ensureDirectory start segments

/-- Make a directory and those above it, as far as they are missing. -/
def makeDirectories (disk : Disk) (path : Path) : Disk × Except Fault Unit :=
  match (Path.names path).reverse with
  | [] => (disk, .ok ())
  | _ :: above =>
    match checkPath path with
    | .error fault => (disk, .error fault)
    | .ok () => disk.makeWithParents (startOf path disk.cwd) (Path.segments path) above

end Disk

end StyleGuide
