import StyleGuide.CommandLine.Run

/-!
# The program

Runs a command line on the real disk. What the command line can look at is copied into a disk, the
command line is run on that, and what has changed is written back. The copy holds the files that
are named and, for a directory that is searched, everything below it.
-/

open StyleGuide

namespace StyleGuide.Program

/-- A place as a path for the system. -/
def pathOf (location : Disk.Location) : String :=
  String.ofList ('/' :: Text.joinWith "/" location)

/-- The content of a real file. -/
def readContent (path : String) : IO Disk.Content := do
  let bytes ← IO.FS.readBinFile path
  match String.fromUTF8? bytes with
  | some text => return .text text.toList
  | none => return .bytes bytes.toList

/-- What kind of thing stands at a real place, if there is one. -/
def kindAt? (location : Disk.Location) : IO (Option IO.FS.FileType) := do
  try
    return some (← ((← IO.currentDir) / pathOf location).symlinkMetadata).type
  catch _ => return none

/-- The place that a real link leads to, if it leads anywhere. -/
def targetOf? (location : Disk.Location) : IO (Option Path) := do
  try
    return some (← IO.FS.realPath (pathOf location)).toString.toList
  catch _ => return none

/-- A tree with what stands on the way to a real place copied into it, and where the way ends. -/
partial def copyWay (tree : Disk.Node) (here : Disk.Location) :
    List Text → IO (Disk.Node × Disk.Location)
  | [] => return (tree, here)
  | name :: names => do
    if name == Path.above then copyWay tree here.dropLast names
    else
      let location := here ++ [name]
      match ← kindAt? location with
      | some .dir =>
        let tree := if (tree.at? location).isSome then tree else tree.putAt location .empty
        copyWay tree location names
      | some .file =>
        return (tree.putAt location (.file (← readContent (pathOf location))), location)
      | some .symlink =>
        match ← targetOf? location with
        | none => return (tree.putAt location (.link []), location)
        | some target => copyWay (tree.putAt location (.link target)) [] (Path.names target ++ names)
      | _ => return (tree, location)

/-- A tree with everything below a real directory copied into it. -/
partial def copyBelow (tree : Disk.Node) (location : Disk.Location) : IO Disk.Node := do
  let mut tree := tree
  for entry in ← ((← IO.currentDir) / pathOf location).readDir do
    let name := entry.fileName.toList
    tree := (← copyWay tree location [name]).1
    if let some .dir ← kindAt? (location ++ [name]) then
      tree ← copyBelow tree (location ++ [name])
  return tree

/-- The files and directories that arguments name. -/
def named (arguments : CommandLine.Arguments) : List Path :=
  let config := arguments.config.getD Config.localFile
  [config, config ++ Config.fileSuffix] ++ arguments.input.toList ++ arguments.output.toList ++
    arguments.outDir.toList

/-- A copy of what words can make the program look at. -/
def copyDisk (words : List Text) : IO Disk := do
  let cwd := Path.names (← IO.currentDir).toString.toList
  let start (path : Path) : List Text :=
    if Path.isAbsolute path then Path.names path else cwd ++ Path.names path
  let mut tree := (← copyWay .empty [] cwd).1
  if let some (.run arguments) := CommandLine.Request.ofWords? words then
    for path in named arguments do
      tree := (← copyWay tree [] (start path)).1
    if let some dir := arguments.dir then
      let (copy, location) ← copyWay tree [] (start dir)
      tree := copy
      if let some .dir ← kindAt? location then
        tree ← copyBelow tree location
  return ⟨tree, cwd⟩

/-- Make a real change of what is new in a tree. -/
def writeBack (old new : Disk.Node) : IO Unit := do
  for (location, node) in new.nodes [] do
    match node, old.at? location with
    | .directory _, none => IO.FS.createDirAll (pathOf location)
    | .file (.text text), before =>
      if (before.bind Disk.Node.content?) != some (.text text) then
        IO.FS.writeFile (pathOf location) (String.ofList text)
    | _, _ => pure ()

/-- A variable of the environment and its value, as one text. -/
def readVariable? (text : Text) : Option (Text × Text) := Text.splitFirst? '=' text

/-- The environment of the program. -/
def readEnvironment : IO Config.Environment := do
  try
    let content ← readContent "/proc/self/environ"
    match content with
    | .text text => return (Text.splitAll (Char.ofNat 0) text).filterMap readVariable?
    | .bytes _ => return []
  catch _ => return []

end StyleGuide.Program

/-- Run the command line that the program was started with. -/
def main (args : List String) : IO UInt32 := do
  let words := args.map String.toList
  let environment ← Program.readEnvironment
  try
    let disk ← Program.copyDisk words
    let outcome := CommandLine.run environment words disk
    for line in outcome.log do IO.eprintln (String.ofList line)
    Program.writeBack disk.root outcome.disk.root
    IO.print (String.ofList outcome.output)
    IO.eprint (String.ofList outcome.complaint)
    return outcome.status.toUInt32
  catch fault =>
    IO.eprintln ("Error: " ++ toString fault)
    return 1
