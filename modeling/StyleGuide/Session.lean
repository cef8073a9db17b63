import StyleGuide.Disk.Basic
import StyleGuide.Error
import StyleGuide.Log.Entry

/-!
# Sessions

Work on rulesets changes two things: the disk and the log. It starts from a session, the state of
both, and ends in another one with a result or an error. What was done before an error stays done.

Nothing but the operations here touches the disk, so what work can change is read off the
operations it is made of.

## Main definitions

* `Session`: A disk and a log.
* `Work`: Work in a session.
* `Work.readText`, `Work.writeText`, `Work.makeDirectories`: Work on the disk.
* `Work.tell`: Writing to the log.
-/

namespace StyleGuide

/-- A disk and a log. -/
structure Session where
  disk : Disk
  /-- All entries so far, the first one first. -/
  log : List Log.Entry

/-- Work in a session. -/
abbrev Work (α : Type) := ExceptT Error (StateM Session) α

namespace Work

/-- The disk as it is now. -/
def disk : Work Disk := do
  return (← get).disk

/-- Append entries to the log. -/
def tell (entries : List Log.Entry) : Work Unit :=
  modify fun session => { session with log := session.log ++ entries }

/-- Something that may go wrong with the file or directory under a path. -/
def onDisk {α : Type} (path : Path) : Except Disk.Fault α → Work α
  | .ok value => return value
  | .error fault => throw (.disk path fault)

/-- The text of a file. -/
def readText (path : Path) : Work Text := do
  onDisk path ((← disk).readText path)

/-- Write a text into a file. -/
def writeText (path : Path) (text : Text) : Work Unit := do
  let disk ← onDisk path ((← disk).writeText path text)
  modify fun session => { session with disk := disk }

/-- Make a directory and those above it, as far as they are missing. -/
def makeDirectories (path : Path) : Work Unit := do
  let (disk, result) := (← disk).makeDirectories path
  modify fun session => { session with disk := disk }
  onDisk path result

end Work

end StyleGuide
