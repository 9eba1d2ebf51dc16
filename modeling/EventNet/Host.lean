import EventNet.Files.Tree
import EventNet.Log

/-!
# What a program asks of its surroundings

A program reads and writes files, prints, makes records, and needs seeds that nobody
has chosen. It is written against this interface, and so it can run in simulated
surroundings, which are a value like any other.
-/

set_option autoImplicit false

namespace EventNet

/-- The surroundings of a program. -/
class Host (m : Type → Type) where
  /-- There is a file or directory at a path. -/
  isPresent : String → m Bool
  /-- The text of the file at a path. -/
  read : String → m (Except FileError String)
  /-- Writes a text to the file at a path, and makes the directories above it. -/
  write : String → String → m (Except FileError Unit)
  /-- Prints a text. -/
  print : String → m Unit
  /-- Tells the user why nothing is done. -/
  complain : String → m Unit
  /-- Makes a record. -/
  record : LogRecord → m Unit
  /-- A seed that nobody has chosen. -/
  drawSeed : m UInt64

namespace Host

variable {m : Type → Type} [Monad m] [Host m]

/-- A computation that may fail has the surroundings of one that may not. -/
instance {ε : Type} : Host (ExceptT ε m) where
  isPresent path := ExceptT.lift (Host.isPresent path)
  read path := ExceptT.lift (Host.read path)
  write path text := ExceptT.lift (Host.write path text)
  print text := ExceptT.lift (Host.print text)
  complain text := ExceptT.lift (Host.complain text)
  record record := ExceptT.lift (Host.record record)
  drawSeed := ExceptT.lift Host.drawSeed

/-- Makes records, in order. -/
def recordAll (log : Log) : m Unit := log.forM record

end Host

/-- Simulated surroundings. -/
structure Surroundings where
  files : FileTree := FileTree.empty
  /-- What has been printed. -/
  printed : String := ""
  /-- What the user has been told. -/
  complaints : List String := []
  /-- The records that have been made. -/
  log : Log := []
  /-- The seeds to be drawn. -/
  seeds : List UInt64 := []

namespace Surroundings

instance : Host (StateM Surroundings) where
  isPresent path := do return (← get).files.isPresent path
  read path := do return (← get).files.read path
  write path text := do
    let here ← get
    let (result, files) := (FileAction.write path text).run.run here.files
    set { here with files }
    return result
  print text := modify fun here => { here with printed := here.printed ++ text }
  complain text := modify fun here => { here with complaints := here.complaints ++ [text] }
  record record := modify fun here => { here with log := here.log ++ [record] }
  drawSeed := do
    let here ← get
    set { here with seeds := here.seeds.tail }
    return here.seeds.headD 0

end Surroundings

end EventNet
