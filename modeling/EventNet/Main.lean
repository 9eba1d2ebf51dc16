import EventNet.Program.Command

/-!
# The command in the system

The surroundings of the command are the files, the standard streams and the environment
of the system.
-/

set_option autoImplicit false

namespace EventNet

/-- Runs of the command in the system, with the threshold for its records. -/
abbrev SystemRun := ReaderT Threshold IO

namespace SystemRun

/-- The file error that an error of the system stands for. -/
def fileError : IO.Error → FileError
  | .noFileOrDirectory .. => .notFound
  | .alreadyExists .. => .alreadyExists
  | .inappropriateType _ code details =>
    if code == 20 then .notADirectory
    else if code == 21 then .isADirectory
    else .other details
  | error => .other error.toString

/-- The outcome of an operation on files. -/
def attempt {α : Type} (operation : IO α) : SystemRun (Except FileError α) := do
  match ← operation.toBaseIO with
  | .ok value => return .ok value
  | .error error => return .error (fileError error)

/-- The path of the directory that holds the file at a path, if it is not the current one. -/
def parentPath? (path : String) : Option String :=
  match parentNames path with
  | [] => none
  | names => some ((if path.startsWith "/" then "/" else "") ++ "/".intercalate names)

instance : Host SystemRun where
  isPresent path := do
    let outcome ← attempt (IO.FS.realPath path)
    return outcome.toBool
  read path := attempt (IO.FS.readFile path)
  write path text := attempt do
    if let some parent := parentPath? path then IO.FS.createDirAll parent
    IO.FS.writeFile path text
  print text := IO.print text
  complain text := IO.eprintln text
  record record := do
    for line in (← read).lines [record] do
      IO.eprintln line
  drawSeed := do
    let bytes ← IO.getRandomBytes 8
    return bytes.toList.foldl (fun seed byte => seed * 256 + byte.toUInt64) 0

end SystemRun

end EventNet

open EventNet in
/-- Runs the command with the words and the environment that the system gives it. -/
def main (arguments : List String) : IO UInt32 := do
  let flags := (← IO.getEnv "PNEU_FLAGS").getD ""
  let start : Start := { flags, arguments }
  let threshold := Threshold.choose (← IO.getEnv "PNEU_LOG") start.isVerbose
  ReaderT.run (start.run : SystemRun UInt32) threshold
