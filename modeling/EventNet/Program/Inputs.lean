import EventNet.Host
import EventNet.Notation.Source
import EventNet.Program.Failure
import EventNet.Settings
import EventNet.Text.Quoted

/-!
# Inputs of the program

The settings and the source text of a net come from files. Settings that are not there
are the standard ones; a source text must be there.
-/

set_option autoImplicit false

namespace EventNet

variable {m : Type → Type} [Monad m] [Host m]

/-- The settings in the file at a path. -/
def Settings.load (path : String) : ExceptT Failure m Settings := do
  if !(← Host.isPresent path) then
    Host.record (.debug ("config file " ++ Text.quoted path ++ " not found, using defaults"))
    return {}
  match ← Host.read path with
  | .error error =>
    throw ((Failure.ofFile error).within ("Failed to read config file: " ++ Text.quoted path))
  | .ok text =>
    match Settings.ofText? text with
    | some settings => return settings
    | none => throw { matter := "Failed to parse config file: " ++ Text.quoted path,
                      causes := ["TOML parse error"] }

/-- The net in the file at a path, and all that is wrong with the file. -/
def compileFile (path : String) : ExceptT Failure m Notation.Compilation := do
  match ← Host.read path with
  | .error error =>
    throw ((Failure.ofFile error).within ("failed to read net source " ++ path))
  | .ok source =>
    let compilation := Notation.compile source
    let start := "compiling " ++ path ++ " (" ++ toString source.utf8ByteSize ++ " bytes)"
    Host.recordAll (.debug start :: compilation.log)
    return compilation

end EventNet
