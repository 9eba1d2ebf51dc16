import EventNet.Files.Basic
import EventNet.Run

/-!
# Failures

Why a program gives up: what it was about, and what was in the way, down to the cause.
-/

set_option autoImplicit false

namespace EventNet

/-- A failure: what the program was about, and the causes behind it. -/
structure Failure where
  matter : String
  causes : List String := []
  deriving DecidableEq

namespace Failure

/-- The failure as one line. -/
def message (failure : Failure) : String := ": ".intercalate (failure.matter :: failure.causes)

/-- The failure with a larger matter in front. -/
def within (failure : Failure) (matter : String) : Failure :=
  { matter, causes := failure.matter :: failure.causes }

/-- A file error. -/
def ofFile (error : FileError) : Failure := { matter := error.message }

/-- A file error while something is saved. -/
def ofSaving (error : FileError) : Failure := (ofFile error).within ("io error: " ++ error.message)

/-- A net that cannot be run as it is asked for. -/
def ofRun (error : RunError) : Failure := { matter := error.message }

end Failure

end EventNet
