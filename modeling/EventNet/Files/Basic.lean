/-!
# Files

A path is a text whose names are separated by slashes. What can be wrong with a path
when a file is read or written is a file error.
-/

set_option autoImplicit false

namespace EventNet

/-- Why a file cannot be read or written. -/
inductive FileError where
  /-- There is nothing at the path. -/
  | notFound
  /-- There is a file where a directory was to be made. -/
  | alreadyExists
  /-- There is a file in the middle of the path. -/
  | notADirectory
  /-- There is a directory at the path. -/
  | isADirectory
  /-- Something else, in the words of the system. -/
  | other (description : String)
  deriving DecidableEq

/-- The wording of a file error. -/
def FileError.message : FileError → String
  | notFound => "No such file or directory (os error 2)"
  | alreadyExists => "File exists (os error 17)"
  | notADirectory => "Not a directory (os error 20)"
  | isADirectory => "Is a directory (os error 21)"
  | other description => description

/-- The names of a path, without those that lead nowhere. -/
def namesOf (path : String) : List String :=
  (path.splitOn "/").filter fun name => name != "" && name != "."

/-- The names of the directory that holds the file at a path. -/
def parentNames (path : String) : List String := (namesOf path).dropLast

end EventNet
