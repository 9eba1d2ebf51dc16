import EventNet.CommandLine.Options
import EventNet.CommandLine.Words

/-!
# Reading a command line

Words are taken in from left to right. The value of an option may be attached to it, or
be the next word unless that looks like an option. Such a value is looked at only when
the next thing is taken in that makes sense: so a word that makes no sense is reported
before a bad value in front of it. The words behind a command are taken in before the
file in front of it is looked at.

Behind two dashes no word is an option or a command.
-/

set_option autoImplicit false

namespace EventNet.CommandLine

/-- What has been taken in. -/
structure Progress where
  given : Given := {}
  /-- The latest parameter, not looked at yet, with its value if that has come. -/
  pending : Option (Parameter × Option String) := none
  /-- The file has been named. -/
  fileNamed : Bool := false
  /-- The next word is a value, unless it looks like an option. -/
  awaiting : Bool := false
  /-- Two dashes have been met. -/
  onlyWords : Bool := false

namespace Progress

/-- Looks at the latest parameter. -/
def settle (progress : Progress) : Except UsageError Progress :=
  match progress.pending with
  | none => .ok progress
  | some (_, none) => .error .invalidValue
  | some (parameter, some value) => do
    let given ← progress.given.accept value parameter
    return { progress with given, pending := none }

/-- Takes in a parameter with a value attached to it. -/
def attach (progress : Progress) (parameter : Parameter) (value : String) :
    Except UsageError Progress := do
  let progress ← progress.settle
  let given ← progress.given.accept value parameter
  return { progress with given, awaiting := false }

/-- Takes in a parameter whose value is to come, if it takes one. -/
def mention (progress : Progress) (parameter : Parameter) : Except UsageError Progress := do
  let progress ← progress.settle
  if parameter.takesValue then
    return { progress with pending := some (parameter, none), awaiting := true }
  else
    return { progress with given := ← progress.given.acceptFlag parameter, awaiting := false }

/-- Takes in a word that is no option: the file, if it is still to be named. -/
def word (scope : Scope) (progress : Progress) (word : String) : Except UsageError Progress :=
  if scope.isSome || progress.fileNamed then .error .unknownArgument
  else do
    let progress ← progress.settle
    return { progress with
      pending := some (.file, some word), fileNamed := true, awaiting := false }

/-- Takes in an option by its long name, with a value if one is attached. -/
def long (scope : Scope) (progress : Progress) (name : String) (value : Option String) :
    Except UsageError Progress :=
  match scope.long? name with
  | none => .error .unknownArgument
  | some parameter =>
    match value with
    | none => progress.mention parameter
    | some value =>
      if parameter.takesValue then progress.attach parameter value else .error .surplusValue

/-- Takes in options by their letters. What stands behind one that takes a value is its
value, perhaps behind an equals sign. -/
def letters (scope : Scope) (progress : Progress) : List Char → Except UsageError Progress
  | [] => .ok progress
  | letter :: rest =>
    match scope.short? letter with
    | none => .error .unknownArgument
    | some parameter =>
      if parameter.takesValue then
        match rest with
        | [] => progress.mention parameter
        | '=' :: value => progress.attach parameter (String.ofList value)
        | value => progress.attach parameter (String.ofList value)
      else do letters scope (← progress.mention parameter) rest

end Progress

/-- What a word looks like. -/
inductive Shape where
  /-- Two dashes. -/
  | dashes
  | long (name : String) (value : Option String)
  | short (letters : List Char)
  | plain

/-- The shape of a word. -/
def Shape.ofWord (word : String) : Shape :=
  match word.toList with
  | ['-', '-'] => .dashes
  | '-' :: '-' :: rest =>
    let value := rest.dropWhile (· != '=')
    .long (String.ofList (rest.takeWhile (· != '=')))
      (if value.isEmpty then none else some (String.ofList (value.drop 1)))
  | '-' :: letter :: rest => .short (letter :: rest)
  | _ => .plain

/-- The answer to a request for help about commands. -/
def helpAbout : List String → UsageError
  | [] => .helpWanted
  | [word] =>
    if word = "help" || (Command.ofName? word).isSome then .helpWanted else .unknownArgument
  | _ => .unknownArgument

/-- A command among the words. -/
inductive Calling where
  | command (command : Command)
  | help

/-- What a word calls, where it is not the value of an option. -/
def Calling.ofWord? (scope : Scope) (progress : Progress) (word : String) : Option Calling :=
  if scope.isSome || progress.onlyWords || progress.awaiting then none
  else if word = "help" then some .help
  else (Command.ofName? word).map .command

/-- Takes in a word that calls nothing. -/
def Progress.take (scope : Scope) (progress : Progress) (word : String) :
    Except UsageError Progress :=
  if progress.onlyWords then progress.word scope word
  else
    match Shape.ofWord word with
    | .dashes => .ok { progress with onlyWords := true }
    | .long name value => progress.long scope name value
    | .short letters => progress.letters scope letters
    | .plain =>
      match progress.awaiting, progress.pending with
      | true, some (parameter, none) =>
        .ok { progress with pending := some (parameter, some word), awaiting := false }
      | _, _ => progress.word scope word

/-- Takes in words up to a command, and gives the command with the words behind it. -/
def takeWords (scope : Scope) (progress : Progress) :
    List String → Except UsageError (Progress × Option (Command × List String))
  | [] => .ok (progress, none)
  | word :: words =>
    match Calling.ofWord? scope progress word with
    | some (.command command) => .ok (progress, some (command, words))
    | some .help => .error (helpAbout words)
    | none => do takeWords scope (← progress.take scope word) words

/-- The mode that a command and the words behind it ask for. -/
def readMode (command : Command) (words : List String) : Except UsageError Mode := do
  let (progress, _) ← takeWords (some command) {} words
  let progress ← progress.settle
  progress.given.mode command

end EventNet.CommandLine

namespace EventNet

open CommandLine

/-- What the words of a command line ask for. -/
def Invocation.ofWords (words : List String) : Except UsageError Invocation := do
  let (progress, call) ← takeWords none {} words
  let mode ← call.mapM fun (command, words) => readMode command words
  let progress ← progress.settle
  match mode, progress.given.file with
  | none, _ => throw .missingCommand
  | some _, none => throw .missingArgument
  | some mode, some file =>
    return { file, config := progress.given.config, verbose := progress.given.verbose, mode }

end EventNet
