import EventNet.Ron.Token

/-!
# Extensions of the RON notation

A text may start with attributes such as `#![enable(implicit_some)]`. Each names one or
more extensions, which change how the rest is read: values that are wrapped in
parentheses for their type's sake may have to be bare, `Some` may do without parentheses
or take several values into them, and records may have to bear their names.
-/

set_option autoImplicit false

namespace EventNet.Ron

/-- A change of the notation. -/
inductive Extension where
  /-- Wrapped values, such as identifiers, are written without their parentheses. -/
  | unwrapNewtypes
  /-- A value that may be missing is written without `Some` and parentheses around it. -/
  | implicitSome
  /-- The parentheses of `Some` hold what those of the value inside would hold. -/
  | unwrapVariantNewtypes
  /-- Records and wrapped values have their names in front. -/
  | explicitStructNames
  deriving DecidableEq

/-- The extension with a name. -/
def Extension.ofName? : String → Option Extension
  | "unwrap_newtypes" => some unwrapNewtypes
  | "implicit_some" => some implicitSome
  | "unwrap_variant_newtypes" => some unwrapVariantNewtypes
  | "explicit_struct_names" => some explicitStructNames
  | _ => none

mutual

/-- Takes the attributes off the start of a text: the extensions that they name, with those
named before, and the words that follow. There is nothing if an attribute is malformed. -/
def attributes? (before : List Extension) : List Token → Option (List Extension × List Token)
  | .hash :: .bang :: .openSquare :: .word "enable" false :: .openRound :: .word name _ :: rest =>
    match Extension.ofName? name with
    | some extension => attributeEnd? (extension :: before) rest
    | none => none
  | .hash :: _ => none
  | words => some (before, words)

/-- Goes on behind the name of an extension. A comma may stand behind the last one. -/
def attributeEnd? (before : List Extension) : List Token → Option (List Extension × List Token)
  | .comma :: .word name _ :: rest =>
    match Extension.ofName? name with
    | some extension => attributeEnd? (extension :: before) rest
    | none => none
  | .comma :: .closeRound :: .closeSquare :: rest => attributes? before rest
  | .closeRound :: .closeSquare :: rest => attributes? before rest
  | _ => none

end

end EventNet.Ron
