import EventNet.Text.Blank

/-!
# Lines of words

A line is split into words as a shell splits it. Words are separated by blank
characters. Between apostrophes every character stands for itself, between quotation
marks a backslash takes the meaning from some characters, and elsewhere a backslash
takes it from any character. Pieces that touch are one word.
-/

set_option autoImplicit false

namespace EventNet.CommandLine

/-- A character that stands for itself outside quotes. -/
def isPlain (c : Char) : Bool := !Text.isBlank c && c != '\\' && c != '\'' && c != '"'

/-- A character that a backslash deprives of its meaning between quotation marks. -/
def isSpecial (c : Char) : Bool :=
  c == '$' || c == '\x60' || c == '"' || c == '\\' || c == '\n'

/-- What stands before an apostrophe, and what follows it. -/
def untilApostrophe? : List Char → Option (List Char × List Char)
  | [] => none
  | c :: rest =>
    if c = '\'' then some ([], rest)
    else (untilApostrophe? rest).map fun (body, rest) => (c :: body, rest)

/-- What stands before a quotation mark, without the backslashes that have served their
purpose, and what follows the mark. A backslash must not stand at the end of a line. -/
def untilQuotationMark? : List Char → Option (List Char × List Char)
  | [] => none
  | ['\\'] => none
  | '\\' :: c :: rest =>
    if c = '\n' then none
    else
      (untilQuotationMark? rest).map fun (body, rest) =>
        (if isSpecial c then (c :: body, rest) else ('\\' :: c :: body, rest))
  | c :: rest =>
    if c = '"' then some ([], rest)
    else (untilQuotationMark? rest).map fun (body, rest) => (c :: body, rest)

/-- The piece of a word at the start of a text, and what follows it. There is none if a
quote is not closed. -/
def piece? : List Char → Option (List Char × List Char)
  | '\'' :: rest => untilApostrophe? rest
  | '"' :: rest => untilQuotationMark? rest
  | '\\' :: c :: rest => if c = '\n' then some (['\\'], c :: rest) else some ([c], rest)
  | ['\\'] => some (['\\'], [])
  | text => some (text.takeWhile isPlain, text.dropWhile isPlain)

/-- The words of a text whose first word has begun with some characters. -/
def wordsFrom? (begun : List Char) (text : List Char) : Option (List String) :=
  match text with
  | [] => some [String.ofList begun]
  | c :: rest =>
    if Text.isBlank c then
      let remaining := rest.dropWhile Text.isBlank
      if remaining.isEmpty then some [String.ofList begun]
      else (wordsFrom? [] remaining).map (String.ofList begun :: ·)
    else
      match piece? (c :: rest) with
      | none => none
      | some (piece, after) =>
        if after.length ≤ rest.length then wordsFrom? (begun ++ piece) after else none
  termination_by text.length
  decreasing_by
    · exact Nat.lt_succ_of_le (List.dropWhile_sublist _).length_le
    · simp_all only [List.length_cons]
      omega

/-- The words of a line, or nothing if a quote is not closed. -/
def words? (line : String) : Option (List String) :=
  let text := line.toList.dropWhile Text.isBlank
  if text.isEmpty then some [] else wordsFrom? [] text

end EventNet.CommandLine
