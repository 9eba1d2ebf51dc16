import EventNet.Decimal.Fixed
import EventNet.Statistics

/-!
# The summary of a batch

A text with the statistics of a batch: how many runs became quiescent, a table of the
buses, and the most frequent final markings. Columns are padded with spaces, counting
characters. Means have two decimal places and percentages one.
-/

set_option autoImplicit false

namespace EventNet.Summary

/-- How many final markings a summary shows unless told otherwise. -/
def defaultTop : Nat := 5

/-- The share of a part in hundredths of the whole. -/
def percentOf (part whole : Nat) : Float :=
  if whole = 0 then 0.0 else Float.ofNat part * 100.0 / Float.ofNat whole

/-- A percentage with one decimal place, without its sign. -/
def percent (part whole : Nat) : String := Decimal.fixed 1 (percentOf part whole)

/-- A mean with two decimal places, or a dash if there is none. -/
def meanText : Option Float → String
  | some value => Decimal.fixed 2 value
  | none => "-"

/-- Spaces that fill a text up to a width. -/
def filling (width : Nat) (text : String) : String :=
  String.ofList (List.replicate (width - text.length) ' ')

/-- A text at the left of a column. -/
def left (width : Nat) (text : String) : String := text ++ filling width text

/-- A text at the right of a column. -/
def right (width : Nat) (text : String) : String := filling width text ++ text

/-- The width of the column of labels. -/
def labelWidth (labels : List String) : Nat :=
  ((labels.map String.length).foldl max 0) |> max "label".length

/-- A line of the table of buses. -/
def labelLine (width : Nat) (label trials ratio first firings : String) : String :=
  left width label ++ "  " ++ right 7 trials ++ "  " ++ ratio ++ "  " ++ right 10 first ++
    "  " ++ right 8 firings ++ "\n"

/-- The table of buses. -/
def labelTable (statistics : Statistics) : String :=
  let width := labelWidth statistics.labels.keys
  "\n" ++ labelLine width "label" "trials" (right 7 "ratio") "first step" "firings" ++
    String.join (statistics.labels.entries.map fun (label, entry) =>
      labelLine width label (toString entry.trialsFired)
        (right 6 (percent entry.trialsFired statistics.trials) ++ "%")
        (meanText entry.meanFirstFireStep) (toString entry.totalFirings))

/-- The most frequent final markings. -/
def markingTable (statistics : Statistics) (top : Nat) : String :=
  let count := statistics.finalMarkings.length
  "\nFinal markings (top " ++ toString (min top count) ++ " of " ++ toString count ++ "):\n" ++
    String.join ((statistics.finalMarkings.take top).map fun (marking, trials) =>
      "  " ++ right 5 (toString trials) ++ " (" ++
        right 5 (percent trials statistics.trials) ++ "%)  " ++ marking ++ "\n")

/-- The summary, with so many final markings. -/
def text (statistics : Statistics) (top : Nat) : String :=
  "Batch summary: " ++ toString statistics.trials ++ " trials, at most " ++
    toString statistics.steps ++ " steps each\n" ++
    "Quiescent trials: " ++ toString statistics.quiescentTrials ++ " (" ++
    percent statistics.quiescentTrials statistics.trials ++
    "%), mean steps to quiescence: " ++ meanText statistics.meanStepsToQuiescence ++ "\n" ++
    (if statistics.labels.entries.isEmpty then "" else labelTable statistics) ++
    (if statistics.finalMarkings.isEmpty then "" else markingTable statistics top)

end EventNet.Summary
