-- SUMMARY: Failures to read or write JSON, with the place in the text where one is known.

import Appliance.Json.Numeral

namespace Appliance

/-! ## Failures

A failure is told as its reason, followed by its place if that is known:
`expected value at line 1 column 7`. Lines count from one, so that line zero
stands for no place at all. -/

/-- What is wrong, and where. -/
structure Json.Failure where
  reason : String
  line : Nat
  column : Nat
deriving DecidableEq, Repr, Inhabited

namespace Json.Failure

def lineMark : String := " at line "

def columnMark : String := " column "

/-- The text of a failure. -/
def message (f : Failure) : String :=
  if f.line = 0 then f.reason
  else f.reason ++ lineMark ++ toString f.line ++ columnMark ++ toString f.column

/-! ### Places in texts -/

/-- What follows a mark at the start of a text. -/
def after? (mark : List Char) (cs : List Char) : Option (List Char) :=
  if mark.isPrefixOf cs then some (cs.drop mark.length) else none

/-- What stands before and after the last occurrence of a mark. -/
def splitLast? (mark : List Char) : List Char → Option (List Char × List Char)
  | [] => none
  | c :: cs =>
    match splitLast? mark cs with
    | some (before, rest) => some (c :: before, rest)
    | none => (after? mark (c :: cs)).map ([], ·)

/-- A number that is written in digits and fits a word of 64 bits. -/
def number? (ds : List Char) : Option Nat :=
  if ds ≠ [] && ds.all Char.isDigit && Numeral.natOfDigits ds < Json.boundUInt64 then
    some (Numeral.natOfDigits ds)
  else none

/-- The line and the column that a text tells after the mark of the line. -/
def place? (cs : List Char) : Option (Nat × Nat) := do
  let line ← number? (cs.takeWhile Char.isDigit)
  let rest ← after? columnMark.toList (cs.dropWhile Char.isDigit)
  let column ← number? rest
  return (line, column)

/-- The failure with a text. A place at its end is taken out of the reason. -/
def ofText (text : String) : Failure :=
  match splitLast? lineMark.toList text.toList with
  | none => ⟨text, 0, 0⟩
  | some (before, rest) =>
    match place? rest with
    | none => ⟨text, 0, 0⟩
    | some (line, column) => ⟨String.ofList before, line, column⟩

end Json.Failure

end Appliance
