-- SUMMARY: JSON text as a tree of tokens: read by the grammar alone, before values are asked for.

import Appliance.Json.Token

namespace Appliance

/-! ## Trees

A tree is a JSON text that obeys the grammar. Its numerals need not have
values, its quoted texts need not be strings, its objects may name a field
twice, and it may be of any depth. A reader that skips a field asks no more
of it than that. -/

/-- A JSON text that obeys the grammar. -/
inductive Tree where
  | word (w : Word)
  | numeral (n : Numeral)
  | text (t : List Piece)
  | arr (items : List Tree)
  | obj (fields : List (List Piece × Tree))
deriving Inhabited

namespace Tree

/-! ## Building a tree

The open arrays and objects stand on a stack, innermost first, each with what
it holds so far, last first. -/

/-- An open array, or an open object at the value of a field. -/
inductive Frame where
  | items (done : List Tree)
  | field (done : List (List Piece × Tree)) (name : List Piece)

/-- What has been read, and so what may come next. -/
inductive Builder where
  /-- A value must come. -/
  | value (frames : List Frame)
  /-- A value or the end of an empty array. -/
  | firstItem (frames : List Frame)
  /-- A name or the end of an empty object. -/
  | firstName (frames : List Frame)
  /-- A name must come. -/
  | nextName (done : List (List Piece × Tree)) (frames : List Frame)
  /-- A colon must come. -/
  | afterName (done : List (List Piece × Tree)) (name : List Piece) (frames : List Frame)
  /-- A comma or the end of the array. -/
  | afterItem (done : List Tree) (frames : List Frame)
  /-- A comma or the end of the object. -/
  | afterField (done : List (List Piece × Tree)) (frames : List Frame)
  /-- Nothing may come. -/
  | complete (t : Tree)

namespace Builder

/-- Puts a finished value where one was awaited. -/
def put (t : Tree) : List Frame → Builder
  | [] => .complete t
  | .items done :: rest => .afterItem (t :: done) rest
  | .field done name :: rest => .afterField ((name, t) :: done) rest

/-- A token where a value must come. -/
def stepValue (frames : List Frame) : Token → Option Builder
  | .openObject => some (.firstName frames)
  | .openArray => some (.firstItem frames)
  | .word w => some (put (.word w) frames)
  | .numeral n => some (put (.numeral n) frames)
  | .text t => some (put (.text t) frames)
  | .closeObject | .closeArray | .colon | .comma => none

/-- Takes one token. -/
def step : Builder → Token → Option Builder
  | .value frames, t => stepValue frames t
  | .firstItem frames, .closeArray => some (put (.arr []) frames)
  | .firstItem frames, t => stepValue (.items [] :: frames) t
  | .firstName frames, .closeObject => some (put (.obj []) frames)
  | .firstName frames, .text name => some (.afterName [] name frames)
  | .nextName done frames, .text name => some (.afterName done name frames)
  | .afterName done name frames, .colon => some (.value (.field done name :: frames))
  | .afterItem done frames, .comma => some (.value (.items done :: frames))
  | .afterItem done frames, .closeArray => some (put (.arr done.reverse) frames)
  | .afterField done frames, .comma => some (.nextName done frames)
  | .afterField done frames, .closeObject => some (put (.obj done.reverse) frames)
  | _, _ => none

end Builder

/-- The tree that a list of tokens spells. -/
def ofTokens? (ts : List Token) : Option Tree :=
  match ts.foldlM Builder.step (.value []) with
  | some (.complete t) => some t
  | _ => none

/-- Reads a text. -/
def parse? (text : String) : Option Tree := do
  ofTokens? (← Token.ofChars? text.toList)

/-! ## Values

A value must have its numerals in range, its texts must be strings, and its
arrays and objects may not nest more than a given number of levels. -/

mutual

/-- The value of a tree that may open `room` levels. -/
def toJson? : Nat → Tree → Option Json
  | _, .word .null => some .null
  | _, .word .true => some (.bool true)
  | _, .word .false => some (.bool false)
  | _, .numeral n => n.toJson?
  | _, .text t => (Piece.string? t).map .str
  | 0, .arr _ | 0, .obj _ => none
  | room + 1, .arr items => (itemsToJson? room items).map .arr
  | room + 1, .obj fields => (fieldsToJson? room fields).map Json.ofFields

/-- The values of a list of trees. -/
def itemsToJson? : Nat → List Tree → Option (List Json)
  | _, [] => some []
  | room, t :: ts => do
    let j ← toJson? room t
    return j :: (← itemsToJson? room ts)

/-- The fields of an object, in the order of the text. -/
def fieldsToJson? : Nat → List (List Piece × Tree) → Option (List (String × Json))
  | _, [] => some []
  | room, (name, t) :: fields => do
    let name ← Piece.string? name
    let j ← toJson? room t
    return (name, j) :: (← fieldsToJson? room fields)

end

/-- The value of a tree, where an object has its fields as they are listed: a
    name that the text repeats is repeated. -/
def listed? (t : Tree) (room : Nat) : Option Json :=
  match t, room with
  | .obj fields, room + 1 => (fieldsToJson? room fields).map .obj
  | t, room => t.toJson? room

/-- The named parts of an object, in the order of the text. The names must be
    strings; of the parts no more is asked. -/
def parts? : Tree → Option (List (String × Tree))
  | .obj fields => fields.mapM fun (name, t) => (Piece.string? name).map (·, t)
  | _ => none

end Tree

/-- The deepest nesting of a value that the reader accepts. -/
def Json.maxDepth : Nat := 127

/-- Reads the text of a value. -/
def Json.parse? (text : String) : Option Json := do
  (← Tree.parse? text).toJson? maxDepth

end Appliance
