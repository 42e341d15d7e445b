-- SUMMARY: The differences between two values, where lists of channels are compared channel by channel.

import Appliance.Json.Writer

namespace Appliance

/-! ## Routes

A route leads from a value to a part of it, by the names of fields and, in
lists of channels, by the channel. Its text is made only when it is shown. -/

/-- A step into a value. -/
inductive Step where
  | field (name : String)
  | channel (value : Json)
deriving BEq, Inhabited

namespace Step

def text : Step → String
  | .field name => name
  | .channel value => "[" ++ value.render ++ "]"

/-- A place one step further. Nothing separates the step from an empty place. -/
def join (place : String) (s : Step) : String :=
  if place.isEmpty then s.text else place ++ "." ++ s.text

/-- The place that a route leads to. -/
def path (base : String) (route : List Step) : String := route.foldl join base

end Step

/-! ## Differences -/

/-- A part that differs: where it is, and what the two values hold there. -/
structure Difference where
  route : List Step
  old : Json
  new : Json
deriving Inhabited

namespace Difference

/-- The same difference, seen from one step above. -/
def under (s : Step) (d : Difference) : Difference := { d with route := s :: d.route }

/-- The channel that an item of a list is about. -/
def channelOf (item : Json) : Option Json := item.get? "channel"

/-- The first item about a channel; an empty object where there is none. -/
def counterpart (items : List Json) (channel : Json) : Json :=
  (items.find? fun item =>
    match channelOf item with
    | some c => c == channel
    | none => false).getD (.obj [])

/-- Two values that are compared as a whole. -/
def whole (old new : Json) : List Difference := if old == new then [] else [⟨[], old, new⟩]

mutual

/-- The parts of the new value that differ from the old one. What only the
    old value has is no difference. -/
def between (old : Json) : Json → List Difference
  | .obj fields =>
    match old with
    | .obj olds => betweenFields olds fields
    | old => whole old (.obj fields)
  | .arr items =>
    match old with
    | .arr olds =>
      if items.all fun item => (channelOf item).isSome then betweenItems olds items
      else whole (.arr olds) (.arr items)
    | old => whole old (.arr items)
  | new => whole old new

/-- The differences in the fields of an object. A new object is compared with
    an empty one. -/
def betweenFields (olds : List (String × Json)) : List (String × Json) → List Difference
  | [] => []
  | (name, new) :: fields =>
    (match olds.lookup name with
      | some old => (between old new).map (under (.field name))
      | none =>
        if new.isObject then (between (.obj []) new).map (under (.field name))
        else [⟨[.field name], .null, new⟩]) ++
      betweenFields olds fields

/-- The differences in a list of channels. -/
def betweenItems (olds : List Json) : List Json → List Difference
  | [] => []
  | new :: items =>
    let channel := (channelOf new).getD .null
    (between (counterpart olds channel) new).map (under (.channel channel)) ++
      betweenItems olds items

end

end Difference

end Appliance
