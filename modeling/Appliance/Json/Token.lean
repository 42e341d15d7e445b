-- SUMMARY: The tokens of a JSON text, and the automaton that splits a text into them.

import Appliance.Json.Numeral

namespace Appliance

/-! ## Quoted text

Between quotes stand characters and 16-bit units written as `\u` escapes. A
unit beyond the first surrogate is half a character, so whether a quoted text
names a string is only known from the whole of it. -/

/-- A part of a quoted text. -/
inductive Piece where
  | char (c : Char)
  | unit (u : Nat)
deriving DecidableEq, Repr

namespace Piece

/-- The unit starts a pair. -/
def isLead (u : Nat) : Bool := 0xD800 ≤ u && u < 0xDC00

/-- The unit ends a pair. -/
def isTrail (u : Nat) : Bool := 0xDC00 ≤ u && u < 0xE000

/-- The character that a pair stands for. -/
def ofPair (lead trail : Nat) : Char :=
  Char.ofNat (0x10000 + (lead - 0xD800) * 0x400 + (trail - 0xDC00))

/-- The characters that a quoted text stands for; none if half a pair is alone. -/
def decode? : List Piece → Option (List Char)
  | [] => some []
  | .char c :: r => (decode? r).map (c :: ·)
  | .unit u :: r =>
    if isLead u then
      match r with
      | .unit v :: r => if isTrail v then (decode? r).map (ofPair u v :: ·) else none
      | _ => none
    else if isTrail u then none
    else (decode? r).map (Char.ofNat u :: ·)

/-- The string that a quoted text stands for. -/
def string? (t : List Piece) : Option String := (decode? t).map String.ofList

end Piece

/-! ## Tokens -/

/-- The three values that are written as words. -/
inductive Word where
  | null
  | true
  | false
deriving DecidableEq, Repr

/-- A token of a JSON text. -/
inductive Token where
  | openObject
  | closeObject
  | openArray
  | closeArray
  | colon
  | comma
  | word (w : Word)
  | numeral (n : Numeral)
  | text (t : List Piece)
deriving DecidableEq, Repr

/-- What the automaton is in the middle of; the parts of a token come last first. -/
inductive Token.Mode where
  | between
  | letters (seen : List Char)
  | numeral (seen : List Char)
  | text (seen : List Piece)
  | escape (seen : List Piece)
  | unit (seen : List Piece) (missing : Nat) (value : Nat)
deriving DecidableEq, Repr

/-- The state of the automaton: its mode and the finished tokens, last first. -/
structure Lexer where
  mode : Token.Mode
  tokens : List Token
deriving DecidableEq, Repr

namespace Token

def isBlank (c : Char) : Bool := c = ' ' || c = '\n' || c = '\t' || c = '\r'

def punctuation? : Char → Option Token
  | '{' => some .openObject
  | '}' => some .closeObject
  | '[' => some .openArray
  | ']' => some .closeArray
  | ':' => some .colon
  | ',' => some .comma
  | _ => none

def word? (cs : List Char) : Option Token :=
  if cs = ['n', 'u', 'l', 'l'] then some (.word .null)
  else if cs = ['t', 'r', 'u', 'e'] then some (.word .true)
  else if cs = ['f', 'a', 'l', 's', 'e'] then some (.word .false)
  else none

/-- The character goes on in a numeral once one has begun. -/
def continuesNumeral (c : Char) : Bool :=
  c.isDigit || c = '-' || c = '+' || c = '.' || c = 'e' || c = 'E'

/-- The character that a one-letter escape stands for. -/
def escaped? : Char → Option Char
  | '"' => some '"'
  | '\\' => some '\\'
  | '/' => some '/'
  | 'b' => some '\x08'
  | 'f' => some '\x0c'
  | 'n' => some '\n'
  | 'r' => some '\r'
  | 't' => some '\t'
  | _ => none

/-- The value of a hexadecimal digit of either case. -/
def hexDigit? (c : Char) : Option Nat :=
  if c.isDigit then some (c.toNat - '0'.toNat)
  else if 'a' ≤ c && c ≤ 'f' then some (c.toNat - 'a'.toNat + 10)
  else if 'A' ≤ c && c ≤ 'F' then some (c.toNat - 'A'.toNat + 10)
  else none

end Token

namespace Lexer

def start : Lexer := ⟨.between, []⟩

/-- Ends a word or numeral; nothing else may end without a closing quote. -/
def finish? (l : Lexer) : Option (List Token) :=
  match l.mode with
  | .between => some l.tokens
  | .letters seen => (Token.word? seen.reverse).map (· :: l.tokens)
  | .numeral seen => (Numeral.ofChars? seen.reverse).map fun n => .numeral n :: l.tokens
  | .text _ | .escape _ | .unit .. => none

/-- A character with no token open. -/
def begin? (tokens : List Token) (c : Char) : Option Lexer :=
  if Token.isBlank c then some ⟨.between, tokens⟩
  else if c = '"' then some ⟨.text [], tokens⟩
  else if c.isLower then some ⟨.letters [c], tokens⟩
  else if c.isDigit || c = '-' then some ⟨.numeral [c], tokens⟩
  else (Token.punctuation? c).map fun t => ⟨.between, t :: tokens⟩

/-- A character between quotes. Control characters must be escaped. -/
def insideText? (tokens : List Token) (seen : List Piece) (c : Char) : Option Lexer :=
  if c = '"' then some ⟨.between, .text seen.reverse :: tokens⟩
  else if c = '\\' then some ⟨.escape seen, tokens⟩
  else if c.toNat < 0x20 then none
  else some ⟨.text (.char c :: seen), tokens⟩

/-- A character after a backslash. -/
def insideEscape? (tokens : List Token) (seen : List Piece) (c : Char) : Option Lexer :=
  if c = 'u' then some ⟨.unit seen 4 0, tokens⟩
  else (Token.escaped? c).map fun d => ⟨.text (.char d :: seen), tokens⟩

/-- A character of a unit, of which `missing` more are to come, this one included. -/
def insideUnit? (tokens : List Token) (seen : List Piece) (missing value : Nat) (c : Char) :
    Option Lexer :=
  (Token.hexDigit? c).map fun d =>
    let value := 16 * value + d
    if missing ≤ 1 then ⟨.text (.unit value :: seen), tokens⟩
    else ⟨.unit seen (missing - 1) value, tokens⟩

/-- Takes one character. -/
def step (l : Lexer) (c : Char) : Option Lexer :=
  match l.mode with
  | .between => begin? l.tokens c
  | .letters seen =>
    if c.isLower then some ⟨.letters (c :: seen), l.tokens⟩
    else l.finish?.bind (begin? · c)
  | .numeral seen =>
    if Token.continuesNumeral c then some ⟨.numeral (c :: seen), l.tokens⟩
    else l.finish?.bind (begin? · c)
  | .text seen => insideText? l.tokens seen c
  | .escape seen => insideEscape? l.tokens seen c
  | .unit seen missing value => insideUnit? l.tokens seen missing value c

end Lexer

/-- The tokens of a text. -/
def Token.ofChars? (cs : List Char) : Option (List Token) := do
  let l ← cs.foldlM Lexer.step Lexer.start
  return (← l.finish?).reverse

end Appliance
