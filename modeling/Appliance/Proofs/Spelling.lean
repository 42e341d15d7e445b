-- SUMMARY: The tree that the compact text of a value reads as: tokens of a tree, numerals, quoted texts, the automaton.

import Mathlib
import Appliance.Json.Tree
import Appliance.Json.Writer

namespace Appliance

/-! ## Trees and their tokens

Every tree has one row of tokens, and reading that row gives the tree back. -/

namespace Tree

mutual

/-- The tokens of a tree. -/
def tokens : Tree → List Token
  | .word w => [.word w]
  | .numeral n => [.numeral n]
  | .text t => [.text t]
  | .arr items => .openArray :: (itemTokens items ++ [.closeArray])
  | .obj fields => .openObject :: (fieldTokens fields ++ [.closeObject])

/-- The tokens of the items of an array, with commas between them. -/
def itemTokens : List Tree → List Token
  | [] => []
  | [t] => t.tokens
  | t :: ts => t.tokens ++ .comma :: itemTokens ts

/-- The tokens of the fields of an object, with commas between them. -/
def fieldTokens : List (List Piece × Tree) → List Token
  | [] => []
  | [(name, t)] => .text name :: .colon :: t.tokens
  | (name, t) :: fields => .text name :: .colon :: (t.tokens ++ .comma :: fieldTokens fields)

end

namespace Builder

/-- The first token of a tree does not end the array that it is the first item of. -/
theorem foldlM_firstItem (t : Tree) (rest : List Token) (frames : List Frame) :
    (t.tokens ++ rest).foldlM step (.firstItem frames) =
      (t.tokens ++ rest).foldlM step (.value (.items [] :: frames)) := by
  cases t <;> simp [tokens, step, stepValue]

/-- The first name of an object is read like every other one. -/
theorem foldlM_firstName (name : List Piece) (rest : List Token) (frames : List Frame) :
    (.text name :: rest).foldlM step (.firstName frames) =
      (.text name :: rest).foldlM step (.nextName [] frames) := rfl

/-- A name and its colon. -/
theorem foldlM_name (done : List (List Piece × Tree)) (name : List Piece) (rest : List Token)
    (frames : List Frame) :
    (.text name :: .colon :: rest).foldlM step (.nextName done frames) =
      rest.foldlM step (.value (.field done name :: frames)) := rfl

mutual

theorem foldlM_tokens : ∀ (t : Tree) (frames : List Frame) (rest : List Token),
    (t.tokens ++ rest).foldlM step (.value frames) = rest.foldlM step (put t frames)
  | .word _, _, _ | .numeral _, _, _ | .text _, _, _ => rfl
  | .arr items, frames, rest => by
    have hitems := foldlM_itemTokens items
    rcases items with _ | ⟨t, ts⟩
    · rfl
    · calc ((Tree.arr (t :: ts)).tokens ++ rest).foldlM step (.value frames)
          = (itemTokens (t :: ts) ++ .closeArray :: rest).foldlM step (.firstItem frames) := by
            rw [tokens, List.cons_append, List.append_assoc]
            rfl
        _ = (itemTokens (t :: ts) ++ .closeArray :: rest).foldlM step
              (.value (.items [] :: frames)) := by
            cases ts <;> simp only [itemTokens, List.append_assoc, foldlM_firstItem]
        _ = rest.foldlM step (put (.arr (t :: ts)) frames) := by
            rw [hitems (List.cons_ne_nil t ts)]
            simp [step]
  | .obj fields, frames, rest => by
    have hfields := foldlM_fieldTokens fields
    rcases fields with _ | ⟨⟨name, t⟩, fs⟩
    · rfl
    · calc ((Tree.obj ((name, t) :: fs)).tokens ++ rest).foldlM step (.value frames)
          = (fieldTokens ((name, t) :: fs) ++ .closeObject :: rest).foldlM step
              (.firstName frames) := by
            rw [tokens, List.cons_append, List.append_assoc]
            rfl
        _ = (fieldTokens ((name, t) :: fs) ++ .closeObject :: rest).foldlM step
              (.nextName [] frames) := by
            cases fs <;> simp only [fieldTokens, List.cons_append, foldlM_firstName]
        _ = rest.foldlM step (put (.obj ((name, t) :: fs)) frames) := by
            rw [hfields (List.cons_ne_nil (name, t) fs)]
            simp [step]

theorem foldlM_itemTokens : ∀ (ts : List Tree), ts ≠ [] →
    ∀ (done : List Tree) (frames : List Frame) (rest : List Token),
    (itemTokens ts ++ rest).foldlM step (.value (.items done :: frames)) =
      rest.foldlM step (.afterItem (ts.reverse ++ done) frames)
  | [], h, _, _, _ => absurd rfl h
  | t :: ts, _, done, frames, rest => by
    have hitem := foldlM_tokens t (.items done :: frames)
    have hitems := foldlM_itemTokens ts
    rcases ts with _ | ⟨t', ts⟩
    · exact hitem rest
    · rw [itemTokens, List.append_assoc, hitem, List.cons_append]
      · simpa [put, step] using hitems (List.cons_ne_nil t' ts) (t :: done) frames rest
      · exact List.cons_ne_nil t' ts

theorem foldlM_fieldTokens : ∀ (fs : List (List Piece × Tree)), fs ≠ [] →
    ∀ (done : List (List Piece × Tree)) (frames : List Frame) (rest : List Token),
    (fieldTokens fs ++ rest).foldlM step (.nextName done frames) =
      rest.foldlM step (.afterField (fs.reverse ++ done) frames)
  | [], h, _, _, _ => absurd rfl h
  | (name, t) :: fs, _, done, frames, rest => by
    have hvalue := foldlM_tokens t (.field done name :: frames)
    have hfields := foldlM_fieldTokens fs
    rcases fs with _ | ⟨⟨name', t'⟩, fs⟩
    · exact hvalue rest
    · rw [fieldTokens, List.cons_append, List.cons_append, foldlM_name, List.append_assoc, hvalue,
        List.cons_append]
      · simpa [put, step] using
          hfields (List.cons_ne_nil (name', t') fs) ((name, t) :: done) frames rest
      · exact List.cons_ne_nil (name', t') fs

end

end Builder

/-- The tokens of a tree spell the tree. -/
theorem ofTokens?_tokens (t : Tree) : ofTokens? t.tokens = some t := by
  have h := Builder.foldlM_tokens t [] []
  rw [List.append_nil] at h
  rw [ofTokens?, h]
  rfl

end Tree

/-! ## Numerals

An integer is written without point and exponent, and no zero leads. -/

namespace Numeral

theorem head?_toDigits {n : Nat} (h : 0 < n) : (Nat.toDigits 10 n).head? ≠ some '0' := by
  induction n using Nat.strongRecOn with
  | ind n ih =>
    rcases Nat.lt_or_ge n 10 with hn | hn
    · rw [Nat.toDigits_of_lt_base hn]
      interval_cases n <;> decide
    · have hdiv : 0 < n / 10 := Nat.div_pos hn (by decide)
      rw [Nat.toDigits_of_base_le (by decide) hn,
        List.head?_append_of_ne_nil _ Nat.toDigits_ne_nil]
      exact ih (n / 10) (Nat.div_lt_self h (by decide)) hdiv

theorem isDigit_of_mem_toDigits {n : Nat} {d : Char} (h : d ∈ Nat.toDigits 10 n) :
    d.isDigit = true :=
  Nat.isDigit_of_mem_toDigits (by decide) (by decide) h

theorem natOfDigits_toDigits (n : Nat) : natOfDigits (Nat.toDigits 10 n) = n :=
  Nat.ofDigitChars_ten_toDigits

theorem splitDigits?_toDigits (n : Nat) :
    splitDigits? (Nat.toDigits 10 n) = some (Nat.toDigits 10 n, []) := by
  have hall : ∀ d ∈ Nat.toDigits 10 n, d.isDigit = true := fun d => isDigit_of_mem_toDigits
  have htake := List.takeWhile_eq_self_iff.2 hall
  have hdrop := List.dropWhile_eq_nil_iff.2 hall
  unfold splitDigits?
  rw [htake, hdrop]
  split
  · rename_i hnil
    exact absurd hnil Nat.toDigits_ne_nil
  · rfl

theorem splitWhole?_toDigits (n : Nat) :
    splitWhole? (Nat.toDigits 10 n) = some (Nat.toDigits 10 n, []) := by
  unfold splitWhole?
  rw [splitDigits?_toDigits]
  split
  · rename_i d ds r h
    obtain ⟨hdigits, -⟩ := Prod.mk.inj (Option.some.inj h)
    rcases Nat.eq_zero_or_pos n with rfl | hn
    · cases hdigits
    · exact absurd (by rw [hdigits]; rfl) (head?_toDigits hn)
  · rfl

theorem unsigned?_toDigits (negative : Bool) (n : Nat) :
    unsigned? negative (Nat.toDigits 10 n) = some ⟨negative, Nat.toDigits 10 n, none, none⟩ := by
  rw [unsigned?, splitWhole?_toDigits]
  rfl

end Numeral

namespace Json

/-- The numeral that an integer is written as. -/
def numeral (i : Int) : Numeral where
  negative := i < 0
  whole := Nat.toDigits 10 i.natAbs
  fraction := none
  exponent := none

theorem ofChars?_writeInt (i : Int) : Numeral.ofChars? (writeInt i) = some (numeral i) := by
  unfold writeInt numeral
  split
  · rename_i hi
    rw [Numeral.ofChars?, Numeral.unsigned?_toDigits, decide_eq_true hi]
  · rename_i hi
    rw [decide_eq_false hi, ← Numeral.unsigned?_toDigits]
    unfold Numeral.ofChars?
    split
    · rename_i cs hcs
      have hdigit : ('-').isDigit = true :=
        Numeral.isDigit_of_mem_toDigits (hcs ▸ List.mem_cons_self)
      exact absurd hdigit (by decide)
    · rfl

/-- Integers of 64 bits, signed or not, are read back. -/
theorem toJson?_numeral {i : Int} (hmin : minInt64 ≤ i) (hbound : i < boundUInt64) :
    (numeral i).toJson? = some (.int i) := by
  have hvalue : (Numeral.natOfDigits (numeral i).whole : Int) = i.natAbs := by
    rw [numeral, Numeral.natOfDigits_toDigits]
  unfold Numeral.toJson?
  simp only [hvalue]
  rcases lt_or_ge i 0 with hi | hi
  · have habs : (i.natAbs : Int) = -i := by omega
    simp [numeral, habs, hi, hmin, hi.ne]
  · have habs : (i.natAbs : Int) = i := by omega
    simp [numeral, habs, hbound, Int.not_lt.2 hi]

end Json

/-! ## Quoted text -/

namespace Json

/-- The part of a quoted text that a character is written as: control characters
    without a letter of their own are units. -/
def piece (c : Char) : Piece :=
  if c.toNat < 0x20 ∧ c ∉ ['\x08', '\x0c', '\n', '\r', '\t'] then .unit c.toNat else .char c

def pieces (s : String) : List Piece := s.toList.map piece

theorem decode?_pieces (cs : List Char) : Piece.decode? (cs.map piece) = some cs := by
  induction cs with
  | nil => rfl
  | cons c cs ih =>
    rw [List.map_cons, piece]
    split
    · rename_i hc
      have hlead : Piece.isLead c.toNat = false := by
        simp [Piece.isLead]
        omega
      have htrail : Piece.isTrail c.toNat = false := by
        simp [Piece.isTrail]
        omega
      rw [Piece.decode?.eq_def]
      simp [ih, hlead, htrail]
    · simp [Piece.decode?, ih]

theorem string?_pieces (s : String) : Piece.string? (pieces s) = some s := by
  simp [Piece.string?, pieces, decode?_pieces]

theorem hexDigit?_hexDigit {n : Nat} (h : n < 16) : Token.hexDigit? (hexDigit n) = some n := by
  interval_cases n <;> decide

end Json

namespace Lexer

open Json

/-- An escaped character adds its part to the text that is open. -/
theorem foldlM_escape (c : Char) (seen : List Piece) (tokens : List Token) :
    (escape c).foldlM step ⟨.text seen, tokens⟩ = some ⟨.text (piece c :: seen), tokens⟩ := by
  unfold escape
  split_ifs with h₁ h₂ h₃ h₄ h₅ h₆ h₇ hcontrol
  any_goals
    subst c
    rfl
  · have hpiece : piece c = .unit c.toNat := if_pos ⟨hcontrol, by simp [h₃, h₄, h₅, h₆, h₇]⟩
    have hhigh := hexDigit?_hexDigit (n := c.toNat / 16) (by omega)
    have hlow := hexDigit?_hexDigit (n := c.toNat % 16) (by omega)
    have hvalue : 16 * (c.toNat / 16) + c.toNat % 16 = c.toNat := by omega
    have hzero : Token.hexDigit? '0' = some 0 := by decide
    simp [step, insideText?, insideEscape?, insideUnit?, hhigh, hlow, hvalue, hzero, hpiece]
  · have hpiece : piece c = .char c := if_neg fun h => hcontrol h.1
    simp [step, insideText?, h₁, h₂, hcontrol, hpiece]

theorem foldlM_escapes (cs : List Char) (seen : List Piece) (tokens : List Token) :
    (cs.flatMap escape).foldlM step ⟨.text seen, tokens⟩ =
      some ⟨.text ((cs.map piece).reverse ++ seen), tokens⟩ := by
  induction cs generalizing seen with
  | nil => rfl
  | cons c cs ih =>
    rw [List.flatMap_cons, List.foldlM_append, foldlM_escape]
    simp [ih]

/-! ## Texts between punctuation

A word or a numeral ends only at the character after it. A text yields tokens
when it has spelled them by its end, and any punctuation may follow. -/

/-- The tokens read so far are complete, whichever punctuation follows. -/
def Ends (l : Lexer) (tokens : List Token) : Prop :=
  l.finish? = some tokens ∧
    ∀ c t, Token.punctuation? c = some t → l.step c = some ⟨.between, t :: tokens⟩

/-- The text is split into the tokens, wherever a token may begin. -/
def Yields (cs : List Char) (ts : List Token) : Prop :=
  ∀ seen, ∃ l, cs.foldlM step ⟨.between, seen⟩ = some l ∧ l.Ends (ts.reverse ++ seen)

section Punctuation

variable {c : Char} {t : Token}

theorem begin?_punctuation (h : Token.punctuation? c = some t) (tokens : List Token) :
    begin? tokens c = some ⟨.between, t :: tokens⟩ := by
  unfold Token.punctuation? at h
  split at h <;> cases h <;> rfl

theorem isLower_punctuation (h : Token.punctuation? c = some t) : c.isLower = false := by
  unfold Token.punctuation? at h
  split at h <;> cases h <;> rfl

theorem continuesNumeral_punctuation (h : Token.punctuation? c = some t) :
    Token.continuesNumeral c = false := by
  unfold Token.punctuation? at h
  split at h <;> cases h <;> rfl

theorem ends_between (tokens : List Token) : Ends ⟨.between, tokens⟩ tokens :=
  ⟨rfl, fun _ _ h => begin?_punctuation h tokens⟩

theorem ends_letters {seen : List Char} {tokens : List Token}
    (h : Token.word? seen.reverse = some t) : Ends ⟨.letters seen, tokens⟩ (t :: tokens) := by
  have hfinish : finish? ⟨.letters seen, tokens⟩ = some (t :: tokens) := by
    simp [finish?, h]
  refine ⟨hfinish, fun c u hc => ?_⟩
  simp [step, isLower_punctuation hc, hfinish, begin?_punctuation hc]

theorem ends_numeral {seen : List Char} {tokens : List Token} {n : Numeral}
    (h : Numeral.ofChars? seen.reverse = some n) :
    Ends ⟨.numeral seen, tokens⟩ (.numeral n :: tokens) := by
  have hfinish : finish? ⟨.numeral seen, tokens⟩ = some (.numeral n :: tokens) := by
    simp [finish?, h]
  refine ⟨hfinish, fun c u hc => ?_⟩
  simp [step, continuesNumeral_punctuation hc, hfinish, begin?_punctuation hc]

end Punctuation

namespace Yields

variable {cs cs' : List Char} {ts ts' : List Token} {c : Char} {t : Token}

theorem nil : Yields [] [] := fun seen => ⟨⟨.between, seen⟩, rfl, ends_between seen⟩

/-- Punctuation before a text. -/
theorem cons (hc : Token.punctuation? c = some t) (h : Yields cs ts) :
    Yields (c :: cs) (t :: ts) := by
  intro seen
  obtain ⟨l, hl, hends⟩ := h (t :: seen)
  refine ⟨l, ?_, by simpa using hends⟩
  rw [List.foldlM_cons, show step ⟨.between, seen⟩ c = some ⟨.between, t :: seen⟩ from
    begin?_punctuation hc seen]
  exact hl

/-- Punctuation between two texts. -/
theorem join (h : Yields cs ts) (hc : Token.punctuation? c = some t) (h' : Yields cs' ts') :
    Yields (cs ++ c :: cs') (ts ++ t :: ts') := by
  intro seen
  obtain ⟨l, hl, hends⟩ := h seen
  obtain ⟨l', hl', hends'⟩ := h' (t :: (ts.reverse ++ seen))
  refine ⟨l', ?_, by simpa using hends'⟩
  rw [List.foldlM_append, hl, Option.bind_eq_bind, Option.bind_some, List.foldlM_cons,
    hends.2 c t hc]
  exact hl'

/-- A text that stands alone. -/
theorem ofChars? (h : Yields cs ts) : Token.ofChars? cs = some ts := by
  obtain ⟨l, hl, hends⟩ := h []
  simp [Token.ofChars?, start, hl, hends.1]

end Yields

theorem yields_quote (s : String) : Yields (quote s) [.text (pieces s)] := by
  intro seen
  refine ⟨⟨.between, .text (pieces s) :: seen⟩, ?_, ends_between _⟩
  rw [quote, List.cons_append, List.foldlM_cons, show step ⟨.between, seen⟩ '"' =
    some ⟨.text [], seen⟩ from rfl, Option.bind_eq_bind, Option.bind_some, List.foldlM_append,
    foldlM_escapes]
  simp [step, insideText?, pieces]

theorem yields_word {cs : List Char} {w : Word} (hw : Token.word? cs = some (.word w)) :
    Yields cs [.word w] := by
  intro seen
  refine ⟨⟨.letters cs.reverse, seen⟩, ?_, ends_letters (by rwa [List.reverse_reverse])⟩
  unfold Token.word? at hw
  split_ifs at hw with hnull htrue hfalse
  all_goals
    subst cs
    rfl

/-! ### Integers -/

theorem continuesNumeral_of_isDigit {d : Char} (h : d.isDigit = true) :
    Token.continuesNumeral d = true := by
  simp [Token.continuesNumeral, h]

theorem isLower_of_isDigit {c : Char} (h : c.isDigit = true) : c.isLower = false := by
  simp only [Char.isDigit, Char.isLower] at *
  grind

/-- A digit or a minus begins a numeral. -/
theorem begin?_numeral {c : Char} (h : c.isDigit = true ∨ c = '-') (tokens : List Token) :
    begin? tokens c = some ⟨.numeral [c], tokens⟩ := by
  rcases h with hdigit | rfl
  · have hne : ∀ d : Char, d.isDigit = false → c ≠ d := by
      rintro d hd rfl
      exact absurd (hd.symm.trans hdigit) (by decide)
    have hblank : Token.isBlank c = false := by
      simp [Token.isBlank, hne ' ' rfl, hne '\n' rfl, hne '\t' rfl, hne '\r' rfl]
    simp [begin?, hblank, hne '"' rfl, isLower_of_isDigit hdigit, hdigit]
  · rfl

theorem foldlM_numeral {cs : List Char} (h : ∀ d ∈ cs, Token.continuesNumeral d = true)
    (seen : List Char) (tokens : List Token) :
    cs.foldlM step ⟨.numeral seen, tokens⟩ = some ⟨.numeral (cs.reverse ++ seen), tokens⟩ := by
  induction cs generalizing seen with
  | nil => rfl
  | cons c cs ih =>
    rw [List.foldlM_cons, show step ⟨.numeral seen, tokens⟩ c =
      some ⟨.numeral (c :: seen), tokens⟩ from if_pos (h c List.mem_cons_self),
      Option.bind_eq_bind, Option.bind_some, ih fun d hd => h d (List.mem_cons_of_mem c hd)]
    simp

theorem writeInt_eq_cons (i : Int) :
    ∃ c cs, writeInt i = c :: cs ∧ (c.isDigit = true ∨ c = '-') ∧
      ∀ d ∈ cs, Token.continuesNumeral d = true := by
  have hdigits : ∀ d ∈ Nat.toDigits 10 i.natAbs, d.isDigit = true :=
    fun d => Numeral.isDigit_of_mem_toDigits
  unfold writeInt
  split
  · exact ⟨_, _, rfl, .inr rfl, fun d hd => continuesNumeral_of_isDigit (hdigits d hd)⟩
  · obtain ⟨c, cs, hcs⟩ := List.exists_cons_of_ne_nil
      (Nat.toDigits_ne_nil (n := i.natAbs) (b := 10))
    rw [hcs] at hdigits
    obtain ⟨hc, hrest⟩ := List.forall_mem_cons.1 hdigits
    exact ⟨c, cs, hcs, .inl hc, fun d hd => continuesNumeral_of_isDigit (hrest d hd)⟩

theorem yields_writeInt (i : Int) : Yields (writeInt i) [.numeral (numeral i)] := by
  intro seen
  have hread := ofChars?_writeInt i
  obtain ⟨c, cs, hcs, hc, hrest⟩ := writeInt_eq_cons i
  rw [hcs] at hread ⊢
  refine ⟨⟨.numeral (cs.reverse ++ [c]), seen⟩, ?_, ends_numeral (by simpa using hread)⟩
  rw [List.foldlM_cons, show step ⟨.between, seen⟩ c = some ⟨.numeral [c], seen⟩ from
    begin?_numeral hc seen]
  exact foldlM_numeral hrest [c] seen

end Lexer

/-! ## The tree of a value -/

namespace Json

mutual

/-- The tree that the text of a value reads as. A double that is no finite
    number is written as a word. -/
def tree : Json → Tree
  | .null => .word .null
  | .bool true => .word .true
  | .bool false => .word .false
  | .int i => .numeral (numeral i)
  | .float x => (Numeral.ofChars? (writeFloat x)).elim (.word .null) .numeral
  | .str s => .text (pieces s)
  | .arr items => .arr (itemTrees items)
  | .obj fields => .obj (fieldTrees fields)

def itemTrees : List Json → List Tree
  | [] => []
  | j :: js => j.tree :: itemTrees js

def fieldTrees : List (String × Json) → List (List Piece × Tree)
  | [] => []
  | (name, j) :: fields => (pieces name, j.tree) :: fieldTrees fields

end

mutual

/-- All numbers in the value are integers of 64 bits, signed or not. -/
def Exact : Json → Prop
  | .float _ => False
  | .int i => minInt64 ≤ i ∧ i < boundUInt64
  | .arr items => ExactItems items
  | .obj fields => ExactFields fields
  | _ => True

def ExactItems : List Json → Prop
  | [] => True
  | j :: js => j.Exact ∧ ExactItems js

def ExactFields : List (String × Json) → Prop
  | [] => True
  | (_, j) :: fs => j.Exact ∧ ExactFields fs

end

open Lexer in
mutual

theorem yields_write : ∀ {j : Json}, j.Exact → Yields j.write j.tree.tokens
  | .null, _ => yields_word rfl
  | .bool true, _ => yields_word rfl
  | .bool false, _ => yields_word rfl
  | .int i, _ => yields_writeInt i
  | .str s, _ => yields_quote s
  | .arr _, h => .cons rfl (.join (yields_writeItems h) rfl .nil)
  | .obj _, h => .cons rfl (.join (yields_writeFields h) rfl .nil)

theorem yields_writeItems : ∀ {js : List Json}, ExactItems js →
    Yields (writeItems js) (Tree.itemTokens (itemTrees js))
  | [], _ => .nil
  | [_], h => yields_write h.1
  | _ :: _ :: _, h => .join (yields_write h.1) rfl (yields_writeItems h.2)

theorem yields_writeFields : ∀ {fs : List (String × Json)}, ExactFields fs →
    Yields (writeFields fs) (Tree.fieldTokens (fieldTrees fs))
  | [], _ => .nil
  | [(name, _)], h => .join (yields_quote name) rfl (yields_write h.1)
  | (name, _) :: _ :: _, h => by
    have hfield := (yields_quote name).join (c := ':') rfl (yields_write h.1)
    have hfields := hfield.join (c := ',') rfl (yields_writeFields h.2)
    simpa [writeFields, fieldTrees, Tree.fieldTokens] using hfields

end

/-- The text of a value without doubles reads as the tree of the value. -/
theorem parse?_render {j : Json} (h : j.Exact) : Tree.parse? j.render = some j.tree := by
  rw [Tree.parse?, render, String.toList_ofList, (yields_write h).ofChars?]
  exact Tree.ofTokens?_tokens j.tree

end Json

end Appliance
