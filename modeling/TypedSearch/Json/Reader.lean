import TypedSearch.Json.Number
import TypedSearch.Text.Bytes
/-!
# `TypedSearch.Json.Reader`: reading JSON

Every reader takes what is left to read and gives what it read together with what is behind it, or
the first fault in reading order. It goes by bytes, which are given as the characters with their
numbers. A value that is kept may open a limited number of containers inside one another, and its
strings have to be UTF-8; a value that is skipped has no such limit, and in its strings any bytes
and any escape of four hexadecimal digits may stand. Of two members of one name the later one is
kept.
-/

set_option autoImplicit false

namespace TypedSearch.Json

/-- The characters that may stand between tokens. -/
def isBetween (c : Char) : Bool := c = ' ' || c = '\n' || c = '\t' || c = '\r'

/-- The text from the next token on. -/
def skipBetween (cs : List Char) : List Char := cs.dropWhile isBetween

/-- Reads the given characters. -/
def readWord : List Char → List Char → Except Fault (List Char)
  | [], cs => .ok cs
  | _ :: _, [] => .error .endOfInput
  | w :: ws, c :: cs => if w = c then readWord ws cs else .error .malformed

/-- Reads the four hexadecimal digits of an escape. -/
def readFourHex (cs : List Char) : Except Fault (Nat × List Char) :=
  if (cs.take 4).length < 4 then .error .endOfInput
  else match Text.hexNumber? (cs.take 4) with
    | some n => .ok (n, cs.drop 4)
    | none => .error .malformed

/-- The character that a letter behind a backslash stands for. -/
def escaped? : Char → Option Char
  | '"' => some '"'
  | '\\' => some '\\'
  | '/' => some '/'
  | 'b' => some '\x08'
  | 'f' => some '\x0c'
  | 'n' => some '\n'
  | 'r' => some '\r'
  | 't' => some '\t'
  | _ => none

/-- Is this the first half of a character written as two escapes? -/
def isHighHalf (n : Nat) : Bool := 0xD800 ≤ n && n < 0xDC00

/-- Is this the second half of a character written as two escapes? -/
def isLowHalf (n : Nat) : Bool := 0xDC00 ≤ n && n < 0xE000

/-- Reads an escape from behind its backslash. -/
def readEscape : List Char → Except Fault (Char × List Char)
  | [] => .error .endOfInput
  | 'u' :: rest => do
    let (n, rest) ← readFourHex rest
    if isLowHalf n then .error .malformed
    else if !isHighHalf n then .ok (Char.ofNat n, rest)
    else match rest with
      | [] => .error .endOfInput
      | ['\\'] => .error .endOfInput
      | '\\' :: 'u' :: rest => do
        let (low, rest) ← readFourHex rest
        if isLowHalf low then
          .ok (Char.ofNat (0x10000 + (n - 0xD800) * 0x400 + (low - 0xDC00)), rest)
        else .error .malformed
      | _ => .error .malformed
  | c :: rest => match escaped? c with
    | some d => .ok (d, rest)
    | none => .error .malformed

/-- Skips an escape from behind its backslash. -/
def skipEscape : List Char → Except Fault (List Char)
  | [] => .error .endOfInput
  | 'u' :: rest => do
    let (_, rest) ← readFourHex rest
    .ok rest
  | c :: rest => if (escaped? c).isSome then .ok rest else .error .malformed

/-- Reads a string from behind its opening quote; `read` holds the bytes so far, last first. -/
def readChars (fuel : Nat) (read : List Char) (cs : List Char) :
    Except Fault (String × List Char) :=
  match fuel, cs with
  | 0, _ => .error .endOfInput
  | _, [] => .error .endOfInput
  | _, '"' :: rest =>
    match Text.ofOctets? read.reverse with
    | some s => .ok (s, rest)
    | none => .error .malformed
  | fuel + 1, '\\' :: rest => do
    let (c, rest) ← readEscape rest
    readChars fuel ((Text.octets (Text.bytes [c])).reverse ++ read) rest
  | fuel + 1, c :: rest =>
    if c.toNat < 0x20 then .error .malformed else readChars fuel (c :: read) rest

/-- Reads a string from behind its opening quote. -/
def readText (cs : List Char) : Except Fault (String × List Char) := readChars (cs.length + 1) [] cs

/-- Skips a string from behind its opening quote. -/
def skipChars (fuel : Nat) (cs : List Char) : Except Fault (Unit × List Char) :=
  match fuel, cs with
  | 0, _ => .error .endOfInput
  | _, [] => .error .endOfInput
  | _, '"' :: rest => .ok ((), rest)
  | fuel + 1, '\\' :: rest => do skipChars fuel (← skipEscape rest)
  | fuel + 1, c :: rest => if c.toNat < 0x20 then .error .malformed else skipChars fuel rest

/-- Skips a string from behind its opening quote. -/
def skipText (cs : List Char) : Except Fault (Unit × List Char) := skipChars (cs.length + 1) cs

/-- Reads the items of an array up to its closing bracket. -/
def readItems {α : Type} (item : List Char → Except Fault (α × List Char)) (fuel : Nat)
    (first : Bool) (cs : List Char) : Except Fault (List α × List Char) :=
  match fuel with
  | 0 => .error .endOfInput
  | fuel + 1 =>
    let next (cs : List Char) : Except Fault (List α × List Char) := do
      let (v, cs) ← item cs
      let (vs, cs) ← readItems item fuel false cs
      .ok (v :: vs, cs)
    match skipBetween cs with
    | [] => .error .endOfInput
    | ']' :: rest => .ok ([], rest)
    | c :: rest =>
      if first then next (c :: rest)
      else if c = ',' then
        match skipBetween rest with
        | [] => .error .endOfInput
        | ']' :: _ => .error .malformed
        | cs => next cs
      else .error .malformed

/-- Reads the members of an object up to its closing brace. The reader of a member gets the state
so far and the name, and starts in front of the colon. -/
def readMembers {σ κ : Type} (name : List Char → Except Fault (κ × List Char))
    (member : σ → κ → List Char → Except Fault (σ × List Char)) (fuel : Nat)
    (first : Bool) (state : σ) (cs : List Char) : Except Fault (σ × List Char) :=
  match fuel with
  | 0 => .error .endOfInput
  | fuel + 1 =>
    let next (cs : List Char) : Except Fault (σ × List Char) := do
      let (k, cs) ← name cs
      let (state, cs) ← member state k cs
      readMembers name member fuel false state cs
    match skipBetween cs with
    | [] => .error .endOfInput
    | '}' :: rest => .ok (state, rest)
    | c :: rest =>
      if first then if c = '"' then next rest else .error .malformed
      else if c = ',' then
        match skipBetween rest with
        | [] => .error .endOfInput
        | '"' :: rest => next rest
        | _ => .error .malformed
      else .error .malformed

/-- Reads the colon between a name and its value. -/
def readColon (cs : List Char) : Except Fault (List Char) :=
  match skipBetween cs with
  | [] => .error .endOfInput
  | ':' :: rest => .ok rest
  | _ => .error .malformed

/-- Reads a value that is neither an array nor an object, from its first character on. -/
def readScalar : List Char → Except Fault (Json × List Char)
  | [] => .error .endOfInput
  | 'n' :: rest => do .ok (null, ← readWord ['u', 'l', 'l'] rest)
  | 't' :: rest => do .ok (bool true, ← readWord ['r', 'u', 'e'] rest)
  | 'f' :: rest => do .ok (bool false, ← readWord ['a', 'l', 's', 'e'] rest)
  | '"' :: rest => do
    let (s, rest) ← readText rest
    .ok (str s, rest)
  | '-' :: rest => readNumber true rest
  | c :: rest => if c.isDigit then readNumber false (c :: rest) else .error .malformed

/-- Reads the members of an object, from behind its brace, as pairs in the order of the text. -/
def readPairs {α : Type} (value : List Char → Except Fault (α × List Char)) (cs : List Char) :
    Except Fault (List (String × α) × List Char) :=
  let member (read : List (String × α)) (k : String) (cs : List Char) :
      Except Fault (List (String × α) × List Char) := do
    let (v, cs) ← value (← readColon cs)
    .ok (read ++ [(k, v)], cs)
  readMembers readText member (cs.length + 1) true [] cs

/-- Reads a value that may open `depth` containers inside one another. -/
def readValue (depth : Nat) (cs : List Char) : Except Fault (Json × List Char) :=
  match skipBetween cs with
  | [] => .error .endOfInput
  | '[' :: rest =>
    match depth with
    | 0 => .error .malformed
    | depth + 1 => do
      let (items, rest) ← readItems (readValue depth) (rest.length + 1) true rest
      .ok (arr items, rest)
  | '{' :: rest =>
    match depth with
    | 0 => .error .malformed
    | depth + 1 => do
      let (pairs, rest) ← readPairs (readValue depth) rest
      .ok (ofMembers pairs, rest)
  | cs => readScalar cs

/-- Skips a value with any number of containers inside one another. -/
def skipNested (fuel : Nat) (cs : List Char) : Except Fault (Unit × List Char) :=
  match skipBetween cs with
  | [] => .error .endOfInput
  | '[' :: rest =>
    match fuel with
    | 0 => .error .endOfInput
    | fuel + 1 => do
      let (_, rest) ← readItems (skipNested fuel) (rest.length + 1) true rest
      .ok ((), rest)
  | '{' :: rest =>
    match fuel with
    | 0 => .error .endOfInput
    | fuel + 1 =>
      let member (_ : Unit) (_ : Unit) (cs : List Char) : Except Fault (Unit × List Char) := do
        skipNested fuel (← readColon cs)
      readMembers skipText member (rest.length + 1) true () rest
  | '"' :: rest => skipText rest
  | '-' :: rest => do .ok ((), ← skipNumber rest)
  | c :: rest =>
    if c.isDigit then do .ok ((), ← skipNumber (c :: rest))
    else do
      let (_, rest) ← readScalar (c :: rest)
      .ok ((), rest)

/-- Skips a value. -/
def skipValue (cs : List Char) : Except Fault (Unit × List Char) := skipNested cs.length cs

/-- Demands that nothing but blanks is left. -/
def finish {α : Type} : Except Fault (α × List Char) → Except Fault α
  | .error fault => .error fault
  | .ok (v, rest) => if (skipBetween rest).isEmpty then .ok v else .error .malformed

/-- How many containers a value may open inside one another. -/
def defaultDepth : Nat := 127

/-- Reads bytes that are one value. -/
def readBytes (depth : Nat) (bs : List UInt8) : Except Fault Json :=
  finish (readValue depth (Text.octets bs))

/-- Reads a text that is one value. -/
def read (depth : Nat) (text : String) : Except Fault Json :=
  readBytes depth (Text.bytes text.toList)

end TypedSearch.Json
