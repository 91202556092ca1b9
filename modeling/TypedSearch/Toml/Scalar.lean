import TypedSearch.Calendar.Date
import TypedSearch.Decimal.Binary64
import TypedSearch.Decimal.Whole
import TypedSearch.Text.Bytes
import TypedSearch.Toml.Basic
/-!
# `TypedSearch.Toml.Scalar`: reading strings, numbers and moments of TOML

Every reader gives what it read together with the text behind it, or nothing if the text does not
start with what is wanted.
-/

set_option autoImplicit false

namespace TypedSearch.Toml

open Decimal

/-! ### Layout -/

/-- A blank inside a line. -/
def isGap (c : Char) : Bool := c = ' ' || c = '\t'

/-- The text without the blanks in front. -/
def skipGap (cs : List Char) : List Char := cs.dropWhile isGap

/-- May the character stand in a comment or a string as it is? -/
def isPlain (c : Char) : Bool := c = '\t' || (0x20 ≤ c.toNat && c.toNat ≠ 0x7F)

/-- Reads the end of a line. -/
def newline? : List Char → Option (List Char)
  | '\n' :: rest => some rest
  | '\r' :: '\n' :: rest => some rest
  | _ => none

/-- The text without a comment in front. -/
def skipComment : List Char → List Char
  | '#' :: rest => rest.dropWhile isPlain
  | cs => cs

/-- The text without blanks, ends of lines and, where they are `allowed`, comments in front. -/
def skipLayout (comments : Bool) : Nat → List Char → List Char
  | 0, cs => cs
  | fuel + 1, cs =>
    match skipGap cs with
    | '#' :: rest =>
      if comments then skipLayout comments fuel (rest.dropWhile isPlain) else '#' :: rest
    | cs =>
      match newline? cs with
      | some rest => skipLayout comments fuel rest
      | none => cs

/-- Reads what may stand behind a statement up to the end of its line. -/
def lineEnd? (cs : List Char) : Option (List Char) :=
  match skipComment (skipGap cs) with
  | [] => some []
  | cs => newline? cs

/-! ### Strings -/

/-- The character with a code written in hexadecimal. -/
def hexChar? (digits : List Char) (size : Nat) : Option Char :=
  if digits.length = size then
    (Text.hexNumber? digits).bind fun n => if n.isValidChar then some (Char.ofNat n) else none
  else none

/-- Reads an escape from behind its backslash. -/
def escape? : List Char → Option (Char × List Char)
  | 'b' :: rest => some ('\x08', rest)
  | 't' :: rest => some ('\t', rest)
  | 'n' :: rest => some ('\n', rest)
  | 'f' :: rest => some ('\x0c', rest)
  | 'r' :: rest => some ('\r', rest)
  | '"' :: rest => some ('"', rest)
  | '\\' :: rest => some ('\\', rest)
  | 'u' :: rest => (hexChar? (rest.take 4) 4).map fun c => (c, rest.drop 4)
  | 'U' :: rest => (hexChar? (rest.take 8) 8).map fun c => (c, rest.drop 8)
  | _ => none

/-- Reads a string on one line from behind its opening quote. -/
def basic? : Nat → List Char → Option (List Char × List Char)
  | 0, _ => none
  | _, [] => none
  | _, '"' :: rest => some ([], rest)
  | fuel + 1, '\\' :: rest => do
    let (c, rest) ← escape? rest
    let (cs, rest) ← basic? fuel rest
    some (c :: cs, rest)
  | fuel + 1, c :: rest =>
    if isPlain c then do
      let (cs, rest) ← basic? fuel rest
      some (c :: cs, rest)
    else none

/-- Reads a string without escapes on one line from behind its opening quote. -/
def literal? (cs : List Char) : Option (List Char × List Char) :=
  let inner := cs.takeWhile fun c => isPlain c && c ≠ '\''
  match cs.dropWhile fun c => isPlain c && c ≠ '\'' with
  | '\'' :: rest => some (inner, rest)
  | _ => none

/-- Reads quotes inside a string over several lines: three close it, with at most two in front
that belong to the string; fewer belong to it. The second part is the text behind the closing
quotes, if there are any. -/
def quotes (quote : Char) (cs : List Char) : List Char × Option (List Char) :=
  let n := (cs.takeWhile (· = quote)).length
  if n < 3 then (List.replicate n quote, none)
  else (List.replicate (min n 5 - 3) quote, some (cs.drop (min n 5)))

/-- Reads a string over several lines from behind its opening quotes. A backslash at the end of a
line joins it with the next text. -/
def basicLines? : Nat → List Char → Option (List Char × List Char)
  | 0, _ => none
  | _, [] => none
  | fuel + 1, '"' :: rest =>
    match quotes '"' ('"' :: rest) with
    | (inner, some rest) => some (inner, rest)
    | (inner, none) => do
      let (cs, rest) ← basicLines? fuel (rest.dropWhile (· = '"'))
      some (inner ++ cs, rest)
  | fuel + 1, '\\' :: rest =>
    match newline? (skipGap rest) with
    | some next => basicLines? fuel (skipLayout false next.length next)
    | none => do
      let (c, rest) ← escape? rest
      let (cs, rest) ← basicLines? fuel rest
      some (c :: cs, rest)
  | fuel + 1, c :: rest =>
    if isPlain c then do
      let (cs, rest) ← basicLines? fuel rest
      some (c :: cs, rest)
    else do
      let (cs, rest) ← basicLines? fuel (← newline? (c :: rest))
      some ('\n' :: cs, rest)

/-- Reads a string without escapes over several lines from behind its opening quotes. -/
def literalLines? : Nat → List Char → Option (List Char × List Char)
  | 0, _ => none
  | _, [] => none
  | fuel + 1, '\'' :: rest =>
    match quotes '\'' ('\'' :: rest) with
    | (inner, some rest) => some (inner, rest)
    | (inner, none) => do
      let (cs, rest) ← literalLines? fuel (rest.dropWhile (· = '\''))
      some (inner ++ cs, rest)
  | fuel + 1, c :: rest =>
    if isPlain c then do
      let (cs, rest) ← literalLines? fuel rest
      some (c :: cs, rest)
    else do
      let (cs, rest) ← literalLines? fuel (← newline? (c :: rest))
      some ('\n' :: cs, rest)

/-- The text without the end of a line right behind opening quotes. -/
def skipFirstNewline (cs : List Char) : List Char := (newline? cs).getD cs

/-- Reads a string of any of the four kinds. -/
def string? : List Char → Option (List Char × List Char)
  | '"' :: '"' :: '"' :: rest => basicLines? (rest.length + 1) (skipFirstNewline rest)
  | '\'' :: '\'' :: '\'' :: rest => literalLines? (rest.length + 1) (skipFirstNewline rest)
  | '"' :: rest => basic? (rest.length + 1) rest
  | '\'' :: rest => literal? rest
  | _ => none

/-! ### Numbers -/

/-- Reads digits behind a first one; a `_` may stand between two digits. -/
def moreDigits (isDigit : Char → Bool) : List Char → List Char × List Char
  | [] => ([], [])
  | c :: rest =>
    if isDigit c then
      let (ds, rest) := moreDigits isDigit rest
      (c :: ds, rest)
    else
      match c, rest with
      | '_', d :: rest =>
        if isDigit d then
          let (ds, rest) := moreDigits isDigit rest
          (d :: ds, rest)
        else ([], '_' :: d :: rest)
      | c, rest => ([], c :: rest)

/-- Reads digits, the first of which must be there. -/
def digits? (isDigit : Char → Bool) : List Char → Option (List Char × List Char)
  | c :: rest =>
    if isDigit c then
      let (ds, rest) := moreDigits isDigit rest
      some (c :: ds, rest)
    else none
  | [] => none

/-- Reads decimal digits without a leading zero. -/
def decimal? : List Char → Option (List Char × List Char)
  | '0' :: rest => some (['0'], rest)
  | cs => digits? Char.isDigit cs

/-- Reads an optional sign; tells whether it is a minus. -/
def sign : List Char → Bool × List Char
  | '-' :: rest => (true, rest)
  | '+' :: rest => (false, rest)
  | cs => (false, cs)

/-- The largest whole number. -/
def maxWhole : Int := Int64.maxValue.toInt

/-- A whole number, if it fits 64 bits. -/
def whole? (n : Int) (rest : List Char) : Option (Toml × List Char) :=
  if Int64.minValue.toInt ≤ n ∧ n ≤ maxWhole then some (int n, rest) else none

/-- Reads a whole number in another base from behind its mark. -/
def based? (base : Nat) (isDigit : Char → Bool) (cs : List Char) : Option (Toml × List Char) := do
  let (ds, rest) ← digits? isDigit cs
  whole? (ds.foldl (fun n d => base * n + (Text.hexValue? d).getD 0) 0 : Nat) rest

/-- Reads an optional exponent. -/
def exponent? : List Char → Option (Option Int × List Char)
  | c :: rest =>
    if c = 'e' ∨ c = 'E' then do
      let (negative, rest) := sign rest
      let (ds, rest) ← digits? Char.isDigit rest
      some (some (if negative then -(valueOf ds : Int) else valueOf ds), rest)
    else some (none, c :: rest)
  | [] => some (none, [])

/-- A float from its parts. Only a negative one may be too large for every finite number. -/
def float? (negative : Bool) (ds fs : List Char) (e : Int) (rest : List Char) :
    Option (Toml × List Char) :=
  let x := Binary64.ofDecimal? negative (valueOf (ds ++ fs)) (e - fs.length)
  if x.isNone ∧ !negative then none else some (float x, rest)

/-- Reads a number that is written in decimal from behind its sign. -/
def decimalNumber? (negative : Bool) (cs : List Char) : Option (Toml × List Char) := do
  let (ds, rest) ← decimal? cs
  match rest with
  | '.' :: rest =>
    let (fs, rest) ← digits? Char.isDigit rest
    let (e, rest) ← exponent? rest
    float? negative ds fs (e.getD 0) rest
  | rest =>
    match ← exponent? rest with
    | (some e, rest) => float? negative ds [] e rest
    | (none, rest) => whole? (if negative then -(valueOf ds : Int) else valueOf ds) rest

/-! ### Moments -/

/-- Reads a number of exactly two digits, up to a bound. -/
def twoDigits? (high : Nat) : List Char → Option (Nat × List Char)
  | a :: b :: rest =>
    if a.isDigit ∧ b.isDigit ∧ valueOf [a, b] ≤ high then some (valueOf [a, b], rest) else none
  | _ => none

/-- Reads a given character. -/
def mark? (mark : Char) : List Char → Option (List Char)
  | c :: rest => if c = mark then some rest else none
  | [] => none

/-- Reads a time of day. -/
def time? (cs : List Char) : Option (List Char) := do
  let (_, rest) ← twoDigits? 23 cs
  let (_, rest) ← twoDigits? 59 (← mark? ':' rest)
  let (_, rest) ← twoDigits? 60 (← mark? ':' rest)
  match rest with
  | '.' :: fraction =>
    if (fraction.takeWhile Char.isDigit).isEmpty then none
    else some (fraction.dropWhile Char.isDigit)
  | rest => some rest

/-- Reads an optional offset from UTC. -/
def skipOffset (cs : List Char) : List Char :=
  match cs with
  | [] => []
  | c :: rest =>
    if c = 'Z' ∨ c = 'z' then rest
    else if c = '+' ∨ c = '-' then
      (do
        let (_, rest) ← twoDigits? 23 rest
        let (_, rest) ← twoDigits? 59 (← mark? ':' rest)
        some rest).getD cs
    else cs

/-- Reads a date. -/
def date? (cs : List Char) : Option (List Char) := do
  let year := cs.take 4
  if year.length = 4 ∧ year.all Char.isDigit then
    let (month, rest) ← twoDigits? 12 (← mark? '-' (cs.drop 4))
    let (day, rest) ← twoDigits? 31 (← mark? '-' rest)
    if (Calendar.Date.mk (valueOf year) month day).isValid then some rest else none
  else none

/-- Reads a time of day and an offset behind a date, if they are there. -/
def skipTimeOfDate (cs : List Char) : List Char :=
  match cs with
  | [] => []
  | c :: rest =>
    if c = 'T' ∨ c = 't' ∨ c = ' ' then ((time? rest).map skipOffset).getD cs else cs

/-- Reads a date with or without a time of day, or a time of day. -/
def moment? (cs : List Char) : Option (Toml × List Char) := do
  let rest ← match date? cs with
    | some rest => some (skipTimeOfDate rest)
    | none => time? cs
  some (moment (String.ofList (cs.take (cs.length - rest.length))), rest)

/-- Reads a number or a moment. -/
def number? (cs : List Char) : Option (Toml × List Char) :=
  match moment? cs with
  | some found => some found
  | none =>
    match cs with
    | '0' :: 'x' :: rest => based? 16 (fun c => (Text.hexValue? c).isSome) rest
    | '0' :: 'o' :: rest => based? 8 (fun c => '0' ≤ c && c ≤ '7') rest
    | '0' :: 'b' :: rest => based? 2 (fun c => c = '0' || c = '1') rest
    | cs =>
      match sign cs with
      | (_, 'i' :: 'n' :: 'f' :: rest) => some (float none, rest)
      | (_, 'n' :: 'a' :: 'n' :: rest) => some (float none, rest)
      | (negative, rest) => decimalNumber? negative rest

end TypedSearch.Toml
