/-!
# `TypedSearch.Text.Bytes`: texts as bytes

Texts travel as UTF-8. This module gives the bytes of a text, the text that bytes stand for, and two
ways to write bytes in ASCII: two hexadecimal digits each, and the base-64 form of credentials.
-/

set_option autoImplicit false

namespace TypedSearch.Text

/-- The UTF-8 bytes of a text. -/
def bytes (cs : List Char) : List UInt8 := cs.flatMap String.utf8EncodeChar

/-- The text that bytes stand for, if they are UTF-8. -/
def ofBytes? (bs : List UInt8) : Option (List Char) :=
  (String.fromUTF8? ⟨bs.toArray⟩).map String.toList

/-- Bytes as the characters with their numbers. What is marked in ASCII is found among these as it
is among the bytes. -/
def octets (bs : List UInt8) : List Char := bs.map fun b => Char.ofNat b.toNat

/-- The text that bytes stand for, given as the characters with their numbers, if they are UTF-8. -/
def ofOctets? (cs : List Char) : Option String :=
  (ofBytes? (cs.map fun c => UInt8.ofNat c.toNat)).map String.ofList

/-- May a byte stand second in a character that starts with another one? -/
def isSecond (first second : UInt8) : Bool :=
  let low : UInt8 := if first = 0xE0 then 0xA0 else if first = 0xF0 then 0x90 else 0x80
  let high : UInt8 := if first = 0xED then 0x9F else if first = 0xF4 then 0x8F else 0xBF
  low ≤ second && second ≤ high

/-- Is this the start of a character, and not all of it? -/
def isUnfinished : List UInt8 → Bool
  | [a] => 0xC2 ≤ a && a ≤ 0xF4
  | [a, b] => 0xE0 ≤ a && a ≤ 0xF4 && isSecond a b
  | [a, b, c] => 0xF0 ≤ a && a ≤ 0xF4 && isSecond a b && 0x80 ≤ c && c ≤ 0xBF
  | _ => false

/-- The character that stands for bytes which are none. -/
def replacement : Char := '\ufffd'

/-- Reads bytes as a character, with the text behind it. That is given by the bytes that are left
to it, where these are the start of a character. -/
def openedBy (bs : List UInt8) (behind : List UInt8 → List Char) : List Char :=
  match ofBytes? bs with
  | some cs => cs ++ behind []
  | none => if isUnfinished bs then behind bs else replacement :: behind []

/-- The text of bytes behind the start of a character. -/
def repairedFrom (start : List UInt8) : List UInt8 → List Char
  | [] => if start.isEmpty then [] else [replacement]
  | b :: rest =>
    let behind (start : List UInt8) : List Char := repairedFrom start rest
    let longer := start ++ [b]
    if start.isEmpty || isUnfinished longer || (ofBytes? longer).isSome then openedBy longer behind
    else replacement :: openedBy [b] behind

/-- The text of any bytes. As far as they are not UTF-8, a replacement character stands for each
start of a character that does not go on, and for each byte that starts none. -/
def repaired (bs : List UInt8) : List Char := repairedFrom [] bs

example : repaired [0x61, 0xE2, 0x28, 0xE0, 0x80, 0xC3, 0xA9, 0xF0, 0x90]
    = ['a', '\ufffd', '(', '\ufffd', '\ufffd', 'é', '\ufffd'] := by decide

/-- The value of a hexadecimal digit, of either case. -/
def hexValue? (c : Char) : Option Nat :=
  if '0' ≤ c ∧ c ≤ '9' then some (c.toNat - 48)
  else if 'a' ≤ c ∧ c ≤ 'f' then some (c.toNat - 87)
  else if 'A' ≤ c ∧ c ≤ 'F' then some (c.toNat - 55)
  else none

/-- The value of a row of hexadecimal digits. -/
def hexNumber? (cs : List Char) : Option Nat :=
  cs.foldlM (fun n c => (hexValue? c).map (16 * n + ·)) 0

/-- The upper-case hexadecimal digit of a value below sixteen. -/
def upperHexDigit (n : Nat) : Char := (Nat.digitChar n).toUpper

/-- A byte as two upper-case hexadecimal digits. -/
def upperHex (b : UInt8) : List Char := [upperHexDigit (b.toNat / 16), upperHexDigit (b.toNat % 16)]

/-- The base-64 digit of a value below sixty-four. -/
def base64Digit (n : Nat) : Char :=
  if n < 26 then Char.ofNat (65 + n)
  else if n < 52 then Char.ofNat (97 + (n - 26))
  else if n < 62 then Char.ofNat (48 + (n - 52))
  else if n = 62 then '+'
  else '/'

/-- Bytes in base 64: four digits for three bytes, with `=` in the places of the last four that are
not used. -/
def base64 : List UInt8 → List Char
  | [] => []
  | [a] =>
    let n := a.toNat * 16
    [base64Digit (n / 64), base64Digit (n % 64), '=', '=']
  | [a, b] =>
    let n := (a.toNat * 256 + b.toNat) * 4
    [base64Digit (n / 4096), base64Digit (n / 64 % 64), base64Digit (n % 64), '=']
  | a :: b :: c :: rest =>
    let n := (a.toNat * 256 + b.toNat) * 256 + c.toNat
    base64Digit (n / 262144) :: base64Digit (n / 4096 % 64) :: base64Digit (n / 64 % 64)
      :: base64Digit (n % 64) :: base64 rest

end TypedSearch.Text
