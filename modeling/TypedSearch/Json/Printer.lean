import TypedSearch.Json.Basic
import TypedSearch.Decimal.Shortest
/-!
# `TypedSearch.Json.Printer`: writing JSON

`Json.compact` writes a value without any blanks, `Json.pretty` with one item or member a line,
two blanks further in than the container around it.
-/

set_option autoImplicit false

namespace TypedSearch.Json

open Decimal

/-- A character inside a string. Quotes, backslashes and control characters are escaped. -/
def writeChar (c : Char) : List Char :=
  if c = '"' then ['\\', '"']
  else if c = '\\' then ['\\', '\\']
  else if c = '\x08' then ['\\', 'b']
  else if c = '\x0c' then ['\\', 'f']
  else if c = '\n' then ['\\', 'n']
  else if c = '\r' then ['\\', 'r']
  else if c = '\t' then ['\\', 't']
  else if c.toNat < 0x20 then
    ['\\', 'u', '0', '0', Nat.digitChar (c.toNat / 16), Nat.digitChar (c.toNat % 16)]
  else [c]

/-- A string with its quotes. -/
def writeText (s : String) : List Char := '"' :: s.toList.flatMap writeChar ++ ['"']

mutual

/-- The text of a value. -/
def write : Json → List Char
  | null => ['n', 'u', 'l', 'l']
  | bool true => ['t', 'r', 'u', 'e']
  | bool false => ['f', 'a', 'l', 's', 'e']
  | int n => writeInt n
  | float x => Layout.document.write x
  | str s => writeText s
  | arr items => '[' :: writeItems items ++ [']']
  | obj members => '{' :: writeMembers members ++ ['}']

/-- The items of an array with commas between them. -/
def writeItems : List Json → List Char
  | [] => []
  | [v] => write v
  | v :: w :: rest => write v ++ ',' :: writeItems (w :: rest)

/-- The members of an object with commas between them. -/
def writeMembers : List (String × Json) → List Char
  | [] => []
  | [(k, v)] => writeText k ++ ':' :: write v
  | (k, v) :: next :: rest => writeText k ++ ':' :: write v ++ ',' :: writeMembers (next :: rest)

end

/-- A value as one line. -/
def compact (v : Json) : String := String.ofList (write v)

/-- A line break and the blanks in front of a line. -/
def newLine (depth : Nat) : List Char := '\n' :: List.replicate (2 * depth) ' '

mutual

/-- The text of a value over several lines. -/
def writeLines (depth : Nat) : Json → List Char
  | arr [] => ['[', ']']
  | obj [] => ['{', '}']
  | arr items => '[' :: writeItemLines (depth + 1) items ++ newLine depth ++ [']']
  | obj members => '{' :: writeMemberLines (depth + 1) members ++ newLine depth ++ ['}']
  | v => write v

/-- The items of an array, each on a line of its own. -/
def writeItemLines (depth : Nat) : List Json → List Char
  | [] => []
  | [v] => newLine depth ++ writeLines depth v
  | v :: w :: rest => newLine depth ++ writeLines depth v ++ ',' :: writeItemLines depth (w :: rest)

/-- The members of an object, each on a line of its own. -/
def writeMemberLines (depth : Nat) : List (String × Json) → List Char
  | [] => []
  | [(k, v)] => newLine depth ++ writeText k ++ ':' :: ' ' :: writeLines depth v
  | (k, v) :: next :: rest =>
    newLine depth ++ writeText k ++ ':' :: ' ' :: writeLines depth v ++
      ',' :: writeMemberLines depth (next :: rest)

end

/-- A value over several lines. -/
def pretty (v : Json) : String := String.ofList (writeLines 0 v)

end TypedSearch.Json
