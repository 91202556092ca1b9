/-!
# `TypedSearch.Decimal.Whole`: whole numbers in decimal

A whole number is written with a minus sign where it is negative and no leading zero.

* `readNat_writeNat`, `readInt_writeInt`: reading what was written gives the number back.
-/

set_option autoImplicit false

namespace TypedSearch.Decimal

/-- A natural number in decimal. -/
def writeNat (n : Nat) : List Char := Nat.toDigits 10 n

/-- A whole number in decimal. -/
def writeInt : Int → List Char
  | .ofNat n => writeNat n
  | .negSucc n => '-' :: writeNat (n + 1)

/-- A natural number in decimal. -/
def natText (n : Nat) : String := String.ofList (writeNat n)

/-- A whole number in decimal. -/
def intText (n : Int) : String := String.ofList (writeInt n)

/-- A number with zeros in front where it has fewer than `width` digits. -/
def writePadded (width n : Nat) : List Char :=
  List.replicate (width - (writeNat n).length) '0' ++ writeNat n

/-- A power of ten. -/
def tenTo (n : Nat) : Nat := Nat.pow 10 n

/-- The number that a row of decimal digits denotes. -/
def valueOf (ds : List Char) : Nat := Nat.ofDigitChars 10 ds 0

/-- Reads one or more decimal digits and nothing else. -/
def readNat? (cs : List Char) : Option Nat :=
  if cs ≠ [] ∧ cs.all Char.isDigit then some (valueOf cs) else none

/-- Reads decimal digits with an optional sign in front. -/
def readInt? : List Char → Option Int
  | '-' :: rest => (readNat? rest).map fun n => -(n : Int)
  | '+' :: rest => (readNat? rest).map Int.ofNat
  | cs => (readNat? cs).map Int.ofNat

theorem isDigit_of_mem_writeNat {n : Nat} {c : Char} (h : c ∈ writeNat n) : c.isDigit = true :=
  Nat.isDigit_of_mem_toDigits (by omega) (by omega) h

theorem writeNat_ne_nil (n : Nat) : writeNat n ≠ [] := Nat.toDigits_ne_nil

@[simp] theorem valueOf_writeNat (n : Nat) : valueOf (writeNat n) = n :=
  Nat.ofDigitChars_toDigits (by omega) (by omega)

theorem readNat_writeNat (n : Nat) : readNat? (writeNat n) = some n := by
  have hall : (writeNat n).all Char.isDigit = true :=
    List.all_eq_true.2 fun _ hc => isDigit_of_mem_writeNat hc
  rw [readNat?, if_pos ⟨writeNat_ne_nil n, hall⟩, valueOf_writeNat]

/-- A text that starts with a digit is read as a natural number. -/
theorem readInt_of_head_isDigit {c : Char} {cs : List Char} (h : c.isDigit = true) :
    readInt? (c :: cs) = (readNat? (c :: cs)).map Int.ofNat := by
  unfold readInt?
  split
  · next hc => cases hc; exact absurd h (by decide)
  · next hc => cases hc; exact absurd h (by decide)
  · rfl

theorem readInt_writeInt (n : Int) : readInt? (writeInt n) = some n := by
  cases n with
  | ofNat n =>
    obtain ⟨c, cs, hc⟩ := List.exists_cons_of_ne_nil (writeNat_ne_nil n)
    have hd : c.isDigit = true := isDigit_of_mem_writeNat (n := n) (by simp [hc])
    rw [writeInt, hc, readInt_of_head_isDigit hd, ← hc, readNat_writeNat]
    rfl
  | negSucc n =>
    rw [writeInt, readInt?, readNat_writeNat]
    rfl

end TypedSearch.Decimal
