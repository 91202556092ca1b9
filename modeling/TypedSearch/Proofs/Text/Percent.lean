import Mathlib.Data.List.Sections
import TypedSearch.Text.Percent
/-!
# `TypedSearch.Proofs.Text.Percent`: encoded texts and the bytes they stand for

A text in which some characters are encoded stands for the bytes of the text, if the percent sign is
among those that are. Texts are told apart by their bytes.

* `decode_encode`: the bytes of a text that is encoded.
* `bytes_injective`: the text that bytes stand for.
* `not_mem_encode`: a character that is encoded does not occur, unless encoding brings it in.
* `mem_sections_toLower`: the texts that are the same in lower case.
-/

set_option autoImplicit false

namespace TypedSearch.Text

theorem bytes_append (cs ds : List Char) : bytes (cs ++ ds) = bytes cs ++ bytes ds :=
  List.flatMap_append

theorem bytes_cons (c : Char) (cs : List Char) : bytes (c :: cs) = bytes [c] ++ bytes cs :=
  bytes_append [c] cs

/-- Texts with the same bytes are the same. -/
theorem bytes_injective {cs ds : List Char} (h : bytes cs = bytes ds) : cs = ds := by
  have hbytes : (String.ofList cs).toByteArray = (String.ofList ds).toByteArray :=
    congrArg List.toByteArray h
  exact String.ofList_injective (String.toByteArray_inj.1 hbytes)

/-- A hexadecimal digit has the value that it is written for. -/
theorem hexValue?_upperHexDigit {n : Nat} (h : n < 16) : hexValue? (upperHexDigit n) = some n := by
  have hall : ∀ n < 16, hexValue? (upperHexDigit n) = some n := by decide
  exact hall n h

namespace Percent

/-! ### Bytes -/

/-- An encoded byte stands for itself. -/
theorem decode_encodeByte (b : UInt8) (rest : List Char) :
    decode (encodeByte b ++ rest) = b :: decode rest := by
  have hhigh : b.toNat / 16 < 16 := by have := b.toNat_lt; omega
  have hlow : b.toNat % 16 < 16 := Nat.mod_lt _ (by decide)
  show decode ('%' :: upperHexDigit (b.toNat / 16) :: upperHexDigit (b.toNat % 16) :: rest) = _
  rw [decode, hexValue?_upperHexDigit hhigh, hexValue?_upperHexDigit hlow]
  show UInt8.ofNat (16 * (b.toNat / 16) + b.toNat % 16) :: decode rest = _
  rw [Nat.div_add_mod, UInt8.ofNat_toNat]

/-- Encoded bytes stand for themselves. -/
theorem decode_encodeBytes (bs : List UInt8) (rest : List Char) :
    decode (bs.flatMap encodeByte ++ rest) = bs ++ decode rest := by
  induction bs with
  | nil => rfl
  | cons b bs ih =>
    rw [List.flatMap_cons, List.append_assoc, decode_encodeByte, ih, List.cons_append]

/-- A character that is no percent sign stands for its bytes. -/
theorem decode_cons_of_ne {c : Char} (h : c ≠ '%') (rest : List Char) :
    decode (c :: rest) = bytes [c] ++ decode rest := by
  rw [decode]
  intro a b rest' hpercent
  exact absurd hpercent h

/-- A text that is encoded stands for its bytes. -/
theorem decode_encode {reserved : Char → Bool} (hpercent : reserved '%' = true) (cs : List Char) :
    decode (encode reserved cs) = bytes cs := by
  induction cs with
  | nil => rfl
  | cons c cs ih =>
    rw [encode, List.flatMap_cons, bytes_cons c cs]
    show decode (_ ++ encode reserved cs) = _
    by_cases hc : reserved c = true
    · rw [if_pos hc, decode_encodeBytes, ih]
    · -- What is left as it is cannot be a percent sign.
      have hne : c ≠ '%' := fun h => hc (h ▸ hpercent)
      rw [if_neg hc, List.singleton_append, decode_cons_of_ne hne, ih]

/-! ### Characters -/

/-- A character that is encoded does not occur in the encoded text, unless it is one of those that
bytes are written with. -/
theorem not_mem_encode {reserved : Char → Bool} {c : Char} (hc : reserved c = true)
    (hwritten : c ≠ '%' ∧ ∀ n < 16, c ≠ upperHexDigit n) (cs : List Char) :
    c ∉ encode reserved cs := by
  intro hmem
  obtain ⟨d, -, hd⟩ := List.mem_flatMap.1 hmem
  split at hd
  · obtain ⟨b, -, hb⟩ := List.mem_flatMap.1 hd
    simp only [encodeByte, upperHex, List.mem_cons, List.not_mem_nil, or_false] at hb
    rcases hb with rfl | rfl | rfl
    · exact hwritten.1 rfl
    · exact hwritten.2 _ (by have := b.toNat_lt; omega) rfl
    · exact hwritten.2 _ (Nat.mod_lt _ (by decide)) rfl
  · next hfree =>
    rw [List.mem_singleton.1 hd] at hc
    exact hfree hc

/-- A character is the one in lower case or its upper case. -/
theorem eq_toLower_or_eq_toUpper (c : Char) : c = c.toLower ∨ c = c.toLower.toUpper := by
  by_cases h : c.val ≥ 'A'.val ∧ c.val ≤ 'Z'.val
  · have hall : ∀ n < 91, 65 ≤ n → Char.ofNat n = (Char.ofNat n).toLower.toUpper := by decide
    obtain ⟨hlow, hhigh⟩ := h
    rw [ge_iff_le, UInt32.le_iff_toNat_le] at hlow
    rw [UInt32.le_iff_toNat_le] at hhigh
    have hc := hall c.toNat (Nat.lt_succ_of_le hhigh) hlow
    rw [Char.ofNat_toNat] at hc
    exact .inr hc
  · have hsame : c.toLower = c := dif_neg h
    exact .inl hsame.symm

/-- A text is one of those that are made of its characters in lower case and their upper case. -/
theorem mem_sections_toLower (cs : List Char) :
    cs ∈ ((cs.map Char.toLower).map fun d => [d, d.toUpper]).sections := by
  rw [List.mem_sections, List.map_map, List.forall₂_map_right_iff, List.forall₂_same]
  intro c _
  simpa using eq_toLower_or_eq_toUpper c

end Percent

end TypedSearch.Text
