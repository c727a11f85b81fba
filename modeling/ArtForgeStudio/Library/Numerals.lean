import Mathlib.Data.Char
import Mathlib.Data.List.Lex
import Mathlib.Data.Nat.Digits.Lemmas

/-! # Numbers and their numerals

A numeral lists the symbols of its digits, the highest first. Without leading zeros numerals
are ordered as their numbers are: the shorter first, and those of one length as words.
-/

namespace ArtForgeStudio.Numerals

/-- The symbols that stand for the digits of a base, ordered as the digits are. -/
structure System (α : Type*) [LinearOrder α] where
  base : ℕ
  one_lt_base : 1 < base
  symbols : Set α
  digit : α → ℕ
  digit_lt : ∀ symbol ∈ symbols, digit symbol < base
  strictMonoOn : StrictMonoOn digit symbols
  zero : α
  zero_mem : zero ∈ symbols
  digit_zero : digit zero = 0

namespace System

variable {α : Type*} [LinearOrder α] (S : System α)

def IsNumeral (word : List α) : Prop := ∀ symbol ∈ word, symbol ∈ S.symbols

def number (word : List α) : ℕ := Nat.ofDigits S.base (word.map S.digit).reverse

variable {S} {a b : α} {word xs ys : List α}

@[simp] theorem isNumeral_cons : S.IsNumeral (a :: word) ↔ a ∈ S.symbols ∧ S.IsNumeral word := by
  simp [IsNumeral]

@[simp] theorem number_nil : S.number [] = 0 := rfl

theorem number_cons :
    S.number (a :: word) = S.digit a * S.base ^ word.length + S.number word := by
  simp [number, Nat.ofDigits_append, Nat.ofDigits_singleton]
  ring

end System

/-- The decimal digits of the ASCII alphabet. -/
def decimal : System Char where
  base := 10
  one_lt_base := by decide
  symbols := {c | c.isDigit}
  digit c := c.toNat - '0'.toNat
  digit_lt c hc := by
    have h := Char.isDigit_iff_toNat.1 hc
    simp at h
    simp
    omega
  strictMonoOn c hc d hd hlt := by
    have h := Char.isDigit_iff_toNat.1 hc
    have hlt : c.toNat < d.toNat := hlt
    simp at h
    simp
    omega
  zero := '0'
  zero_mem := by decide
  digit_zero := rfl

end ArtForgeStudio.Numerals
