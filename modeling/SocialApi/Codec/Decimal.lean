/-
Module: SocialApi.Codec.Decimal
Purpose: Decimal numbers of a fixed width, as the standard library's `parse` reads them.
Trusted boundary: human-reviewed rendering of from_str for integer types
Main exports: Decimal.digits?, Decimal.unsigned?, Decimal.signed?
-/
import Mathlib

namespace Decimal

/-- The number of a text of digits; no digits are no number. -/
def digits? (chars : List Char) : Option Nat :=
  if chars = [] then none
  else chars.foldlM
    (fun n c => if c.isDigit then some (10 * n + (c.toNat - '0'.toNat)) else none) 0

/-- An unsigned number may have a plus sign. -/
def unsigned? (bits : Nat) (text : String) : Option (Fin (2 ^ bits)) := do
  let n ← match text.toList with
    | '+' :: digits => digits? digits
    | digits => digits? digits
  if fits : n < 2 ^ bits then some ⟨n, fits⟩ else none

/-- A signed number may have either sign. -/
def signed? (bits : Nat) (text : String) : Option Int := do
  let n ← match text.toList with
    | '-' :: digits => (digits? digits).map fun n => -(n : Int)
    | '+' :: digits => (digits? digits).map fun n => (n : Int)
    | digits => (digits? digits).map fun n => (n : Int)
  if -2 ^ (bits - 1) ≤ n ∧ n < 2 ^ (bits - 1) then some n else none

example : unsigned? 16 "+8080" = some 8080 ∧ unsigned? 16 "65536" = none ∧
    signed? 64 "-300" = some (-300) ∧ unsigned? 64 "" = none := by decide

end Decimal
