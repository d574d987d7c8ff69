/-
Module: SocialApi.Codec.Base64
Purpose: The standard base64 alphabet with canonical padding, as an encoder, a
  strict decoder and their round trip.
Trusted boundary: human-reviewed rendering of RFC 4648, section 4
Main exports:
  Base64.encode, Base64.decode, Base64.decode_encode, Base64.encodeChars_alphanum
-/
import Mathlib

namespace Base64

/-- The 64 symbols, in the order of their values. -/
def alphabet : List Char :=
  "ABCDEFGHIJKLMNOPQRSTUVWXYZabcdefghijklmnopqrstuvwxyz0123456789+/".toList

/-- The symbol of a six-bit value. -/
def symbol (value : Nat) : Char := alphabet.getD value 'A'

/-- The six-bit value of a symbol. -/
def value? (c : Char) : Option Nat := alphabet.idxOf? c

/-- Three bytes at a time give four symbols; a shorter tail is padded. -/
def encodeChars : List UInt8 → List Char
  | [] => []
  | [a] => [symbol (a.toNat / 4), symbol (a.toNat % 4 * 16), '=', '=']
  | [a, b] =>
      [symbol (a.toNat / 4), symbol (a.toNat % 4 * 16 + b.toNat / 16),
        symbol (b.toNat % 16 * 4), '=']
  | a :: b :: c :: rest =>
      symbol (a.toNat / 4) :: symbol (a.toNat % 4 * 16 + b.toNat / 16) ::
        symbol (b.toNat % 16 * 4 + c.toNat / 64) :: symbol (c.toNat % 64) ::
          encodeChars rest

/-- The bytes of one full group of four values. -/
def groupBytes (p q r s : Nat) : List UInt8 :=
  [UInt8.ofNat (p * 4 + q / 16), UInt8.ofNat (q % 16 * 16 + r / 4),
    UInt8.ofNat (r % 4 * 64 + s)]

/-- Strict decoding: four symbols at a time, padding only at the end and only
where it is needed, and no stray bits under the padding. -/
def decodeChars : List Char → Option (List UInt8)
  | [] => some []
  | [c₁, c₂, '=', '='] => do
      let p ← value? c₁
      let q ← value? c₂
      if q % 16 = 0 then some ((groupBytes p q 0 0).take 1) else none
  | [c₁, c₂, c₃, '='] => do
      let p ← value? c₁
      let q ← value? c₂
      let r ← value? c₃
      if r % 4 = 0 then some ((groupBytes p q r 0).take 2) else none
  | c₁ :: c₂ :: c₃ :: c₄ :: rest => do
      let p ← value? c₁
      let q ← value? c₂
      let r ← value? c₃
      let s ← value? c₄
      let bytes ← decodeChars rest
      some (groupBytes p q r s ++ bytes)
  | _ => none

def encode (bytes : List UInt8) : String := String.ofList (encodeChars bytes)

def decode (text : String) : Option (List UInt8) := decodeChars text.toList

private theorem symbol_spec : ∀ v : Fin 64,
    value? (symbol v.val) = some v.val ∧ symbol v.val ≠ '=' := by
  decide

theorem value?_symbol {v : Nat} (bound : v < 64) : value? (symbol v) = some v :=
  (symbol_spec ⟨v, bound⟩).1

theorem symbol_ne_pad {v : Nat} (bound : v < 64) : symbol v ≠ '=' :=
  (symbol_spec ⟨v, bound⟩).2

private theorem ofNat_eq {a : UInt8} {n : Nat} (same : n = a.toNat) :
    UInt8.ofNat n = a := by
  rw [same]
  exact UInt8.ofNat_toNat

private theorem groupBytes_eq {a b c : UInt8} :
    groupBytes (a.toNat / 4) (a.toNat % 4 * 16 + b.toNat / 16)
      (b.toNat % 16 * 4 + c.toNat / 64) (c.toNat % 64) = [a, b, c] := by
  have aLt := a.toNat_lt
  have bLt := b.toNat_lt
  have cLt := c.toNat_lt
  simp only [groupBytes, List.cons.injEq, and_true]
  exact ⟨ofNat_eq (by omega), ofNat_eq (by omega), ofNat_eq (by omega)⟩

/-- Decoding gives back every encoded byte list. -/
theorem decodeChars_encodeChars (bytes : List UInt8) :
    decodeChars (encodeChars bytes) = some bytes := by
  induction bytes using encodeChars.induct with
  | case1 => rfl
  | case2 a =>
      have aLt := a.toNat_lt
      have whole := groupBytes_eq (a := a) (b := 0) (c := 0)
      simp only [encodeChars, decodeChars, value?_symbol (v := a.toNat / 4) (by omega),
        value?_symbol (v := a.toNat % 4 * 16) (by omega)]
      simp at whole
      simp [whole]
  | case3 a b =>
      have aLt := a.toNat_lt
      have bLt := b.toNat_lt
      have whole := groupBytes_eq (a := a) (b := b) (c := 0)
      have thirdNotPad := symbol_ne_pad (v := b.toNat % 16 * 4) (by omega)
      rw [encodeChars, decodeChars]
      · simp only [value?_symbol (v := a.toNat / 4) (by omega),
          value?_symbol (v := a.toNat % 4 * 16 + b.toNat / 16) (by omega),
          value?_symbol (v := b.toNat % 16 * 4) (by omega)]
        simp at whole
        simp [whole]
      · exact thirdNotPad
  | case4 a b c rest inductionHypothesis =>
      have aLt := a.toNat_lt
      have bLt := b.toNat_lt
      have cLt := c.toNat_lt
      have fourthNotPad := symbol_ne_pad (v := c.toNat % 64) (by omega)
      rw [encodeChars, decodeChars]
      · simp only [value?_symbol (v := a.toNat / 4) (by omega),
          value?_symbol (v := a.toNat % 4 * 16 + b.toNat / 16) (by omega),
          value?_symbol (v := b.toNat % 16 * 4 + c.toNat / 64) (by omega),
          value?_symbol (v := c.toNat % 64) (by omega), inductionHypothesis]
        simp [groupBytes_eq]
      · intro _ pad
        exact absurd pad fourthNotPad
      · intro pad
        exact absurd pad fourthNotPad

private theorem symbol_alphanum : ∀ v : Fin 62, (symbol v.val).isAlphanum = true := by
  decide +kernel

/-- The symbols of bytes that are ASCII and end neither in 111110 nor in 111111 are letters and
digits. -/
theorem encodeChars_alphanum {bytes : List UInt8}
    (plain : ∀ b ∈ bytes, b.toNat < 128 ∧ b.toNat % 64 < 62) :
    ∀ c ∈ encodeChars bytes, c.isAlphanum = true ∨ c = '=' := by
  have letter : ∀ {v : Nat}, v < 62 → (symbol v).isAlphanum = true :=
    fun bound => symbol_alphanum ⟨_, bound⟩
  induction bytes using encodeChars.induct with
  | case1 => simp [encodeChars]
  | case2 a =>
      obtain ⟨small, _⟩ := plain a (by simp)
      have first := @letter (a.toNat / 4) (by omega)
      have second := @letter (a.toNat % 4 * 16) (by omega)
      simp [encodeChars, first, second]
  | case3 a b =>
      obtain ⟨small, _⟩ := plain a (by simp)
      obtain ⟨smallToo, _⟩ := plain b (by simp)
      have first := @letter (a.toNat / 4) (by omega)
      have second := @letter (a.toNat % 4 * 16 + b.toNat / 16) (by omega)
      have third := @letter (b.toNat % 16 * 4) (by omega)
      simp [encodeChars, first, second, third]
  | case4 a b c rest inductionHypothesis =>
      obtain ⟨small, _⟩ := plain a (by simp)
      obtain ⟨smallToo, _⟩ := plain b (by simp)
      obtain ⟨smallAsWell, ends⟩ := plain c (by simp)
      have first := @letter (a.toNat / 4) (by omega)
      have second := @letter (a.toNat % 4 * 16 + b.toNat / 16) (by omega)
      have third := @letter (b.toNat % 16 * 4 + c.toNat / 64) (by omega)
      have fourth := @letter (c.toNat % 64) ends
      have others := inductionHypothesis fun other member => plain other (by simp [member])
      simp only [encodeChars, List.mem_cons]
      rintro symbol (rfl | rfl | rfl | rfl | member)
      · exact .inl first
      · exact .inl second
      · exact .inl third
      · exact .inl fourth
      · exact others symbol member

theorem decode_encode (bytes : List UInt8) : decode (encode bytes) = some bytes := by
  rw [decode, encode, String.toList_ofList]
  exact decodeChars_encodeChars bytes

end Base64
