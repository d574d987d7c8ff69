/-
Module: SocialApi.Codec.FormUrlencoded
Purpose: Names and values in a query string, and the values that come through it unescaped.
Trusted boundary: human-reviewed rendering of the application/x-www-form-urlencoded parser
  of the form_urlencoded crate
Main exports:
  FormUrlencoded.parse, FormUrlencoded.component_plain, FormUrlencoded.parse_append,
  FormUrlencoded.parse_pair
-/
import Mathlib

namespace FormUrlencoded

/-! ### The parser -/

def space : UInt8 := 32
def percent : UInt8 := 37
def ampersand : UInt8 := 38
def plus : UInt8 := 43
def equals : UInt8 := 61

/-- The value of a hexadecimal digit. -/
def hexValue? (b : UInt8) : Option UInt8 :=
  if 48 ≤ b ∧ b ≤ 57 then some (b - 48)
  else if 65 ≤ b ∧ b ≤ 70 then some (b - 55)
  else if 97 ≤ b ∧ b ≤ 102 then some (b - 87)
  else none

def replacePlus (bytes : List UInt8) : List UInt8 :=
  bytes.map fun b => if b = plus then space else b

/-- A percent sign stands for a byte where two hexadecimal digits follow, else for itself. -/
def percentDecode : List UInt8 → List UInt8
  | [] => []
  | [a] => [a]
  | [a, b] => [a, b]
  | a :: b :: c :: rest =>
      match if a = percent then hexValue? b else none, hexValue? c with
      | some high, some low => (high * 16 + low) :: percentDecode rest
      | _, _ => a :: percentDecode (b :: c :: rest)

/-- The bytes of a name or a value. -/
def component (bytes : List UInt8) : List UInt8 := percentDecode (replacePlus bytes)

section Parse

variable {α : Type} (decode : List UInt8 → α)

/-- The first equals sign ends the name. -/
def pair (sequence : List UInt8) : α × α :=
  (decode (component (sequence.takeWhile (· ≠ equals))),
    decode (component (sequence.dropWhile (· ≠ equals)).tail))

/-- The pairs of a query string; nothing between two ampersands is no pair. -/
def parse (query : List UInt8) : List (α × α) :=
  ((query.splitOn ampersand).filter (· ≠ [])).map (pair decode)

end Parse

/-! ### What comes through -/

theorem replacePlus_plain {bytes : List UInt8} (plain : plus ∉ bytes) :
    replacePlus bytes = bytes := by
  have same : ∀ b ∈ bytes, (if b = plus then space else b) = id b := by
    intro b member
    apply if_neg
    rintro rfl
    exact plain member
  rw [replacePlus, List.map_congr_left same, List.map_id]

theorem percentDecode_cons {a : UInt8} (plain : a ≠ percent) (rest : List UInt8) :
    percentDecode (a :: rest) = a :: percentDecode rest := by
  match rest with
  | [] => rfl
  | [_] => rfl
  | _ :: _ :: _ => simp only [percentDecode, if_neg plain]

/-- Bytes without a percent sign stand for themselves. -/
theorem percentDecode_plain {bytes : List UInt8} (plain : percent ∉ bytes) :
    percentDecode bytes = bytes := by
  induction bytes with
  | nil => rfl
  | cons a rest inductionHypothesis =>
      obtain ⟨first, later⟩ := List.ne_and_not_mem_of_not_mem_cons plain
      rw [percentDecode_cons first.symm, inductionHypothesis later]

/-- What has neither a plus nor a percent sign is received as it is. -/
theorem component_plain {bytes : List UInt8} (noPlus : plus ∉ bytes)
    (noPercent : percent ∉ bytes) : component bytes = bytes := by
  rw [component, replacePlus_plain noPlus, percentDecode_plain noPercent]

section Parse

variable {α : Type} (decode : List UInt8 → α)

/-- The pairs on both sides of an ampersand. -/
theorem parse_append (front back : List UInt8) :
    parse decode (front ++ ampersand :: back) = parse decode front ++ parse decode back := by
  rw [parse, List.splitOn_append_cons_self, List.filter_append, List.map_append]
  rfl

/-- A value is all that follows the equals sign of its name. -/
theorem parse_pair {name value : List UInt8} (oneName : ampersand ∉ name)
    (oneValue : ampersand ∉ value) (noEquals : equals ∉ name) :
    parse decode (name ++ equals :: value) =
      [(decode (component name), decode (component value))] := by
  have one : ampersand ∉ name ++ equals :: value := by
    rw [List.mem_append, List.mem_cons, not_or, not_or]
    exact ⟨oneName, by decide, oneValue⟩
  have front : ∀ b ∈ name, decide (b ≠ equals) = true := by
    intro b member
    rw [decide_eq_true_eq]
    rintro rfl
    exact noEquals member
  have full : name ++ equals :: value ≠ [] := by simp
  rw [parse, List.splitOn_eq_singleton one, List.filter_singleton, decide_eq_true full]
  simp only [cond_true, List.map_singleton, pair, List.takeWhile_append_of_pos front,
    List.dropWhile_append_of_pos front]
  simp

end Parse

end FormUrlencoded
