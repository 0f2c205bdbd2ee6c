/-
# FrontEnd.Toml.Number — TOML integers and floats.

Digits may be set apart by single underscores.  Integers fit 64 bits with a sign; decimal ones
have no leading zeros, and those in other bases no sign.  A float with an integral part, a
fraction, an exponent or both has to be finite when read as a double, unless it is negative.
-/
import FrontEnd.Toml.Text
import FrontEnd.Toml.Value

namespace FrontEnd.Toml.Number

open Reader

/-- Digits of a class with single underscores between them, which are left out. -/
def digits (p : Char → Bool) : Reader (List Char) := do
  let first ← satisfy p
  let more ← many (satisfy p <|> (do char '_'; satisfy p))
  return first :: more

/-- An integer of 64 bits with a sign. -/
def bounded (n : Int) : Reader Item :=
  if -9223372036854775808 ≤ n ∧ n ≤ 9223372036854775807 then pure (.integer n) else failure

/-- An integer in a base other than ten, behind its mark. -/
def inBase (mark : Char) (base : Nat) (p : Char → Bool) : Reader Item := do
  word ['0', mark]
  bounded (Text.number base (← digits p))

/-- A sign, if there is one, and whether it is a minus. -/
def sign : Reader Bool :=
  (do char '-'; return true) <|> (do char '+'; return false) <|> pure false

/-- The integral part of a decimal number: a zero alone, or digits that start with another. -/
def integral : Reader (List Char) :=
  (do
    char '0'
    return ['0']) <|> digits Char.isDigit

/-- The digits behind a point. -/
def fraction : Reader (List Char) := do
  char '.'
  digits Char.isDigit

/-- The power of ten behind an exponent mark. -/
def exponent : Reader Int := do
  discard (satisfy fun c => c == 'e' || c == 'E')
  let negative ← sign
  let n := Text.number 10 (← digits Char.isDigit)
  return if negative then -(n : Int) else n

/-- The least number that is nearer to 2¹⁰²⁴ than to the greatest finite double. -/
def overflow : Nat := Nat.pow 2 1024 - Nat.pow 2 970

/-- Whether `m` times ten to the power `e` rounds to a finite double.  The number of digits alone
decides unless the number is close to the limit. -/
def isFinite (m : Nat) (e : Int) : Bool :=
  if m = 0 then true
  else
    let size : Int := (Nat.toDigits 10 m).length + e
    if size < 300 then true
    else if size > 320 then false
    else m * Nat.pow 10 e.toNat < overflow * Nat.pow 10 (-e).toNat

/-- A decimal number; a fraction or an exponent makes it a float. -/
def decimal : Reader Item := do
  let negative ← sign
  let whole ← integral
  let part ← maybe fraction
  let power ← maybe exponent
  match part, power with
  | none, none =>
    let n := Text.number 10 whole
    bounded (if negative then -(n : Int) else n)
  | _, _ =>
    let places := part.getD []
    let digits := Text.number 10 (whole ++ places)
    let exponent := power.getD 0 - places.length
    if negative ∨ isFinite digits exponent then
      return .float (.decimal negative digits exponent)
    else failure

/-- Infinity or no number at all, with or without a sign. -/
def special : Reader Item := do
  let negative ← sign
  (do
    word ['i', 'n', 'f']
    return .float (.infinity negative)) <|>
  (do
    word ['n', 'a', 'n']
    return .float (.notANumber negative))

/-- Any number. -/
def number : Reader Item :=
  inBase 'x' 16 Text.isHexDigit <|> inBase 'o' 8 (fun c => '0' ≤ c && c ≤ '7') <|>
    inBase 'b' 2 (fun c => c == '0' || c == '1') <|> decimal <|> special

end FrontEnd.Toml.Number
