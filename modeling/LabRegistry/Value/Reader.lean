import LabRegistry.Text.Blank
import LabRegistry.Value.Basic

/-!
# Reading values

`Value.read?` reads a JSON text. A number literal without fraction and exponent is an integer if
one of the ranges of `Integer` holds it, except that `-0` is the negative zero; every other
literal is the nearest double and has to be finite. A key that occurs twice keeps its first
place and its last value. Every reading function gives its result with the characters after it.
-/
namespace LabRegistry.Value.Reader

def isSpace (c : Char) : Bool := c == ' ' || c == '\t' || c == '\n' || c == '\r'

def skipSpace (chars : List Char) : List Char := chars.dropWhile isSpace

def digitsValue (digits : List Char) : Nat :=
  digits.foldl (fun total c => 10 * total + (c.toNat - '0'.toNat)) 0

/-- At least one digit. -/
def digits (chars : List Char) : Option (List Char × List Char) :=
  match chars.takeWhile Char.isDigit with
  | [] => none
  | found => some (found, chars.dropWhile Char.isDigit)

/-- The digits of a whole number: a leading zero stands alone. -/
def wholeDigits (chars : List Char) : Option (List Char × List Char) :=
  match chars with
  | '0' :: rest => if rest.head?.any Char.isDigit then none else some (['0'], rest)
  | _ => digits chars

/-- The digits after a point, none if there is no point. -/
def fraction (chars : List Char) : Option (Option (List Char) × List Char) :=
  match chars with
  | '.' :: rest => (digits rest).map fun (found, rest) => (some found, rest)
  | _ => some (none, chars)

def exponent (chars : List Char) : Option (Option Int × List Char) :=
  let signed (rest : List Char) : Option (Option Int × List Char) :=
    match rest with
    | '-' :: rest => (digits rest).map fun (found, rest) => (some (-(digitsValue found)), rest)
    | '+' :: rest => (digits rest).map fun (found, rest) => (some (digitsValue found), rest)
    | rest => (digits rest).map fun (found, rest) => (some (digitsValue found), rest)
  match chars with
  | 'e' :: rest => signed rest
  | 'E' :: rest => signed rest
  | _ => some (none, chars)

/-- The double of a literal; exponents far outside the range are cut before the power is taken. -/
def literalDouble (negative : Bool) (digits : List Char) (scale : Int) : Option FiniteDouble :=
  let value := digitsValue digits
  if value = 0 then some ⟨negative, .zero⟩
  else
    let first := scale + digits.length
    if first < -400 then some ⟨negative, .zero⟩
    else if first > 1000 + digits.length then none
    else (Double.ofDecimal negative value scale).finite?

def literalNumber (negative : Bool) (whole : List Char) (fraction : Option (List Char))
    (exponent : Option Int) : Option Number :=
  let asDouble := (literalDouble negative (whole ++ fraction.getD [])
    (exponent.getD 0 - (fraction.getD []).length)).map Number.float
  match fraction, exponent with
  | none, none =>
    let value : Int := digitsValue whole
    if negative && value == 0 then asDouble
    else match Integer.ofInt? (if negative then -value else value) with
      | some n => some (.integer n)
      | none => asDouble
  | _, _ => asDouble

def number (chars : List Char) : Option (Number × List Char) := do
  let (negative, rest) := match chars with
    | '-' :: rest => (true, rest)
    | rest => (false, rest)
  let (whole, rest) ← wholeDigits rest
  let (fraction, rest) ← fraction rest
  let (exponent, rest) ← exponent rest
  return (← literalNumber negative whole fraction exponent, rest)

def hexValue? (c : Char) : Option Nat :=
  if c.isDigit then some (c.toNat - '0'.toNat)
  else if 'a' ≤ c ∧ c ≤ 'f' then some (c.toNat - 'a'.toNat + 10)
  else if 'A' ≤ c ∧ c ≤ 'F' then some (c.toNat - 'A'.toNat + 10)
  else none

/-- The four hexadecimal digits of an escaped code unit. -/
def codeUnit (chars : List Char) : Option (Nat × List Char) :=
  match chars with
  | a :: b :: c :: d :: rest => do
    let a ← hexValue? a
    let b ← hexValue? b
    let c ← hexValue? c
    let d ← hexValue? d
    return (((a * 16 + b) * 16 + c) * 16 + d, rest)
  | _ => none

/-- The character of an escaped code unit, which may be the first of a surrogate pair. -/
def escapedCode (chars : List Char) : Option (Char × List Char) := do
  let (high, rest) ← codeUnit chars
  if 0xD800 ≤ high ∧ high < 0xDC00 then
    match rest with
    | '\\' :: 'u' :: rest =>
      let (low, rest) ← codeUnit rest
      if 0xDC00 ≤ low ∧ low < 0xE000 then
        return (Char.ofNat (0x10000 + (high - 0xD800) * 0x400 + (low - 0xDC00)), rest)
      else none
    | _ => none
  else if 0xDC00 ≤ high ∧ high < 0xE000 then none
  else return (Char.ofNat high, rest)

def escaped (chars : List Char) : Option (Char × List Char) :=
  match chars with
  | '"' :: rest => some ('"', rest)
  | '\\' :: rest => some ('\\', rest)
  | '/' :: rest => some ('/', rest)
  | 'b' :: rest => some ('\x08', rest)
  | 'f' :: rest => some ('\x0c', rest)
  | 'n' :: rest => some ('\n', rest)
  | 'r' :: rest => some ('\r', rest)
  | 't' :: rest => some ('\t', rest)
  | 'u' :: rest => escapedCode rest
  | _ => none

/-- The rest of a string after its opening quote; `fuel` bounds its length. -/
def stringRest : Nat → List Char → List Char → Option (String × List Char)
  | 0, _, _ => none
  | fuel + 1, found, chars =>
    match chars with
    | [] => none
    | '"' :: rest => some (String.ofList found.reverse, rest)
    | '\\' :: rest =>
      match escaped rest with
      | some (c, rest) => stringRest fuel (c :: found) rest
      | none => none
    | c :: rest => if c.toNat < 0x20 then none else stringRest fuel (c :: found) rest

def string (chars : List Char) : Option (String × List Char) := stringRest (chars.length + 1) [] chars

def word (text : String) (value : Value) (chars : List Char) : Option (Value × List Char) :=
  if text.toList.isPrefixOf chars then some (value, chars.drop text.length) else none

mutual

/-- A value; `fuel` bounds the characters it may take. -/
def value : Nat → List Char → Option (Value × List Char)
  | 0, _ => none
  | fuel + 1, chars =>
    match skipSpace chars with
    | '"' :: rest => (string rest).map fun (s, rest) => (.string s, rest)
    | '[' :: rest =>
      match skipSpace rest with
      | ']' :: rest => some (.array [], rest)
      | rest => items fuel [] rest
    | '\x7b' :: rest =>
      match skipSpace rest with
      | '\x7d' :: rest => some (.object [], rest)
      | rest => members fuel [] rest
    | 'n' :: rest => word "ull" .null rest
    | 't' :: rest => word "rue" (.bool true) rest
    | 'f' :: rest => word "alse" (.bool false) rest
    | rest => (number rest).map fun (n, rest) => (.number n, rest)

/-- The items of an array up to its closing bracket, `found` being those before in reverse. -/
def items : Nat → List Value → List Char → Option (Value × List Char)
  | 0, _, _ => none
  | fuel + 1, found, chars =>
    match value fuel chars with
    | none => none
    | some (item, rest) =>
      match skipSpace rest with
      | ',' :: rest => items fuel (item :: found) rest
      | ']' :: rest => some (.array (item :: found).reverse, rest)
      | _ => none

/-- The members of an object up to its closing brace, after those in `found`. -/
def members : Nat → List (String × Value) → List Char → Option (Value × List Char)
  | 0, _, _ => none
  | fuel + 1, found, chars =>
    match skipSpace chars with
    | '"' :: rest =>
      match string rest with
      | none => none
      | some (key, rest) =>
        match skipSpace rest with
        | ':' :: rest =>
          match value fuel rest with
          | none => none
          | some (member, rest) =>
            match skipSpace rest with
            | ',' :: rest => members fuel (Entries.insert key member found) rest
            | '\x7d' :: rest => some (.object (Entries.insert key member found), rest)
            | _ => none
        | _ => none
    | _ => none

end

end Reader

def read? (text : String) : Option Value :=
  let chars := text.toList
  match Reader.value (chars.length + 1) chars with
  | some (v, rest) => if (Reader.skipSpace rest).isEmpty then some v else none
  | none => none

end LabRegistry.Value
