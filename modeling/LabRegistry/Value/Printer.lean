import LabRegistry.Double.Layout
import LabRegistry.Text.Quoted
import LabRegistry.Value.Basic

/-!
# Texts of values

The compact text has no blanks and keeps the order of keys; the indented text puts every item on
a line of its own. `Value.inspect` names the kind of every part.
-/
namespace LabRegistry

/-- The decimal digits of an integer after its minus sign, if it has one. -/
def integerChars (n : Int) : List Char :=
  if n < 0 then '-' :: Nat.toDigits 10 n.natAbs else Nat.toDigits 10 n.natAbs

def Number.toChars : Number → List Char
  | .integer n => integerChars n.val
  | .float x => (Layout.value.finite x).toList

namespace Value

/-- A digit of the base sixteen, in lower case. -/
def hexDigit (n : Nat) : Char := (Nat.toDigits 16 (n % 16)).headD '0'

/-- Quotes, backslashes and controls are escaped; all else stands for itself. -/
def escapeChar (c : Char) : List Char :=
  match c with
  | '"' => ['\\', '"']
  | '\\' => ['\\', '\\']
  | '\x08' => ['\\', 'b']
  | '\t' => ['\\', 't']
  | '\n' => ['\\', 'n']
  | '\x0c' => ['\\', 'f']
  | '\r' => ['\\', 'r']
  | c =>
    if c.toNat < 0x20 then ['\\', 'u', '0', '0', hexDigit (c.toNat / 16), hexDigit c.toNat] else [c]

def stringChars (s : String) : List Char := '"' :: (s.toList.flatMap escapeChar ++ ['"'])

def boolChars (b : Bool) : List Char := if b then "true".toList else "false".toList

/-- The items with a separator between any two. -/
def joinWith (separator : List Char) : List (List Char) → List Char
  | [] => []
  | [item] => item
  | item :: rest => item ++ separator ++ joinWith separator rest

mutual

def compactChars : Value → List Char
  | .null => "null".toList
  | .bool b => boolChars b
  | .number n => n.toChars
  | .string s => stringChars s
  | .array items => '[' :: (joinWith [','] (compactItems items) ++ [']'])
  | .object members => '\x7b' :: (joinWith [','] (compactMembers members) ++ ['\x7d'])

def compactItems : List Value → List (List Char)
  | [] => []
  | item :: rest => compactChars item :: compactItems rest

def compactMembers : List (String × Value) → List (List Char)
  | [] => []
  | (key, value) :: rest => (stringChars key ++ ':' :: compactChars value) :: compactMembers rest

end

def compact (v : Value) : String := String.ofList v.compactChars

/-- A line break and the blanks of one depth, two per level. -/
def lineBreak (depth : Nat) : List Char := '\n' :: List.replicate (2 * depth) ' '

/-- Items between brackets, one on each line; without items the brackets meet. -/
def block (opening closing : Char) (depth : Nat) (items : List (List Char)) : List Char :=
  if items.isEmpty then [opening, closing]
  else
    opening :: (lineBreak (depth + 1) ++ joinWith (',' :: lineBreak (depth + 1)) items
      ++ lineBreak depth ++ [closing])

mutual

def indentedChars (depth : Nat) : Value → List Char
  | .null => "null".toList
  | .bool b => boolChars b
  | .number n => n.toChars
  | .string s => stringChars s
  | .array items => block '[' ']' depth (indentedItems (depth + 1) items)
  | .object members => block '\x7b' '\x7d' depth (indentedMembers (depth + 1) members)

def indentedItems (depth : Nat) : List Value → List (List Char)
  | [] => []
  | item :: rest => indentedChars depth item :: indentedItems depth rest

def indentedMembers (depth : Nat) : List (String × Value) → List (List Char)
  | [] => []
  | (key, value) :: rest =>
    (stringChars key ++ ':' :: ' ' :: indentedChars depth value) :: indentedMembers depth rest

end

/-- The text of a value with two blanks of indentation per level. -/
def indented (v : Value) : String := String.ofList (v.indentedChars 0)

mutual

/-- The text that names the kind of every part. -/
def inspect : Value → String
  | .null => "Null"
  | .bool b => "Bool(" ++ String.ofList (boolChars b) ++ ")"
  | .number n => "Number(" ++ String.ofList n.toChars ++ ")"
  | .string s => "String(" ++ Text.quoted s ++ ")"
  | .array items => "Array [" ++ ", ".intercalate (inspectItems items) ++ "]"
  | .object members => "Object \x7b" ++ ", ".intercalate (inspectMembers members) ++ "\x7d"

def inspectItems : List Value → List String
  | [] => []
  | item :: rest => inspect item :: inspectItems rest

def inspectMembers : List (String × Value) → List String
  | [] => []
  | (key, value) :: rest => (Text.quoted key ++ ": " ++ inspect value) :: inspectMembers rest

end

end Value
end LabRegistry
