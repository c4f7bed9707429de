import LabRegistry.Value.Printer

/-!
# Canonical texts

The canonical text of a value is its compact text with the members of every object in ascending
order of their keys, so it does not depend on the order in which they were inserted.
-/
namespace LabRegistry.Value

/-- Members in ascending order of their keys, by code points. -/
def sortByKey {α : Type} (members : List (String × α)) : List (String × α) :=
  members.mergeSort fun a b => a.1 ≤ b.1

mutual

def canonicalChars : Value → List Char
  | .null => "null".toList
  | .bool b => boolChars b
  | .number n => n.toChars
  | .string s => stringChars s
  | .array items => '[' :: (joinWith [','] (canonicalItems items) ++ [']'])
  | .object members =>
    let texts := (sortByKey (canonicalMembers members)).map fun (key, text) =>
      stringChars key ++ ':' :: text
    '\x7b' :: (joinWith [','] texts ++ ['\x7d'])

def canonicalItems : List Value → List (List Char)
  | [] => []
  | item :: rest => canonicalChars item :: canonicalItems rest

def canonicalMembers : List (String × Value) → List (String × List Char)
  | [] => []
  | (key, value) :: rest => (key, canonicalChars value) :: canonicalMembers rest

end

def canonical (v : Value) : String := String.ofList v.canonicalChars

end LabRegistry.Value
