import LabRegistry.Text.Invisible

/-!
# Quoted strings in inspection texts

Quotes and backslashes are escaped, the usual controls have short forms, and every other
character that cannot be shown is written by its code point in braces.
-/
namespace LabRegistry.Text

def escapeChar (c : Char) : List Char :=
  match c with
  | '"' => ['\\', '"']
  | '\\' => ['\\', '\\']
  | '\n' => ['\\', 'n']
  | '\r' => ['\\', 'r']
  | '\t' => ['\\', 't']
  | '\x00' => ['\\', '0']
  | c =>
    if isInvisible c then ['\\', 'u', '\x7b'] ++ Nat.toDigits 16 c.toNat ++ ['\x7d'] else [c]

def quoted (s : String) : String :=
  String.ofList ('"' :: (s.toList.flatMap escapeChar ++ ['"']))

/-- An optional part: `Some(…)` or `None`. -/
def inspectOption {α : Type} (inspect : α → String) : Option α → String
  | some x => "Some(" ++ inspect x ++ ")"
  | none => "None"

/-- A list between brackets, its items parted by commas. -/
def inspectList {α : Type} (inspect : α → String) (items : List α) : String :=
  "[" ++ ", ".intercalate (items.map inspect) ++ "]"

end LabRegistry.Text
