import LabRegistry.Registry.Access
import LabRegistry.Text.Blank

/-!
# Readable tables

A table shows a node and then everything that it holds: a title, a header, a ruler and a row per
parameter with its value and unit. Rows that are too wide are cut. Tables are for reading only.
-/
namespace LabRegistry.Table

def nameColumnLimit : Nat := 50

def padRight (width : Nat) (text : String) : String :=
  text ++ String.ofList (List.replicate (width - text.length) ' ')

/-- Strings are shown as they are and no value as `None`. -/
def showValue : Value → String
  | .string s => s
  | .null => "None"
  | v => v.compact

/-- A row cut to the width, with dots at its end; below three characters nothing is cut. -/
def truncate (width : Nat) (row : String) : String :=
  if row.length ≤ width ∨ width < 3 then row
  else String.ofList (row.toList.take (width - 3) ++ ['.', '.', '.'])

def nameColumn (names : List String) : Nat :=
  min (names.foldl (fun widest name => max widest (name.length + 1)) 0) nameColumnLimit

def header (title : String) (column width : Nat) : String :=
  title ++ ":\n" ++ padRight column "\tparameter " ++ "value\n" ++
    String.ofList (List.replicate width '-') ++ "\n"

/-- One parameter as a row, without blanks at its end and cut to the width. -/
def row (column width : Nat) (name : String) (param : Parameter) : String :=
  let shown := if param.inSnapshot then showValue param.value else "Not available"
  let unit := match param.unit with
    | some unit => "(" ++ unit ++ ")"
    | none => ""
  let full := padRight column name ++ ":\t" ++ shown ++ " " ++ unit
  truncate width (String.ofList (Text.trimRight full.toList))

end LabRegistry.Table

namespace LabRegistry.NodeId

/-- The row of a parameter, which is got first if the table updates and its value is shown. -/
def tableRow (update : Bool) (column width : Nat) (name : String) (p : ParamId) :
    Act RegistryError String := do
  p.refreshShown update
  return Table.row column width name (← p.state) ++ "\n"

/-- The table of a node and what it holds, at most `depth` levels deep. -/
def tableWithin (update : Bool) (width : Nat) : Nat → NodeId → Act RegistryError String
  | 0, _ => throw .endless
  | depth + 1, n => do
    let node ← n.state
    let column := Table.nameColumn node.parameters.keys
    let header := Table.header (← n.displayName) column width
    let rows ← node.parameters.entries.mapM fun (name, p) => tableRow update column width name p
    let below ← node.held.mapM (tableWithin update width depth)
    return header ++ String.join rows ++ String.join below

/-- The table of a node and what it holds; rows wider than `width` are cut. -/
def table (n : NodeId) (update : Bool) (width : Nat) : Act RegistryError String := do
  tableWithin update width ((← Act.registry).nodes.size + 1) n

end LabRegistry.NodeId
