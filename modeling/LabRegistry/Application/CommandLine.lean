import LabRegistry.Application.Error

/-!
# The command line

The arguments choose the form of the output, at most once, and switch the short form and updates
on, as often as they like.
-/
namespace LabRegistry

inductive OutputFormat where
  /-- A document with the snapshot and its fingerprint. -/
  | snapshot
  | print
deriving DecidableEq

def OutputFormat.ofName? (name : String) : Option OutputFormat :=
  if name = "snapshot" then some .snapshot
  else if name = "print" then some .print
  else none

structure RenderOptions where
  format : OutputFormat := .snapshot
  simplify : Bool := false
  update : Bool := false
deriving DecidableEq

namespace RenderOptions

/-- Reads the arguments in order; `formatSeen` tells whether one before chose the format. -/
def readArgs (options : RenderOptions) (formatSeen : Bool) :
    List String → Except AppError RenderOptions
  | [] => .ok options
  | argument :: rest =>
    match OutputFormat.ofName? argument, formatSeen with
    | some format, false => readArgs { options with format } true rest
    | some _, true => .error (.unexpectedArgument argument)
    | none, _ =>
      if argument = "--simplify" then readArgs { options with simplify := true } formatSeen rest
      else if argument = "--update" then readArgs { options with update := true } formatSeen rest
      else .error (.unexpectedArgument argument)

/-- The options that the arguments choose, the name of the program not being one of them. -/
def ofArgs (args : List String) : Except AppError RenderOptions := readArgs {} false args

end RenderOptions
end LabRegistry
