import LabRegistry.Text.Uppercase

/-!
# Labels made from names

A name such as `t_start` is shown as `T Start`.
-/
namespace LabRegistry.Text

def capitalize (word : String) : String :=
  match word.toList with
  | [] => ""
  | first :: rest => String.ofList (upper first ++ rest)

/-- The words between underscores, capitalized and parted by spaces; empty words are dropped. -/
def titleLabel (name : String) : String :=
  " ".intercalate (((name.splitOn "_").filter (!·.isEmpty)).map capitalize)

end LabRegistry.Text
