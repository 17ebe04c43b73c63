import DualMode.Text.Quoted

/-! Mapped columns, qualified by their table. -/

namespace DualMode

structure Column where
  table : String
  name : String
  deriving DecidableEq

namespace Column

/-- The same column seen through another table name or alias. -/
def requalified (c : Column) (table : String) : Column := { c with table := table }

@[simp] theorem requalified_table (c : Column) (t : String) : (c.requalified t).table = t := rfl
@[simp] theorem requalified_name (c : Column) (t : String) : (c.requalified t).name = c.name := rfl

def inspect (c : Column) : String :=
  "MappedColumn \x7b table: " ++ Text.quoted c.table ++ ", name: " ++ Text.quoted c.name ++ " \x7d"

end Column
end DualMode
