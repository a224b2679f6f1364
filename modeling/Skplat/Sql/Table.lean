import Skplat.Sql.Template

/-!
# Rows of a table

An `insert` statement names columns and gives values for them, the other columns get their
defaults.  A `select` statement gives the values of the columns it names, in its order.
The values of a statement that was made from a format string are the arguments, and a
bound value stands for a question mark.
-/

namespace Skplat
namespace Sql

/-- A value of SQLite. -/
inductive Value
  | null
  | integer (value : Int)
  | text (bytes : List UInt8)
  | blob (bytes : List UInt8)
  deriving DecidableEq, Repr

/-- The values that a part of a formatted text gives. -/
def Piece.values (bound : Value) : Piece → List Value
  | .text bytes => if 63 ∈ bytes then [bound] else []
  | .literal value => [.text value]
  | .number value => [.integer value]

/-- The values of a statement. -/
def Template.values (template : Template) (bound : Value) : List Value :=
  template.pieces.flatMap (Piece.values bound)

section Rows

variable {Column : Type*}

/-- The row that an `insert` statement adds. -/
def insertRow [DecidableEq Column] (defaults : Column → Value) (columns : List Column)
    (values : List Value) : Column → Value :=
  fun column => ((columns.zip values).lookup column).getD (defaults column)

/-- What a `select` statement gives for the rows that meet a condition. -/
def selectRows (columns : List Column) (condition : (Column → Value) → Bool)
    (table : List (Column → Value)) : List (List Value) :=
  (table.filter condition).map fun row => columns.map row

/-- A row that was added comes last. -/
theorem selectRows_concat
    {columns : List Column} {condition : (Column → Value) → Bool}
    {table : List (Column → Value)} {row : Column → Value}
    (meets : condition row = true) :
    selectRows columns condition (table ++ [row]) =
      selectRows columns condition table ++ [columns.map row] := by
  simp [selectRows, List.filter_append, meets]

/-- A formatted `insert` statement adds its row.  What SQLite does with a text that reads
otherwise is left open. -/
def runInsert [DecidableEq Column]
    (otherwise : List (List Elem) → List (Column → Value) → List (Column → Value))
    (defaults : Column → Value) (columns : List Column) (template : Template) (size : ℕ)
    (bound : Value) (table : List (Column → Value)) : List (Column → Value) :=
  if statements (template.text size) = [template.statement] then
    table ++ [insertRow defaults columns (template.values bound)]
  else otherwise (statements (template.text size)) table

/-- The row of a statement that fits and has no quotes in its strings. -/
theorem runInsert_of_fits [DecidableEq Column]
    {otherwise : List (List Elem) → List (Column → Value) → List (Column → Value)}
    {defaults : Column → Value} {columns : List Column} {template : Template} {size : ℕ}
    {bound : Value} {table : List (Column → Value)}
    (positive : 0 < size)
    (quoteFree : QuoteFree template.pieces)
    (fits : template.core.length ≤ size) :
    runInsert otherwise defaults columns template size bound table =
      table ++ [insertRow defaults columns (template.values bound)] :=
  if_pos ((template.statements_text_iff positive).mpr ⟨quoteFree, fits⟩)

end Rows

end Sql
end Skplat
