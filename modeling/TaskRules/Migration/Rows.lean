import TaskRules.Migration.State
import TaskRules.Store.Affinity

/-!
Rows as the database keeps them. A column that is left out has its default, or null. Columns that
may not be null have a value, and no two rows agree in a key or in unique columns.
-/

namespace TaskRules.Migration

/-- What a column makes of values of other types. -/
def ColumnType.affinity : ColumnType → Affinity
  | .varchar _ => .text
  | .text => .text
  | _ => .number

/-- The value of a default. -/
def Default.value : Default → Json
  | .text s => .str s
  | .flag b => .bool b

/-- The value of a column in a new row. Of two values that are given for it the first counts. -/
def ColumnLayout.valueIn (c : ColumnLayout) (fields : Json.Fields) : Json :=
  c.type.affinity.kept
    (match fields.find? fun p => sameName p.1 c.name with
      | some p => p.2
      | none => Json.ofOption Default.value c.default)

namespace Stored

/-- The values of columns in a row. -/
def values (columns : List String) (row : Json.Fields) : List Json :=
  columns.map fun c => (Json.Fields.get? row c).getD .null

/-- Whether two rows agree in all of some columns; null agrees with nothing. -/
def agree (columns : List String) (a b : Json.Fields) : Bool :=
  (values columns a).all (!·.isNull) && Json.sameItems (values columns a) (values columns b)

/-- Whether a table has a column of that name. -/
def hasColumn (t : Stored) (name : String) : Bool := t.layout.columnNames.any (sameName name)

/-- The new row that fields give. What is wrong with the statement is noticed first, then what it
cannot hand over, then what the table refuses. -/
def rowOf (t : Stored) (fields : Json.Fields) : Except Fault Json.Fields := do
  if fields.isEmpty || fields.any (fun p => !t.hasColumn p.1) then throw .database
  fields.forM fun p => do let _ ← handedOver p.2
  let row := t.layout.columns.map fun c => (c.name, c.valueIn fields)
  if t.layout.columns.any fun c => !c.nullable && (c.valueIn fields).isNull then throw .constraint
  if t.layout.distinct.any fun columns => t.rows.any (agree columns row) then throw .constraint
  return row

/-- The rows in order of their keys. -/
def ordered (t : Stored) : List Json.Fields :=
  t.rows.mergeSort fun a b =>
    let points (row : Json.Fields) :=
      (values t.layout.key row).map fun v => Text.points v.display.toList
    !decide (points b < points a)

end Stored

namespace State

/-- Adds a row to a table. -/
def insert (s : State) (table : String) (fields : Json.Fields) : Except Fault State :=
  match s.stored? table with
  | none => .error .database
  | some t => do
    let row ← t.rowOf fields
    if sameName table versionTable then
      return { s with version := some (s.versions ++ row.map (·.2.display)) }
    else return s.onTable table fun t => { t with rows := t.rows ++ [row] }

/-- The rows of a table in order. -/
def rows (s : State) (table : String) : Except Fault (List Json.Fields) :=
  match s.stored? table with
  | none => .error .database
  | some t => .ok t.ordered

end State
end TaskRules.Migration
