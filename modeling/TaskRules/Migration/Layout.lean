import TaskRules.Number.Written
import TaskRules.Text.Blank

/-!
Layouts of tables: columns with their types and defaults, the primary key, unique constraints,
references to other tables and indexes. Statements create and remove tables and indexes; each has a
text in the two dialects of SQL that are in use.
-/

namespace TaskRules.Migration

inductive Dialect where
  | sqlite
  | postgresql
  deriving DecidableEq

inductive ColumnType where
  | varchar (length : Nat)
  | text
  | integer
  | boolean
  | datetime
  | json
  /-- JSON in the binary form of a database that has one. -/
  | binaryJson
  deriving DecidableEq

/-- The name of a type. -/
def ColumnType.sql (dialect : Dialect) : ColumnType → String
  | .varchar length => "VARCHAR(" ++ decimal length ++ ")"
  | .text => "TEXT"
  | .integer => "INTEGER"
  | .boolean => "BOOLEAN"
  | .datetime => if dialect = .sqlite then "DATETIME" else "TIMESTAMP WITH TIME ZONE"
  | .json => "JSON"
  | .binaryJson => if dialect = .sqlite then "JSON" else "JSONB"

/-- The value of a column that a new row leaves out. -/
inductive Default where
  | text (s : String)
  | flag (b : Bool)
  deriving DecidableEq

/-- A default as it is written: a text in quotes, a flag as a word. -/
def Default.sql : Default → String
  | .text s => "'" ++ s ++ "'"
  | .flag b => if b then "true" else "false"

/-- A reference to the id of another table's row. -/
structure Reference where
  table : String
  /-- Whether the row goes when the other one does. -/
  cascades : Bool
  deriving DecidableEq

structure ColumnLayout where
  name : String
  type : ColumnType
  nullable : Bool := false
  default : Option Default := none
  reference : Option Reference := none
  deriving DecidableEq

structure Unique where
  name : String
  columns : List String
  deriving DecidableEq

structure Index where
  name : String
  columns : List String
  isUnique : Bool := false
  deriving DecidableEq

structure Layout where
  name : String
  columns : List ColumnLayout
  key : List String
  /-- The name of the key's constraint, if it has one. -/
  keyName : Option String := none
  uniques : List Unique := []
  indexes : List Index := []
  deriving DecidableEq

namespace Layout

def columnNames (t : Layout) : List String := t.columns.map (·.name)

/-- The columns that refer to other tables, in order. -/
def references (t : Layout) : List (String × Reference) :=
  t.columns.filterMap fun c => c.reference.map fun r => (c.name, r)

/-- The lists of columns in which no two rows agree. -/
def distinct (t : Layout) : List (List String) :=
  t.key :: (t.uniques.map (·.columns) ++ (t.indexes.filter (·.isUnique)).map (·.columns))

/-- The layout with no value for columns that are left out. -/
def withoutDefaults (t : Layout) : Layout :=
  { t with columns := t.columns.map fun c => { c with default := none } }

end Layout

inductive Statement where
  | createTable (t : Layout)
  | createIndex (table : String) (i : Index)
  | dropIndex (name : String)
  | dropTable (name : String)

/-! ## SQL -/

def list (names : List String) : String := "(" ++ Text.join ", " names ++ ")"

def ColumnLayout.sql (d : Dialect) (c : ColumnLayout) : String :=
  c.name ++ " " ++ c.type.sql d ++
    (match c.default with
      | some v => " DEFAULT " ++ v.sql
      | none => "") ++
    (if c.nullable then "" else " NOT NULL")

def Unique.sql (u : Unique) : String := "CONSTRAINT " ++ u.name ++ " UNIQUE " ++ list u.columns

def Reference.sql (column : String) (r : Reference) : String :=
  "FOREIGN KEY(" ++ column ++ ") REFERENCES " ++ r.table ++ " (id)" ++
    (if r.cascades then " ON DELETE CASCADE" else "")

def Layout.keySql (t : Layout) : String :=
  (match t.keyName with
    | some name => "CONSTRAINT " ++ name ++ " "
    | none => "") ++ "PRIMARY KEY " ++ list t.key

def Layout.sql (d : Dialect) (t : Layout) : String :=
  "CREATE TABLE " ++ t.name ++ " ( " ++
    Text.join ", " (t.columns.map (·.sql d) ++ [t.keySql] ++
      t.uniques.map (·.sql) ++ t.references.map fun r => r.2.sql r.1) ++
    " )"

def Index.sql (table : String) (i : Index) : String :=
  (if i.isUnique then "CREATE UNIQUE INDEX " else "CREATE INDEX ") ++ i.name ++ " ON " ++ table ++
    " " ++ list i.columns

def Statement.sql (d : Dialect) : Statement → String
  | .createTable t => t.sql d
  | .createIndex table i => i.sql table
  | .dropIndex name => "DROP INDEX " ++ name
  | .dropTable name => "DROP TABLE " ++ name

/-! ## Creating and removing -/

/-- The statements that create a table and its indexes. -/
def Layout.creation (t : Layout) : List Statement :=
  .createTable { t with indexes := [] } :: t.indexes.map (.createIndex t.name)

/-- The statements that remove what `creation` creates, the last created first. -/
def Layout.removal (t : Layout) : List Statement :=
  (t.indexes.reverse.map fun i => .dropIndex i.name) ++ [.dropTable t.name]

end TaskRules.Migration
