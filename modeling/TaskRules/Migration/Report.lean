import TaskRules.Migration.Rows

/-!
What a database reports about its tables: columns, keys, indexes, unique constraints and references,
as JSON.
-/

namespace TaskRules.Migration

def names (l : List String) : Json := .arr (l.map .str)

def ColumnLayout.report (c : ColumnLayout) : Json :=
  .arr [.str c.name, .str (c.type.sql .sqlite), .bool c.nullable,
    Json.ofOption (fun d : Default => .str d.sql) c.default]

def Index.report (i : Index) : Json := .arr [.str i.name, names i.columns, .bool i.isUnique]

def Unique.report (u : Unique) : Json := .arr [.str u.name, names u.columns]

def Reference.report (column : String) (r : Reference) : Json :=
  .arr [names [column], .str r.table, names ["id"], if r.cascades then .str "CASCADE" else .null]

/-- The report of a table. -/
def Layout.report (t : Layout) : Json :=
  .obj [("columns", .arr (t.columns.map (·.report))), ("primary_key", names t.key),
    ("indexes", .arr ((t.indexes.mergeSort fun a b => textLe a.name b.name).map (·.report))),
    ("uniques", .arr ((t.uniques.mergeSort fun a b => textLe a.name b.name).map (·.report))),
    ("foreign_keys",
      .arr ((t.references.mergeSort fun a b => textLe a.1 b.1).map fun r => r.2.report r.1))]

/-- The reports of all tables, by name. -/
def State.report (s : State) : Json :=
  .obj (s.tableNames.filterMap fun name => (s.stored? name).map fun t => (name, t.layout.report))

end TaskRules.Migration
