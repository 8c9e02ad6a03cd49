import TaskRules.Store.Calls

/-!
The tables by name: adding one row given as JSON, and listing all rows in order of their keys.
-/

namespace TaskRules

namespace Table

/-- The kind of id of the table's rows; link tables have none. -/
def idKind? : Table → Option IdKind
  | .users => some .user
  | .projects => some .project
  | .statuses => some .status
  | .labels => some .label
  | .tasks => some .task
  | .assignments => none
  | .taggings => none
  | .comments => some .comment
  | .notifications => some .notification
  | .rules => some .rule
  | .executions => some .execution

end Table

namespace Store

/-- The row that what the columns keep gives, added to the database. -/
def insertKept (table : Table) (f : Json.Fields) (db : Database) (now : Moment) (id : String) :
    Except Fault (Json.Fields × Database) :=
  match table with
  | .users => do
    let row ← rowOrFault (User.ofFields? f id now)
    return (row.toFields, { db with users := ← addRow User.clashes db.users row })
  | .projects => do
    let row ← rowOrFault (Project.ofFields? f id now)
    return (row.toFields, { db with projects := ← addRow Project.clashes db.projects row })
  | .statuses => do
    let row ← rowOrFault (Status.ofFields? f id now)
    return (row.toFields, { db with statuses := ← addRow Status.clashes db.statuses row })
  | .labels => do
    let row ← rowOrFault (Label.ofFields? f id now)
    return (row.toFields, { db with labels := ← addRow Label.clashes db.labels row })
  | .tasks => do
    let row ← rowOrFault (Task.ofFields? f id now)
    return (row.toFields, { db with tasks := ← addRow Task.clashes db.tasks row })
  | .assignments => do
    let row ← rowOrFault (Assignment.ofFields? f id now)
    return (row.toFields,
      { db with assignments := ← addRow Assignment.clashes db.assignments row })
  | .taggings => do
    let row ← rowOrFault (Tagging.ofFields? f id now)
    return (row.toFields, { db with taggings := ← addRow Tagging.clashes db.taggings row })
  | .comments => do
    let row ← rowOrFault (Comment.ofFields? f id now)
    return (row.toFields, { db with comments := ← addRow Comment.clashes db.comments row })
  | .notifications => do
    let row ← rowOrFault (Notification.ofFields? f id now)
    return (row.toFields,
      { db with notifications := ← addRow Notification.clashes db.notifications row })
  | .rules => do
    let row ← rowOrFault (StoredRule.ofFields? f id now)
    return (row.toFields, { db with rules := ← addRow StoredRule.clashes db.rules row })
  | .executions => do
    let row ← rowOrFault (Execution.ofFields? f id now)
    return (row.toFields, { db with executions := ← addRow Execution.clashes db.executions row })

/-- The row of a table that JSON fields give, added to the database. -/
def insertFields (table : Table) (f : Json.Fields) (db : Database) (now : Moment) (id : String) :
    Except Fault (Json.Fields × Database) := do
  insertKept table (← table.keep f) db now id

/-- Names that rows have besides their columns; they may be given and change nothing. -/
def passedOver : List String := ["metadata", "registry"]

/-- Adds a row given as JSON. Texts of moments are read before anything else; then a field that is
no column is refused. -/
def insertRow (table : Table) (f : Json.Fields) : Run Store Json := do
  Run.ofExcept (Column.checkMoments table.moments f)
  match f.find? fun p => !table.hasColumn p.1 && !passedOver.contains p.1 with
  | some p =>
    .raise (.ofForeign .type (Json.quotedText p.1 ++ " is an invalid keyword argument for " ++
      table.rowName))
  | none => do
    let fields ←
      match table.idKind? with
      | some kind => insert kind (Column.value f "id").isNull (insertFields table f)
      | none => mutate (insertFields table f · · "")
    return .obj fields

/-- Sets columns of a record. Records are only ever added, so this is refused, under the id that the
record would then have; fields that are no columns change nothing. -/
def amendRecord (id : Json) (changes : Json.Fields) : Run Store Json := do
  match ← query fun db => do return (← Column.key? id).bind db.execution?, changes with
  | none, [] => return .null
  | none, (name, _) :: _ =>
    .raise (.lacks .null name)
  | some e, changes =>
    if changes.any fun p => Table.executions.hasColumn p.1 then
      .raise (.ofForeign .runtime ("rule_executions is append-only; refusing to update " ++
        ((Json.Fields.get? changes "id").getD (.str e.id)).display))
    else return .obj e.toFields

/-- The rows of a table, each with its key. -/
def keyedRows (db : Database) : Table → List (List String × Json.Fields)
  | .users => db.users.map fun r => ([r.id], r.toFields)
  | .projects => db.projects.map fun r => ([r.id], r.toFields)
  | .statuses => db.statuses.map fun r => ([r.id], r.toFields)
  | .labels => db.labels.map fun r => ([r.id], r.toFields)
  | .tasks => db.tasks.map fun r => ([r.id], r.toFields)
  | .assignments => db.assignments.map fun r => ([r.taskId, r.userId], r.toFields)
  | .taggings => db.taggings.map fun r => ([r.taskId, r.labelId], r.toFields)
  | .comments => db.comments.map fun r => ([r.id], r.toFields)
  | .notifications => db.notifications.map fun r => ([r.id], r.toFields)
  | .rules => db.rules.map fun r => ([r.rule.id], r.toFields)
  | .executions => db.executions.map fun r => ([r.id], r.toFields)

/-- The order of keys, by their texts. -/
def keyBefore (a b : List String) : Bool :=
  let points (key : List String) := key.map fun s => Text.points s.toList
  decide (points a < points b)

/-- All rows of a table in order of their keys. -/
def allRows (table : Table) : Run Store Json :=
  query fun db =>
    .ok (.arr (((keyedRows db table).mergeSort fun a b => !keyBefore b.1 a.1).map
      fun p => .obj p.2))

end Store
end TaskRules
