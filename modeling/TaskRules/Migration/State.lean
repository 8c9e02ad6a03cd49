import TaskRules.Migration.Revision
import TaskRules.Run
import TaskRules.Store.Database

/-!
What a database holds: tables with their rows and, in a table of its own, the revision it is at.
Creating what is there already fails, and so does removing what is not there; creating all tables
adds those that are missing and leaves the others alone. In names the case of ASCII letters does not
count.
-/

namespace TaskRules.Migration

/-- Whether two names are of one thing. -/
def sameName (a b : String) : Bool := a.toList.map Char.toLower == b.toList.map Char.toLower

structure Stored where
  layout : Layout
  rows : List Json.Fields := []

structure State where
  tables : List Stored := []
  /-- The revisions the database is at; `none` without the table of revisions. -/
  version : Option (List String) := none

namespace State

def versionTable : String := "alembic_version"

def versionColumn : String := "version_num"

/-- The table of revisions. -/
def versionLayout : Layout :=
  { name := versionTable
    columns := [textColumn versionColumn 32]
    key := [versionColumn]
    keyName := some "alembic_version_pkc" }

/-- Whether there is a table of that name, the table of revisions apart. -/
def has (s : State) (name : String) : Bool := s.tables.any fun t => sameName t.layout.name name

def hasIndex (s : State) (name : String) : Bool :=
  s.tables.any fun t => t.layout.indexes.any (·.name == name)

/-- The state with one table changed. -/
def onTable (s : State) (name : String) (f : Stored → Stored) : State :=
  { s with tables := s.tables.map fun t => if sameName t.layout.name name then f t else t }

def addIndex (i : Index) (t : Stored) : Stored :=
  { t with layout := { t.layout with indexes := t.layout.indexes ++ [i] } }

def removeIndex (name : String) (t : Stored) : Stored :=
  { t with layout := { t.layout with indexes := t.layout.indexes.filter (·.name != name) } }

/-- The state after a statement. -/
def apply (s : State) : Statement → Except Fault State
  | .createTable t =>
    if s.has t.name then .error .database else .ok { s with tables := s.tables ++ [⟨t, []⟩] }
  | .createIndex table i =>
    if s.hasIndex i.name || !s.has table then .error .database
    else .ok (s.onTable table (addIndex i))
  | .dropIndex name =>
    if s.hasIndex name then .ok { s with tables := s.tables.map (removeIndex name) }
    else .error .database
  | .dropTable name =>
    if s.has name then
      .ok { s with tables := s.tables.filter fun t => !sameName t.layout.name name }
    else .error .database

/-- A change of the state that may fail, and then changes nothing. -/
def changing (f : State → Except Fault State) : Run State Unit := fun s =>
  match f s with
  | .ok s => (.ok (), s)
  | .error e => (.error e, s)

/-- Statements one after the other. Those before a failing one have their effect. -/
def run : List Statement → Run State Unit
  | [] => .done ()
  | q :: rest => do
    changing (·.apply q)
    run rest

/-- A table and its indexes, unless there is a table of that name. The new table has no defaults. -/
def createMissing (s : State) (t : Layout) : State :=
  if s.has t.name then s else { s with tables := s.tables ++ [⟨t.withoutDefaults, []⟩] }

/-- Creates the tables that are missing. -/
def createAll (s : State) : State := allTables.foldl createMissing s

/-- The names of the tables, in order. -/
def tableNames (s : State) : List String :=
  let marks := if s.version.isSome then [versionTable] else []
  (marks ++ s.tables.map (·.layout.name)).mergeSort textLe

/-- The revisions the database is at, none without the table of revisions. -/
def versions (s : State) : List String := s.version.getD []

/-- The state with a table of revisions. -/
def withVersionTable (s : State) : State := { s with version := some s.versions }

/-- The state at certain revisions. -/
def setVersions (s : State) (ids : List String) : State := { s with version := some ids }

/-- A table with its rows. -/
def stored? (s : State) (name : String) : Option Stored :=
  if sameName name versionTable then
    s.version.map fun ids => ⟨versionLayout, ids.map fun id => [(versionColumn, .str id)]⟩
  else s.tables.find? fun t => sameName t.layout.name name

/-- Removes a table. -/
def drop (s : State) (name : String) : Except Fault State :=
  if sameName name versionTable then
    if s.version.isSome then .ok { s with version := none } else .error .database
  else s.apply (.dropTable name)

end State
end TaskRules.Migration
