import TaskRules.Store.Tables

/-!
A sample database: three users, three projects of which one has a workflow without statuses, the
statuses of the other workflow, a label, and a task that is assigned to a user.
-/

namespace TaskRules.Store

def sampleUser (name first : String) : Table × Json.Fields :=
  (.users, [("id", .str ("u-" ++ name)), ("email", .str (name ++ "@example.com")),
    ("first_name", .str first)])

def sampleProject (name slug workflow : String) : Table × Json.Fields :=
  (.projects, [("id", .str ("p-" ++ slug)), ("name", .str name), ("slug", .str slug),
    ("workflow_id", .str workflow)])

def sampleStatus (id name category : String) (position : Int) (isDefault : Bool) :
    Table × Json.Fields :=
  (.statuses, [("id", .str id), ("workflow_id", .str "wf-1"), ("name", .str name),
    ("category", .str category), ("position", .int position), ("is_default", .bool isDefault)])

def sampleRows : List (Table × Json.Fields) :=
  [sampleUser "alice" "Alice", sampleUser "bob" "Bob", sampleUser "carol" "Carol",
    sampleProject "Web" "web" "wf-1", sampleProject "Ops" "ops" "wf-1",
    sampleProject "Bare" "bare" "wf-empty",
    sampleStatus "s-todo" "To Do" "TODO" 0 true,
    sampleStatus "s-doing" "In Progress" "IN_PROGRESS" 1 false,
    sampleStatus "s-done" "Done" "DONE" 2 false,
    (.labels, [("id", .str "l-bug"), ("project_id", .str "p-web"), ("name", .str "bug"),
      ("color", .str "#ff0000")]),
    (.tasks, [("id", .str "t-1"), ("project_id", .str "p-web"), ("task_number", .int 1),
      ("slug", .str "web-1"), ("title", .str "Checkout page crashes"), ("type", .str "BUG"),
      ("priority", .str "HIGH"), ("status_id", .str "s-todo"), ("created_by", .str "u-alice")]),
    (.assignments, [("task_id", .str "t-1"), ("user_id", .str "u-alice")])]

/-- Adds rows one after the other. -/
def insertRows : List (Table × Json.Fields) → Run Store Unit
  | [] => .done ()
  | (table, fields) :: rest => do
    let _ ← insertRow table fields
    insertRows rest

/-- Adds the rows of the sample, all or none. -/
def insertSample : Run Store Unit := fun s =>
  match insertRows sampleRows s with
  | (.ok (), s') => (.ok (), s')
  | (.error e, _) => (.error e, s)

end TaskRules.Store
