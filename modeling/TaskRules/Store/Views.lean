import TaskRules.Store.Calls

/-!
What calls on the store hand out and take, as JSON objects.
-/

namespace TaskRules

/-- The event of a task with values as they were handed in. The due date keeps its distance from
UTC. -/
def TaskView.eventOf (f : Json.Fields) : Except Fault Json.Fields := do
  let assignees ← Fault.itemsOf ((Json.Fields.get? f "assignee_ids").getD (.arr []))
  return eventForm f (Json.ofOption (.str ·.iso) (Column.timestamp? f "due_date")) assignees

def TaskChanges.ofFields (f : Json.Fields) : TaskChanges :=
  { statusId := Column.value f "status_id"
    priority := Column.value f "priority"
    dueDate := Column.moment? f "due_date"
    clearDueDate := (Column.value f "clear_due_date").truthy
    assigneeIds := Column.value f "assignee_ids"
    replaceAssignees := (Column.value f "replace_assignees").truthy
    addLabelIds := (Json.Fields.get? f "add_label_ids").getD (.arr [])
    updatedBy := Column.value f "updated_by" }

def Store.CommentView.toFields (c : Store.CommentView) : Json.Fields :=
  [("id", .str c.id), ("task_id", c.taskId), ("project_id", .str c.projectId),
    ("author_id", c.authorId), ("content", c.content)]

end TaskRules
