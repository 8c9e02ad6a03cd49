import TaskRules.Event
import TaskRules.Store.Calls

/-!
What an action does, as a sequence of requests. A script is finished, or it makes one request and
goes on with the answer, an error included; every request is one atomic step, so scripts can be run
one after another or interleaved. Scripts know nothing of who answers them.
-/

namespace TaskRules.Action

inductive Request where
  | updateTask (id : Json) (changes : TaskChanges)
  | findProject (id : Json)
  | defaultStatus (workflow : Json)
  | nextNumber (project : Json)
  | createTask (draft : Task.Draft) (assigneeIds : Json)
  | notify (drafts : List Notification.Draft)
  | comment (taskId : Json) (content : Json) (author : Json)
  | emit (event : Event)
  | log (record : Log.Record)

/-- What a request is answered with. -/
def Request.Answer : Request → Type
  | .updateTask .. => TaskView
  | .findProject _ => Option Project
  | .defaultStatus _ => Option String
  | .nextNumber _ => Int
  | .createTask .. => TaskView
  | .notify _ => List String
  | .comment .. => Store.CommentView
  | .emit _ => Unit
  | .log _ => Unit

inductive Script (α : Type) where
  | done (r : Except Fault α)
  | ask (q : Request) (next : Except Fault q.Answer → Script α)

namespace Script

def andThen : Script α → (α → Script β) → Script β
  | .done (.ok a), f => f a
  | .done (.error e), _ => .done (.error e)
  | .ask q next, f => .ask q fun r => (next r).andThen f

instance : Monad Script where
  pure a := .done (.ok a)
  bind := andThen

def raise (e : Fault) : Script α := .done (.error e)

/-- One request, its error being the script's. -/
def request (q : Request) : Script q.Answer := .ask q .done

/-- The script whose result goes through a function, errors included. -/
def settle (f : Except Fault α → Except Fault β) : Script α → Script β
  | .done r => .done (f r)
  | .ask q next => .ask q fun r => (next r).settle f

/-- Runs a script with someone to answer its requests. -/
def run (answer : (q : Request) → Run σ q.Answer) : Script α → Run σ α
  | .done r, s => (r, s)
  | .ask q next, s =>
    match answer q s with
    | (r, s) => (next r).run answer s

end Script
end TaskRules.Action
