import ClusterRouter.Cluster.CommandResult
import ClusterRouter.Settings.Basic

/-!
# What a reconciliation did
-/

namespace ClusterRouter

/-- What brings a router to its wanted state. -/
inductive Action where
  | create
  | update
  | delete
  | nothing
deriving DecidableEq, Inhabited

namespace Action

def all : List Action := [.create, .update, .delete, .nothing]

def name : Action → String
  | .create => "create"
  | .update => "update"
  | .delete => "delete"
  | .nothing => "no-op"

/-- What is said of an action that was only checked. -/
def checkMessage (action : Action) : String :=
  "CHECK_MODE: Would have performed " ++ (if action = .update then "an" else "a") ++ " " ++
    action.name ++ "."

end Action

structure Status where
  changed : Bool
  state : State
  results : List CommandResult := []
  message : Option String := none

namespace Status

def unchanged (state : State) : Status := { changed := false, state }

def done (state : State) (results : List CommandResult) : Status :=
  { changed := true, state, results }

/-- The action was found necessary and not performed. -/
def checked (state : State) (action : Action) : Status :=
  { changed := true, state, message := some action.checkMessage }

/-- The fields of a status; without results or message these are left out. -/
def toValue (status : Status) : Value :=
  .map ([("changed", .bool status.changed), ("state", .string status.state.name)] ++
    (if status.results.isEmpty then []
      else [("results", .list (status.results.map CommandResult.toValue))]) ++
    (status.message.map fun text => ("msg", Value.string text)).toList)

end Status

end ClusterRouter
