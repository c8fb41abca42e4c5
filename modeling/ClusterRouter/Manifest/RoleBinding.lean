import ClusterRouter.Manifest.Basic

/-!
# Cluster role bindings

Subjects, groups and users are lists without equal items.
-/

namespace ClusterRouter.RoleBinding

def subjectsPath : String := "subjects"
def roleRefPath : String := "roleRef"
def groupNamesPath : String := "groupNames"
def userNamesPath : String := "userNames"

def subjects (document : Document) : List Value := listAt document subjectsPath

def groupNames (document : Document) : List Value := listAt document groupNamesPath

def userNames (document : Document) : List Value := listAt document userNamesPath

def roleRef? (document : Document) : Option Value :=
  match document.lookup roleRefPath with
  | .ok found => found
  | .error _ => none

def hasSubject (document : Document) (subject : Value) : Bool :=
  (subjects document).contains subject

def hasGroupName (document : Document) (name : String) : Bool :=
  (groupNames document).contains (.string name)

def hasUserName (document : Document) (name : String) : Bool :=
  (userNames document).contains (.string name)

/-- Adds a subject unless an equal one is bound already. -/
def addSubject (subject : Value) : Editing Bool := do
  if hasSubject (← get) subject then pure false else Document.append subjectsPath subject

def addGroupName (name : String) : Editing Bool := do
  if hasGroupName (← get) name then pure false
  else Document.append groupNamesPath (.string name)

def addUserName (name : String) : Editing Bool := do
  if hasUserName (← get) name then pure false else Document.append userNamesPath (.string name)

def updateRoleRef (roleRef : Value) : Editing Bool := Document.put roleRefPath roleRef

def removeSubject (subject : Value) : Editing Bool := Document.pop subjectsPath subject

def removeGroupName (name : String) : Editing Bool := Document.pop groupNamesPath (.string name)

def removeUserName (name : String) : Editing Bool := Document.pop userNamesPath (.string name)

def removeRoleRef : Editing Bool := Document.remove roleRefPath

end ClusterRouter.RoleBinding
