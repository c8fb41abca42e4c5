import ClusterRouter.Cluster.Access
import ClusterRouter.CommandLine.FileEdit
import ClusterRouter.Reconcile.Router
import ClusterRouter.Settings.Decoder

/-!
# What arguments lead to

A command is finished at once, or it goes on as a program that asks a cluster.
-/

namespace ClusterRouter.CommandLine

inductive Task where
  | finished (outcome : Outcome) (files : FileSystem)
  | reconcile (access : Access) (settleSeconds : Nat) (program : Program Outcome)

def versionText : String := "router-manager 0.1.0\n"

def Refusal.outcome : Refusal → Outcome
  | .usage => ⟨2, ""⟩
  | .help => ⟨0, ""⟩
  | .version => ⟨0, versionText⟩

namespace ReconcileCommand

/-- The settings of the file with those of the command line in their place. -/
def settings (command : ReconcileCommand) (files : FileSystem) :
    Except SettingsError Settings := do
  let given ← command.config.elim (.ok {}) (Settings.load files)
  let settings := { given with
    state := command.state.getD given.state
    name := command.name.getD given.name
    project := command.project.getD given.project
    kubeconfig := command.kubeconfig.getD given.kubeconfig }
  settings.validate
  pure settings

def outcomeOf : Except ReconcileError Status → Outcome
  | .ok status => .success status.toValue
  | .error e => .ofReconcileError e

def task (command : ReconcileCommand) (files : FileSystem) (place : ArtifactPlace) : Task :=
  match command.settings files with
  | .error e => .finished (.ofSettingsError e) files
  | .ok settings =>
    match Access.start place files settings.project settings.kubeconfig with
    | .error e => .finished (.ofAccessError e) files
    | .ok access =>
      let router : Router := { settings, files, place, checkOnly := command.check }
      .reconcile access command.settleSeconds (outcomeOf <$> router.run.run)

end ReconcileCommand

def Task.ofArguments (arguments : List String) (files : FileSystem) (place : ArtifactPlace) :
    Task :=
  match Command.parse arguments with
  | .error refusal => .finished refusal.outcome files
  | .ok (.edit command) =>
    let (outcome, files) := command.outcome files
    .finished outcome files
  | .ok (.reconcile command) => command.task files place

end ClusterRouter.CommandLine
