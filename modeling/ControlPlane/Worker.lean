import ControlPlane.App

/-!
# The billing worker

One pass of the worker that reads the counters of every active panel and meters
the bindings on it.
-/

namespace ControlPlane

open ReadCommitted Orm

/-- File a binding under its panel. -/
def fileBinding (binding : Binding) : List (Id × List Binding) → List (Id × List Binding)
  | [] => [(binding.panelId, [binding])]
  | (panelId, group) :: groups =>
      if panelId = binding.panelId then (panelId, group ++ [binding]) :: groups
      else (panelId, group) :: fileBinding binding groups

/-- The bindings of each panel, in the order in which the panels are met. -/
def groupByPanel (bindings : List Binding) : List (Id × List Binding) :=
  bindings.foldl (fun groups binding => fileBinding binding groups) []

/-- Meter one binding with what the panel reports for its administrator. -/
def pollBinding (env : Env) (admins : List PanelAdmin) (binding : Binding) : Op Unit :=
  -- A later record with the same id replaces an earlier one.
  branch (admins.reverse.find? fun admin => admin.id = some binding.pgAdminId) (pure ())
    fun admin => branch admin.lifetimeUsedTraffic (pure ()) fun reading =>
      tryCatch
        (do
          let time ← now
          require (0 ≤ reading) (.valueError "Input should be greater than or equal to 0")
          let _ ← observe env ⟨binding.id, reading.toNat, time⟩
          commit)
        fun exception =>
          match exception with
          | .billingHold bindingId organizationId _ => do
              rollback
              recordHold bindingId organizationId 0
              commit
          | _ => rollback

/-- The records of `GET /api/admins`. -/
def panelAdmins (panel : Panel) : Op (List PanelAdmin) := do
  resolveSecrets panel
  let answer ← consult (.panel panel .admins)
  attempt (answer.mapError fun _ => .unexpected)

/-- Meter the bindings of one panel; a panel that cannot be read is skipped. -/
def pollPanel (env : Env) (panelId : Id) (bindings : List Binding) : Op Unit := do
  let row ← get .panels panelId
  branch row (pure ()) fun panel =>
    when (panel.status = .active) do
      let answer ← tryCatch
        (do
          let admins ← panelAdmins panel
          pure (some admins))
        fun _ => pure none
      branch answer (pure ()) fun admins => forEach bindings (pollBinding env admins)

/-- One pass over all active bindings. -/
def poll (env : Env) : Op Unit := do
  let active ← scalars .bindings fun row => row.status = .active
  forEach (groupByPanel active) fun group => pollPanel env group.1 group.2

end ControlPlane
