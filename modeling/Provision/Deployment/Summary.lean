import Provision.Contract.Report

/-!
# Summaries

The report of a deployment for people: a line for the deployment, one for every output and one for
every operation, and a line after each of them that has an error. Only texts of the report that hold
line breaks themselves take more lines.
-/

namespace Provision

/-- An error in a summary. -/
def OperationError.summary (e : OperationError) : String :=
  e.code ++ ": " ++ e.message ++ (if e.target.isEmpty then "" else " (target: " ++ e.target ++ ")")

/-- The lines of the deployment as a whole. -/
def DeploymentReport.summaryLines (r : DeploymentReport) : List String :=
  ("Deployment: " ++ r.provisioningState) ::
    (r.error.toList.map fun e => "  error: " ++ e.summary)

/-- The lines of the outputs. -/
def DeploymentReport.outputLines (r : DeploymentReport) : List String :=
  if r.outputs.isEmpty then []
  else "Outputs:" :: r.outputs.entries.map fun o => "  " ++ o.1 ++ " = " ++ o.2.compact

/-- How an operation is marked. -/
def OperationReport.mark (r : OperationReport) : String := if r.failed then "ERR" else "OK "

/-- The lines of an operation. -/
def OperationReport.summaryLines (r : OperationReport) : List String :=
  ("  [" ++ r.mark ++ "] " ++ r.resourceName ++ " | " ++ r.provisioningState) ::
    (r.error.toList.map fun e => "        " ++ e.summary)

namespace Report

/-- The lines of a report. -/
def summaryLines (r : Report) : List String :=
  r.deployment.summaryLines ++ r.deployment.outputLines ++
    ("Operations (" ++ toString r.operations.length ++ "):") ::
    r.operations.flatMap OperationReport.summaryLines

/-- The summary of a report. -/
def summary (r : Report) : String := "\n".intercalate r.summaryLines

end Report

end Provision
