/-
The program: prints the definition by which a cluster learns about canaries.
-/
import Rollout.Canary.Definition
import Rollout.Json.Printer

/-- Prints the custom resource definition, indented. -/
def main : IO Unit := IO.println (String.ofList (Rollout.Canary.definition.indented 0))
