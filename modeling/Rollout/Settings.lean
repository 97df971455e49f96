/-
Settings of the controllers, read from a lookup of texts. A setting that is missing or cannot be
read takes its default, so every lookup gives usable settings.
-/
import Rollout.Text.Blank

namespace Rollout

/-- What the controllers are configured with. -/
structure Settings where
  /-- Labels that may tell a workload's pods apart, in order of preference. -/
  selectorLabels : List String
  /-- How often a status write is attempted. -/
  statusAttempts : Nat
  /-- The pause between conflicting status writes, in milliseconds. -/
  statusPause : Nat
deriving DecidableEq, Repr

namespace Settings

/-- The settings where nothing else is said. -/
def default : Settings := ⟨["app", "name", "app.kubernetes.io/name"], 5, 10⟩

instance : Inhabited Settings := ⟨default⟩

/-- The fewest attempts that can be set. -/
def fewestAttempts : Nat := 3

/-- The most attempts that can be set. -/
def mostAttempts : Nat := 5

/-- The labels of a comma-separated list: trimmed, and without the empty ones. -/
def labels (text : String) : List String :=
  ((Text.splitOn ',' text.toList).map fun part => Text.trim (String.ofList part)).filter (· ≠ "")

/-- A number of 64 bits, with blanks around it. -/
def number? (text : String) : Option Nat :=
  (Text.natural? (Text.trim text)).filter (· < UInt64.size)

/-- The settings that a lookup gives. -/
def ofLookup (lookup : String → Option String) : Settings where
  selectorLabels :=
    (((lookup "KULTA_SELECTOR_LABELS").map labels).filter (!·.isEmpty)).getD default.selectorLabels
  statusAttempts :=
    (((lookup "KULTA_STATUS_RETRY_ATTEMPTS").bind number?).map fun n =>
      max fewestAttempts (min n mostAttempts)).getD default.statusAttempts
  statusPause :=
    ((lookup "KULTA_STATUS_RETRY_BACKOFF_MS").bind number?).getD default.statusPause

end Settings

end Rollout
