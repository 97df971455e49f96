/-
Values on their way as text. What is sent is written and read again at the other end, and reading
rounds more than once: a double can come out as its neighbour, everything else stays what it is.
-/
import Rollout.Json.Parser
import Rollout.Json.Printer

namespace Rollout

/-- The double that is read where another was written; none if it would lie beyond the finite
ones. -/
def Double.resent? (x : Double) : Option Double :=
  match Json.Parser.number? x.text with
  | some (.double y, []) => some y
  | _ => none

namespace Json

mutual

/-- The value that is read where another was written, however deeply it is nested. -/
def resent? : Json → Option Json
  | .double x => x.resent?.map .double
  | .arr items => (resentItems? items).map .arr
  | .obj members => (resentMembers? members).map .obj
  | j => some j
termination_by structural j => j

def resentItems? : List Json → Option (List Json)
  | [] => some []
  | item :: rest => do return (← resent? item) :: (← resentItems? rest)
termination_by structural items => items

def resentMembers? : List (String × Json) → Option (List (String × Json))
  | [] => some []
  | (key, value) :: rest => do return (key, ← resent? value) :: (← resentMembers? rest)
termination_by structural members => members

end

end Json

end Rollout
