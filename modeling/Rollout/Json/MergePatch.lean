/-
Merge patches (RFC 7386): `Json.merge` applies a patch, `Json.diff` finds the patch that leads
from one value to another. A null member of a patch removes, so a patch cannot put a null where
there was none.
-/
import Rollout.Json.Basic

namespace Rollout.Json

/-! ## Applying a patch -/

mutual

/-- The value after a merge patch: the members of an object patch are merged one by one, null
removing, and any other patch replaces the value. -/
def merge (patch target : Json) : Json :=
  match patch with
  | .obj changes => .obj (mergeMembers changes target.membersOrNone)
  | replacement => replacement
termination_by structural patch

def mergeMembers (changes target : List (String × Json)) : List (String × Json) :=
  match changes with
  | [] => target
  | (key, change) :: rest =>
    mergeMembers rest
      (match change with
        | .null => Assoc.erase key target
        | change => Assoc.insert key (merge change ((target.lookup key).getD .null)) target)
termination_by structural changes

end

/-! ## Finding a patch -/

mutual

/-- The merge patch from one value to another. Between objects it holds the members that changed,
null for those that went; an empty object says that nothing changed. -/
def diff (before after : Json) : Json :=
  match before, after with
  | .obj old, .obj new =>
    .obj ((new.filter fun e => (old.lookup e.1).isNone).foldl
      (fun patch e => Assoc.insert e.1 e.2 patch) (diffMembers old new))
  | _, after => after
termination_by structural before

/-- The part of the patch that concerns the members there were. -/
def diffMembers (old new : List (String × Json)) : List (String × Json) :=
  match old with
  | [] => []
  | (key, value) :: rest =>
    match new.lookup key with
    | none => Assoc.insert key .null (diffMembers rest new)
    | some value' =>
      if value'.same value then diffMembers rest new
      else Assoc.insert key (diff value value') (diffMembers rest new)
termination_by structural old

end

/-- Whether a patch says that nothing changed. -/
def isNoChange : Json → Bool
  | .obj [] => true
  | _ => false

end Rollout.Json
