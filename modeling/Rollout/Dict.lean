/-
Dictionaries: finite maps from texts that are kept in key order, so that equal maps are equal
values. `Dict.get?_insert` and `Dict.get?_empty` describe them through the view `Dict.get?`.
-/
import Rollout.Assoc

namespace Rollout

/-- A finite map from texts, listed in strictly increasing key order. -/
structure Dict (α : Type) where
  entries : List (String × α)
  ordered : Assoc.Ordered entries
deriving DecidableEq

namespace Dict

variable {α β : Type}

/-- The dictionary without entries. -/
def empty : Dict α := ⟨[], List.Pairwise.nil⟩

instance : Inhabited (Dict α) := ⟨empty⟩

instance [Repr α] : Repr (Dict α) := ⟨fun d => reprPrec d.entries⟩

/-- The value under a key. -/
def get? (d : Dict α) (key : String) : Option α := d.entries.lookup key

/-- Whether there is a value under the key. -/
def contains (d : Dict α) (key : String) : Bool := (d.get? key).isSome

/-- Whether there is no entry at all. -/
def isEmpty (d : Dict α) : Bool := d.entries.isEmpty

/-- The dictionary with `value` under `key`, whatever was there before. -/
def insert (d : Dict α) (key : String) (value : α) : Dict α :=
  ⟨Assoc.insert key value d.entries, d.ordered.insert key value⟩

/-- The dictionary of the given entries; of two entries under one key the later counts. -/
def ofList (entries : List (String × α)) : Dict α :=
  ⟨Assoc.ofList entries, Assoc.ordered_ofList entries⟩

/-- The values in key order. -/
def values (d : Dict α) : List α := d.entries.map (·.2)

@[simp] theorem get?_empty (key : String) : (empty : Dict α).get? key = none := rfl

@[simp] theorem get?_insert (d : Dict α) (key : String) (value : α) (k : String) :
    (d.insert key value).get? k = if k = key then some value else d.get? k :=
  Assoc.lookup_insert key value d.entries k

end Dict

end Rollout
