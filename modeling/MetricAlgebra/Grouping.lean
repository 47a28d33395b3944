/-!
# Grouping

Lists of keyed groups in the order in which their keys first appear.
-/

namespace MetricAlgebra.Grouping

variable {α κ β : Type} [DecidableEq κ]

/-- Changes the group of a key; a key that has no group yet gets one at the end, made from `start`.
-/
def alter (key : κ) (start : β) (change : β → β) : List (κ × β) → List (κ × β)
  | [] => [(key, change start)]
  | (k, b) :: rest =>
    if k = key then (k, change b) :: rest else (k, b) :: alter key start change rest

/-- Puts the members of a list one after the other into the groups of their keys. -/
def collect (key : α → κ) (start : α → β) (push : β → α → β) (members : List α) : List (κ × β) :=
  members.foldl (fun groups a => alter (key a) (start a) (push · a) groups) []

end MetricAlgebra.Grouping
