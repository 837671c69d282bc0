import Bastion.Rule.Basic

set_option autoImplicit false

namespace Bastion.Rule

structure Diff where
  added : List Rule
  removed : List Rule
  deriving DecidableEq, Repr

/-- The rules whose keys are not among those seen, each key once. -/
def unseen (seen : List Key) : List Rule → List Rule
  | [] => []
  | rule :: rest =>
    if rule.key ∈ seen then unseen seen rest else rule :: unseen (rule.key :: seen) rest

/-- A wanted rule is added once; a current rule that is not wanted is removed each time it is
there. -/
def diff (wanted current : List Rule) : Diff where
  added := unseen (current.map key) wanted
  removed := current.filter fun rule => rule.key ∉ wanted.map key

end Bastion.Rule
