/-!
# Moments in the life of a statement

Listeners are called before and after a statement runs. Before a row is created, updated or deleted
a listener may call the statement off; at every other moment it may not.
-/

namespace SqlMapper

/-- The moments at which listeners are called. -/
inductive EventKind where
  /-- Before an insert. -/
  | preCreate
  /-- After an insert. -/
  | postCreate
  /-- Before an update. -/
  | preUpdate
  /-- After an update. -/
  | postUpdate
  /-- Before a delete. -/
  | preDelete
  /-- After a delete. -/
  | postDelete
  /-- Before a select. -/
  | preSelect
  /-- After a select. -/
  | postSelect
deriving DecidableEq, Inhabited

namespace EventKind

/-- All moments, in the order in which they are listed. -/
def all : List EventKind :=
  [.preCreate, .postCreate, .preUpdate, .postUpdate, .preDelete, .postDelete, .preSelect,
    .postSelect]

/-- Whether a listener may call the statement off. -/
def isCancelable : EventKind → Bool
  | .preCreate | .preUpdate | .preDelete => true
  | _ => false

/-- The name of a moment, in words joined by underscores. -/
def name : EventKind → String
  | .preCreate => "pre_create"
  | .postCreate => "post_create"
  | .preUpdate => "pre_update"
  | .postUpdate => "post_update"
  | .preDelete => "pre_delete"
  | .postDelete => "post_delete"
  | .preSelect => "pre_select"
  | .postSelect => "post_select"

/-- The name of a moment, in words that start with a capital letter. -/
def title : EventKind → String
  | .preCreate => "PreCreate"
  | .postCreate => "PostCreate"
  | .preUpdate => "PreUpdate"
  | .postUpdate => "PostUpdate"
  | .preDelete => "PreDelete"
  | .postDelete => "PostDelete"
  | .preSelect => "PreSelect"
  | .postSelect => "PostSelect"

/-- Every moment is listed. -/
theorem mem_all (kind : EventKind) : kind ∈ all := by cases kind <;> decide

end EventKind

end SqlMapper
