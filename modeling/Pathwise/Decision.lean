import Pathwise.Text.Quoted

/-!
# Decisions

The steps of an operation at which the answer could have gone another way. Each is recorded with
the texts it concerns, and its message quotes them.
-/

namespace Pathwise

inductive Decision where
  /-- An absolute part makes the parts before it irrelevant. -/
  | stoppedAt (part : Text)
  /-- No part is absolute, so the path starts from the current directory. -/
  | anchoredTo (directory : Text)
  /-- The current directory is itself relative, so the path starts from the bare root. -/
  | anchoredAtRoot (directory : Text)
  /-- A `..` would have climbed above the root. -/
  | discardedAbove (root : Text)
  /-- Two paths on different roots have no relative route between them. -/
  | noRoute (source target : Text)
  deriving DecidableEq

def Decision.message : Decision → Text
  | stoppedAt part => "Stopping at absolute part ".toList ++ part.quoted
  | anchoredTo directory => "Anchoring to current directory ".toList ++ directory.quoted
  | anchoredAtRoot directory =>
    "Current directory ".toList ++ directory.quoted
      ++ " is not absolute, anchoring at root".toList
  | discardedAbove root => "Discarding '..' above root ".toList ++ root.quoted
  | noRoute source target =>
    "No route between roots ".toList ++ source.quoted ++ " and ".toList ++ target.quoted

/-- A value together with the decisions taken on the way to it, in order. -/
structure Logged (α : Type) where
  value : α
  decisions : List Decision

namespace Logged

variable {α β : Type}

def pure (value : α) : Logged α := ⟨value, []⟩

def map (f : α → β) (result : Logged α) : Logged β := ⟨f result.value, result.decisions⟩

@[simp] theorem value_pure (value : α) : (pure value).value = value := rfl

@[simp] theorem decisions_pure (value : α) : (pure value).decisions = [] := rfl

@[simp] theorem value_map (f : α → β) (result : Logged α) :
    (result.map f).value = f result.value := rfl

@[simp] theorem decisions_map (f : α → β) (result : Logged α) :
    (result.map f).decisions = result.decisions := rfl

end Logged

end Pathwise
