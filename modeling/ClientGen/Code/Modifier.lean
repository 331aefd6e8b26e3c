/-!
# Modifiers

The words that stand in front of a declaration: its access and its other modifiers.
-/

namespace ClientGen

/-- Who may use a declaration. -/
inductive Access
  /-- Everyone. -/
  | everyone : Access
  /-- The class itself. -/
  | ownClass : Access
  /-- The class and the classes derived from it. -/
  | derived : Access
  /-- The assembly. -/
  | assembly : Access
  deriving DecidableEq, Repr

/-- The keyword of an access. -/
def Access.keyword : Access → String
  | .everyone => "public"
  | .ownClass => "private"
  | .derived => "protected"
  | .assembly => "internal"

/-- The modifiers of a member. -/
inductive Modifier
  /-- Belongs to the class, not to its objects. -/
  | static : Modifier
  /-- Set once. -/
  | readonly : Modifier
  /-- Without a body. -/
  | abstract : Modifier
  /-- May be overridden. -/
  | virtual : Modifier
  /-- Overrides a member of the base class. -/
  | override : Modifier
  /-- May not be overridden further. -/
  | sealed : Modifier
  deriving DecidableEq, Repr

/-- The keyword of a modifier. -/
def Modifier.keyword : Modifier → String
  | .static => "static"
  | .readonly => "readonly"
  | .abstract => "abstract"
  | .virtual => "virtual"
  | .override => "override"
  | .sealed => "sealed"

end ClientGen
