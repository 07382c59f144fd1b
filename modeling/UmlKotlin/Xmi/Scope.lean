import UmlKotlin.Text.Blank

/-!
Scopes of the extension section. Tags, documentation, bounds and the like speak about the
connector, element or attribute that encloses them; nested constructs hide the outer one until
they close, and a container of tags belongs to the scope that was open when it opened.
-/

set_option autoImplicit false

namespace UmlKotlin.Xmi

inductive ScopeKind
  | none
  | connector
  | element
  | attribute
  deriving DecidableEq, Repr

/-- A construct and the identifier of what it speaks about. -/
structure Scope where
  kind : ScopeKind
  ref : Option String
  deriving DecidableEq, Repr

namespace Scope

def inert : Scope := ⟨.none, none⟩

/-- A construct that refers to nothing speaks about nothing. -/
def opening (kind : ScopeKind) (ref : Option String) : Scope :=
  if Text.blank ref then inert else ⟨kind, ref⟩

def is (s : Scope) (kind : ScopeKind) : Bool := s.kind == kind && s.ref.isSome

def refOf? (s : Scope) (kind : ScopeKind) : Option String :=
  if s.kind = kind then s.ref else none

end Scope

/-- The open scopes, innermost first, and the open container of tags: the scope that it belongs to
and how many scopes were open. -/
structure ScopeStack where
  scopes : List Scope := []
  tags : Option (Scope × Nat) := none
  deriving DecidableEq, Repr

namespace ScopeStack

def current (s : ScopeStack) : Scope := s.scopes.head?.getD Scope.inert

def push (s : ScopeStack) (scope : Scope) : ScopeStack := { s with scopes := scope :: s.scopes }

def closeTags (s : ScopeStack) : ScopeStack := { s with tags := none }

def openTags (s : ScopeStack) : ScopeStack := { s with tags := some (s.current, s.scopes.length) }

/-- The stack without its innermost scope; a container of tags that was opened inside that scope
closes with it. -/
def pop (s : ScopeStack) : ScopeStack :=
  let popped : ScopeStack := { s with scopes := s.scopes.tail }
  match s.tags with
  | some (_, depth) => if popped.scopes.length < depth then popped.closeTags else popped
  | none => popped

/-- Whether an open container of tags belongs to the current scope. -/
def inTags (s : ScopeStack) : Bool :=
  match s.tags with
  | some (owner, depth) => depth == s.scopes.length && owner == s.current
  | none => false

end ScopeStack

end UmlKotlin.Xmi
