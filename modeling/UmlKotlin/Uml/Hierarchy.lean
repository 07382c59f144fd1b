import UmlKotlin.Uml.Model

/-!
Ancestors. Following the superclass links from a class either ends at a class without superclass
or comes back to a class already met; in the second case the names along the way are the error.
-/

set_option autoImplicit false

namespace UmlKotlin.Uml

/-- A chain of superclasses that runs into itself: the names of its classes, from the class asked
about up to the first one met twice. -/
structure InheritanceCycle where
  chain : List String
  deriving DecidableEq, Repr

def InheritanceCycle.message (cycle : InheritanceCycle) : String :=
  "Cyclic generalization: " ++ " -> ".intercalate cycle.chain

namespace Model

/-- The classes above a class, the topmost first, put in front of those already met (`above`,
nearest last). No class may have one of the identifiers `met`, and a link has to be among the
`unseen` ones; the result is otherwise the classes met, nearest first, with the one met twice at the
end. -/
def climb (m : Model) (unseen met : List String) (above : List Class) (c : Class) :
    Except (List Class) (List Class) :=
  match c.superclass with
  | none => .ok above
  | some key =>
    match m.linkedClass? key with
    | none => .ok above
    | some s =>
      if s.id ∈ met then .error (above.reverse ++ [s])
      else if key ∈ unseen then climb m (unseen.erase key) (s.id :: met) (s :: above) s
      else .error (above.reverse ++ [s])
termination_by unseen.length
decreasing_by
  rename_i seen
  have := List.length_erase_of_mem seen
  have := List.length_pos_of_mem seen
  omega

def ancestors (m : Model) (id : String) (c : Class) : Except InheritanceCycle (List Class) :=
  let others := (m.classes.keys ++ m.retired.keys).erase id
  match m.climb others [c.id] [] c with
  | .ok above => .ok above
  | .error met => .error ⟨c.name :: met.map (·.name)⟩

end Model

end UmlKotlin.Uml
