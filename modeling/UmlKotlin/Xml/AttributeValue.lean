import UmlKotlin.Xml.Scanner

/-!
Attribute values. White space in a value is spaces, references to characters are replaced, and so
are references to entities, whose texts may refer to further entities.
-/

set_option autoImplicit false

namespace UmlKotlin.Xml

open Scanner

/-- A reference to an entity that is not declared: a violation where all declarations are known,
else a remark, which weighs more where the entity was to be replaced. -/
def undeclared : Scanner Unit := do
  let d ← doctype
  require (!d.complete)
  remark (if d.replacing then .error else .warning)

/-- One piece of a value: a reference, or a run of characters other than the quotation mark `stop`.
No element begins in it. -/
def valuePiece (stop : Option Char) (entityText : String → Scanner (List Char)) :
    Scanner (List Char) := do
  if ← sees "&" then
    literal "&"
    match ← reference with
    | .char c => pure [c]
    | .entity e => entityText e
  else
    let cs ← span1 fun c => some c ≠ stop && c ≠ '&' && c ≠ '<' && isChar c
    pure (cs.map fun c => if isBlank c then ' ' else c)

/-- The text of an entity in a value; entities lie at most `room` deep in one another. -/
def entityText : Nat → String → Scanner (List Char)
  | room, entity => do
    match (← doctype).entity? entity with
    | none =>
      undeclared
      pure []
    | some .outside => failure
    | some (.text replacement) =>
      match room with
      | 0 => failure
      | room + 1 =>
        spend replacement.length
        let pieces ← inside replacement
          (many (do pure !(← atEnd)) (valuePiece none (entityText room)))
        pure pieces.flatten

/-- Texts of entities lie at most this deep in one another and in a document. -/
def entityDepth : Nat := 20

/-- A quoted value; one that is `tokens` takes its normal form. -/
def attributeValue (type : AttributeType) : Scanner String := do
  let q ← quote
  let pieces ← many (do pure !(← sees q.toString)) (valuePiece (some q) (entityText (entityDepth - 1)))
  literal q.toString
  let value := pieces.flatten
  pure (String.ofList (if type = .text then value else tokensOf value))

end UmlKotlin.Xml
