import UmlKotlin.Profile.Basic

/-!
The profile that every run starts from.
-/

set_option autoImplicit false

namespace UmlKotlin.Profile

open Data (Value Scalar)

namespace Bundled

def primitives : Table String Value :=
  Table.ofList ([("string", "String"), ("int", "Int"), ("integer", "Int"), ("short", "Int"),
    ("byte", "Int"), ("long", "Long"), ("double", "Double"), ("float", "Double"),
    ("decimal", "Double"), ("boolean", "Boolean"), ("bool", "Boolean")].map
      fun e => (e.1, Value.text e.2))

def collections : Table Scalar Collection :=
  Table.ofList [(.text "ordered", ⟨.text "List", .text "emptyList()"⟩),
    (.text "unique", ⟨.text "Set", .text "emptySet()"⟩)]

def reservedWords : List String :=
  ["as", "break", "class", "continue", "do", "else", "false", "for", "fun", "if", "in",
    "interface", "is", "null", "object", "package", "return", "super", "this", "throw", "true",
    "try", "typealias", "typeof", "val", "var", "when", "while"]

end Bundled

def bundled : Profile where
  primitives := Bundled.primitives
  collections := Bundled.collections
  reservedWords := Bundled.reservedWords.map Scalar.text

end UmlKotlin.Profile
