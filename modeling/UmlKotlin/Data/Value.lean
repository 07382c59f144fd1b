import UmlKotlin.Data.Double.Basic
import UmlKotlin.Data.Moment
import UmlKotlin.Table

/-!
Data as configuration files hold it: scalars, lists, and records whose keys keep the order in
which they were first given.
-/

set_option autoImplicit false

namespace UmlKotlin.Data

inductive Scalar
  | null
  | bool (b : Bool)
  | int (i : Int)
  | float (d : Double)
  | date (d : Date)
  | moment (m : Moment)
  | text (s : String)
  deriving DecidableEq, Repr

namespace Scalar

/-- What a scalar counts as among keys and in sets: truth values count as one and zero, and a number
that is whole counts as a whole number. -/
def identity : Scalar → Scalar
  | .bool b => .int (if b then 1 else 0)
  | .float d => (d.toInt?.map Scalar.int).getD (.float d)
  | s => s

/-- Whether two scalars are one key. What is no number at all is a key of its own each time. -/
def same (a b : Scalar) : Bool := a.identity = b.identity && a ≠ .float .nan

theorem same_trans {a b c : Scalar} (h : a.same b = true) (h' : b.same c = true) :
    a.same c = true := by
  simp only [same, Bool.and_eq_true, decide_eq_true_eq] at h h' ⊢
  exact ⟨h.1.trans h'.1, h.2⟩

theorem same_text {a : Scalar} {s : String} : a.same (.text s) = true ↔ a = .text s := by
  cases a with
  | float d => cases whole : d.toInt? <;> simp [same, identity, whole]
  | _ => simp [same, identity]

theorem text_same {a : Scalar} {s : String} : (Scalar.text s).same a = true ↔ a = .text s := by
  cases a with
  | float d => cases whole : d.toInt? <;> simp [same, identity, whole]
  | _ => simp [same, identity, eq_comm]

end Scalar

inductive Value
  | scalar (s : Scalar)
  | list (items : List Value)
  | record (entries : List (Scalar × Value))

namespace Value

instance : Inhabited Value := ⟨.scalar .null⟩

def null : Value := .scalar .null

def text (s : String) : Value := .scalar (.text s)

/-- One more entry of a record: a key that is there keeps its form and gets the new value. -/
def setEntry (entries : List (Scalar × Value)) (key : Scalar) (value : Value) :
    List (Scalar × Value) :=
  if entries.any fun e => e.1.same key then
    entries.map fun e => if e.1.same key then (e.1, value) else e
  else entries ++ [(key, value)]

/-- A record from its entries in order; a later entry with the same key gives the value. -/
def ofEntries (entries : List (Scalar × Value)) : Value :=
  .record (entries.foldl (fun known e => setEntry known e.1 e.2) [])

def text? : Value → Option String
  | .scalar (.text s) => some s
  | _ => none

/-- Whether a value says nothing: nothing at all, zero, and whatever is empty. -/
def isVoid : Value → Bool
  | .scalar .null | .scalar (.bool false) | .scalar (.int 0) | .scalar (.text "") => true
  | .list [] | .record [] => true
  | .scalar (.float d) => d.isZero
  | _ => false

/-- The members of a value: the items of a list, the keys of a record, or the characters of a text.
Other scalars have none to look at. -/
def members? : Value → Option (List Value)
  | .list items => some items
  | .record entries => some (entries.map fun e => .scalar e.1)
  | .scalar (.text s) => some (s.toList.map fun c => text c.toString)
  | .scalar _ => none

def field? (name : String) : Value → Option Value
  | .record entries => entries.lookup (.text name)
  | _ => none

end Value

end UmlKotlin.Data
