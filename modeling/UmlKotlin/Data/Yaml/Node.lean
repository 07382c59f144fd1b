import UmlKotlin.Data.Yaml.Plain
import UmlKotlin.Data.Yaml.Token

/-!
The datum that the tokens of a YAML document make up. A document is first composed of nodes; what is
left out between two marks is nothing. Then its scalars are given their values, level by level, so
that of two scalars without a value the one nearer to the root is met first. A key has to be a
scalar, and of entries with the same key the last counts.
-/

set_option autoImplicit false

namespace UmlKotlin.Data.Yaml

/-- A part of a document. Entries to be merged in are already merged; where that cannot be done, a
record is `unmergeable`. -/
inductive Node
  | scalar (m : Meaning)
  | list (items : List Node)
  | record (entries : List (Node × Node))
  | unmergeable

namespace Node

def nothing : Node := .scalar (.datum .null)

def entries? : Node → Option (List (Node × Node))
  | .record entries => some entries
  | _ => none

/-- The entries that a node merges into the record around it: those of a record, or those of a list
of records, of which an earlier one decides. -/
def mergeable? : Node → Option (List (Node × Node))
  | .list items => (items.mapM entries?).map fun records => records.reverse.flatten
  | node => node.entries?

def isMerge : Node → Bool
  | .scalar .merge => true
  | _ => false

def asKey : Node → Node
  | .scalar .standIn => .scalar (.datum (.text "="))
  | key => key

/-- A record from its entries in order. What is merged in comes before the record's own entries, so
that these decide. -/
def ofEntries (entries : List (Node × Node)) : Node :=
  let own := (entries.filter fun e => !e.1.isMerge).map fun e => (e.1.asKey, e.2)
  match ((entries.filter fun e => e.1.isMerge).mapM fun e => e.2.mergeable?) with
  | some merged => .record (merged.flatten ++ own)
  | none => .unmergeable

def faultOf : Meaning → List Error
  | .datum _ => []
  | .nonexistent => [.range]
  | .merge | .standIn => [.construction]

def keyFault : Node → List Error
  | .scalar m => faultOf m
  | _ => [.construction]

mutual

/-- The faults of a node, each with its level, in order. The parts of a collection that are scalars
are on its own level, its parts that are collections on the next one. -/
def faults (level : Nat) : Node → List (Nat × Error)
  | .scalar m => (faultOf m).map (level, ·)
  | .list items => itemFaults level items
  | .record entries => entryFaults level entries
  | .unmergeable => [(level, .construction)]

def partFaults (level : Nat) : Node → List (Nat × Error)
  | .scalar m => (faultOf m).map (level, ·)
  | .list items => itemFaults (level + 1) items
  | .record entries => entryFaults (level + 1) entries
  | .unmergeable => [(level + 1, .construction)]

def itemFaults (level : Nat) : List Node → List (Nat × Error)
  | [] => []
  | item :: items => partFaults level item ++ itemFaults level items

def entryFaults (level : Nat) : List (Node × Node) → List (Nat × Error)
  | [] => []
  | (key, value) :: entries =>
    (keyFault key).map (level, ·) ++ partFaults level value ++ entryFaults level entries

end

def firstFault? (node : Node) : Option Error :=
  (node.faults 0).foldl (fun (first : Option (Nat × Error)) fault =>
    match first with
    | some f => some (if fault.1 < f.1 then fault else f)
    | none => some fault) none |>.map (·.2)

def keyScalar : Node → Scalar
  | .scalar (.datum s) => s
  | _ => .null

mutual

def toValue : Node → Value
  | .scalar (.datum s) => .scalar s
  | .list items => .list (itemValues items)
  | .record entries => Value.ofEntries (entryValues entries)
  | _ => .null

def itemValues : List Node → List Value
  | [] => []
  | item :: items => item.toValue :: itemValues items

def entryValues : List (Node × Node) → List (Scalar × Value)
  | [] => []
  | (key, value) :: entries => (key.keyScalar, value.toValue) :: entryValues entries

end

def construct (node : Node) : Except Error Value :=
  match node.firstFault? with
  | some e => .error e
  | none => .ok node.toValue

end Node

/-- Tokens not yet used, the error behind the last of them, and how many collections are open. -/
structure Supply where
  tokens : List Token
  failure : Option Error
  depth : Nat := 0

abbrev Composer (α : Type) := StateT Supply (Except Error) α

namespace Composer

def look : Composer Token := do
  let s ← get
  match s.tokens with
  | t :: _ => pure t
  | [] => throw (s.failure.getD .grammar)

def skip : Composer Unit := modify fun s => { s with tokens := s.tokens.drop 1 }

def sees (ts : List Token) : Composer Bool := do return ts.contains (← look)

def expect (t : Token) : Composer Unit := do
  if (← look) = t then skip else throw .grammar

/-- Collections lie at most this deep in one another. -/
def maxDepth : Nat := 480

def deeper {α : Type} (part : Composer α) : Composer α := do
  if maxDepth ≤ (← get).depth then throw .depth
  modify fun s => { s with depth := s.depth + 1 }
  let a ← part
  modify fun s => { s with depth := s.depth - 1 }
  return a

mutual

/-- A node; `block` where a block collection may begin, `flat` where the entries of a sequence may
stand at the indentation of the mapping around it. -/
def node (block flat : Bool) : Nat → Composer Node
  | 0 => throw .grammar
  | fuel + 1 => do
    match ← look with
    | .scalar s isPlain =>
      skip
      return .scalar (if isPlain then plain s else .datum (.text s))
    | .flowSequenceStart =>
      skip
      return .list (← deeper (flowItems true fuel))
    | .flowMappingStart =>
      skip
      return .ofEntries (← deeper (flowEntries true fuel))
    | .blockSequenceStart =>
      if !block then throw .grammar
      skip
      return .list (← deeper (blockItems fuel))
    | .blockMappingStart =>
      if !block then throw .grammar
      skip
      return .ofEntries (← deeper (blockEntries fuel))
    | .blockEntry =>
      if !flat then throw .grammar
      return .list (← deeper (flatItems fuel))
    | _ => throw .grammar

def nodeUnless (ends : List Token) (block flat : Bool) (fuel : Nat) : Composer Node := do
  match fuel with
  | 0 => throw .grammar
  | fuel + 1 => if ← sees ends then return .nothing else node block flat fuel

/-- The node behind a mark of a value, if the mark comes next. -/
def valueUnless (ends : List Token) (block : Bool) (fuel : Nat) : Composer Node := do
  match fuel with
  | 0 => throw .grammar
  | fuel + 1 =>
    if ← sees [.value] then
      skip
      nodeUnless ends block block fuel
    else return .nothing

def blockItems : Nat → Composer (List Node)
  | 0 => throw .grammar
  | fuel + 1 => do
    if ← sees [.blockEntry] then
      skip
      let item ← nodeUnless [.blockEntry, .blockEnd] true false fuel
      return item :: (← blockItems fuel)
    expect .blockEnd
    return []

/-- The items of a block sequence that ends where its marks do. -/
def flatItems : Nat → Composer (List Node)
  | 0 => throw .grammar
  | fuel + 1 => do
    if ← sees [.blockEntry] then
      skip
      let item ← nodeUnless [.blockEntry, .key, .value, .blockEnd] true false fuel
      return item :: (← flatItems fuel)
    return []

def blockEntries : Nat → Composer (List (Node × Node))
  | 0 => throw .grammar
  | fuel + 1 => do
    if ← sees [.key] then
      skip
      let key ← nodeUnless [.key, .value, .blockEnd] true true fuel
      let value ← valueUnless [.key, .value, .blockEnd] true fuel
      return (key, value) :: (← blockEntries fuel)
    expect .blockEnd
    return []

def flowItems (first : Bool) : Nat → Composer (List Node)
  | 0 => throw .grammar
  | fuel + 1 => do
    if ← sees [.flowSequenceEnd] then
      skip
      return []
    if !first then expect .flowEntry
    if ← sees [.key] then
      skip
      let entry ← deeper do
        let key ← nodeUnless [.value, .flowEntry, .flowSequenceEnd] false false fuel
        return (key, ← valueUnless [.flowEntry, .flowSequenceEnd] false fuel)
      return .ofEntries [entry] :: (← flowItems false fuel)
    if ← sees [.flowSequenceEnd] then
      skip
      return []
    let item ← node false false fuel
    return item :: (← flowItems false fuel)

def flowEntries (first : Bool) : Nat → Composer (List (Node × Node))
  | 0 => throw .grammar
  | fuel + 1 => do
    if ← sees [.flowMappingEnd] then
      skip
      return []
    if !first then expect .flowEntry
    if ← sees [.key] then
      skip
      let key ← nodeUnless [.value, .flowEntry, .flowMappingEnd] false false fuel
      let value ← valueUnless [.flowEntry, .flowMappingEnd] false fuel
      return (key, value) :: (← flowEntries false fuel)
    if ← sees [.flowMappingEnd] then
      skip
      return []
    let key ← node false false fuel
    return (key, .nothing) :: (← flowEntries false fuel)

end

def skipEnds : Composer Unit :=
  modify fun s => { s with tokens := s.tokens.dropWhile (· == .documentEnd) }

def document (fuel : Nat) : Composer (Option Node) := do
  if ← sees [.streamEnd] then return none
  if ← sees [.documentEnd] then throw .grammar
  if ← sees [.documentStart] then skip
  let root ← nodeUnless [.documentStart, .documentEnd, .streamEnd] true false fuel
  skipEnds
  match ← look with
  | .streamEnd => return some root
  | .documentStart => throw .document
  | _ => throw .grammar

end Composer

/-- The datum that a file in YAML holds; nothing if it has no document. -/
def parse (octets : Text.Octets) : Except Error Value := do
  let (ts, failure) := tokens (Stream.ofOctets octets)
  match ← (Composer.document (4 * ts.length + 4)).run { tokens := ts, failure } with
  | (some root, _) => root.construct
  | (none, _) => return .null

end UmlKotlin.Data.Yaml
