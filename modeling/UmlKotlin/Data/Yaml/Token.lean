import UmlKotlin.Data.Json
import UmlKotlin.Data.Yaml.Stream

/-!
The tokens of YAML: scalars, the marks between them, and the beginnings and ends of collections
that indentation shows. A scalar turns out to be a key only when its colon is met; its marks are
then put in front of it.
-/

set_option autoImplicit false

namespace UmlKotlin.Data.Yaml

inductive Token
  | documentStart
  | documentEnd
  | blockSequenceStart
  | blockMappingStart
  | blockEnd
  | flowSequenceStart
  | flowSequenceEnd
  | flowMappingStart
  | flowMappingEnd
  | flowEntry
  | blockEntry
  | key
  | value
  | scalar (text : String) (plain : Bool)
  | streamEnd
  deriving DecidableEq, Repr

/-- Where a key may have begun: before which token, and at which place of the text. A key that is
required has to find its colon. -/
structure PossibleKey where
  token : Nat
  required : Bool
  index : Nat
  line : Nat
  column : Nat
  deriving DecidableEq, Repr

/-- What is known while tokens are taken off a text: the characters left and the error that may stand
behind them, the place, the open blocks, and the tokens, the latest first. Indentation is counted
from one, zero standing outside of all blocks. -/
structure Lexing where
  chars : List Char
  failure : Option Error := none
  index : Nat := 0
  line : Nat := 0
  column : Nat := 0
  flow : Nat := 0
  indent : Nat := 0
  indents : List Nat := []
  mayKey : Bool := true
  keys : List (Nat × PossibleKey) := []
  tokens : List Token := []
  count : Nat := 0

abbrev Lexer (α : Type) := StateT Lexing (Except Error) α

namespace Lexer

def isBreak (c : Char) : Bool := c == '\n' || c == '\u0085' || c == '\u2028' || c == '\u2029'

/-- What may stand behind a mark: white space or the end of the text. -/
def isGap (c : Char) : Bool := c == '\x00' || c == ' ' || c == '\t' || isBreak c

def fail {α : Type} : Lexer α := throw .token

/-- The character `n` places ahead; behind the last one stands a character of no text. -/
def peekAt (n : Nat) : Lexer Char := do
  let s ← get
  match s.chars.drop n, s.failure with
  | c :: _, _ => return c
  | [], some e => throw e
  | [], none => return '\x00'

def peek : Lexer Char := peekAt 0

/-- The place behind one more character; a byte order mark takes no column. -/
def advance (s : Lexing) : Lexing :=
  match s.chars with
  | [] => s
  | c :: cs =>
    let s := { s with chars := cs, index := s.index + 1 }
    if isBreak c then { s with line := s.line + 1, column := 0 }
    else if c = '\uFEFF' then s
    else { s with column := s.column + 1 }

/-- The place `n` characters ahead, where there has to be one. -/
def forward (n : Nat) : Lexer Unit := do
  modify fun s => (List.range n).foldl (fun s _ => advance s) s
  let _ ← peek

def emit (t : Token) : Lexer Unit :=
  modify fun s => { s with tokens := t :: s.tokens, count := s.count + 1 }

/-- A possible key of this flow level is given up; that is an error if it is required. -/
def dropKey : Lexer Unit := do
  let s ← get
  match s.keys.lookup s.flow with
  | some key =>
    if key.required then fail
    set { s with keys := s.keys.filter fun k => k.1 ≠ s.flow }
  | none => pure ()

/-- Whether a possible key cannot find its colon any more: a key is on one line and not too long. -/
def isStale (s : Lexing) (key : PossibleKey) : Bool :=
  key.line ≠ s.line || 1024 < s.index - key.index

def isStuck (s : Lexing) : Bool := s.keys.any fun k => isStale s k.2 && k.2.required

def dropStaleKeys : Lexer Unit := do
  let s ← get
  if isStuck s then fail
  set { s with keys := s.keys.filter fun k => !isStale s k.2 }

/-- How many of the tokens are settled: those before the first one that a key may still begin at. -/
def settled (s : Lexing) : Nat :=
  (s.keys.filter fun k => !isStale s k.2).foldl (fun n k => min n k.2.token) s.count

def settledTokens (s : Lexing) : List Token := (s.tokens.drop (s.count - settled s)).reverse

def saveKey : Lexer Unit := do
  let s ← get
  if s.mayKey then
    dropKey
    let s ← get
    let required := s.flow = 0 && s.indent = s.column + 1
    let key : PossibleKey := ⟨s.count, required, s.index, s.line, s.column⟩
    set { s with keys := (s.flow, key) :: s.keys }

def allowKey (b : Bool) : Lexer Unit := modify fun s => { s with mayKey := b }

def unwind (column : Nat) : Lexer Unit := modify fun s =>
  if 0 < s.flow then s
  else
    let depth := (s.indent :: s.indents).takeWhile fun i => column < i
    match (s.indent :: s.indents).drop depth.length with
    | indent :: indents =>
      { s with
        indent, indents
        tokens := (depth.map fun _ => Token.blockEnd) ++ s.tokens
        count := s.count + depth.length }
    | [] => s

/-- A block at the column begins, unless one is open there; the answer tells whether it does. -/
def addIndent (column : Nat) : Lexer Bool := do
  let s ← get
  if s.indent < column + 1 then
    set { s with indents := s.indent :: s.indents, indent := column + 1 }
    return true
  else return false

def skipGap : Nat → Lexer Unit
  | 0 => pure ()
  | fuel + 1 => do
    let c ← peek
    if c = ' ' || (c = '\uFEFF' && (← get).index = 0) then
      forward 1
      skipGap fuel
    else if c = '#' then
      forward ((← get).chars.takeWhile fun c => !isBreak c).length
      skipGap fuel
    else if isBreak c then
      forward 1
      if (← get).flow = 0 then allowKey true
      skipGap fuel
    else pure ()

def atDocumentMark (c : Char) : Lexer Bool := do
  let _ ← peekAt 2
  if (← get).chars.take 3 = [c, c, c] then return isGap (← peekAt 3) else return false

def atSomeDocumentMark : Lexer Bool := atDocumentMark '-' <||> atDocumentMark '.'

def lineBreak : Lexer (List Char) := do
  let c ← peek
  forward 1
  return if c = '\u0085' then ['\n'] else [c]

/-- Further line breaks inside a plain scalar and the indentation behind them; nothing if a document
mark follows. -/
def plainBreaks : Nat → Lexer (Option (List Char))
  | 0 => pure (some [])
  | fuel + 1 => do
    let c ← peek
    if c = ' ' then
      forward 1
      plainBreaks fuel
    else if isBreak c then
      let b ← lineBreak
      if ← atSomeDocumentMark then return none
      match ← plainBreaks fuel with
      | some bs => return some (b ++ bs)
      | none => return none
    else return some []

/-- The gap between two parts of a plain scalar, folded; empty if there is none. -/
def plainGap (fuel : Nat) : Lexer (List Char) := do
  let spaces := (← get).chars.takeWhile (· == ' ')
  forward spaces.length
  if isBreak (← peek) then
    let b ← lineBreak
    allowKey true
    if ← atSomeDocumentMark then return []
    match ← plainBreaks fuel with
    | none => return []
    | some more =>
      if b ≠ ['\n'] then return b ++ more
      else if more.isEmpty then return [' ']
      else return more
  else return spaces

def plainRun (flow : Bool) : List Char → Nat
  | [] => 0
  | c :: cs =>
    let next := cs.head?.getD '\x00'
    let ends := isGap c || (c == ':' && (isGap next || (flow && ",[]\x7b\x7d".toList.contains next))) ||
      (flow && ",?[]\x7b\x7d".toList.contains c)
    if ends then 0 else plainRun flow cs + 1

/-- A plain scalar; `gap` is the folded gap before its next part. -/
def plainScalar (indent : Nat) : Nat → List Char → Lexer (List Char)
  | 0, _ => pure []
  | fuel + 1, gap => do
    let s ← get
    let n := if (← peek) = '#' then 0 else plainRun (0 < s.flow) s.chars
    if n = 0 then return []
    allowKey false
    let part := s.chars.take n
    forward n
    let next ← plainGap fuel
    let s ← get
    if next.isEmpty || (← peek) = '#' || (s.flow = 0 && s.column + 1 ≤ indent) then
      return gap ++ part
    return gap ++ part ++ (← plainScalar indent fuel next)

/-- Line breaks inside a quoted scalar with the indentation behind them. -/
def quotedBreaks : Nat → Lexer (List Char)
  | 0 => pure []
  | fuel + 1 => do
    if ← atSomeDocumentMark then fail
    let blanks := (← get).chars.takeWhile fun c => c == ' ' || c == '\t'
    forward blanks.length
    if isBreak (← peek) then
      let b ← lineBreak
      return b ++ (← quotedBreaks fuel)
    else return []

def quotedGap (fuel : Nat) : Lexer (List Char) := do
  let blanks := (← get).chars.takeWhile fun c => c == ' ' || c == '\t'
  forward blanks.length
  let c ← peek
  if c = '\x00' then fail
  if isBreak c then
    let b ← lineBreak
    let more ← quotedBreaks fuel
    if b ≠ ['\n'] then return b ++ more
    else if more.isEmpty then return [' ']
    else return more
  else return blanks

def escape? (c : Char) : Option Char :=
  [('0', '\x00'), ('a', '\x07'), ('b', '\x08'), ('t', '\t'), ('\t', '\t'), ('n', '\n'),
    ('v', '\x0b'), ('f', '\x0c'), ('r', '\r'), ('e', '\x1b'), (' ', ' '), ('"', '"'), ('\\', '\\'),
    ('/', '/'), ('N', '\u0085'), ('_', '\u00A0'), ('L', '\u2028'), ('P', '\u2029')].lookup c

/-- The number of hexadecimal digits behind an escape letter. -/
def escapeWidth? (c : Char) : Option Nat := [('x', 2), ('u', 4), ('U', 8)].lookup c

/-- The number that the hexadecimal digits behind an escape letter spell, and what follows them. -/
def escapeNumber? (cs : List Char) : Option (Nat × List Char) := do
  match cs with
  | letter :: cs =>
    let width ← escapeWidth? letter
    let digits ← (cs.take width).mapM Json.hexDigit?
    if digits.length < width then none
    else some (digits.foldl (fun n d => n * 16 + d) 0, cs.drop width)
  | [] => none

def lowSurrogate? (cs : List Char) : Option (Nat × List Char) :=
  match cs with
  | '\\' :: cs => (escapeNumber? cs).filter fun r => 0xDC00 ≤ r.1 && r.1 < 0xE000
  | _ => none

/-- The character that a number escapes, and what follows it; two halves of a pair of surrogates make
up one. -/
def escapedChar (n : Nat) (rest : List Char) : Except Error (Char × List Char) :=
  if 0x7FFFFFFF < n then .error .overflow
  else if 0x10FFFF < n then .error .range
  else if 0xD800 ≤ n && n < 0xDC00 then
    match lowSurrogate? rest with
    | some (low, rest) => .ok (Char.ofNat (0x10000 + (n - 0xD800) * 0x400 + (low - 0xDC00)), rest)
    | none => .ok (Char.ofNat n, rest)
  else .ok (Char.ofNat n, rest)

def escaped (fuel : Nat) : Lexer (List Char) := do
  forward 1
  let c ← peek
  match escape? c, escapeNumber? (← get).chars with
  | some e, _ =>
    forward 1
    return [e]
  | none, some (n, rest) =>
    let (e, rest) ← escapedChar n rest
    forward ((← get).chars.length - rest.length)
    return [e]
  | none, none =>
    if isBreak c then
      let _ ← lineBreak
      quotedBreaks fuel
    else
      let digits := ((← get).chars.drop 1).takeWhile fun d => (Json.hexDigit? d).isSome
      let _ ← peekAt (digits.length + 1)
      fail

/-- A quoted scalar behind its opening mark, up to its closing one. -/
def quotedScalar (double : Bool) : Nat → Lexer (List Char)
  | 0 => fail
  | fuel + 1 => do
    let c ← peek
    let mark := if double then '"' else '\''
    if c = mark then
      if !double && (← peekAt 1) = '\'' then
        forward 2
        return '\'' :: (← quotedScalar double fuel)
      forward 1
      return []
    else if double && c = '\\' then
      let e ← escaped fuel
      return e ++ (← quotedScalar double fuel)
    else if isGap c then
      let gap ← quotedGap fuel
      return gap ++ (← quotedScalar double fuel)
    else
      forward 1
      return c :: (← quotedScalar double fuel)

def startsPlain (flow : Bool) (c : Char) : Lexer Bool := do
  if isGap c || "-?:,[]\x7b\x7d#&*!|>'\"%@\x60".toList.contains c then
    let next ← peekAt 1
    return !isGap next && (c == '-' || (!flow && (c == '?' || c == ':')))
  else return true

/-- A block entry, key or value mark opens a block where the column allows it. -/
def openBlock (t : Token) : Lexer Unit := do
  let s ← get
  if s.flow = 0 then
    if !s.mayKey then fail
    if ← addIndent s.column then emit t

def valueMark : Lexer Unit := do
  let s ← get
  match s.keys.lookup s.flow with
  | some key =>
    let opens ← if s.flow = 0 then addIndent key.column else pure false
    let marks := if opens then [Token.key, .blockMappingStart] else [Token.key]
    modify fun s =>
      let behind := s.count - key.token
      { s with
        keys := s.keys.filter fun k => k.1 ≠ s.flow
        tokens := s.tokens.take behind ++ marks ++ s.tokens.drop behind
        count := s.count + marks.length
        mayKey := false }
  | none =>
    openBlock .blockMappingStart
    allowKey (s.flow = 0)
    dropKey
  emit .value
  forward 1

def openFlow (t : Token) : Lexer Unit := do
  saveKey
  modify fun s => { s with flow := s.flow + 1 }
  allowKey true
  emit t
  forward 1

def closeFlow (t : Token) : Lexer Unit := do
  dropKey
  modify fun s => { s with flow := s.flow - 1 }
  allowKey false
  emit t
  forward 1

def documentMark (t : Token) : Lexer Unit := do
  unwind 0
  dropKey
  allowKey false
  forward 3
  emit t

/-- The next token, with what it implies; the answer tells whether the text is at its end. -/
def next (fuel : Nat) : Lexer Bool := do
  skipGap fuel
  dropStaleKeys
  unwind ((← get).column + 1)
  let s ← get
  let c ← peek
  let flow : Bool := 0 < s.flow
  let beforeGap : Lexer Bool := return isGap (← peekAt 1)
  if s.chars.isEmpty then
    unwind 0
    dropKey
    emit .streamEnd
    return true
  if ← pure (s.column == 0 && c == '-') <&&> atDocumentMark '-' then documentMark .documentStart
  else if ← pure (s.column == 0 && c == '.') <&&> atDocumentMark '.' then documentMark .documentEnd
  else if c = '[' then openFlow .flowSequenceStart
  else if c = '{' then openFlow .flowMappingStart
  else if c = ']' then closeFlow .flowSequenceEnd
  else if c = '}' then closeFlow .flowMappingEnd
  else if c = ',' then
    allowKey true
    dropKey
    emit .flowEntry
    forward 1
  else if ← pure (c == '-') <&&> beforeGap then
    openBlock .blockSequenceStart
    allowKey true
    dropKey
    emit .blockEntry
    forward 1
  else if ← pure (c == '?') <&&> (pure flow <||> beforeGap) then
    openBlock .blockMappingStart
    allowKey (!flow)
    dropKey
    emit .key
    forward 1
  else if ← pure (c == ':') <&&> (pure flow <||> beforeGap) then valueMark
  else if c = '\'' || c = '"' then
    saveKey
    allowKey false
    forward 1
    emit (.scalar (String.ofList (← quotedScalar (c == '"') fuel)) false)
  else if ← startsPlain flow c then
    saveKey
    allowKey false
    emit (.scalar (String.ofList (← plainScalar s.indent fuel [])) true)
  else fail
  return false

end Lexer

/-- The tokens of a text. Where a place has no token, they are those that were settled before it,
together with the error. -/
def tokens (s : Stream) : List Token × Option Error :=
  go (s.chars.length + 1) { chars := s.chars, failure := s.failure }
where
  go : Nat → Lexing → List Token × Option Error
    | 0, s => (s.tokens.reverse, none)
    | fuel + 1, s =>
      match (Lexer.next (fuel + 1)).run s with
      | .ok (true, s) => (s.tokens.reverse, none)
      | .ok (false, next) =>
        if Lexer.isStuck next then (Lexer.settledTokens s, some .token) else go fuel next
      | .error e => (Lexer.settledTokens s, some e)

end UmlKotlin.Data.Yaml
