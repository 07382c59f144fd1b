import UmlKotlin.Text.Digit
import UmlKotlin.Text.Lines
import UmlKotlin.Text.Quoted

/-!
Command-line arguments. An option may be shortened as long as one long name only begins with it; a
value follows as the next argument or behind an equals sign; options of one letter without a value
may be written together. A failure is told in one line.
-/

set_option autoImplicit false

namespace UmlKotlin.CommandLine

/-- What an option does: it takes a value, is switched on, or asks for help. -/
inductive OptionKind
  | value
  | switch
  | help
  deriving DecidableEq, Repr

/-- An option with its names; the first one stands for it in results. -/
structure OptionSpec where
  names : List String
  kind : OptionKind
  deriving DecidableEq, Repr

/-- The arguments that a program takes: options, and at most one further argument, which is
required. -/
structure Grammar where
  program : String
  options : List OptionSpec
  operand : Option String := none

def helpOption : OptionSpec := ⟨["-h", "--help"], .help⟩

inductive UsageError
  | ambiguous (argument : String) (candidates : List String)
  | noValue (option : OptionSpec)
  | ignoredValue (option : OptionSpec) (value : String)
  | missing (operand : String)
  | unrecognized (arguments : List String)
  deriving DecidableEq, Repr

def UsageError.message : UsageError → String
  | .ambiguous argument candidates =>
    "ambiguous option: " ++ argument ++ " could match " ++ ", ".intercalate candidates
  | .noValue option => "argument " ++ "/".intercalate option.names ++ ": expected one argument"
  | .ignoredValue option value =>
    "argument " ++ "/".intercalate option.names ++ ": ignored explicit argument " ++ Text.quote value
  | .missing operand => "the following arguments are required: " ++ operand
  | .unrecognized arguments => "unrecognized arguments: " ++ " ".intercalate arguments

/-- What an argument is by its looks: an option with a value attached to it or not, an option that
does not exist, the mark behind which no options follow, or an operand. -/
inductive Word
  | option (spec : OptionSpec) (name : String) (attached : Option String)
  | unknown (text : String)
  | mark
  | operand (text : String)
  deriving DecidableEq, Repr

/-- What was given: values of options in their order, switches, and operands. An option to which the
mark is attached has no value. -/
structure Given where
  values : List (String × Option String) := []
  switches : List String := []
  operand : Option String := none
  extra : List String := []
  deriving DecidableEq, Repr

/-- What becomes of the arguments when they are not refused. -/
inductive Parsed
  | help
  | given (given : Given)
  deriving DecidableEq, Repr

namespace Grammar

def usage (g : Grammar) : String :=
  let one (o : OptionSpec) : String := match o.kind with
    | .value => o.names.head?.getD "" ++ " VALUE"
    | .switch | .help => o.names.head?.getD ""
  let words := (helpOption :: g.options).map fun o => "[" ++ one o ++ "]"
  "usage: " ++ " ".intercalate (g.program :: words ++ g.operand.toList)

def names (g : Grammar) : List (String × OptionSpec) :=
  (helpOption :: g.options).flatMap fun o => o.names.map (·, o)

def named? (g : Grammar) (name : String) : Option OptionSpec := g.names.lookup name

/-- The part before the first equals sign, and the part behind it if there is one. -/
def cutEquals (text : String) : String × Option String :=
  let cs := text.toList
  let name := cs.takeWhile (· ≠ '=')
  (String.ofList name,
    if name.length < cs.length then some (String.ofList (cs.drop (name.length + 1))) else none)

def begins (lead text : String) : Bool := lead.toList.isPrefixOf text.toList

def candidates (g : Grammar) (text : String) : List (OptionSpec × String × Option String) :=
  if begins "--" text then
    let (name, value) := cutEquals text
    (g.names.filter fun o => begins name o.1).map fun o => (o.2, o.1, value)
  else
    let short := String.ofList (text.toList.take 2)
    let attached := String.ofList (text.toList.drop 2)
    g.names.filterMap fun o =>
      if o.1 = short then some (o.2, o.1, some attached)
      else if begins text o.1 then some (o.2, o.1, none)
      else none

/-- Digits, at least one, up to the end of a text or to the line feed that ends it. -/
def isNumber (cs : List Char) : Bool :=
  let digits := cs.takeWhile Text.isDigit
  !digits.isEmpty && (digits.length = cs.length || cs.drop digits.length = ['\n'])

def isNegativeNumber (text : String) : Bool :=
  match text.toList with
  | '-' :: cs =>
    isNumber cs || match cs.dropWhile Text.isDigit with
      | '.' :: places => isNumber places
      | _ => false
  | _ => false

def classify (g : Grammar) (text : String) : Except UsageError Word :=
  if text = "" || text = "-" || !begins "-" text then .ok (.operand text)
  else match g.named? text with
    | some o => .ok (.option o text none)
    | none =>
      let (name, value) := cutEquals text
      match value.bind fun value => (g.named? name).map (·, value) with
      | some (o, value) => .ok (.option o name (some value))
      | none =>
        match g.candidates text with
        | [(o, name, value)] => .ok (.option o name value)
        | [] => .ok (if isNegativeNumber text || text.toList.contains ' ' then .operand text
            else .unknown text)
        | more => .error (.ambiguous text (more.map (·.2.1)))

/-- What the arguments are; behind the mark all are operands. -/
def classifyAll (g : Grammar) : List String → Except UsageError (List Word)
  | [] => .ok []
  | text :: texts =>
    if text = "--" then .ok (.mark :: texts.map .operand)
    else do
      let w ← g.classify text
      pure (w :: (← g.classifyAll texts))

/-- The options that letters written behind a one-letter option stand for, up to the first one that
takes the rest as its value. -/
def combined (g : Grammar) (spec : OptionSpec) (name : String) :
    List Char → Except UsageError (List (OptionSpec × Option String))
  | [] => .ok [(spec, none)]
  | c :: cs =>
    if spec.kind = .value then .ok [(spec, some (String.ofList (c :: cs)))]
    else if begins "--" name then .error (.ignoredValue spec (String.ofList (c :: cs)))
    else
      let next := String.ofList ['-', c]
      match g.named? next with
      | none => .error (.ignoredValue spec (String.ofList (c :: cs)))
      | some o => do
        let rest ← g.combined o next cs
        pure ((spec, none) :: rest)

def attached (g : Grammar) (spec : OptionSpec) (name value : String) :
    Except UsageError (List (OptionSpec × Option String)) :=
  if spec.kind = .value then .ok [(spec, some value)]
  else if value = "" then .error (.ignoredValue spec value)
  else g.combined spec name value.toList

def record (given : Given) : List (OptionSpec × Option String) → Option Given
  | [] => some given
  | (spec, value) :: rest =>
    let name := spec.names.head?.getD ""
    match spec.kind with
    | .help => none
    | .switch => record { given with switches := given.switches ++ [name] } rest
    | .value => record { given with values := given.values ++ [(name, value.filter (· ≠ "--"))] } rest

/-- An operand put to what was given: the first one where one is asked for, any other is too
much. -/
def putOperand (g : Grammar) (given : Given) (text : String) : Given :=
  if g.operand.isSome && given.operand.isNone then { given with operand := some text }
  else { given with extra := given.extra ++ [text] }

def collect (g : Grammar) (given : Given) : List Word → Except UsageError Parsed
  | [] => .ok (.given given)
  | .unknown text :: ws => g.collect { given with extra := given.extra ++ [text] } ws
  | .operand text :: .mark :: ws =>
    if g.operand.isSome && given.operand.isNone then g.collect (g.putOperand given text) ws
    else g.collect { given with extra := given.extra ++ [text, "--"] } ws
  | .operand text :: ws => g.collect (g.putOperand given text) ws
  | .mark :: .operand text :: ws =>
    if g.operand.isSome && given.operand.isNone then g.collect (g.putOperand given text) ws
    else g.collect { given with extra := given.extra ++ ["--", text] } ws
  | .mark :: ws => g.collect { given with extra := given.extra ++ ["--"] } ws
  | .option spec name (some value) :: ws =>
    match g.attached spec name value with
    | .error e => .error e
    | .ok options => match record given options with
      | none => .ok .help
      | some given => g.collect given ws
  | .option spec _ none :: ws =>
    if spec.kind = .value then
      match ws with
      | .operand text :: ws =>
        match record given [(spec, some text)] with
        | none => .ok .help
        | some given => g.collect given ws
      | _ => .error (.noValue spec)
    else match record given [(spec, none)] with
      | none => .ok .help
      | some given => g.collect given ws

def parse (g : Grammar) (arguments : List String) : Except UsageError Parsed := do
  let words ← g.classifyAll arguments
  match ← g.collect {} words with
  | .help => pure .help
  | .given given =>
    match g.operand, given.operand with
    | some operand, none => .error (.missing operand)
    | _, _ =>
      if given.extra.isEmpty then pure (.given given) else .error (.unrecognized given.extra)

end Grammar

namespace Given

def all (given : Given) (name : String) : List (Option String) :=
  (given.values.filter fun v => v.1 == name).map (·.2)

def last? (given : Given) (name : String) : Option (Option String) := (given.all name).getLast?

/-- The text of an option; an option without one counts as empty. -/
def text (given : Given) (name : String) : String := ((given.last? name).join).getD ""

def isOn (given : Given) (name : String) : Bool := given.switches.contains name

def mentioned (given : Given) : List String :=
  given.values.filterMap (·.2) ++ given.operand.toList

end Given

end UmlKotlin.CommandLine
