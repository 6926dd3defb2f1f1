import FacetedQuery.Decimal.Digits
import FacetedQuery.Page

/-!
# Arguments of the command line

A command with its operands and options.  General options may stand before or behind the name of
the command, where they override those before it; no option may be repeated in one place.  An
option takes its value after an equals sign or as the next argument, which must not look like an
option.
-/

namespace FacetedQuery.CommandLine

/-- The options that take a value. -/
inductive ValueOption where
  | endpoint
  | timeout
  | portal
  | constraints
  | page
  | pageSize
  | sortBy
  | sortDirection
  | facetClass
deriving DecidableEq

/-- The options that stand for themselves. -/
inductive Flag where
  | dryRun
  | groupBy
deriving DecidableEq

inductive CommandName where
  | count
  | results
  | all
  | instance_
deriving DecidableEq

namespace CommandName

def ofText? (text : String) : Option CommandName :=
  if text = "count" then some .count
  else if text = "results" then some .results
  else if text = "all" then some .all
  else if text = "instance" then some .instance_
  else none

end CommandName

/-- Where arguments stand: before the name of the command or behind it. -/
abbrev Position := Option CommandName

/-- The option with a long name, if it may stand at a position. -/
def valueOption? (position : Position) (name : String) : Option ValueOption :=
  if name = "endpoint" then some .endpoint
  else if name = "timeout" then some .timeout
  else if name = "schema" then some .portal
  else if name = "constraints" then some .constraints
  else
    match position with
    | some .results =>
      if name = "page" then some .page
      else if name = "page-size" then some .pageSize
      else if name = "sort-by" then some .sortBy
      else if name = "sort-direction" then some .sortDirection
      else none
    | some .all => if name = "facet-class" then some .facetClass else none
    | some .instance_ => if name = "facet-class" then some .facetClass else none
    | _ => none

/-- The flag with a long name, if it may stand at a position. -/
def flag? (position : Position) (name : String) : Option Flag :=
  if name = "dry-run" then some .dryRun
  else if position = some .all ∧ name = "group-by" then some .groupBy
  else none

/-- The arguments in one place. -/
structure Level where
  values : List (ValueOption × String)
  flags : List Flag
  operands : List String
deriving DecidableEq

namespace Level

def empty : Level :=
  ⟨[], [], []⟩

def value? (level : Level) (option : ValueOption) : Option String :=
  level.values.lookup option

/-- Adds an option, unless it was given. -/
def addValue? (level : Level) (option : ValueOption) (value : String) : Option Level :=
  if (level.value? option).isSome then none
  else some { level with values := (option, value) :: level.values }

def addFlag? (level : Level) (flag : Flag) : Option Level :=
  if level.flags.contains flag then none else some { level with flags := flag :: level.flags }

end Level

/-- The arguments before the name of the command, and those behind it. -/
structure Arguments where
  general : Level
  command : Option (CommandName × Level)
deriving DecidableEq

namespace Arguments

def empty : Arguments :=
  ⟨.empty, none⟩

def position (arguments : Arguments) : Position :=
  arguments.command.map (·.1)

/-- Changes the level at which arguments stand now. -/
def atLevel? (arguments : Arguments) (change? : Level → Option Level) : Option Arguments :=
  match arguments.command with
  | none => (change? arguments.general).map fun general => { arguments with general }
  | some (name, level) =>
    (change? level).map fun level => { arguments with command := some (name, level) }

/-- The value of an option; behind the name of the command it counts more. -/
def value? (arguments : Arguments) (option : ValueOption) : Option String :=
  (arguments.command.bind fun command => command.2.value? option).or
    (arguments.general.value? option)

def hasFlag (arguments : Arguments) (flag : Flag) : Bool :=
  arguments.general.flags.contains flag ||
    arguments.command.any fun command => command.2.flags.contains flag

/-- Adds an operand, of which the first one is the name of the command. -/
def addOperand? (arguments : Arguments) (text : String) : Option Arguments :=
  match arguments.command with
  | none => (CommandName.ofText? text).map fun name =>
      { arguments with command := some (name, .empty) }
  | some (name, level) =>
    some { arguments with
      command := some (name, { level with operands := level.operands ++ [text] }) }

end Arguments

/-- How the reading of arguments ends early. -/
inductive Ending where
  | usage
  | help
  | version
deriving DecidableEq

/-- Whether an argument looks like an option.  A single hyphen does not. -/
def looksLikeOption (argument : String) : Bool :=
  match argument.toList with
  | '-' :: _ :: _ => true
  | _ => false

/-- An option that is being read: it has its value or takes the next argument. -/
inductive Reading where
  | complete (arguments : Arguments)
  | awaiting (arguments : Arguments) (option : ValueOption)

def orUsage : Option α → Except Ending α
  | some value => .ok value
  | none => .error .usage

/-- Adds an option with its value. -/
def addOption (arguments : Arguments) (option : ValueOption) (value : String) :
    Except Ending Arguments :=
  orUsage (arguments.atLevel? (·.addValue? option value))

/-- Reads an argument that starts with two hyphens, given without them. -/
def readLong (arguments : Arguments) (text : List Char) : Except Ending Reading := do
  let name := String.ofList (text.takeWhile (· != '='))
  let attached := match text.dropWhile (· != '=') with
    | [] => none
    | _ :: value => some (String.ofList value)
  match valueOption? arguments.position name, flag? arguments.position name, attached with
  | some option, _, some value => .complete <$> addOption arguments option value
  | some option, _, none => .ok (.awaiting arguments option)
  | none, some flag, none => .complete <$> orUsage (arguments.atLevel? (·.addFlag? flag))
  | none, some _, some _ => .error .usage
  | none, none, none =>
    if name = "help" then .error .help
    else if name = "version" ∧ arguments.position = none then .error .version
    else .error .usage
  | none, none, some _ => .error .usage

/-- Reads an argument that starts with one hyphen, given without it. -/
def readShort (arguments : Arguments) (text : List Char) : Except Ending Reading :=
  match text with
  | ['c'] => .ok (.awaiting arguments .constraints)
  | 'c' :: '=' :: value =>
    .complete <$> addOption arguments .constraints (String.ofList value)
  | 'c' :: value => .complete <$> addOption arguments .constraints (String.ofList value)
  | 'h' :: _ => .error .help
  | 'V' :: _ => if arguments.position = none then .error .version else .error .usage
  | _ => .error .usage

/-- Reads an argument. -/
def readArgument (arguments : Arguments) (argument : String) : Except Ending Reading :=
  if looksLikeOption argument then
    match argument.toList with
    | '-' :: '-' :: text => readLong arguments text
    | _ :: text => readShort arguments text
    | [] => .error .usage
  else .complete <$> orUsage (arguments.addOperand? argument)

/-- Reads arguments that are operands whatever they look like. -/
def readOperands (arguments : Arguments) (rest : List String) : Except Ending Arguments :=
  match arguments.command with
  | none => if rest.isEmpty then .ok arguments else .error .usage
  | some _ => rest.foldlM (fun arguments text => orUsage (arguments.addOperand? text)) arguments

/-- Reads arguments from left to right. -/
def readFrom : Reading → List String → Except Ending Arguments
  | .complete arguments, [] => .ok arguments
  | .awaiting _ _, [] => .error .usage
  | .complete arguments, argument :: rest => do
    if argument = "--" then readOperands arguments rest
    else readFrom (← readArgument arguments argument) rest
  | .awaiting arguments option, argument :: rest => do
    if looksLikeOption argument then .error .usage
    else readFrom (.complete (← addOption arguments option argument)) rest

/-- Reads the arguments of the program. -/
def readArguments (arguments : List String) : Except Ending Arguments :=
  readFrom (.complete .empty) arguments

/-- What the program is asked to do. -/
inductive Command where
  | count (resultClass : String)
  | results (resultClass : String) (page : Page) (order : SortOrder)
  | all (resultClass : String) (facetClass : Option String) (groupBy : Bool)
  | instance_ (resultClass uri : String) (facetClass : Option String)

/-- A command with the general options. -/
structure Invocation where
  command : Command
  endpoint : Option String
  /-- The timeout in seconds. -/
  timeout : Option Nat
  /-- The file that describes the portal. -/
  portal : Option String
  constraints : Option String
  dryRun : Bool

/-- The number that an option gives. -/
def number (arguments : Arguments) (option : ValueOption) : Except Ending (Option Nat) :=
  match arguments.value? option with
  | none => .ok none
  | some text => some <$> orUsage (Decimal.readUnsigned? text.toList)

def direction (arguments : Arguments) : Except Ending SortDirection :=
  match arguments.value? .sortDirection with
  | none => .ok .ascending
  | some text => (SortDirection.read text).mapError fun _ => .usage

/-- The command that arguments give. -/
def commandOf (arguments : Arguments) : Except Ending Command :=
  match arguments.command with
  | none => .error .usage
  | some (.count, level) =>
    match level.operands with
    | [resultClass] => .ok (.count resultClass)
    | _ => .error .usage
  | some (.results, level) =>
    match level.operands with
    | [resultClass] => do
      let page ← number arguments .page
      let size ← number arguments .pageSize
      let order : SortOrder := ⟨arguments.value? .sortBy, ← direction arguments⟩
      return .results resultClass ⟨.ofNat (page.getD 0), .ofNat (size.getD 10)⟩ order
    | _ => .error .usage
  | some (.all, level) =>
    match level.operands with
    | [resultClass] =>
      .ok (.all resultClass (arguments.value? .facetClass) (arguments.hasFlag .groupBy))
    | _ => .error .usage
  | some (.instance_, level) =>
    match level.operands with
    | [resultClass, uri] => .ok (.instance_ resultClass uri (arguments.value? .facetClass))
    | _ => .error .usage

/-- The invocation that arguments give. -/
def invocationOf (arguments : Arguments) : Except Ending Invocation := do
  let command ← commandOf arguments
  let timeout ← number arguments .timeout
  if arguments.value? .portal = some "" then .error .usage
  else
    return {
      command, timeout
      endpoint := arguments.value? .endpoint
      portal := arguments.value? .portal
      constraints := arguments.value? .constraints
      dryRun := arguments.hasFlag .dryRun }

/-- Reads the arguments of the program as an invocation. -/
def readInvocation (arguments : List String) : Except Ending Invocation := do
  invocationOf (← readArguments arguments)

end FacetedQuery.CommandLine
