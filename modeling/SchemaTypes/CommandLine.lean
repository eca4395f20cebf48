import SchemaTypes.CommandLine.Argument
import SchemaTypes.CommandLine.Help
import SchemaTypes.Number.Numeral
import SchemaTypes.Value

/-!
# The command line

The options of a run from the arguments of the program. The arguments are taken from left to
right, and the last value of a flag counts. A flag that takes a value has it attached or takes the
operand behind it; letters of flags without values can be written behind one hyphen, and the last
of them may have a value. Nothing but flags is accepted, and what else there is gets reported
together at the end.

Two hyphens that are attached to a flag are no value, as they are none anywhere else. But the flag
has been given, so it stands for an empty list of values then.

So of several mistakes the one to be reported is: an ambiguous abbreviation anywhere; else the
first flag with a value too many, too few or of the wrong form; else the arguments that nobody
asked for. A request for help ends the reading where it stands.
-/

namespace SchemaTypes
namespace CommandLine

/-- The options of a run: each is a text, the port an integer, and any of them may be an empty
list instead. -/
structure Options where
  output : Value
  schema : Value
  isDryRun : Bool
  host : Option Value
  port : Option Value
  user : Option Value
  password : Option Value
  database : Option Value
  connFile : Option Value
  isVerbose : Bool
deriving Repr

namespace Options

/-- The options without any flag. -/
def defaults : Options where
  output := .text "./types/db.ts"
  schema := .text "public"
  isDryRun := false
  host := none
  port := none
  user := none
  password := none
  database := none
  connFile := none
  isVerbose := false

end Options

/-- A mistake on the command line. -/
inductive Mistake where
  | ambiguous (ambiguity : Ambiguity)
  | missingValue (flag : Flag)
  | unexpectedValue (flag : Flag) (value : String)
  | noInteger (flag : Flag) (value : String)
  | unrecognized (arguments : List String)
deriving Repr, DecidableEq

/-- The text of a mistake. -/
def Mistake.message : Mistake → String
  | .ambiguous ambiguity =>
    "ambiguous option: " ++ ambiguity.argument ++ " could match "
      ++ ", ".intercalate (ambiguity.candidates.map (·.long))
  | .missingValue flag => "argument " ++ flag.name ++ ": expected one argument"
  | .unexpectedValue flag value =>
    "argument " ++ flag.name ++ ": ignored explicit argument " ++ Text.display value
  | .noInteger flag value =>
    "argument " ++ flag.name ++ ": invalid int value: " ++ Text.display value
  | .unrecognized arguments => "unrecognized arguments: " ++ " ".intercalate arguments

/-- Why there are no options to run with. -/
inductive Stop where
  | help
  | mistake (reason : Mistake)
deriving Repr, DecidableEq

/-- The exit code of a program that stops so. -/
def Stop.exitCode : Stop → Nat
  | .help => 0
  | .mistake _ => 2

/-- What such a program writes to its standard output, for a number of columns. -/
def Stop.output (columns : Nat) : Stop → String
  | .help => helpText columns
  | .mistake _ => ""

/-- What such a program reports, for a number of columns. -/
def Stop.report (columns : Nat) : Stop → String
  | .help => ""
  | .mistake reason =>
    usageText columns ++ programName ++ ": error: " ++ reason.message ++ "\n"

/-! ## Letters behind one hyphen -/

/-- What stands behind one hyphen: flags that need no more, and perhaps a flag at the end with its
value or waiting for one. -/
structure Cluster where
  flags : List Flag
  final : Option (Flag × Option String)
deriving Repr, DecidableEq

/-- Adds a flag in front. -/
def Cluster.cons (flag : Flag) (cluster : Cluster) : Cluster :=
  { cluster with flags := flag :: cluster.flags }

/-- A flag alone: it is complete unless it takes a value. -/
def Cluster.single (flag : Flag) : Cluster :=
  if flag.takesValue then ⟨[], some (flag, none)⟩ else ⟨[flag], none⟩

/-- Reads the text attached to a flag that is written by its letter: its value, or the letters of
further flags. -/
def cluster (flag : Flag) : List Char → Except Mistake Cluster
  | [] =>
    if flag.takesValue then .ok ⟨[], some (flag, some "")⟩
    else .error (.unexpectedValue flag "")
  | letter :: rest =>
    if flag.takesValue then .ok ⟨[], some (flag, some (String.ofList (letter :: rest)))⟩
    else
      match Flag.ofLetter? letter, rest with
      | none, _ => .error (.unexpectedValue flag (String.ofList (letter :: rest)))
      | some next, [] => .ok ((Cluster.single next).cons flag)
      | some next, other :: others => (cluster next (other :: others)).map (Cluster.cons flag)

/-- What a flag with its attached text comes to. -/
def clusterOf (flag : Flag) (isLong : Bool) : Option (List Char) → Except Mistake Cluster
  | none => .ok (Cluster.single flag)
  | some attached =>
    if isLong && !flag.takesValue then
      .error (.unexpectedValue flag (String.ofList attached))
    else cluster flag attached

/-! ## Taking flags -/

/-- Takes a flag without a value. -/
def takeFlag (options : Options) : Flag → Except Stop Options
  | .help => .error .help
  | .dryRun => .ok { options with isDryRun := true }
  | .verbose => .ok { options with isVerbose := true }
  | _ => .ok options

/-- The value that a text is for a flag. -/
def valueOf (flag : Flag) (text : String) : Except Stop Value :=
  if text = "--" then .ok (.list [])
  else if flag = .port then
    match Numeral.ofArgument? text with
    | some n => .ok (.int n)
    | none => .error (.mistake (.noInteger flag text))
  else .ok (.text text)

/-- Takes a flag with the text of its value. -/
def takeValue (options : Options) (flag : Flag) (text : String) : Except Stop Options := do
  let value ← valueOf flag text
  match flag with
  | .output => return { options with output := value }
  | .schema => return { options with schema := value }
  | .host => return { options with host := some value }
  | .port => return { options with port := some value }
  | .user => return { options with user := some value }
  | .password => return { options with password := some value }
  | .database => return { options with database := some value }
  | .connFile => return { options with connFile := some value }
  | .help | .dryRun | .verbose => return options

/-- Takes the flags of a cluster, and its last flag if that has a value. -/
def takeCluster (options : Options) (cluster : Cluster) (value : Option String) :
    Except Stop Options := do
  let options ← cluster.flags.foldlM takeFlag options
  match cluster.final, value with
  | some (flag, _), some value => takeValue options flag value
  | _, _ => return options

/-- Takes arguments from left to right: the options, and what was no flag. -/
def take (options : Options) : List Argument → Except Stop (Options × List String)
  | [] => .ok (options, [])
  | .separator :: rest => do
    let (options, extras) ← take options rest
    return (options, "--" :: extras)
  | .operand text :: rest => do
    let (options, extras) ← take options rest
    return (options, text :: extras)
  | .unknown text :: rest => do
    let (options, extras) ← take options rest
    return (options, text :: extras)
  | .flag flag isLong attached :: rest =>
    match clusterOf flag isLong attached with
    | .error reason => .error (.mistake reason)
    | .ok cluster =>
      match cluster.final, rest with
      | some (_, none), .operand text :: rest => do
        take (← takeCluster options cluster (some text)) rest
      | some (last, none), _ => .error (.mistake (.missingValue last))
      | some (_, some value), rest => do
        take (← takeCluster options cluster (some value)) rest
      | none, rest => do
        take (← takeCluster options cluster none) rest

/-- The options that the arguments of the program say. -/
def parse (arguments : List String) : Except Stop Options := do
  match Argument.ofTexts arguments with
  | .error ambiguity => .error (.mistake (.ambiguous ambiguity))
  | .ok arguments => do
    match ← take .defaults arguments with
    | (options, []) => return options
    | (_, extra :: extras) => .error (.mistake (.unrecognized (extra :: extras)))

end CommandLine
end SchemaTypes
