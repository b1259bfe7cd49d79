import PeppolStatistics.CommandLine.Month

/-!
# Arguments of the command line

Options are written `--option argument` or `--option=argument`, and may be shortened as long as
one option remains that is meant. The arguments are first told apart, each by itself, and then
read from left to right; the last of several arguments of one option counts. Part 2 gives the
mistakes and their wording, part 4 the reader.
-/

namespace PeppolStatistics

/-! ## 1. Options -/

/-- The options of the command line. -/
inductive Flag where
  | help
  | config
  | report
  | month
  | serviceProvider
  | out
deriving DecidableEq, Repr

namespace Flag

/-- All options, in the order of the help text. -/
def all : List Flag := [.help, .config, .report, .month, .serviceProvider, .out]

/-- The spellings of an option. -/
def spellings : Flag → List String
  | .help => ["-h", "--help"]
  | .config => ["--config"]
  | .report => ["--report"]
  | .month => ["--month"]
  | .serviceProvider => ["--service-provider"]
  | .out => ["--out"]

/-- The name of an option in messages. -/
def title (f : Flag) : String := "/".intercalate f.spellings

/-- All spellings with their options. -/
def spelled : List (String × Flag) := all.flatMap fun f => f.spellings.map (·, f)

end Flag

/-- The kind of report that a name stands for. -/
def ReportKind.ofName? : String → Option ReportKind
  | "eusr" => some .eusr
  | "tsr" => some .tsr
  | _ => none

/-! ## 2. Mistakes -/

/-- A mistake in the arguments. -/
inductive UsageMistake where
  | ambiguous (argument : String) (spellings : List String)
  | missingArgument (flag : Flag)
  /-- An option that takes no argument has one, which is shown. -/
  | unusedArgument (flag : Flag) (shown : String)
  | badMonth (wording : String)
  | unknownReport (shown : String)
  | missingFlags (flags : List Flag)
  | unrecognized (arguments : List String)
deriving DecidableEq, Repr

namespace UsageMistake

/-- The wording of a mistake. -/
def message : UsageMistake → String
  | .ambiguous argument spellings =>
    "ambiguous option: " ++ argument ++ " could match " ++ ", ".intercalate spellings
  | .missingArgument flag => "argument " ++ flag.title ++ ": expected one argument"
  | .unusedArgument flag shown =>
    "argument " ++ flag.title ++ ": ignored explicit argument " ++ shown
  | .badMonth wording => "argument " ++ Flag.month.title ++ ": " ++ wording
  | .unknownReport shown =>
    "argument " ++ Flag.report.title ++ ": invalid choice: " ++ shown
      ++ " (choose from 'eusr', 'tsr')"
  | .missingFlags flags =>
    "the following arguments are required: " ++ ", ".intercalate (flags.map Flag.title)
  | .unrecognized arguments => "unrecognized arguments: " ++ " ".intercalate arguments

end UsageMistake

/-- Why the arguments give no command: a mistake in them, or a failure while one was read. -/
inductive Refusal where
  | usage (mistake : UsageMistake)
  | failed (failure : Failure)

/-! ## 3. Words -/

/-- An argument by itself. -/
inductive Word where
  | text (s : String)
  /-- An option as it was spelled, with the argument that is attached to it. -/
  | flag (f : Flag) (spelling : String) (attached : Option String)
  /-- What looks like an option and is none. -/
  | unknown (s : String)
deriving DecidableEq, Repr

namespace Word

/-- A text before and behind its first equality sign; nothing behind if there is none. -/
def splitAssignment (cs : List Char) : List Char × Option (List Char) :=
  match cs.span (· != '=') with
  | (name, _ :: argument) => (name, some argument)
  | (name, []) => (name, none)

/-- Whether a text is a negative number: digits, or digits with a point before the last of them. -/
def isNegativeNumber (cs : List Char) : Bool :=
  let digits (ds : List Char) : Bool := ds.all fun c => (Numeral.digitValue? c).isSome
  match cs with
  | '-' :: body =>
    match body.span (· != '.') with
    | (whole, []) => !whole.isEmpty && digits whole
    | (whole, _ :: places) => digits whole && !places.isEmpty && digits places
  | _ => false

/-- The options that a text may be short for; a text that spells one before its equality sign
    means no other. Behind the one spelling with a single hyphen its argument follows at once. -/
def candidates (cs : List Char) : List (Flag × String × Option String) :=
  match cs with
  | '-' :: '-' :: _ =>
    let (name, attached) := splitAssignment cs
    let spelled := Flag.spelled.filter fun e => e.1.toList == name
    let meant := if spelled.isEmpty then Flag.spelled.filter fun e => name.isPrefixOf e.1.toList
      else spelled
    meant.map fun e => (e.2, e.1, attached.map String.ofList)
  | _ =>
    (Flag.spelled.filter fun e => e.1.toList == cs.take 2).map fun e =>
      (e.2, e.1, some (String.ofList (cs.drop 2)))

/-- What a text that begins with a hyphen means, unless it is the spelling of an option. -/
def ofHyphened (s : String) : Except UsageMistake Word :=
  let cs := s.toList
  match candidates cs with
  | [(f, spelling, attached)] => .ok (.flag f spelling attached)
  | [] => .ok (if isNegativeNumber cs || cs.contains ' ' then .text s else .unknown s)
  | several => .error (.ambiguous s (several.map (·.2.1)))

/-- What an argument means by itself. -/
def ofArgument (s : String) : Except UsageMistake Word :=
  match s.toList with
  | '-' :: _ :: _ =>
    match Flag.spelled.lookup s with
    | some f => .ok (.flag f s none)
    | none => ofHyphened s
  | _ => .ok (.text s)

/-- What the arguments mean. Behind two hyphens that stand alone all are texts. -/
def ofArguments : List String → Except UsageMistake (List Word)
  | [] => .ok []
  | s :: rest =>
    if s == "--" then .ok (.unknown s :: rest.map .text)
    else do return (← ofArgument s) :: (← ofArguments rest)

end Word

/-! ## 4. Commands -/

/-- A report to be made: the settings file, the kind of report, a day of the month, the service
    provider if not all items count, and the file to write if it is not printed. -/
structure ReportCommand where
  config : String
  report : ReportKind
  month : Date
  provider : Option String
  out : Option String

/-- What the program is asked to do. -/
inductive Command where
  | help
  | report (c : ReportCommand)

/-- What the arguments up to some place have given. -/
structure GivenArguments where
  config : Option String := none
  report : ReportKind := .tsr
  month : Option Date := none
  provider : Option String := none
  out : Option String := none
  /-- The arguments that belong to no option. -/
  others : List String := []

namespace GivenArguments

/-- The month that an argument names. -/
def readMonth (argument : String) : Except Refusal Date :=
  match parseMonth argument with
  | .ok d => .ok d
  | .error (.notAMonth shown) => .error (.usage (.badMonth (Failure.notAMonth shown).message))
  | .error e => .error (.failed e)

/-- Takes the argument of an option. -/
def take (g : GivenArguments) (f : Flag) (argument : String) : Except Refusal GivenArguments :=
  match f with
  | .help => .ok g
  | .config => .ok { g with config := some argument }
  | .report =>
    match ReportKind.ofName? argument with
    | some kind => .ok { g with report := kind }
    | none => .error (.usage (.unknownReport (quoted argument)))
  | .month => do
    let d ← readMonth argument
    return { g with month := some d }
  | .serviceProvider => .ok { g with provider := some argument }
  | .out => .ok { g with out := some argument }

/-- The command of all arguments. A missing option weighs more than an argument too many. -/
def command (g : GivenArguments) : Except Refusal Command :=
  match g.config, g.month with
  | some config, some month =>
    if g.others.isEmpty then .ok (.report ⟨config, g.report, month, g.provider, g.out⟩)
    else .error (.usage (.unrecognized g.others))
  | config, month =>
    let missing := (if config.isNone then [Flag.config] else [])
      ++ (if month.isNone then [Flag.month] else [])
    .error (.usage (.missingFlags missing))

/-- The command of a request for help to which something is attached. Behind the single letter
    further letters may follow, but no argument. -/
def helpWith (spelling attached : String) : Except Refusal Command :=
  let unused (shown : List Char) : Except Refusal Command :=
    .error (.usage (.unusedArgument .help (quoted (String.ofList shown))))
  if spelling == "-h" then
    match attached.toList.dropWhile (· == 'h') with
    | '=' :: argument => unused argument
    | '-' :: argument => unused ('-' :: argument)
    | _ => .ok .help
  else unused attached.toList

/-- Reads words from left to right. -/
def read : List Word → GivenArguments → Except Refusal Command
  | [], g => g.command
  | .text s :: rest, g => read rest { g with others := g.others ++ [s] }
  | .unknown s :: rest, g => read rest { g with others := g.others ++ [s] }
  | .flag .help spelling (some argument) :: _, _ => helpWith spelling argument
  | .flag .help _ none :: _, _ => .ok .help
  | .flag f _ (some argument) :: rest, g => do read rest (← g.take f argument)
  | .flag f _ none :: .text s :: rest, g => do read rest (← g.take f s)
  | .flag f _ none :: _, _ => .error (.usage (.missingArgument f))

end GivenArguments

/-- The command that some arguments give. -/
def Command.ofArguments (arguments : List String) : Except Refusal Command := do
  let words ← (Word.ofArguments arguments).mapError .usage
  GivenArguments.read words {}

end PeppolStatistics
