import PeppolStatistics.CommandLine.Arguments
import PeppolStatistics.Settings.File
import PeppolStatistics.Store.Engine

/-!
# Running a command

A report command reads the settings, opens the store, loads the items of the month and builds the
report, which is printed or written to a file. A store that fails and settings that leave the
report incomplete end the program with a message and the status 1; any other failure is left to
the caller.
-/

namespace PeppolStatistics

/-! ## 1. The outcome of a run -/

/-- What a run leaves behind. -/
structure Outcome where
  /-- The status of the program, or the failure that ended it. -/
  status : Except Failure Nat
  /-- What was printed. -/
  output : String := ""
  /-- The messages about what went wrong. -/
  errors : List String := []
  /-- The lines that were logged. -/
  events : List LogEvent := []
  /-- The file that was written, by its path, with its text. -/
  written : Option (String × String) := none
  /-- The store afterwards. -/
  host : StoreHost

/-- The name of the program. -/
def programName : String := "generate_report.py"

/-- How the program is called. -/
def usageText : String :=
  "usage: " ++ programName ++ " [-h] --config CONFIG [--report \x7beusr,tsr\x7d] --month\n" ++
  "                          MONTH [--service-provider SERVICE_PROVIDER]\n" ++
  "                          [--out OUT]\n"

/-- The help text. -/
def helpText : String :=
  usageText ++ "\n" ++
  "Build a Peppol statistics report for one month.\n\n" ++
  "options:\n" ++
  "  -h, --help            show this help message and exit\n" ++
  "  --config CONFIG       Path to the YAML settings file\n" ++
  "  --report \x7beusr,tsr\x7d   Report type (default: tsr)\n" ++
  "  --month MONTH         Reporting month YYYY-MM\n" ++
  "  --service-provider SERVICE_PROVIDER\n" ++
  "                        Only items recorded for this service provider ID\n" ++
  "  --out OUT             Write the JSON report to this file instead of stdout\n\n" ++
  "Generate a Peppol TSR or EUSR for one calendar month from the item store.\n\n" ++
  "Loads the settings file, reads the month's reporting items from the\n" ++
  "configured database, builds the report and prints it as JSON.\n\n" ++
  "Usage:\n" ++
  "  python3 scripts/generate_report.py --config reporting.yaml \\\n" ++
  "    --report tsr --month 2023-06 [--service-provider POP000001] [--out tsr.json]\n\n" ++
  "Exit status: 0 on success, 1 if the report could not be built.\n"

/-! ## 2. Reports -/

namespace ReportCommand

/-- The items that a report is made of: those of the month, in one session. A session that does
    not fail has the one answer of its one step. -/
def loadItems (c : ReportCommand) : StoreHost.Work Collection := do
  let work := ItemStore.loadCollection (.monthOf c.month) c.provider
  let (answers, failure) ← StoreHost.scope [work]
  match failure with
  | some e => throw e
  | none => return answers.headD ⟨[]⟩

/-- The report of some items, with the settings and their replacements applied. -/
def buildReport (c : ReportCommand) (s : ReportingSettings) (items : Collection) :
    Traced Report := do
  let b ← (ReportBuilder.new c.report).set .monthOf (.date c.month)
  let b ← b.set .items (.collection items)
  let configuration := s.applyTo (some (s.overrides c.report)) b.configuration
  { b with configuration }.build

/-- Opens the store and makes the report. -/
def makeReport (c : ReportCommand) (s : ReportingSettings) : StoreHost.Work Report := do
  StoreHost.initialise s.databaseUrl false
  StoreHost.createTables
  let items ← c.loadItems
  StoreHost.ofTraced (c.buildReport s items)

/-- The written form of a report. -/
def written (r : Report) : String := r.render.prettyJson ++ "\n"

/-- What is logged with some settings: the lines at their level or above it. -/
def logged (s : ReportingSettings) (events : List LogEvent) : List LogEvent :=
  let (logging, _) := Logging.initial.configure () (.int s.level.number)
  events.filter fun e => logging.accepts e.level

/-- The outcome of a failure: a message if the store failed or the report is incomplete. -/
def outcomeOf (e : Failure) (events : List LogEvent) (host : StoreHost) : Outcome :=
  match e with
  | .backend _ | .incomplete .. =>
    { status := .ok 1, errors := ["ERROR: " ++ e.message], events, host }
  | _ => { status := .error e, events, host }

/-- Runs a report command with the text of its settings file, if there is one. -/
def run (c : ReportCommand) (settingsText : Option String) (host : StoreHost) : Outcome :=
  match ReportingSettings.ofFile settingsText with
  | .error e => { status := .error e, host }
  | .ok s =>
    let (result, host, trace) := c.makeReport s (host, ⟨.empty, []⟩)
    let events := logged s trace.events
    match result with
    | .error e => outcomeOf e events host
    | .ok report =>
      match c.out with
      | none => { status := .ok 0, output := written report, events, host }
      | some path => { status := .ok 0, written := some (path, written report), events, host }

end ReportCommand

/-! ## 3. The program -/

/-- Runs the program with some arguments; `readFile` gives the text of a file that exists. -/
def runProgram (arguments : List String) (readFile : String → Option String) (host : StoreHost) :
    Outcome :=
  match Command.ofArguments arguments with
  | .error (.usage mistake) =>
    { status := .ok 2, errors := [programName ++ ": error: " ++ mistake.message], host }
  | .error (.failed e) => { status := .error e, host }
  | .ok .help => { status := .ok 0, output := helpText, host }
  | .ok (.report c) => c.run (readFile c.config) host

end PeppolStatistics
