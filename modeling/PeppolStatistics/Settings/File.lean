import PeppolStatistics.Settings.Basic
import PeppolStatistics.Yaml.Node.Content

/-!
# Settings files

A settings file is a YAML text. An empty one counts as one without sections, and a file that does
not exist is a failure of its own.
-/

namespace PeppolStatistics

namespace ReportingSettings

/-- The value in a settings file; what counts as false is an empty dictionary. -/
def fileValue (text : String) : Except Failure Value := do
  let data ← Yaml.load text
  return if data.truthy then data else .dict []

/-- The settings in a file, whose text is missing if the file does not exist. -/
def ofFile (text : Option String) : Except Failure ReportingSettings :=
  match text with
  | none => .error .fileNotFound
  | some text => do parse (← fileValue text)

end ReportingSettings

end PeppolStatistics
