import PeppolStatistics.Calendar.Iso.Reader

/-!
# Failures

What can go wrong, as causes. A `Defect` says what is wrong with one value, a `Failure` why an
operation has no result; each has its wording in one function. The kinds under which failures are
reported (`FaultKind`) group the causes, and carry the names that log lines show.
-/

namespace PeppolStatistics

/-! ## 1. Kinds -/

/-- The kinds under which failures are reported. -/
inductive FaultKind where
  /-- The common kind of all failures that carry a code. -/
  | kernel
  | validation
  | incompleteConfiguration
  | reportingBackend
  | value
  | key
  | runtime
  | type
  | attribute
  | overflow
  | illegalMonth
  | argumentType
  | fileNotFound
  | markup
  | databaseUrl
  | databaseDialect
  | pendingRollback
  | operational
  | integrity
  | statement
  | programming
deriving DecidableEq, Repr

namespace FaultKind

/-- The name of a kind. -/
def name : FaultKind → String
  | .kernel => "ReportingKernelError"
  | .validation => "ValidationError"
  | .incompleteConfiguration => "IncompleteConfigurationError"
  | .reportingBackend => "ReportingBackendError"
  | .value => "ValueError"
  | .key => "KeyError"
  | .runtime => "RuntimeError"
  | .type => "TypeError"
  | .attribute => "AttributeError"
  | .overflow => "OverflowError"
  | .illegalMonth => "IllegalMonthError"
  | .argumentType => "ArgumentTypeError"
  | .fileNotFound => "FileNotFoundError"
  | .markup => "YAMLError"
  | .databaseUrl => "ArgumentError"
  | .databaseDialect => "NoSuchModuleError"
  | .pendingRollback => "PendingRollbackError"
  | .operational => "OperationalError"
  | .integrity => "IntegrityError"
  | .statement => "StatementError"
  | .programming => "ProgrammingError"

/-- The code of the kinds that have one. -/
def code? : FaultKind → Option String
  | .kernel => some "REPORTING_KERNEL_ERROR"
  | .validation => some "VALIDATION_ERROR"
  | .incompleteConfiguration => some "INCOMPLETE_CONFIGURATION"
  | .reportingBackend => some "REPORTING_BACKEND_ERROR"
  | _ => none

/-- Whether a kind is one of the library's own. -/
def isKernel (k : FaultKind) : Bool := k.code?.isSome

/-- The name with the module that defines the kind, as the last line of a trace shows it. -/
def qualifiedName (k : FaultKind) : String :=
  if k.isKernel then "reporting_kernel.exceptions." ++ k.name else k.name

end FaultKind

/-! ## 2. Defects of values -/

/-- What is wrong with a value. The texts named `shown` are values as messages show them. -/
inductive Defect where
  | empty
  | missing
  | notSchemeValue (shown : String)
  | notTimestamp
  | noOffset
  | offsetWithSeconds
  | unknownDirection (shown : String)
  | notIdentifier
  | notCountryCode (shown : String)
  | notIsoDate (shown : String)
  | noCalendarDate (shown : String)
  | endBeforeStart (first last : Date)
  | noItems
  | nullItem
  | notAnItem (typeName : String)
  | itemExpected
  /-- The value could not be read, for the reason in the text. -/
  | unreadable (text : String)
deriving DecidableEq, Repr

/-- The wording of a defect. -/
def Defect.message : Defect → String
  | .empty => "must not be empty"
  | .missing => "is missing"
  | .notSchemeValue shown => shown ++ " is not scheme::value"
  | .notTimestamp => "must be a datetime"
  | .noOffset => "must carry a UTC offset"
  | .offsetWithSeconds => "UTC offset must be whole minutes"
  | .unknownDirection shown => shown ++ " is not sending or receiving"
  | .notIdentifier => "must be a scheme-qualified identifier"
  | .notCountryCode shown => shown ++ " is not an ISO 3166 alpha-2 code"
  | .notIsoDate shown => shown ++ " is not ISO 8601"
  | .noCalendarDate shown => "cannot derive a calendar date from " ++ shown
  | .endBeforeStart first last => "end " ++ last.iso ++ " is before start " ++ first.iso
  | .noItems => "must be an iterable, not None"
  | .nullItem => "is None"
  | .notAnItem typeName => "expected ReportingItem, got " ++ typeName
  | .itemExpected => "expected ReportingItem"
  | .unreadable text => text

/-! ## 3. Failures -/

/-- The two kinds of report. -/
inductive ReportKind where
  | tsr
  | eusr
deriving DecidableEq, Repr

/-- The name of a kind of report in messages and log lines. -/
def ReportKind.title : ReportKind → String
  | .tsr => "TSR"
  | .eusr => "EUSR"

/-- The fields of a report configuration that must be filled, in the order in which they are
    checked. -/
inductive RequiredField where
  | customizationId
  | profileId
  | startDate
  | endDate
  | period
  | reporterIdScheme
  | reporterId
  | items
deriving DecidableEq, Repr

/-- The name of a field. -/
def RequiredField.name : RequiredField → String
  | .customizationId => "customization_id"
  | .profileId => "profile_id"
  | .startDate => "start_date"
  | .endDate => "end_date"
  | .period => "period"
  | .reporterIdScheme => "reporter_id_scheme"
  | .reporterId => "reporter_id"
  | .items => "items"

/-- What the store was asked for when it failed. -/
inductive BackendOperation where
  | store
  | load
  | count
deriving DecidableEq, Repr

/-- The name of an operation of the store. -/
def BackendOperation.name : BackendOperation → String
  | .store => "store"
  | .load => "load"
  | .count => "count"

/-- Why an operation has no result. -/
inductive Failure where
  /-- A value has a defect. -/
  | invalid (field : String) (defect : Defect)
  /-- A report was to be built and a field is not filled. -/
  | incomplete (report : ReportKind) (field : RequiredField)
  /-- The store failed. -/
  | backend (operation : BackendOperation)
  | dateText (error : DateTextError)
  | illegalMonth (month : Int)
  | notADimension (shown : String)
  | notADirection (shown : String)
  | notGroupedBy
  | unknownContextFields (names : List String)
  | unknownKeys (place : String) (names : List String)
  | blankReporterId
  | blankReporterScheme
  | unknownLogLevel
  | unknownLevelName (shown : String)
  | missingKey (key : String)
  | recordFieldTaken (shown : String)
  | notAMonth (shown : String)
  /-- A code point beyond the last one was written as an escape. -/
  | codePointTooLarge
  /-- A number has too many digits to be read. -/
  | tooManyDigits (count : Nat)
  /-- A number has too many digits to be written. -/
  | numberTooLong
  /-- A text is no number to a base where one must stand. -/
  | notANumber (base : Nat) (shown : String)
  | notInitialised
  /-- A failure announced by a caller. -/
  | raised (text : String)
  | wrongType
  | noSuchAttribute
  | overflow
  | fileNotFound
  | markup
  | badDatabaseUrl
  | unknownDialect
  | pendingRollback
  | missingTable
  | brokenRow
  | unstorable
  | unsupportedValue
deriving DecidableEq, Repr

namespace Failure

/-- The kind under which a failure is reported. -/
def kind : Failure → FaultKind
  | .invalid .. => .validation
  | .incomplete .. => .incompleteConfiguration
  | .backend .. => .reportingBackend
  | .illegalMonth _ => .illegalMonth
  | .missingKey _ | .recordFieldTaken _ => .key
  | .notAMonth _ => .argumentType
  | .notInitialised | .raised _ => .runtime
  | .wrongType => .type
  | .noSuchAttribute => .attribute
  | .overflow => .overflow
  | .fileNotFound => .fileNotFound
  | .markup => .markup
  | .badDatabaseUrl => .databaseUrl
  | .unknownDialect => .databaseDialect
  | .pendingRollback => .pendingRollback
  | .missingTable => .operational
  | .brokenRow => .integrity
  | .unstorable => .statement
  | .unsupportedValue => .programming
  | .dateText _ | .notADimension _ | .notADirection _ | .notGroupedBy | .unknownContextFields _
  | .unknownKeys .. | .blankReporterId | .blankReporterScheme | .unknownLogLevel
  | .unknownLevelName _ | .codePointTooLarge | .tooManyDigits _ | .numberTooLong
  | .notANumber .. => .value

/-- Whether a failure comes from the database. -/
def isDatabase (f : Failure) : Bool :=
  match f.kind with
  | .databaseUrl | .databaseDialect | .pendingRollback | .operational | .integrity | .statement
  | .programming => true
  | _ => false

/-- The levels that a settings file may name, in the wording of the message. -/
def levelNames : List String := ["DEBUG", "INFO", "WARNING", "ERROR", "CRITICAL"]

/-- The wording of a failure. The failures without wording of their own show none. -/
def message : Failure → String
  | .invalid field defect => "Invalid " ++ field ++ ": " ++ defect.message
  | .incomplete report field =>
    "The " ++ report.title ++ " builder was not filled completely (" ++ field.name ++ ")"
  | .backend operation => "Reporting backend " ++ operation.name ++ " failed: "
  | .dateText error => error.message
  | .illegalMonth month => "bad month number " ++ toString month ++ "; must be 1-12"
  | .notADimension shown => shown ++ " is not a valid Dimension"
  | .notADirection shown => shown ++ " is not a valid Direction"
  | .notGroupedBy => "tuple.index(x): x not in tuple"
  | .unknownContextFields names => "Unknown log context fields: " ++ ", ".intercalate names
  | .unknownKeys place names => "Unknown keys in " ++ place ++ ": " ++ ", ".intercalate names
  | .blankReporterId => "reporter_id must not be empty"
  | .blankReporterScheme => "reporter_id_scheme must not be empty"
  | .unknownLogLevel => "log_level must be one of " ++ ", ".intercalate levelNames
  | .unknownLevelName shown => "Unknown level: " ++ shown
  | .missingKey key => key
  | .recordFieldTaken shown => "Attempt to overwrite " ++ shown ++ " in LogRecord"
  | .notAMonth shown => "expected YYYY-MM, got " ++ shown
  | .codePointTooLarge => "chr() arg not in range(0x110000)"
  | .tooManyDigits count =>
    "Exceeds the limit (4300 digits) for integer string conversion: value has " ++ toString count
      ++ " digits; use sys.set_int_max_str_digits() to increase the limit"
  | .numberTooLong =>
    "Exceeds the limit (4300 digits) for integer string conversion; "
      ++ "use sys.set_int_max_str_digits() to increase the limit"
  | .notANumber base shown =>
    "invalid literal for int() with base " ++ toString base ++ ": " ++ shown
  | .notInitialised =>
    "Reporting store engine not initialized; call init_engine_from_url() first."
  | .raised text => text
  | .wrongType | .noSuchAttribute | .overflow | .fileNotFound | .markup | .badDatabaseUrl
  | .unknownDialect | .pendingRollback | .missingTable | .brokenRow | .unstorable
  | .unsupportedValue => ""

/-- The text of a failure in log lines: a key is shown in quotes. -/
def text (f : Failure) : String :=
  match f.kind with
  | .key => quoted f.message
  | _ => f.message

end Failure

/-! ## 4. Numbers in texts -/

/-- A number that is to be written in decimal; it must not have too many digits. -/
def Numeral.writable (n : Int) : Except Failure Int :=
  if isLong n then .error .numberTooLong else .ok n

end PeppolStatistics
