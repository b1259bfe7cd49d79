import PeppolStatistics.Value.Basic

/-!
# Values in messages

Two texts of a value: the `literal` is written so that the kind can be seen, with quotes around
texts; the `text` is written for a reader. They agree except on texts, dates, identifiers,
exceptions and the like. Both are computed together, since the text of an exception uses the texts
of its arguments and the text of a list the literals of its elements. A value in which a number with
too many digits would have to be shown has neither.
-/

namespace PeppolStatistics

/-! ## 1. Parts of literals -/

namespace Literal

/-- Some literals between brackets. -/
def bracketed (opening closing : String) (parts : List String) : String :=
  opening ++ ", ".intercalate parts ++ closing

/-- Some literals as a tuple; a tuple of one value has a comma behind it. -/
def tuple : List String → String
  | [part] => "(" ++ part ++ ",)"
  | parts => bracketed "(" ")" parts

/-- A record with its fields. -/
def record (typeName : String) (fields : List (String × String)) : String :=
  bracketed (typeName ++ "(") ")" (fields.map fun f => f.1 ++ "=" ++ f.2)

/-- An identifier with its fields. -/
def identifier (i : Identifier) : String :=
  record "PeppolIdentifier" [("scheme", quoted i.scheme), ("value", quoted i.value)]

/-- A member of a class of texts. -/
def member (memberName text : String) : String := "<" ++ memberName ++ ": " ++ quoted text ++ ">"

/-- An item with its fields. -/
def item (i : Item) : String :=
  record "ReportingItem"
    [("exchange_datetime", i.exchangedAt.literal),
     ("direction", member i.direction.memberName i.direction.text),
     ("sender_id", identifier i.senderId),
     ("receiver_id", identifier i.receiverId),
     ("document_type_id", identifier i.documentTypeId),
     ("process_id", identifier i.processId),
     ("transport_protocol", quoted i.transportProtocol),
     ("end_user_country_code", quoted i.endUserCountryCode),
     ("end_user_id", quoted i.endUserId)]

/-- A truth value. -/
def bool (b : Bool) : String := if b then "True" else "False"

end Literal

/-! ## 2. Both texts of a value -/

/-- The two texts of a value. -/
structure ValueForms where
  literal : String
  text : String
deriving DecidableEq, Repr

namespace ValueForms

/-- One text for both purposes. -/
def plain (s : String) : ValueForms := ⟨s, s⟩

/-- The sentence of a library exception, if its arguments make one; `named` says whether the
    second argument counts as true. -/
def sentence? (named : Bool) : FaultKind → List ValueForms → Option String
  | .validation, [field, reason] => some ("Invalid " ++ field.text ++ ": " ++ reason.text)
  | .incompleteConfiguration, report :: field =>
    let detail := match field with
      | [f] => if named then " (" ++ f.text ++ ")" else ""
      | _ => ""
    some ("The " ++ report.text ++ " builder was not filled completely" ++ detail)
  | .reportingBackend, [operation, reason] =>
    some ("Reporting backend " ++ operation.text ++ " failed: " ++ reason.text)
  | _, _ => none

/-- The two texts of an exception that lists its arguments. -/
def listed (kind : FaultKind) (args : List ValueForms) : ValueForms :=
  let literals := args.map (·.literal)
  { literal := Literal.bracketed (kind.name ++ "(") ")" literals
    text := match args with
      | [] => ""
      | [a] => if kind == .key then a.literal else a.text
      | _ => Literal.tuple literals }

/-- The two texts of an exception with some arguments. -/
def fault (kind : FaultKind) (named : Bool) (args : List ValueForms) : ValueForms :=
  match sentence? named kind args with
  | some s => ⟨kind.name ++ "(" ++ quoted s ++ ")", s⟩
  | none => listed kind args

end ValueForms

namespace Value

/-- The name under which the arguments of an exception can be set anew. -/
def argumentsName : String := "args"

mutual

/-- Both texts of a value. -/
def forms : Value → Except Failure ValueForms
  | .null => .ok (.plain "None")
  | .bool b => .ok (.plain (Literal.bool b))
  | .int n => do return .plain (toString (← Numeral.writable n))
  | .real x => .ok (.plain x.text)
  | .text s => .ok ⟨quoted s, s⟩
  | .date d => .ok ⟨d.literal, d.iso⟩
  | .dateTime t => .ok ⟨t.literal, t.spaced⟩
  | .uuid s => .ok ⟨"UUID(" ++ quoted s ++ ")", s⟩
  | .direction d => .ok ⟨Literal.member d.memberName d.text, d.memberName⟩
  | .dimension d => .ok ⟨Literal.member d.memberName d.text, d.memberName⟩
  | .identifier i => .ok ⟨Literal.identifier i, i.uri⟩
  | .item i => .ok (.plain (Literal.item i))
  | .collection c => .ok (.plain c.text)
  | .period p =>
    .ok ⟨Literal.record "ReportPeriod" [("start", p.first.literal), ("end", p.last.literal)], p.text⟩
  | .counts c => do
    let figures ← c.toEntries.mapM fun e => do return (e.1, toString (← Numeral.writable e.2))
    return .plain (Literal.record "GroupCounts" figures)
  | .list vs => do
    return .plain (Literal.bracketed "[" "]" ((← formsOfAll vs).map (·.literal)))
  | .tuple vs => do return .plain (Literal.tuple ((← formsOfAll vs).map (·.literal)))
  | .dict es => do return .plain (Literal.bracketed "\x7b" "\x7d" (← entryLiterals es))
  | .fault kind args attributes =>
    match formsOfArguments attributes with
    | some anew => do return .listed kind (← anew)
    | none => do return .fault kind ((args[1]?.map truthy).getD false) (← formsOfAll args)
  | .record typeName fields => do return .plain (Literal.record typeName (← fieldLiterals fields))

/-- Both texts of some values. -/
def formsOfAll : List Value → Except Failure (List ValueForms)
  | [] => .ok []
  | v :: vs => do return (← forms v) :: (← formsOfAll vs)

/-- Both texts of the arguments that were last set among some attributes, if any were. -/
def formsOfArguments : List (String × Value) → Option (Except Failure (List ValueForms))
  | [] => none
  | (n, .tuple vs) :: rest =>
    (formsOfArguments rest).or (if n = argumentsName then some (formsOfAll vs) else none)
  | _ :: rest => formsOfArguments rest

/-- The literals of the entries of a dictionary. -/
def entryLiterals : List (Value × Value) → Except Failure (List String)
  | [] => .ok []
  | (k, v) :: rest => do
    return ((← forms k).literal ++ ": " ++ (← forms v).literal) :: (← entryLiterals rest)

/-- The literals of the fields of a record. -/
def fieldLiterals : List (String × Value) → Except Failure (List (String × String))
  | [] => .ok []
  | (n, v) :: rest => do return (n, (← forms v).literal) :: (← fieldLiterals rest)

end

/-- A value as it is shown in messages. -/
def literal (v : Value) : Except Failure String := (forms v).map (·.literal)

/-- A value as it is written for a reader. -/
def toText (v : Value) : Except Failure String := (forms v).map (·.text)

@[simp] theorem toText_text (s : String) : (Value.text s).toText = .ok s := rfl

/-- The failure whose message shows a value. If the value cannot be shown, this is the failure. -/
def refusal (v : Value) (failure : String → Failure) : Failure :=
  match v.literal with
  | .ok shown => failure shown
  | .error e => e

/-- The text by which a value is ordered as a field of a key: directions and dimensions go by
    their texts. -/
def keyText : Value → Except Failure String
  | .direction d => .ok d.text
  | .dimension d => .ok d.text
  | v => v.toText

/-- Text and scheme of a value as a field of a key. -/
def sortField : Value → Except Failure (String × String)
  | .identifier i => .ok (i.uri, i.scheme)
  | v => do return (← v.keyText, "")

end Value

end PeppolStatistics
