import PeppolStatistics.Proofs.Log.Line

/-!
# Exceptions in log lines

A line shows of an exception its type, its message and its code, and every attribute without an
underscore, all of them behind `exc_`. No further field of the record can displace them. Among
themselves they can: an attribute comes after the type and the message, and one of these names
takes their place. For the name of the code the attribute is left out.

* `LogRecord.lookup_exception`: what stands under a name behind `exc_`;
* `Value.fieldsToLine_cases`: either every value has a form in a line, or there is no line;
* `LogRecord.exception_shown`: what a line shows of an exception, whatever its attributes and the
  further fields of the record. `type_displaced` is a line that does not show the type.
-/

namespace PeppolStatistics

/-! ## 1. What an exception contributes -/

namespace LoggedFault

/-- The value of an attribute; of several under one name the last one counts. -/
def attribute? (f : LoggedFault) (name : String) : Option Value :=
  (Document.collapse f.attributes).lookup name

/-- What an exception with a message says of itself before its attributes. -/
def said (f : LoggedFault) (message : String) : List (String × Value) :=
  [("type", .text f.typeName), ("message", .text message)] ++
    match f.code with
    | .null => []
    | code => [("code", code)]

/-- Whether attributes of a name are shown. -/
def isShown (name : String) : Bool := !name.startsWith "_" && name != "code"

/-- What is shown under a name: an attribute comes before what the exception says of itself. -/
def shown? (f : LoggedFault) (message name : String) : Option Value :=
  (if isShown name then f.attribute? name else none).or ((f.said message).lookup name)

/-- The name under which lines show what has a name. -/
def shownName (name : String) : String := "exc_" ++ name

theorem shownName_injective : Function.Injective shownName := by
  intro m n h
  have hlist := congrArg String.toList h
  rw [shownName, shownName, String.toList_append, String.toList_append] at hlist
  exact String.toList_inj.mp (List.append_cancel_left hlist)

theorem shownName_ne_trace (name : String) : shownName name ≠ "traceback" := by
  intro h
  have hlist := congrArg String.toList h
  rw [shownName, String.toList_append] at hlist
  exact absurd (List.cons.inj hlist).1 (by decide)

variable (f : LoggedFault) (message : String)

/-- The fields of an exception without its trace, by the names behind `exc_`. -/
def named : List (String × Value) := f.said message ++ f.attributes.filter fun a => isShown a.1

/-- The trace as a field. -/
def traceField : List (String × Value) :=
  (f.tracedAs.map fun n => [("traceback", .text (traceLine n message))]).getD []

theorem fieldsWith_eq : f.fieldsWith message =
    Document.collapse ((f.named message).map fun a => (shownName a.1, a.2))
      ++ f.traceField message := by
  obtain ⟨typeName, made, code, attributes, tracedAs⟩ := f
  cases code <;> rfl

theorem shownName_not_mem_traceField (name : String) :
    shownName name ∉ (f.traceField message).map (·.1) := by
  rw [traceField]
  cases f.tracedAs with
  | none => exact List.not_mem_nil
  | some t => exact fun h => shownName_ne_trace name (List.mem_singleton.mp h)

theorem nodup_said : ((f.said message).map (·.1)).Nodup := by
  have hwithout : ["type", "message"].Nodup := by decide
  have hwith : ["type", "message", "code"].Nodup := by decide
  rw [said]
  split
  · exact hwithout
  · exact hwith

/-- Among the shown attributes one is found if its name is shown. -/
theorem lookup_shownAttributes (name : String) :
    (f.attributes.filter fun a => isShown a.1).reverse.lookup name =
      if isShown name then f.attribute? name else none := by
  rw [← List.filter_reverse, attribute?, Document.lookup_collapse]
  split
  · exact Document.lookup_filter isShown ‹_› _
  · rename_i hhidden
    refine Document.lookup_eq_none_iff.mpr fun hmem => ?_
    obtain ⟨a, ha, rfl⟩ := List.mem_map.mp hmem
    exact hhidden (List.mem_filter.mp ha).2

theorem lookup_named (name : String) :
    (f.named message).reverse.lookup name = f.shown? message name := by
  rw [named, List.reverse_append, List.lookup_append, f.lookup_shownAttributes,
    Document.lookup_reverse (f.nodup_said message), shown?]

end LoggedFault

/-! ## 2. The fields of a record with an exception -/

namespace LogRecord

variable {r : LogRecord} {f : LoggedFault} {name : String}

/-- **What stands behind `exc_`** is what the exception contributes under the name, or else a
    further field of the record. -/
theorem lookup_exception (r : LogRecord) (f : LoggedFault) (time message said name : String) :
    (r.fieldsWith time message (f.fieldsWith said)).lookup ("exc_" ++ name) =
      (f.shown? said name).or ((r.plainFields time message).lookup ("exc_" ++ name)) := by
  have hfields : r.fieldsWith time message (f.fieldsWith said) =
      Document.putAll (r.plainFields time message) (f.fieldsWith said) := rfl
  show (r.fieldsWith time message (f.fieldsWith said)).lookup (LoggedFault.shownName name) = _
  rw [hfields, f.fieldsWith_eq, Document.putAll_append,
    Document.lookup_putAll (f.shownName_not_mem_traceField said name), Document.lookup_putAll_eq,
    Document.lookup_reverse (Document.nodup_collapse _), Document.lookup_collapse,
    ← List.map_reverse, Document.lookup_rename LoggedFault.shownName_injective, f.lookup_named]
  rfl

theorem lookup_of_shown {time message said : String} {v : Value} (h : f.shown? said name = some v) :
    (r.fieldsWith time message (f.fieldsWith said)).lookup ("exc_" ++ name) = some v := by
  rw [lookup_exception, h, Option.some_or]

/-- The fields of a record with an exception: the texts of its message and of the exception must be
    ones that can be written. -/
theorem fields_cases (hfault : r.fault = some f) (time : String) :
    (∃ message said, r.message.toText = .ok message ∧ f.message = .ok said ∧
      r.fields time = .ok (r.fieldsWith time message (f.fieldsWith said))) ∨
    ∃ why, (r.message.toText = .error why ∨ f.message = .error why) ∧
      r.fields time = .error why := by
  have hcontributed : r.faultFields = f.message.map f.fieldsWith := by
    rw [faultFields, hfault]
    rfl
  rw [fields, hcontributed]
  cases r.message.toText with
  | error why => exact .inr ⟨why, .inl rfl, rfl⟩
  | ok message =>
    cases f.message with
    | error why => exact .inr ⟨why, .inr rfl, rfl⟩
    | ok said => exact .inl ⟨message, said, rfl, rfl, rfl⟩

end LogRecord

namespace LoggedFault

variable {f : LoggedFault} {message name : String} {v : Value}

/-- **An attribute is shown** unless its name begins with an underscore or is that of the code. -/
theorem shown?_attribute (h : f.attribute? name = some v) (hname : name.startsWith "_" = false)
    (hcode : name ≠ "code") : f.shown? message name = some v := by
  have hshown : isShown name = true := by rw [isShown, hname, bne_iff_ne.mpr hcode]; rfl
  rw [shown?, if_pos hshown, h, Option.some_or]

theorem shown?_said (hshown : isShown name = true) (h : (f.said message).lookup name = some v) :
    f.shown? message name = some ((f.attribute? name).getD v) := by
  rw [shown?, if_pos hshown, h]
  cases f.attribute? name <;> rfl

/-- **The type** is shown unless an attribute has this name. -/
theorem shown?_type :
    f.shown? message "type" = some ((f.attribute? "type").getD (.text f.typeName)) :=
  shown?_said (by decide +kernel) rfl

/-- **The message** is shown unless an attribute has this name. -/
theorem shown?_message :
    f.shown? message "message" = some ((f.attribute? "message").getD (.text message)) :=
  shown?_said (by decide +kernel) rfl

/-- **The code** is shown if there is one. -/
theorem shown?_code (h : f.code ≠ .null) : f.shown? message "code" = some f.code := by
  have hhidden : ¬ isShown "code" = true := by decide +kernel
  rw [shown?, if_neg hhidden, Option.none_or, said]
  split
  · exact absurd ‹_› h
  · rfl

end LoggedFault

/-! ## 3. The line -/

/-- The entries of a line show a value under a name. -/
def Shows (entries : List (String × Document)) (name : String) (v : Value) : Prop :=
  ∃ d, v.toLine = .ok d ∧ entries.lookup name = some d

theorem Shows.of_text {entries : List (String × Document)} {name s : String}
    (h : Shows entries name (.text s)) : entries.lookup name = some (.text s) := by
  obtain ⟨d, hd, hlookup⟩ := h
  rw [Value.toLine] at hd
  cases hd
  exact hlookup

/-- **Named values in a line**: each is shown under its name, or one of them has no form in a line
    and there is none. -/
theorem Value.fieldsToLine_cases (fields : List (String × Value)) :
    (∃ entries, fieldsToLine fields = .ok entries ∧
      entries.map (·.1) = fields.map (·.1) ∧
      ∀ name v, fields.lookup name = some v → Shows entries name v) ∨
    ∃ e ∈ fields, ∃ why, e.2.toLine = .error why ∧ fieldsToLine fields = .error why := by
  induction fields with
  | nil =>
    refine .inl ⟨[], rfl, rfl, fun name v h => ?_⟩
    cases h
  | cons e fields ih =>
    obtain ⟨n, w⟩ := e
    cases hw : w.toLine with
    | error why =>
      refine .inr ⟨(n, w), List.mem_cons_self, why, hw, ?_⟩
      rw [fieldsToLine, hw]
      rfl
    | ok d =>
      rcases ih with ⟨entries, hentries, hnames, hshows⟩ | ⟨e, he, why, hwhy, hfields⟩
      · refine .inl ⟨(n, d) :: entries, by rw [fieldsToLine, hw, hentries]; rfl, ?_, ?_⟩
        · rw [List.map_cons, List.map_cons, hnames]
        · intro name v h
          rw [Document.lookup_cons] at h
          rw [Shows, Document.lookup_cons]
          split at h
          · rw [if_pos ‹_›]
            cases h
            exact ⟨d, hw, rfl⟩
          · rw [if_neg ‹_›]
            exact hshows name v h
      · refine .inr ⟨e, List.mem_cons_of_mem _ he, why, hwhy, ?_⟩
        rw [fieldsToLine, hw, hfields]
        rfl

namespace LogRecord

variable {r : LogRecord} {f : LoggedFault}

/-- Why a record with an exception has no line: the text of its message or of the exception cannot
    be written, or one of its fields has no form in a line. -/
def NoLine (r : LogRecord) (f : LoggedFault) (time : String) (why : Failure) : Prop :=
  r.message.toText = .error why ∨ f.message = .error why ∨
    ∃ fields, r.fields time = .ok fields ∧ ∃ e ∈ fields, e.2.toLine = .error why

/-- **A record with an exception** has a line that shows what the exception contributes under its
    names, or there is a reason why it has none. -/
theorem document_cases (hfault : r.fault = some f) (time : String) :
    (∃ entries said, r.document time = .ok (.map entries) ∧ (entries.map (·.1)).Nodup ∧
      f.message = .ok said ∧
      ∀ name v, f.shown? said name = some v → Shows entries ("exc_" ++ name) v) ∨
    ∃ why, r.NoLine f time why ∧ r.document time = .error why := by
  rcases fields_cases hfault time with
    ⟨message, said, -, hsaid, hfields⟩ | ⟨why, hwhy, hfields⟩
  · rcases Value.fieldsToLine_cases (r.fieldsWith time message (f.fieldsWith said)) with
      ⟨entries, hentries, hnames, hshows⟩ | ⟨e, he, why, hwhy, hnone⟩
    · refine .inl ⟨entries, said, ?_, ?_, hsaid, fun _ _ h => hshows _ _ (lookup_of_shown h)⟩
      · rw [document, hfields, ok_bind, hentries]
        rfl
      · rw [hnames]
        exact r.nodup_fieldsWith time message _
    · refine .inr ⟨why, .inr (.inr ⟨_, hfields, e, he, hwhy⟩), ?_⟩
      rw [document, hfields, ok_bind, hnone]
      rfl
  · refine .inr ⟨why, hwhy.imp_right .inl, ?_⟩
    rw [document, hfields]
    rfl

/-- **What a line shows of an exception.** Unless a text cannot be written or a value has no form in
    a line, in which case there is none, a line is a JSON object with different names. Under
    `exc_type` and `exc_message` it shows the type and the text of the exception if no attribute has
    these names, and the attribute otherwise; under `exc_code` the code if there is one; and every
    other attribute without an underscore under its own name. The further fields of the record do
    not matter. -/
theorem exception_shown (hfault : r.fault = some f) (time : String) :
    (∃ entries said, r.document time = .ok (.map entries) ∧
      r.line time = .ok (Document.map entries).json ∧
      (entries.map (·.1)).Nodup ∧
      f.message = .ok said ∧
      Shows entries "exc_type" ((f.attribute? "type").getD (.text f.typeName)) ∧
      Shows entries "exc_message" ((f.attribute? "message").getD (.text said)) ∧
      (f.code ≠ .null → Shows entries "exc_code" f.code) ∧
      ∀ name v, f.attribute? name = some v → name.startsWith "_" = false → name ≠ "code" →
        Shows entries ("exc_" ++ name) v) ∨
    ∃ why, r.NoLine f time why ∧ r.line time = .error why := by
  rcases document_cases hfault time with
    ⟨entries, said, hdocument, hnodup, hsaid, hshown⟩ | ⟨why, hwhy, hnone⟩
  · have hline : r.line time = .ok (Document.map entries).json := by
      rw [line, hdocument]
      rfl
    exact .inl ⟨entries, said, hdocument, hline, hnodup, hsaid,
      hshown "type" _ LoggedFault.shown?_type, hshown "message" _ LoggedFault.shown?_message,
      fun hcode => hshown "code" _ (LoggedFault.shown?_code hcode),
      fun name v h hname hcode => hshown name v (LoggedFault.shown?_attribute h hname hcode)⟩
  · exact .inr ⟨why, hwhy, map_eq_error.mpr hnone⟩

/-- The failure of a check, on which a note and something hidden were set. -/
def notedFault : LoggedFault :=
  .ofValue .validation [.text "end_user_id", .text "must not be empty"]
    [("note", .text "row 7"), ("_hidden", .text "x")]

/-- A record whose further fields have the names of what the exception contributes. -/
def crowdedRecord : LogRecord where
  level := .text "ERROR"
  logger := .text "reporting_kernel.import"
  message := .text "failed"
  context := .empty
  extra := [("exc_type", .text "mine"), ("exc_code", .int 7), ("exc_note", .null)]
  fault := some notedFault

/-- The further fields do not displace what the exception contributes. -/
theorem exception_shown_crowded :
    crowdedRecord.fault = some notedFault ∧
    ∃ entries, crowdedRecord.document "08:30" = .ok (.map entries) ∧
      entries.lookup "exc_type" = some (.text "ValidationError") ∧
      entries.lookup "exc_code" = some (.text "VALIDATION_ERROR") ∧
      entries.lookup "exc_note" = some (.text "row 7") := by
  have hfault : crowdedRecord.fault = some notedFault := rfl
  obtain ⟨entries, said, hdocument, -, -, -, htype, -, hcode, hattributes⟩ | ⟨why, -, hline⟩ :=
    exception_shown hfault "08:30"
  · have hnone : notedFault.attribute? "type" = none := rfl
    have hkind : notedFault.code = .text "VALIDATION_ERROR" := rfl
    have hset : notedFault.attribute? "note" = some (.text "row 7") := rfl
    have hnote : Shows entries "exc_note" (.text "row 7") :=
      hattributes "note" (.text "row 7") hset (by decide +kernel) (by decide)
    rw [hnone] at htype
    rw [hkind] at hcode
    exact ⟨hfault, entries, hdocument, htype.of_text, (hcode Value.noConfusion).of_text,
      hnote.of_text⟩
  · have hok : (crowdedRecord.document "08:30").isOk = true := by decide +kernel
    rw [line] at hline
    rw [map_eq_error.mp hline] at hok
    cases hok

/-- A failure on which an attribute `type` was set. -/
def typedFault : LoggedFault := .ofValue .value [.text "boom"] [("type", .text "quota")]

/-- A record with this failure and nothing else. -/
def typedRecord : LogRecord where
  level := .text "ERROR"
  logger := .text "reporting_kernel.import"
  message := .text "failed"
  context := .empty
  extra := []
  fault := some typedFault

/-- **An attribute displaces the type**: the line of `typedRecord` shows no `ValueError`. -/
theorem type_displaced :
    ¬ ∀ (r : LogRecord) (f : LoggedFault), r.fault = some f → ∀ time entries,
      r.document time = .ok (.map entries) → Shows entries "exc_type" (.text f.typeName) := by
  intro h
  obtain ⟨entries, said, hdocument, -, -, hshown⟩ | ⟨why, -, hnone⟩ :=
    document_cases (r := typedRecord) (f := typedFault) rfl "08:30"
  · have hset : typedFault.attribute? "type" = some (.text "quota") := rfl
    have hquota : Shows entries "exc_type" (.text "quota") :=
      hshown "type" _ (LoggedFault.shown?_type.trans (by rw [hset]; rfl))
    have htype : Shows entries "exc_type" (.text "ValueError") :=
      h typedRecord typedFault rfl "08:30" entries hdocument
    have hname : "ValueError" = "quota" :=
      Document.text.inj (Option.some.inj (htype.of_text.symm.trans hquota.of_text))
    exact absurd hname (by decide)
  · have hok : (typedRecord.document "08:30").isOk = true := by decide +kernel
    rw [hnone] at hok
    cases hok

end LogRecord

end PeppolStatistics
