import PeppolStatistics.Item.Candidate
import PeppolStatistics.Proofs.Document.Entries
import PeppolStatistics.Proofs.Value.Dictionary
import PeppolStatistics.Proofs.Value.Written
import PeppolStatistics.Report.Basic
import PeppolStatistics.Value.Render

/-!
# What rendering makes of a value

Rendering descends into every part of a value and leaves nothing but plain values behind. It stops
only at a key that cannot be written.

* `Value.Renderable`: the values that reports are made of, nested to any depth, `Value.IsPlain`: the
  values that a plain document can hold;
* `Report.renderable_toValue`: both reports are such values;
* `Value.rendered_stopsIf`: rendering stops exactly at a key that shows a number which is too long;
* `Value.isPlain_of_rendered`: what is rendered is plain;
* `Value.rendered_of_isPlain`: a plain value is rendered as itself;
* `Value.rendered_item`: an item is rendered as the dictionary that it writes.
-/

namespace PeppolStatistics

namespace Value

/-! ## 1. Rendering as a map of values -/

/-- A value as it is rendered, as a value again. -/
def rendered (v : Value) : Except Failure Value := v.render.map Document.toValue

theorem renderAll_eq (vs : List Value) : renderAll vs = vs.mapM render := by
  induction vs with
  | nil => rfl
  | cons v vs ih => rw [renderAll, ih, List.mapM_cons]

theorem renderEntries_eq (es : List (Value × Value)) :
    renderEntries es = es.mapM fun e => do return (← e.1.toText, ← e.2.render) := by
  induction es with
  | nil => rfl
  | cons e es ih =>
    obtain ⟨k, v⟩ := e
    simp only [renderEntries, ih, List.mapM_cons, bind_assoc, pure_bind]

theorem renderFields_eq (fields : List (String × Value)) :
    renderFields fields = fields.mapM fun f => do return (f.1, ← f.2.render) := by
  induction fields with
  | nil => rfl
  | cons f fields ih =>
    obtain ⟨n, v⟩ := f
    simp only [renderFields, ih, List.mapM_cons, bind_assoc, pure_bind]

theorem toValues_eq (ds : List Document) : Document.toValues ds = ds.map Document.toValue := by
  induction ds with
  | nil => rfl
  | cons d ds ih => rw [Document.toValues, ih, List.map_cons]

theorem entriesToValues_eq (es : List (String × Document)) :
    Document.entriesToValues es = es.map fun e => (.text e.1, e.2.toValue) := by
  induction es with
  | nil => rfl
  | cons e es ih =>
    obtain ⟨n, d⟩ := e
    rw [Document.entriesToValues, ih, List.map_cons]

theorem toValue_map (es : List (String × Document)) :
    (Document.map es).toValue = ofFields (es.map fun e => (e.1, e.2.toValue)) := by
  rw [Document.toValue, entriesToValues_eq, ofFields, List.map_map]
  rfl

/-- The elements of a list and the parts of a tuple are rendered one by one. -/
theorem toValue_renderAll (vs : List Value) :
    ((renderAll vs).map .list).map Document.toValue = (vs.mapM rendered).map .list := by
  have hvalues : vs.mapM rendered = (vs.mapM render).map (List.map Document.toValue) :=
    (map_mapM vs).symm
  rw [hvalues, renderAll_eq]
  cases vs.mapM render with
  | error e => rfl
  | ok ds =>
    show Except.ok (Document.list ds).toValue = .ok (.list (ds.map Document.toValue))
    rw [Document.toValue, toValues_eq]

theorem rendered_list (vs : List Value) : (list vs).rendered = (vs.mapM rendered).map .list := by
  rw [rendered, render]
  exact toValue_renderAll vs

theorem rendered_tuple (vs : List Value) : (tuple vs).rendered = (vs.mapM rendered).map .list := by
  rw [rendered, render]
  exact toValue_renderAll vs

/-- The entry of a dictionary with its key as a text and its value as it is rendered. -/
def renderedEntry (e : Value × Value) : Except Failure (String × Value) := do
  return (← e.1.toText, ← e.2.rendered)

/-- The field of a record with its value as it is rendered. -/
def renderedField (f : String × Value) : Except Failure (String × Value) := do
  return (f.1, ← f.2.rendered)

/-- Of the entries whose keys have one text the last counts, in the place of the first. -/
theorem rendered_dict (es : List (Value × Value)) :
    (dict es).rendered =
      (es.mapM renderedEntry).map fun fields => ofFields (Document.collapse fields) := by
  have hentry (e : Value × Value) :
      (do return (← e.1.toText, ← e.2.render) : Except Failure (String × Document)).map
        (fun e => (e.1, e.2.toValue)) = renderedEntry e := by
    rw [renderedEntry, rendered]
    cases e.1.toText with
    | error why => rfl
    | ok s => cases e.2.render <;> rfl
  rw [rendered, render, renderEntries_eq, ← funext hentry, ← map_mapM]
  cases es.mapM fun e => (do return (← e.1.toText, ← e.2.render)) with
  | error why => rfl
  | ok ds =>
    show Except.ok (Document.map (Document.collapse ds)).toValue = .ok _
    rw [toValue_map, Document.map_collapse]

theorem rendered_record (typeName : String) (fields : List (String × Value)) :
    (record typeName fields).rendered = (fields.mapM renderedField).map ofFields := by
  have hfield (f : String × Value) :
      (do return (f.1, ← f.2.render) : Except Failure (String × Document)).map
        (fun f => (f.1, f.2.toValue)) = renderedField f := by
    rw [renderedField, rendered]
    cases f.2.render <;> rfl
  rw [rendered, render, renderFields_eq, ← funext hfield, ← map_mapM]
  cases fields.mapM fun f => (do return (f.1, ← f.2.render)) with
  | error why => rfl
  | ok ds =>
    show Except.ok (Document.map ds).toValue = .ok _
    rw [toValue_map]

/-- **An item is rendered as the dictionary that it writes.** -/
theorem rendered_item (i : Item) : (item i).rendered = .ok i.toDict := rfl

/-! ## 2. The values that are rendered -/

/-- The values that reports are made of, and lists, tuples and dictionaries of them, nested to any
    depth. The keys of a dictionary may be any values, also some that have one text. -/
inductive Renderable : Value → Prop
  | null : Renderable .null
  | bool (b : Bool) : Renderable (.bool b)
  | int (n : Int) : Renderable (.int n)
  | text (s : String) : Renderable (.text s)
  | date (d : Date) : Renderable (.date d)
  | dateTime (t : DateTime) : Renderable (.dateTime t)
  | identifier (i : Identifier) : Renderable (.identifier i)
  | direction (d : Direction) : Renderable (.direction d)
  | dimension (d : Dimension) : Renderable (.dimension d)
  | item (i : Item) : Renderable (.item i)
  | period (p : ReportPeriod) : Renderable (.period p)
  | counts (c : GroupCounts) : Renderable (.counts c)
  | list (vs : List Value) (h : ∀ v ∈ vs, Renderable v) : Renderable (.list vs)
  | tuple (vs : List Value) (h : ∀ v ∈ vs, Renderable v) : Renderable (.tuple vs)
  | dict (es : List (Value × Value)) (h : ∀ e ∈ es, Renderable e.2) : Renderable (.dict es)
  | record (typeName : String) (fields : List (String × Value))
      (hnames : (fields.map (·.1)).Nodup) (h : ∀ f ∈ fields, Renderable f.2) :
      Renderable (.record typeName fields)

/-- Parts of one kind, one after the other. -/
theorem Renderable.tuple_map {α : Type} {part : α → Value} (h : ∀ a, (part a).Renderable)
    (parts : List α) : (Value.tuple (parts.map part)).Renderable := by
  refine .tuple _ fun v hv => ?_
  obtain ⟨a, _, rfl⟩ := List.mem_map.mp hv
  exact h a

/-- **A key that shows a number which is too long** stands in one of the dictionaries that rendering
    descends to. -/
inductive UnwritableKey : Value → Prop where
  | key {es : List (Value × Value)} {e : Value × Value} (he : e ∈ es) (h : e.1.ShowsLong) :
      UnwritableKey (.dict es)
  | entry {es : List (Value × Value)} {e : Value × Value} (he : e ∈ es) (h : UnwritableKey e.2) :
      UnwritableKey (.dict es)
  | element {vs : List Value} {v : Value} (hv : v ∈ vs) (h : UnwritableKey v) :
      UnwritableKey (.list vs)
  | part {vs : List Value} {v : Value} (hv : v ∈ vs) (h : UnwritableKey v) :
      UnwritableKey (.tuple vs)
  | field {typeName : String} {fields : List (String × Value)} {f : String × Value}
      (hf : f ∈ fields) (h : UnwritableKey f.2) : UnwritableKey (.record typeName fields)

theorem unwritableKey_dict {es : List (Value × Value)} :
    (Value.dict es).UnwritableKey ↔ ∃ e ∈ es, e.1.ShowsLong ∨ e.2.UnwritableKey :=
  ⟨fun | .key he h => ⟨_, he, .inl h⟩ | .entry he h => ⟨_, he, .inr h⟩,
    fun ⟨_, he, h⟩ => h.elim (.key he) (.entry he)⟩

theorem unwritableKey_list {vs : List Value} :
    (Value.list vs).UnwritableKey ↔ ∃ v ∈ vs, v.UnwritableKey :=
  ⟨fun | .element hv h => ⟨_, hv, h⟩, fun ⟨_, hv, h⟩ => .element hv h⟩

theorem unwritableKey_tuple {vs : List Value} :
    (Value.tuple vs).UnwritableKey ↔ ∃ v ∈ vs, v.UnwritableKey :=
  ⟨fun | .part hv h => ⟨_, hv, h⟩, fun ⟨_, hv, h⟩ => .part hv h⟩

theorem unwritableKey_record {typeName : String} {fields : List (String × Value)} :
    (Value.record typeName fields).UnwritableKey ↔ ∃ f ∈ fields, f.2.UnwritableKey :=
  ⟨fun | .field hf h => ⟨_, hf, h⟩, fun ⟨_, hf, h⟩ => .field hf h⟩

/-- The values of a plain document: nothing, truth values, whole numbers, texts, and lists and
    dictionaries of them. The keys of a dictionary are texts, and no two of them are equal. -/
inductive IsPlain : Value → Prop
  | null : IsPlain .null
  | bool (b : Bool) : IsPlain (.bool b)
  | int (n : Int) : IsPlain (.int n)
  | text (s : String) : IsPlain (.text s)
  | list (vs : List Value) (h : ∀ v ∈ vs, IsPlain v) : IsPlain (.list vs)
  | dict (fields : List (String × Value)) (hnames : (fields.map (·.1)).Nodup)
      (h : ∀ f ∈ fields, IsPlain f.2) : IsPlain (ofFields fields)

end Value

/-! ## 3. Reports -/

theorem SubsetKey.renderable_toValue (k : SubsetKey) : k.toValue.Renderable := by
  unfold toValue
  refine .record _ _ (show ["meta_scheme_id", "scheme_id", "value"].Nodup by decide) ?_
  simp only [List.forall_mem_cons]
  exact ⟨.text _, .text _, .text _, List.forall_mem_nil _⟩

theorem ReportHeader.renderable_toValue (h : ReportHeader) : h.toValue.Renderable := by
  unfold toValue
  refine .record _ _ (show ["period", "reporter_id", "reporter_id_scheme"].Nodup by decide) ?_
  simp only [List.forall_mem_cons]
  exact ⟨.period _, .text _, .text _, List.forall_mem_nil _⟩

theorem IncomingOutgoing.renderable_toValue (c : IncomingOutgoing) : c.toValue.Renderable := by
  unfold toValue
  refine .record _ _ (show ["incoming", "outgoing"].Nodup by decide) ?_
  simp only [List.forall_mem_cons]
  exact ⟨.int _, .int _, List.forall_mem_nil _⟩

/-- The names of the figures of a group differ. -/
theorem GroupCounts.nodup_names (c : GroupCounts) : ((Value.ofCounts c).map (·.1)).Nodup :=
  show ["incoming", "outgoing", "sending_end_users", "receiving_end_users",
    "sending_or_receiving_end_users"].Nodup by decide

theorem GroupCounts.renderable_toEndUserCounts (c : GroupCounts) :
    c.toEndUserCounts.Renderable := by
  unfold toEndUserCounts
  refine .record _ _ c.nodup_names fun f hf => ?_
  obtain ⟨e, _, rfl⟩ := List.mem_map.mp hf
  exact .int _

theorem TransactionSubset.renderable_toValue (s : TransactionSubset) :
    s.toValue.Renderable := by
  unfold toValue
  refine .record _ _ (show ["type", "keys", "incoming", "outgoing"].Nodup by decide) ?_
  simp only [List.forall_mem_cons]
  exact ⟨.text _, .tuple_map SubsetKey.renderable_toValue s.keys, .int _, .int _,
    List.forall_mem_nil _⟩

theorem EndUserSubset.renderable_toValue (s : EndUserSubset) : s.toValue.Renderable := by
  unfold toValue
  refine .record _ _ (show ["type", "keys", "counts"].Nodup by decide) ?_
  simp only [List.forall_mem_cons]
  exact ⟨.text _, .tuple_map SubsetKey.renderable_toValue s.keys,
    s.counts.renderable_toEndUserCounts, List.forall_mem_nil _⟩

/-- **Both reports, with all their parts, are among the values that are rendered.** -/
theorem Report.renderable_toValue (r : Report) : r.toValue.Renderable := by
  cases r with
  | tsr r =>
    unfold toValue
    refine .record _ _
      (show ["customization_id", "profile_id", "header", "total", "subsets"].Nodup by decide) ?_
    simp only [List.forall_mem_cons]
    exact ⟨.text _, .text _, r.header.renderable_toValue, r.total.renderable_toValue,
      .tuple_map TransactionSubset.renderable_toValue r.subsets, List.forall_mem_nil _⟩
  | eusr r =>
    unfold toValue
    refine .record _ _
      (show ["customization_id", "profile_id", "header", "full_set", "subsets"].Nodup by decide) ?_
    simp only [List.forall_mem_cons]
    exact ⟨.text _, .text _, r.header.renderable_toValue, r.fullSet.renderable_toEndUserCounts,
      .tuple_map EndUserSubset.renderable_toValue r.subsets, List.forall_mem_nil _⟩

namespace Value

/-! ## 4. Where rendering stops -/

/-- **Rendering stops exactly at a key that cannot be written.** By induction on the value: what has
    no parts is rendered without a text of its own being made, so that only keys are left. -/
theorem rendered_stopsIf {v : Value} (h : v.Renderable) : StopsIf v.UnwritableKey v.rendered := by
  induction h with
  | null | bool | int | text | date | dateTime | identifier | direction | dimension | item | period
  | counts => exact .done nofun
  | list vs _ ih =>
    rw [rendered_list]
    exact ((StopsIf.mapM ih).map _).congr unwritableKey_list.symm
  | tuple vs _ ih =>
    rw [rendered_tuple]
    exact ((StopsIf.mapM ih).map _).congr unwritableKey_tuple.symm
  | dict es _ ih =>
    have hentry : ∀ e ∈ es, StopsIf (e.1.ShowsLong ∨ e.2.UnwritableKey) (renderedEntry e) :=
      fun e he => e.1.toText_stopsIf.bind fun _ _ => (ih e he).map _
    rw [rendered_dict]
    exact ((StopsIf.mapM hentry).map _).congr unwritableKey_dict.symm
  | record typeName fields _ _ ih =>
    have hfield : ∀ f ∈ fields, StopsIf f.2.UnwritableKey (renderedField f) :=
      fun f hf => (ih f hf).map _
    rw [rendered_record]
    exact ((StopsIf.mapM hfield).map _).congr unwritableKey_record.symm

/-! ## 5. What is rendered is plain -/

theorem isPlain_of_renderedAll {vs ws : List Value} (hws : vs.mapM rendered = .ok ws)
    (h : ∀ v ∈ vs, ∀ w, v.rendered = .ok w → w.IsPlain) : (Value.list ws).IsPlain := by
  refine .list _ fun w hw => ?_
  obtain ⟨v, hv, hvw⟩ := exists_of_mem_mapM hws hw
  exact h v hv w hvw

/-- The names of a record are rendered as they are. -/
theorem names_renderedFields {fields fields' : List (String × Value)}
    (h : fields.mapM renderedField = .ok fields') : fields'.map (·.1) = fields.map (·.1) := by
  have hall := mapM_eq_ok_iff.mp h
  clear h
  induction hall with
  | nil => rfl
  | cons hf _ ih =>
    obtain ⟨w, _, hf⟩ := bind_eq_ok.mp hf
    rw [List.map_cons, List.map_cons, ih, ← Except.ok.inj hf]

theorem isPlain_toDict (i : Item) : i.toDict.IsPlain := by
  have hnames : (i.toEntries.map (·.1)).Nodup := show ["exchange_datetime", "direction",
    "sender_id", "receiver_id", "document_type_id", "process_id", "transport_protocol",
    "end_user_country_code", "end_user_id"].Nodup by decide
  refine .dict (i.toEntries.map fun e => (e.1, .text e.2)) ?_ fun f hf => ?_
  · rw [List.map_map]
    exact hnames
  · obtain ⟨e, _, rfl⟩ := List.mem_map.mp hf
    exact .text _

theorem isPlain_rendered_period {p : ReportPeriod} {w : Value} (h : (period p).rendered = .ok w) :
    w.IsPlain := by
  cases h
  refine .dict [("start", .text p.first.iso), ("end", .text p.last.iso)]
    (show ["start", "end"].Nodup by decide) ?_
  simp only [List.forall_mem_cons]
  exact ⟨.text _, .text _, List.forall_mem_nil _⟩

theorem isPlain_rendered_counts {c : GroupCounts} {w : Value} (h : (counts c).rendered = .ok w) :
    w.IsPlain := by
  cases h
  refine .dict (ofCounts c) c.nodup_names fun f hf => ?_
  obtain ⟨e, _, rfl⟩ := List.mem_map.mp hf
  exact .int _

/-- **Whatever is rendered is plain.** By induction on the value: what has no parts becomes nothing,
    a truth value, a number or a text, the parts of everything else are rendered themselves. -/
theorem isPlain_of_rendered {v w : Value} (h : v.Renderable) (hw : v.rendered = .ok w) :
    w.IsPlain := by
  induction h generalizing w with
  | null =>
    cases hw
    exact .null
  | bool b =>
    cases hw
    exact .bool b
  | int n =>
    cases hw
    exact .int n
  | text | date | dateTime | identifier | direction | dimension =>
    cases hw
    exact .text _
  | item i =>
    cases hw
    exact isPlain_toDict i
  | period p => exact isPlain_rendered_period hw
  | counts c => exact isPlain_rendered_counts hw
  | list vs _ ih =>
    rw [rendered_list] at hw
    obtain ⟨ws, hws, rfl⟩ := map_eq_ok.mp hw
    exact isPlain_of_renderedAll hws fun v hv _ => ih v hv
  | tuple vs _ ih =>
    rw [rendered_tuple] at hw
    obtain ⟨ws, hws, rfl⟩ := map_eq_ok.mp hw
    exact isPlain_of_renderedAll hws fun v hv _ => ih v hv
  | dict es _ ih =>
    rw [rendered_dict] at hw
    obtain ⟨fields, hfields, rfl⟩ := map_eq_ok.mp hw
    refine .dict _ (Document.nodup_collapse _) fun f hf => ?_
    obtain ⟨e, he, hef⟩ := exists_of_mem_mapM hfields (Document.mem_of_mem_collapse hf)
    obtain ⟨key, _, hef⟩ := bind_eq_ok.mp hef
    obtain ⟨w, hw, hef⟩ := bind_eq_ok.mp hef
    obtain rfl := Except.ok.inj hef
    exact ih e he hw
  | record typeName fields hnames _ ih =>
    rw [rendered_record] at hw
    obtain ⟨fields', hfields, rfl⟩ := map_eq_ok.mp hw
    refine .dict _ (names_renderedFields hfields ▸ hnames) fun f hf => ?_
    obtain ⟨g, hg, hgf⟩ := exists_of_mem_mapM hfields hf
    obtain ⟨w, hw, hgf⟩ := bind_eq_ok.mp hgf
    obtain rfl := Except.ok.inj hgf
    exact ih g hg hw

/-! ## 6. Rendering what is plain -/

/-- **A plain value is rendered as itself.** The keys of a dictionary are texts, which can be
    written, and differ already, so that none is dropped. -/
theorem rendered_of_isPlain {v : Value} (h : v.IsPlain) : v.rendered = .ok v := by
  induction h with
  | null | bool | int | text => rfl
  | list vs _ ih =>
    rw [rendered_list, mapM_eq_ok (g := id) ih, List.map_id]
    rfl
  | dict fields hnames _ ih =>
    have hentries : (fields.map fun f => ((text f.1, f.2) : Value × Value)).mapM renderedEntry =
        .ok fields := by
      rw [List.mapM_map, mapM_eq_ok (g := id) fun f hf => ?_, List.map_id]
      show (f.2.rendered >>= fun w => pure (f.1, w)) = .ok f
      rw [ih f hf]
      rfl
    rw [ofFields, rendered_dict, hentries]
    show Except.ok (ofFields (Document.collapse fields)) = _
    rw [Document.collapse_of_nodup hnames]
    rfl

/-- **Rendering leaves plain values behind and is then at an end**: of whatever a value is made and
    however deep it is nested, it is rendered as a plain value, and rendering this value again
    changes nothing; only a key that shows a number which is too long to be written stops it. An
    item is rendered as the dictionary that it writes, and reports are among the values. -/
theorem rendered_isPlain_and_stable :
    (∀ v : Value, v.Renderable →
      (v.UnwritableKey ∧ v.rendered = .error .numberTooLong) ∨
      (¬ v.UnwritableKey ∧ ∃ w, v.rendered = .ok w ∧ w.IsPlain ∧ w.rendered = .ok w)) ∧
    (∀ i : Item, (item i).rendered = .ok i.toDict) ∧
    (∀ r : Report, r.toValue.Renderable ∧ ¬ r.toValue.UnwritableKey) := by
  refine ⟨fun v hv => ?_, rendered_item, fun r => ⟨r.renderable_toValue, ?_⟩⟩
  · have hstops := rendered_stopsIf hv
    by_cases hkey : v.UnwritableKey
    · exact .inl ⟨hkey, hstops.error_iff.mpr ⟨hkey, rfl⟩⟩
    · obtain ⟨w, hw⟩ := hstops.ok_iff.mpr hkey
      have hplain := isPlain_of_rendered hv hw
      exact .inr ⟨hkey, w, hw, hplain, rendered_of_isPlain hplain⟩
  · obtain ⟨d, hd⟩ := r.hasDocument
    exact (rendered_stopsIf r.renderable_toValue).ok_iff.mp ⟨d.toValue, by rw [rendered, hd]; rfl⟩

/-- A dictionary with a number and a text as keys that read alike, and a tuple as a key. -/
def keysAlike : Value :=
  .dict
    [(.int 1, .tuple [.null, .date ((Date.ofParts? 2023 6 30).get (by decide))]),
     (.tuple [.direction .sending, .bool true], .list [.dimension .direction, .int (-7)]),
     (.text "1", .record "IncomingOutgoing" [("incoming", .int 3), ("outgoing", .int 0)])]

theorem renderable_keysAlike : keysAlike.Renderable := by
  unfold keysAlike
  refine .dict _ ?_
  simp only [List.forall_mem_cons]
  refine ⟨.tuple _ ?_, .list _ ?_, (⟨3, 0⟩ : IncomingOutgoing).renderable_toValue,
    List.forall_mem_nil _⟩
  · simp only [List.forall_mem_cons]
    exact ⟨.null, .date _, List.forall_mem_nil _⟩
  · simp only [List.forall_mem_cons]
    exact ⟨.dimension _, .int _, List.forall_mem_nil _⟩

/-- The last value counts, in the place of the first, and nothing is lost by rendering again. -/
theorem rendered_keysAlike :
    keysAlike.Renderable ∧
    keysAlike.rendered =
      .ok (ofFields
        [("1", ofFields [("incoming", .int 3), ("outgoing", .int 0)]),
         ("(<Direction.SENDING: 'sending'>, True)", .list [.text "direction", .int (-7)])]) ∧
    ∃ w, keysAlike.rendered = .ok w ∧ w.IsPlain ∧ w.rendered = .ok w := by
  have hrendered : keysAlike.rendered = .ok (ofFields
      [("1", ofFields [("incoming", .int 3), ("outgoing", .int 0)]),
       ("(<Direction.SENDING: 'sending'>, True)", .list [.text "direction", .int (-7)])]) := by
    rfl
  refine ⟨renderable_keysAlike, hrendered, ?_⟩
  rcases rendered_isPlain_and_stable.1 keysAlike renderable_keysAlike with ⟨_, herror⟩ | ⟨_, h⟩
  · cases hrendered.symm.trans herror
  · exact h

/-- A dictionary with a number of 4301 digits as its key. -/
def longKey : Value := .dict [(.int (10 ^ Numeral.digitLimit), .null)]

/-- **A number of 4301 digits cannot be a key**: the dictionary is not rendered at all. -/
theorem not_rendered_longKey : ¬ ∀ v : Value, v.Renderable → ∃ w, v.rendered = .ok w := by
  intro h
  have hrenderable : longKey.Renderable := .dict _ fun e he => List.mem_singleton.mp he ▸ .null
  have hkey : longKey.UnwritableKey := .key List.mem_cons_self (.int Numeral.isLong_pow)
  exact (rendered_stopsIf hrenderable).ok_iff.mp (h longKey hrenderable) hkey

end Value

end PeppolStatistics
