import RowQuery.Proofs.Source
/-!
# Values reach neither text nor log

Leaving the values of a descriptor out and compiling gives the compiled
statement with its values left out, and the same events
(`compile_withoutValues`, `events_withoutValues`). So two descriptors that
differ only in their values compile to the same text and log the same, and
each bound name takes its value from the same place in both
(`compile_sameButValues`).
-/

namespace RowQuery

/-! ## Leaving values out -/

def Condition.withoutValue (c : Condition) : Condition := { c with value := .null }

def Clause.withoutValue : Clause → Clause
  | .condition c => .condition c.withoutValue
  | .group g k => .group g k

def Chain.withoutValues (c : Chain) : Chain := c.map Clause.withoutValue

/-- A record or a bind map with `null` under each name. -/
def OrderedMap.withoutValues (m : OrderedMap Value) : OrderedMap Value := m.mapValues fun _ => .null

def Descriptor.withoutValues (d : Descriptor) : Descriptor :=
  { d with records := d.records.map OrderedMap.withoutValues, filters := Chain.withoutValues d.filters }

def Field.withoutValue (f : Field) : Field :=
  match f.content with
  | .bound name _ => { f with content := .bound name .null }
  | .now | .null => f

def Draft.withoutValues (x : Draft) : Draft := { x with params := x.params.withoutValues }

def Compiled.withoutValues (c : Compiled) : Compiled := { c with params := c.params.withoutValues }

/-- Entries with their values left out. -/
def namesOnly (l : List (String × Value)) : List (String × Value) := l.map fun e => (e.1, .null)

theorem namesOnly_append (l l' : List (String × Value)) : namesOnly (l ++ l') = namesOnly l ++ namesOnly l' :=
  List.map_append

theorem ofList_namesOnly (l : List (String × Value)) :
    OrderedMap.ofList (namesOnly l) = (OrderedMap.ofList l).withoutValues :=
  (OrderedMap.mapValues_ofList (fun _ => Value.null) l).symm

/-! ## The fields of a write -/

namespace Fields

@[simp] theorem column_withoutValue (f : Field) : f.withoutValue.column = f.column := by
  unfold Field.withoutValue
  split <;> rfl

@[simp] theorem piece_withoutValue (f : Field) : f.withoutValue.content.piece = f.content.piece := by
  obtain ⟨column, content⟩ := f
  cases content <;> rfl

theorem bindings_withoutValue (fs : List Field) :
    bindings (fs.map Field.withoutValue) = namesOnly (bindings fs) := by
  induction fs with
  | nil => rfl
  | cons f fs ih =>
    have hf : f.withoutValue.content.bindings = namesOnly f.content.bindings := by
      obtain ⟨column, content⟩ := f
      cases content <;> rfl
    rw [List.map_cons, bindings_cons, bindings_cons, ih, hf, namesOnly_append]

theorem columnPieces_withoutValue (fs : List Field) :
    columnPieces (fs.map Field.withoutValue) = columnPieces fs := by
  simp [columnPieces, Function.comp_def]

theorem valuePieces_withoutValue (fs : List Field) :
    valuePieces (fs.map Field.withoutValue) = valuePieces fs := by
  simp [valuePieces, Function.comp_def]

theorem setPieces_withoutValue (fs : List Field) : setPieces (fs.map Field.withoutValue) = setPieces fs := by
  simp [setPieces, Function.comp_def]

theorem resolveFrom_namesOnly (role : String → ColumnRole) (kind : WriteKind) (n : Nat)
    (l : List (String × Value)) :
    resolveFrom role kind n (namesOnly l) = (resolveFrom role kind n l).map Field.withoutValue := by
  induction l generalizing n with
  | nil => rfl
  | cons e l ih =>
    rw [namesOnly] at ih ⊢
    -- The treatment of a column looks at its name alone.
    cases h : (role e.1).treatment kind <;> simp [resolveFrom, h, ih, Field.withoutValue]

end Fields

/-! ## The filter -/

namespace Chain

theorem pieces_withoutValues (joins : Bool) (n : Nat) (c : Chain) :
    pieces joins n (withoutValues c) = pieces joins n c := by
  induction c generalizing joins n with
  | nil => rfl
  | cons x c ih =>
    rw [withoutValues] at ih ⊢
    rw [List.map_cons, pieces, pieces, ih]
    cases x <;> rfl

theorem whereClause_withoutValues (c : Chain) : whereClause (withoutValues c) = whereClause c := by
  cases c with
  | nil => rfl
  | cons x c => exact congrArg (_ :: ·) (pieces_withoutValues false 0 (x :: c))

theorem bindings_withoutValues (n : Nat) (c : Chain) :
    bindings n (withoutValues c) = namesOnly (bindings n c) := by
  induction c generalizing n with
  | nil => rfl
  | cons x c ih =>
    have hx : x.withoutValue.bindings n = namesOnly (x.bindings n) := by
      cases x with
      | group g k => rfl
      | condition x =>
        cases h : x.operator.isUnary <;>
          simp [Clause.withoutValue, Condition.withoutValue, Clause.bindings, Condition.bindings, h, namesOnly,
            Condition.bindName]
    rw [withoutValues] at ih ⊢
    rw [List.map_cons, bindings, bindings, ih, hx, namesOnly_append]

theorem bind_withoutValues (c : Chain) (p : Params) :
    bind (withoutValues c) p.withoutValues = (bind c p).withoutValues := by
  rw [bind, bind, bindings_withoutValues]
  exact (OrderedMap.mapValues_insertAll (fun _ => Value.null) p (bindings 0 c)).symm

theorem events_withoutValues (n : Nat) (c : Chain) : events n (withoutValues c) = events n c := by
  induction c generalizing n with
  | nil => rfl
  | cons x c ih =>
    rw [withoutValues] at ih ⊢
    cases x <;> simp [events, Clause.withoutValue, Condition.withoutValue, ih]

end Chain

namespace Descriptor

variable (d : Descriptor)

/-! ## The statement -/

theorem record?_withoutValues : d.withoutValues.record? = d.record?.map OrderedMap.withoutValues := by
  simp [record?, withoutValues]

theorem writeFields_withoutValues (kind : WriteKind) :
    d.withoutValues.writeFields kind = (d.writeFields kind).map Field.withoutValue := by
  simp only [writeFields, record?_withoutValues]
  cases d.record? with
  | none => rfl
  | some record => exact Fields.resolveFrom_namesOnly _ kind 0 record.toList

theorem draft_withoutValues (a : Action) :
    d.withoutValues.draft a = (d.draft a).map Draft.withoutValues := by
  have hw : Chain.whereClause d.withoutValues.filters = Chain.whereClause d.filters :=
    Chain.whereClause_withoutValues d.filters
  have hb (p : Params) : Chain.bind d.withoutValues.filters p.withoutValues =
      (Chain.bind d.filters p).withoutValues := Chain.bind_withoutValues d.filters p
  cases a with
  | create =>
    simp only [draft, writeFields_withoutValues, List.isEmpty_map]
    split
    · rfl
    · simp only [Fields.columnPieces_withoutValue, Fields.valuePieces_withoutValue,
        Fields.bindings_withoutValue, ofList_namesOnly]
      rfl
  | update =>
    simp only [draft, writeFields_withoutValues, List.isEmpty_map]
    split
    · rfl
    · simp only [Fields.setPieces_withoutValue, Fields.bindings_withoutValue, ofList_namesOnly, hb, hw]
      rfl
  | read | delete | count =>
    have he : Chain.bind d.withoutValues.filters .empty = (Chain.bind d.filters .empty).withoutValues :=
      hb .empty
    simp only [draft, hw, he]
    rfl

/-- Leaving values out before compiling leaves them out of the result, and that
is all it does. -/
theorem compile_withoutValues (a : Action) (g : Dialect) :
    d.withoutValues.compile a g = (d.compile a g).map Compiled.withoutValues := by
  have hb (x : Draft) : d.withoutValues.bodyOf a g x.withoutValues = d.bodyOf a g x := rfl
  simp only [compile, draft_withoutValues]
  cases d.draft a with
  | error e => rfl
  | ok x =>
    simp only [Except.map, hb]
    cases d.bodyOf a g x <;> rfl

/-! ## The log -/

theorem columnEvents_namesOnly (role : String → ColumnRole) (kind : WriteKind) (g : Dialect)
    (l : List (String × Value)) : columnEvents role kind g (namesOnly l) = columnEvents role kind g l := by
  induction l with
  | nil => rfl
  | cons e l ih =>
    rw [namesOnly] at ih ⊢
    rw [List.map_cons, columnEvents, columnEvents, ih]

theorem writeEvents_withoutValues (kind : WriteKind) (g : Dialect) :
    d.withoutValues.writeEvents kind g = d.writeEvents kind g := by
  simp only [writeEvents, record?_withoutValues, writeFields_withoutValues, List.isEmpty_map]
  cases d.record? with
  | none => rfl
  | some record => exact congrArg (· ++ _) (columnEvents_namesOnly _ kind g record.toList)

theorem partEvents_withoutValues (a : Action) (g : Dialect) :
    d.withoutValues.partEvents a g = d.partEvents a g := by
  have hc : Chain.events 0 d.withoutValues.filters = Chain.events 0 d.filters :=
    Chain.events_withoutValues 0 d.filters
  cases a <;>
    simp only [partEvents, writeEvents_withoutValues, writeFields_withoutValues, List.isEmpty_map, hc]

theorem resultEvents_withoutValues (a : Action) (g : Dialect) :
    d.withoutValues.resultEvents a g = d.resultEvents a g := by
  simp only [resultEvents, compile_withoutValues]
  cases d.compile a g with
  | error e => rfl
  | ok c =>
    have hs : c.params.withoutValues.size = c.params.size := OrderedMap.size_mapValues _ c.params
    simp only [Except.map, Compiled.withoutValues, hs]
    rfl

theorem events_withoutValues (a : Action) (g : Dialect) : d.withoutValues.events a g = d.events a g := by
  rw [events, events, partEvents_withoutValues, resultEvents_withoutValues]

/-! ## Sources -/

theorem sources_namesOnly (role : String → ColumnRole) (kind : WriteKind) (l : List (String × Value)) :
    Fields.sources role kind (namesOnly l) = Fields.sources role kind l := by
  have hw : Fields.written role kind (namesOnly l) = namesOnly (Fields.written role kind l) := by
    simp [Fields.written, namesOnly, List.filter_map, Function.comp_def]
  rw [Fields.sources, Fields.sources, hw, namesOnly, List.zipIdx_map, List.filterMap_map]
  rfl

theorem recordSources_withoutValues (kind : WriteKind) :
    d.withoutValues.recordSources kind = d.recordSources kind := by
  simp only [recordSources, record?_withoutValues]
  cases d.record? with
  | none => rfl
  | some record => exact sources_namesOnly _ kind record.toList

theorem chainSources_withoutValues (c : Chain) : Chain.sources (Chain.withoutValues c) = Chain.sources c := by
  rw [Chain.sources, Chain.sources, Chain.withoutValues, List.zipIdx_map, List.filterMap_map]
  congr 1
  funext ⟨x, k⟩
  cases x <;> rfl

theorem sources_withoutValues (a : Action) : d.withoutValues.sources a = d.sources a := by
  have hc : Chain.sources d.withoutValues.filters = Chain.sources d.filters :=
    chainSources_withoutValues d.filters
  cases a <;> simp only [sources, recordSources_withoutValues, hc]

/-! ## Two descriptors -/

/-- Two descriptors that differ at most in the values of their records and conditions. -/
structure SameButValues (d d' : Descriptor) : Prop where
  scope : d.scope = d'.scope
  columns : d.records.map (·.keys) = d'.records.map (·.keys)
  filters : d.filters.map Clause.withoutValue = d'.filters.map Clause.withoutValue
  sort : d.sort = d'.sort
  pagination : d.pagination = d'.pagination
  projection : d.projection = d'.projection
  schema : d.schema? = d'.schema?
  override : d.override? = d'.override?
  logLevel : d.logLevel = d'.logLevel

theorem withoutValues_of_keys {m m' : OrderedMap Value} (h : m.keys = m'.keys) :
    m.withoutValues = m'.withoutValues := by
  have he (m : OrderedMap Value) : m.withoutValues.entries = m.keys.map fun k => (k, .null) := by
    simp [OrderedMap.withoutValues, OrderedMap.mapValues, OrderedMap.keys, Function.comp_def]
  exact OrderedMap.ext (by rw [he, he, h])

theorem map_withoutValues_of_keys {rs rs' : List Record} (h : rs.map (·.keys) = rs'.map (·.keys)) :
    rs.map OrderedMap.withoutValues = rs'.map OrderedMap.withoutValues := by
  induction rs generalizing rs' with
  | nil => cases rs' <;> simp_all
  | cons r rs ih =>
    cases rs' with
    | nil => simp at h
    | cons r' rs' =>
      obtain ⟨hr, hrs⟩ := List.cons.inj h
      rw [List.map_cons, List.map_cons, withoutValues_of_keys hr, ih hrs]

theorem SameButValues.withoutValues_eq {d d' : Descriptor} (h : SameButValues d d') :
    d.withoutValues = d'.withoutValues := by
  obtain ⟨scope, records, filters, sort, pagination, projection, schema, override, logLevel⟩ := d
  obtain ⟨scope', records', filters', sort', pagination', projection', schema', override', logLevel'⟩ := d'
  obtain ⟨rfl, hr, hf, rfl, rfl, rfl, rfl, rfl, rfl⟩ := h
  simp only [withoutValues, Chain.withoutValues, map_withoutValues_of_keys hr, hf]

/-- Descriptors that differ only in their values log the same events. They fail
with the same error, or give the same text and the same names, and under each
name stands the value that the descriptor itself has at one common place. -/
theorem compile_sameButValues (d d' : Descriptor) (h : SameButValues d d') (a : Action) (g : Dialect) :
    d.events a g = d'.events a g ∧
      match d.compile a g, d'.compile a g with
      | .error e, .error e' => e = e'
      | .ok c, .ok c' =>
        c.body = c'.body ∧ c.fragments = c'.fragments ∧ c.params.keys = c'.params.keys ∧
          List.Forall₂ d.Supplies c.params.toList (d.sources a) ∧
          List.Forall₂ d'.Supplies c'.params.toList (d.sources a)
      | _, _ => False := by
  have he := h.withoutValues_eq
  have hs : d.sources a = d'.sources a := by rw [← d.sources_withoutValues, he, d'.sources_withoutValues]
  have hc : (d.compile a g).map Compiled.withoutValues = (d'.compile a g).map Compiled.withoutValues := by
    rw [← d.compile_withoutValues, he, d'.compile_withoutValues]
  refine ⟨by rw [← d.events_withoutValues, he, d'.events_withoutValues], ?_⟩
  -- Results that are equal without their values are both errors or both statements.
  cases hd : d.compile a g with
  | error e =>
    cases hd' : d'.compile a g with
    | error e' =>
      rw [hd, hd'] at hc
      exact Except.error.inj hc
    | ok c' =>
      rw [hd, hd'] at hc
      cases hc
  | ok c =>
    cases hd' : d'.compile a g with
    | error e' =>
      rw [hd, hd'] at hc
      cases hc
    | ok c' =>
      rw [hd, hd'] at hc
      have hc := Except.ok.inj hc
      have hk : c.params.withoutValues = c'.params.withoutValues := congrArg Compiled.params hc
      have hk := congrArg OrderedMap.keys hk
      simp only [OrderedMap.withoutValues, OrderedMap.keys_mapValues] at hk
      exact ⟨(congrArg Compiled.body hc :), (congrArg Compiled.fragments hc :), hk, d.params_supplied hd,
        hs ▸ d'.params_supplied hd'⟩

theorem compile_sameButValues_lookalike :
    SameButValues (lookalike (.string "x")) (lookalike (.array [.null])) ∧
      (lookalike (.string "x")).events .update .mysql = (lookalike (.array [.null])).events .update .mysql ∧
      ∃ c c', (lookalike (.string "x")).compile .update .mysql = .ok c ∧
        (lookalike (.array [.null])).compile .update .mysql = .ok c' ∧ c.body = c'.body ∧
        c.params.get? "a_1_w0" = some (.string "x") ∧ c'.params.get? "a_1_w0" = some (.array [.null]) := by
  have hs : SameButValues (lookalike (.string "x")) (lookalike (.array [.null])) := by constructor <;> rfl
  obtain ⟨he, hb, -⟩ := compile_sameButValues _ _ hs .update .mysql
  exact ⟨hs, he, _, _, rfl, rfl, hb, rfl, rfl⟩

end Descriptor

end RowQuery
