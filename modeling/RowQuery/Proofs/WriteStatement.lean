import RowQuery.Proofs.Marker
import RowQuery.Proofs.Outcome
import RowQuery.Proofs.Override
/-!
# The statement of a write

A create and an update name the columns of the first record that their kind of
write does not leave out, in the order of the record. A content stands for each
of them: a literal where the role of the column has one, else a marker whose
name ends in the place of the column among those written. So a column left out
takes no number, and one with a literal does (`compile_write`).
-/

namespace RowQuery

namespace WriteKind

/-- The action that writes in this way. -/
def action : WriteKind → Action
  | create => .create
  | update => .update

/-- The dialect's text that takes the place of a column's value. -/
def literal? : WriteKind → ColumnRole → Option (Dialect → String)
  | create, .autoIdentity => some Dialect.null
  | create, .createDate | create, .updateDate | update, .updateDate => some Dialect.now
  | _, _ => none

/-- The columns of a record that are written, in the order of the record. -/
def columns (kind : WriteKind) (role : String → ColumnRole) (record : Record) : List String :=
  record.keys.filter fun column => role column ∉ kind.omitted

/-- What stands for the column at a place among those written. -/
def content (kind : WriteKind) (role : String → ColumnRole) (g : Dialect) (column : String) (i : Nat) : String :=
  match kind.literal? (role column) with
  | some text => text g
  | none => g.marker (column ++ "_" ++ toString i)

/-- The contents of the columns written, in their order. -/
def contents (kind : WriteKind) (role : String → ColumnRole) (g : Dialect) (columns : List String) : List String :=
  columns.zipIdx.map fun (column, i) => kind.content role g column i

/-- A write with these columns and contents. Only an update has a filter. -/
def text (kind : WriteKind) (d : Descriptor) (g : Dialect) (columns contents : List String) : String :=
  match kind with
  | create =>
    "INSERT INTO " ++ g.table d.scope ++ " ( " ++ ", ".intercalate columns ++ ") VALUES ( " ++
      ", ".intercalate contents ++ ");"
  | update =>
    "UPDATE " ++ g.table d.scope ++ " SET " ++
      ", ".intercalate (List.zipWith (fun column content => column ++ " = " ++ content) columns contents) ++
      g.write (Chain.whereClause d.filters) ++ ";"

end WriteKind

theorem ColumnRole.literal?_eq (r : ColumnRole) (kind : WriteKind) :
    kind.literal? r = match r.treatment kind with
      | .now => some Dialect.now
      | .null => some Dialect.null
      | .bind | .omit => none := by
  cases r <;> cases kind <;> rfl

/-- A value is bound where the column is written and no literal takes its place. -/
theorem ColumnRole.treatment_eq_bind {r : ColumnRole} {kind : WriteKind} (h : r.treatment kind ≠ .omit)
    (hl : kind.literal? r = none) : r.treatment kind = .bind := by
  rw [literal?_eq] at hl
  cases ht : r.treatment kind <;> simp_all

theorem Dialect.write_intercalate (g : Dialect) (sep : String) (items : List (List Piece)) :
    g.write (List.intercalate [.text sep] items) = sep.intercalate (items.map g.write) := by
  induction items with
  | nil => rfl
  | cons x items ih =>
    cases items with
    | nil => simp
    | cons y items =>
      rw [List.intercalate_cons_cons, write_append, write_append, ih]
      simp [writePiece, String.intercalate_cons_cons, String.append_assoc]

/-! ## The fields -/

namespace Fields

variable {role : String → ColumnRole} {kind : WriteKind} (g : Dialect)

theorem resolveFrom_of_omitted {column : String} (h : role column ∈ kind.omitted) (n : Nat) (value : Value)
    (l : List (String × Value)) : resolveFrom role kind n ((column, value) :: l) = resolveFrom role kind n l := by
  simp only [resolveFrom, ((role column).treatment_eq_omit_iff kind).2 h]

theorem resolveFrom_of_written {column : String} (h : role column ∉ kind.omitted) (n : Nat) (value : Value)
    (l : List (String × Value)) :
    ∃ x, resolveFrom role kind n ((column, value) :: l) = ⟨column, x⟩ :: resolveFrom role kind (n + 1) l ∧
      g.writePiece x.piece = kind.content role g column n := by
  rw [← ColumnRole.treatment_eq_omit_iff] at h
  rw [WriteKind.content, ColumnRole.literal?_eq]
  cases ht : (role column).treatment kind with
  | «omit» => exact absurd ht h
  | bind | now | null => exact ⟨_, by rw [resolveFrom, ht], rfl⟩

variable (role kind)

/-- The fields are the columns written, in order, each with the content of its place. -/
theorem map_resolveFrom (n : Nat) (l : List (String × Value)) :
    (resolveFrom role kind n l).map (fun f => (f.column, g.writePiece f.content.piece)) =
      (((l.map (·.1)).filter fun column => role column ∉ kind.omitted).zipIdx n).map
        fun (column, i) => (column, kind.content role g column i) := by
  induction l generalizing n with
  | nil => rfl
  | cons e l ih =>
    obtain ⟨column, value⟩ := e
    by_cases h : role column ∈ kind.omitted
    · rw [resolveFrom_of_omitted h, ih n]
      simp [h]
    · obtain ⟨x, hfields, hx⟩ := resolveFrom_of_written g h n value l
      rw [hfields, List.map_cons, ih (n + 1), hx]
      simp [h]

theorem map_column_written (l : List (String × Value)) :
    (written role kind l).map (·.1) = (l.map (·.1)).filter fun column => role column ∉ kind.omitted := by
  rw [written, List.filter_map]
  simp only [ne_eq, ColumnRole.treatment_eq_omit_iff]
  rfl

variable {g} {fields : List Field} {columns contents : List String}

theorem write_columnPieces (hcolumns : fields.map (·.column) = columns) :
    g.write (columnPieces fields) = " " ++ ", ".intercalate columns := by
  rw [columnPieces, Dialect.write_cons, Dialect.write_intercalate, ← hcolumns, List.map_map]
  simp [Function.comp_def, Dialect.writePiece]

theorem write_valuePieces (hcontents : fields.map (fun f => g.writePiece f.content.piece) = contents) :
    g.write (valuePieces fields) = " " ++ ", ".intercalate contents := by
  rw [valuePieces, Dialect.write_cons, Dialect.write_intercalate, ← hcontents, List.map_map]
  simp [Function.comp_def, Dialect.writePiece]

theorem write_setPieces (hcolumns : fields.map (·.column) = columns)
    (hcontents : fields.map (fun f => g.writePiece f.content.piece) = contents) :
    g.write (setPieces fields) =
      " " ++ ", ".intercalate (List.zipWith (fun column content => column ++ " = " ++ content) columns contents) := by
  rw [setPieces, Dialect.write_cons, Dialect.write_intercalate, ← hcolumns, ← hcontents, List.map_map,
    List.zipWith_map, List.zipWith_self]
  simp [Function.comp_def, Dialect.writePiece]

end Fields

namespace Descriptor

variable {d : Descriptor} {record : Record}

theorem writeFields_of_head? (hr : d.records.head? = some record) (kind : WriteKind) :
    d.writeFields kind = Fields.resolveFrom (Schema.roleIn d.schema?) kind 0 record.toList := by
  rw [writeFields, record?, hr]
  rfl

/-- The columns and the contents of the fields of a write. -/
theorem map_writeFields (hr : d.records.head? = some record) (kind : WriteKind) (g : Dialect) :
    (d.writeFields kind).map (·.column) = kind.columns (Schema.roleIn d.schema?) record ∧
      (d.writeFields kind).map (fun f => g.writePiece f.content.piece) =
        kind.contents (Schema.roleIn d.schema?) g (kind.columns (Schema.roleIn d.schema?) record) := by
  rw [writeFields_of_head? hr kind]
  have hfields := Fields.map_resolveFrom (Schema.roleIn d.schema?) kind g 0 record.toList
  constructor
  · have hcolumns := congrArg (List.map (·.1)) hfields
    simpa [Function.comp_def, WriteKind.columns, OrderedMap.keys_eq] using hcolumns
  · have hcontents := congrArg (List.map (·.2)) hfields
    simpa [Function.comp_def, WriteKind.columns, WriteKind.contents, OrderedMap.keys_eq] using hcontents

theorem write_tableFragment (g : Dialect) : g.write d.tableFragment.table = " " ++ g.table d.scope := by
  simp [tableFragment, Dialect.writePiece]

/-- The body of a write is made of the columns written and their contents. -/
theorem write_body {kind : WriteKind} {x : Draft} (hr : d.records.head? = some record)
    (hx : d.draft kind.action = .ok x) (g : Dialect) :
    g.write (x.body kind.action) =
      let columns := kind.columns (Schema.roleIn d.schema?) record
      kind.text d g columns (kind.contents (Schema.roleIn d.schema?) g columns) := by
  obtain ⟨hcolumns, hcontents⟩ := map_writeFields hr kind g
  cases kind with
  | create =>
    obtain ⟨-, rfl⟩ := d.draft_create hx
    -- The blank behind a text of the form is the one in front of the fragment.
    have hinto : "INSERT INTO " = "INSERT INTO" ++ " " := rfl
    have hopen : " ( " = " (" ++ " " := rfl
    have hvalues : ") VALUES ( " = ") VALUES (" ++ " " := rfl
    rw [Action.write_body]
    unfold WriteKind.text
    simp only [WriteKind.action, Action.parts, Action.lastPart, Template.filled, Fragments.map, Fragments.get,
      write_tableFragment, Fields.write_columnPieces hcolumns, Fields.write_valuePieces hcontents]
    rw [hinto, hopen, hvalues]
    simp only [String.append_assoc]
  | update =>
    obtain ⟨-, rfl⟩ := d.draft_update hx
    have hupdate : "UPDATE " = "UPDATE" ++ " " := rfl
    have hset : " SET " = " SET" ++ " " := rfl
    rw [Action.write_body]
    unfold WriteKind.text
    simp only [WriteKind.action, Action.parts, Action.lastPart, Template.filled, Fragments.map, Fragments.get,
      write_tableFragment, Fields.write_setPieces hcolumns hcontents, String.empty_append]
    rw [hupdate, hset]
    simp only [String.append_assoc]

/-! ## What is bound -/

theorem writeFields_ne_nil_iff (hr : d.records.head? = some record) (kind : WriteKind) :
    d.writeFields kind ≠ [] ↔ kind.columns (Schema.roleIn d.schema?) record ≠ [] := by
  rw [← (map_writeFields hr kind .mysql).1]
  simp

/-- The column at a place among those written, where no literal takes the place of its value. -/
theorem mem_entries_of_getElem? (hr : d.records.head? = some record) {kind : WriteKind} {i : Nat} {column : String}
    (hi : (kind.columns (Schema.roleIn d.schema?) record)[i]? = some column)
    (hl : kind.literal? (Schema.roleIn d.schema? column) = none) :
    ∃ v, record.get? column = some v ∧ (column ++ "_" ++ toString i, v) ∈ d.entries kind.action := by
  have hcolumns := Fields.map_column_written (Schema.roleIn d.schema?) kind record.toList
  rw [WriteKind.columns, OrderedMap.keys_eq, ← hcolumns, List.getElem?_map, Option.map_eq_some_iff] at hi
  obtain ⟨⟨column, v⟩, hi, rfl⟩ := hi
  obtain ⟨hmem, hwritten⟩ := List.mem_filter.1 (List.mem_of_getElem? hi)
  have hbind := ColumnRole.treatment_eq_bind (by simpa using hwritten) hl
  have hentry : (column ++ "_" ++ toString i, v) ∈ d.recordEntries kind := by
    rw [recordEntries, record?, hr]
    exact List.mem_filterMap.2 ⟨((column, v), i), List.mk_mem_zipIdx_iff_getElem?.2 hi, if_pos hbind⟩
  refine ⟨v, OrderedMap.get?_eq_some_iff.2 hmem, ?_⟩
  cases kind with
  | create => exact hentry
  | update => exact List.mem_append_left _ hentry

/-- A create or an update of a record with a column to write has a statement, made of
the columns written and of what stands for each. What stands for none of the
literals is bound, under the column's name and place. -/
theorem compile_write (d : Descriptor) (record : Record) (kind : WriteKind) (g : Dialect)
    (hr : d.records.head? = some record) (ho : d.override? = none)
    (hw : kind.columns (Schema.roleIn d.schema?) record ≠ []) :
    let columns := kind.columns (Schema.roleIn d.schema?) record
    let contents := kind.contents (Schema.roleIn d.schema?) g columns
    ∃ c, d.compile kind.action g = .ok c ∧ c.body = kind.text d g columns contents ∧
      contents.length = columns.length ∧
      ∀ (i : Nat) (column : String), columns[i]? = some column → kind.literal? (Schema.roleIn d.schema? column) = none →
        ∃ v, record.get? column = some v ∧ c.params.get? (column ++ "_" ++ toString i) = some v := by
  intro columns contents
  have hwrites : ¬ d.WritesNothing kind.action := by
    rw [writesNothing_iff]
    rintro ⟨kind', ha, hnone⟩
    obtain rfl : kind = kind' := by
      cases kind <;> exact Option.some.inj ha
    exact (writeFields_ne_nil_iff hr kind).2 hw hnone
  obtain ⟨x, hx⟩ := d.draft_of_writes hwrites
  have hc := d.compile_of_draft g ho hx
  refine ⟨_, hc, write_body hr hx g, by simp [contents, WriteKind.contents], fun i column hi hl => ?_⟩
  obtain ⟨v, hv, hentry⟩ := mem_entries_of_getElem? hr hi hl
  refine ⟨v, hv, OrderedMap.get?_eq_some_iff.2 ?_⟩
  rw [d.toList_params hc]
  exact hentry

/-- Columns that are bound, left out and written as literals, in turn. -/
def auditedRow : List (String × Value) :=
  [("IDAnimal", .int 82), ("DeleteDate", .null), ("CreateDate", .null), ("CreatingIDUser", .int 1),
   ("UpdateDate", .null), ("DeletingIDUser", .null), ("Name", .string "Froo")]

def audited : Descriptor :=
  (((Descriptor.new "Animal").addRecord auditedRow).addFilter "IDAnimal" (.int 9)).setSchema
    [⟨"IDAnimal", .autoIdentity⟩, ⟨"DeleteDate", .deleteDate⟩, ⟨"CreateDate", .createDate⟩,
     ⟨"CreatingIDUser", .createUser⟩, ⟨"UpdateDate", .updateDate⟩, ⟨"DeletingIDUser", .deleteUser⟩]

theorem compile_write_audited :
    audited.records.head? = some (.ofList auditedRow) ∧ audited.override? = none ∧
      (∀ kind : WriteKind, kind.columns (Schema.roleIn audited.schema?) (.ofList auditedRow) ≠ []) ∧
      (∃ c, audited.compile .create .mysql = .ok c ∧
        c.body = "INSERT INTO `Animal` ( IDAnimal, CreateDate, CreatingIDUser, UpdateDate, Name) " ++
          "VALUES ( NULL, NOW(), :CreatingIDUser_2, NOW(), :Name_4);" ∧
        c.params.get? "Name_4" = some (.string "Froo")) ∧
      ∃ c, audited.compile .update .mysql = .ok c ∧
        c.body = "UPDATE `Animal` SET UpdateDate = NOW(), Name = :Name_1 WHERE IDAnimal = :IDAnimal_w0;" ∧
        c.params.get? "Name_1" = some (.string "Froo") := by
  have hw (kind : WriteKind) : kind.columns (Schema.roleIn audited.schema?) (.ofList auditedRow) ≠ [] := by
    cases kind <;> decide
  obtain ⟨c, hc, hbody, -, hbound⟩ := compile_write audited (.ofList auditedRow) .create .mysql rfl rfl (hw .create)
  obtain ⟨v, hv, hget⟩ := hbound 4 "Name" (by decide) rfl
  obtain ⟨c', hc', hbody', -, hbound'⟩ := compile_write audited (.ofList auditedRow) .update .mysql rfl rfl (hw .update)
  obtain ⟨v', hv', hget'⟩ := hbound' 1 "Name" (by decide) rfl
  obtain rfl : v = .string "Froo" := (Option.some.inj hv).symm
  obtain rfl : v' = .string "Froo" := (Option.some.inj hv').symm
  refine ⟨rfl, rfl, hw, ⟨c, hc, ?_, hget⟩, c', hc', ?_, hget'⟩
  · rw [hbody]
    decide
  · rw [hbody']
    decide

end Descriptor

end RowQuery
