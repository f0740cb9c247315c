import Mathlib.Data.Finset.Card
import Mathlib.Logic.Relation
import RowQuery.Proofs.WriteStatement
/-!
# Columns given more than once

A schema and a record may be given a column again. The last definition of a
column decides its role (`Schema.role_ofDefinitions`), and compiling asks for
the roles of the first record's columns alone. So changes of a schema that leave
these as they are make no difference (`Descriptor.compile_unseen`). A record has
each column once, where it first occurs, with the last value that is given for it.
`Descriptor.compile_normalizes` puts this together.
-/

namespace RowQuery

theorem OrderedMap.size_ofList {α : Type} (l : List (String × α)) :
    (ofList l).size = (l.map (·.1)).toFinset.card := by
  have hkeys : (l.map (·.1)).toFinset = (ofList l).keys.toFinset := by
    ext k
    rw [keys_ofList_eq_eraseDups, List.mem_toFinset, List.mem_toFinset, List.mem_eraseDups]
  have hlength : (ofList l).keys.toFinset.card = (ofList l).keys.length := List.toFinset_card_of_nodup (ofList l).nodup
  rw [hkeys, hlength, keys, List.length_map, size]

/-! ## Schemas -/

namespace Schema

/-- The last definition of a column gives its role. -/
theorem role_ofDefinitions (defs : List ColumnDefinition) (column : String) :
    (ofDefinitions defs).role column =
      ((defs.filter fun x => x.column = column).getLast?.map (·.role)).getD .standard := by
  rw [role, ofDefinitions, OrderedMap.get?_ofList, List.filter_map, List.getLast?_map, Option.map_map]
  rfl

/-- A column counts once, however often it is defined. -/
theorem size_ofDefinitions (defs : List ColumnDefinition) :
    (ofDefinitions defs).size = (defs.map (·.column)).toFinset.card := by
  rw [size, ofDefinitions, OrderedMap.size_ofList, List.map_map]
  rfl

/-- Changes of a schema's definitions, or of whether there are any, that the given
columns do not see. -/
inductive Unseen (columns : List String) : Option (List ColumnDefinition) → Option (List ColumnDefinition) → Prop
  /-- Definitions of different columns change places. -/
  | reorder {defs defs' : List ColumnDefinition}
      (h : ∀ column, (defs.filter fun x => x.column = column) = defs'.filter fun x => x.column = column) :
      Unseen columns (some defs) (some defs')
  /-- A definition that has a later one of its column behind it goes. -/
  | drop (before : List ColumnDefinition) {x : ColumnDefinition} {after : List ColumnDefinition}
      (h : x.column ∈ after.map (·.column)) : Unseen columns (some (before ++ x :: after)) (some (before ++ after))
  /-- A definition that has a later one of its column behind it gives another role. -/
  | change (before : List ColumnDefinition) {x : ColumnDefinition} (r : ColumnRole) {after : List ColumnDefinition}
      (h : x.column ∈ after.map (·.column)) :
      Unseen columns (some (before ++ x :: after)) (some (before ++ { x with role := r } :: after))
  /-- A definition of none of the columns comes in. -/
  | add (before : List ColumnDefinition) {x : ColumnDefinition} (after : List ColumnDefinition)
      (h : x.column ∉ columns) : Unseen columns (some (before ++ after)) (some (before ++ x :: after))
  /-- Definitions that give each of the columns the standard role go altogether. -/
  | clear {defs : List ColumnDefinition} (h : ∀ column ∈ columns, (ofDefinitions defs).role column = .standard) :
      Unseen columns (some defs) none

/-- Two neighbours of different columns change places. -/
theorem Unseen.swap (columns : List String) (before : List ColumnDefinition) {x y : ColumnDefinition}
    (h : x.column ≠ y.column) (after : List ColumnDefinition) :
    Unseen columns (some (before ++ x :: y :: after)) (some (before ++ y :: x :: after)) := by
  refine .reorder fun column => ?_
  by_cases hx : x.column = column
  · have hy : y.column ≠ column := fun hy => h (hx.trans hy.symm)
    simp [hx, hy]
  · simp [List.filter_cons, hx]

theorem role_ofDefinitions_cover {before after : List ColumnDefinition} {x : ColumnDefinition} {column : String}
    (h : x.column = column → ∃ y ∈ after, y.column = column) :
    (ofDefinitions (before ++ x :: after)).role column = (ofDefinitions (before ++ after)).role column := by
  rw [role_ofDefinitions, role_ofDefinitions, getLast?_filter_cover (by simpa using h)]

/-- A change that the columns do not see leaves their roles alone. -/
theorem roleIn_unseen {columns : List String} {s s' : Option (List ColumnDefinition)} (h : Unseen columns s s')
    {column : String} (hc : column ∈ columns) :
    roleIn (s.map ofDefinitions) column = roleIn (s'.map ofDefinitions) column := by
  cases h with
  | reorder h =>
    simp only [Option.map_some, roleIn, role_ofDefinitions, h]
  | drop before h =>
    refine role_ofDefinitions_cover ?_
    rintro rfl
    exact List.mem_map.1 h
  | @change before x r after h =>
    have hlater : x.column = column → ∃ y ∈ after, y.column = column := by
      rintro rfl
      exact List.mem_map.1 h
    exact (role_ofDefinitions_cover hlater).trans (role_ofDefinitions_cover (x := { x with role := r }) hlater).symm
  | add before after h =>
    refine (role_ofDefinitions_cover ?_).symm
    rintro rfl
    exact absurd hc h
  | clear h => exact h column hc

end Schema

/-! ## What compiling sees of a schema -/

theorem Fields.resolveFrom_congr {role role' : String → ColumnRole} {l : List (String × Value)}
    (h : ∀ column ∈ l.map (·.1), role column = role' column) (kind : WriteKind) (n : Nat) :
    resolveFrom role kind n l = resolveFrom role' kind n l := by
  induction l generalizing n with
  | nil => rfl
  | cons e l ih =>
    rw [List.map_cons, List.forall_mem_cons] at h
    simp only [resolveFrom, h.1, ih h.2]

namespace Descriptor

theorem columnEvents_congr {role role' : String → ColumnRole} {l : List (String × Value)}
    (h : ∀ column ∈ l.map (·.1), role column = role' column) (kind : WriteKind) (g : Dialect) :
    columnEvents role kind g l = columnEvents role' kind g l := by
  induction l with
  | nil => rfl
  | cons e l ih =>
    rw [List.map_cons, List.forall_mem_cons] at h
    simp only [columnEvents, h.1, ih h.2]

/-- The columns of the record that is written. -/
def firstColumns (d : Descriptor) : List String := d.record?.elim [] OrderedMap.keys

/-- The descriptor with the schema of these definitions, or with none. -/
def withDefinitions (d : Descriptor) : Option (List ColumnDefinition) → Descriptor
  | some defs => d.setSchema defs
  | none => d.clearSchema

variable {d : Descriptor} {s s' : Option Schema}

section Roles

variable (h : ∀ column ∈ d.firstColumns, Schema.roleIn s column = Schema.roleIn s' column)

include h

theorem writeFields_congr (kind : WriteKind) :
    { d with schema? := s }.writeFields kind = { d with schema? := s' }.writeFields kind := by
  unfold firstColumns at h
  unfold writeFields
  simp only [record?] at h ⊢
  cases hr : d.records.head? with
  | none => rfl
  | some record =>
    rw [hr] at h
    exact Fields.resolveFrom_congr h kind 0

theorem draft_congr (a : Action) : { d with schema? := s }.draft a = { d with schema? := s' }.draft a := by
  have hw := writeFields_congr h
  cases a <;> simp only [draft, hw] <;> rfl

/-- Compiling looks at the roles of the record's columns alone. -/
theorem compile_congr (a : Action) (g : Dialect) :
    { d with schema? := s }.compile a g = { d with schema? := s' }.compile a g := by
  unfold compile
  rw [draft_congr h]
  rfl

theorem writeEvents_congr (kind : WriteKind) (g : Dialect) :
    { d with schema? := s }.writeEvents kind g = { d with schema? := s' }.writeEvents kind g := by
  unfold writeEvents
  rw [writeFields_congr h]
  unfold firstColumns at h
  simp only [record?] at h ⊢
  cases hr : d.records.head? with
  | none => rfl
  | some record =>
    rw [hr] at h
    exact congrArg (· ++ _) (columnEvents_congr h kind g)

theorem events_congr (a : Action) (g : Dialect) :
    { d with schema? := s }.events a g = { d with schema? := s' }.events a g := by
  have hresult : { d with schema? := s }.resultEvents a g = { d with schema? := s' }.resultEvents a g := by
    unfold resultEvents
    rw [compile_congr h]
  have hparts : { d with schema? := s }.partEvents a g = { d with schema? := s' }.partEvents a g := by
    cases a <;> simp only [partEvents, writeEvents_congr h, writeFields_congr h]
  rw [events, events, hparts, hresult]

end Roles

theorem withDefinitions_eq (d : Descriptor) (s : Option (List ColumnDefinition)) :
    d.withDefinitions s = { d with schema? := s.map Schema.ofDefinitions } := by
  cases s <;> rfl

/-- Definitions that the record's columns cannot tell apart compile alike. -/
theorem compile_unseen {d : Descriptor} {s s' : Option (List ColumnDefinition)}
    (h : Relation.EqvGen (Schema.Unseen d.firstColumns) s s') (a : Action) (g : Dialect) :
    (d.withDefinitions s).compile a g = (d.withDefinitions s').compile a g ∧
      (d.withDefinitions s).events a g = (d.withDefinitions s').events a g := by
  induction h with
  | rel s s' h =>
    have hroles : ∀ column ∈ d.firstColumns,
        Schema.roleIn (s.map Schema.ofDefinitions) column = Schema.roleIn (s'.map Schema.ofDefinitions) column :=
      fun _ => Schema.roleIn_unseen h
    rw [withDefinitions_eq, withDefinitions_eq]
    exact ⟨compile_congr hroles a g, events_congr hroles a g⟩
  | refl s => exact ⟨rfl, rfl⟩
  | symm s s' _ ih => exact ⟨ih.1.symm, ih.2.symm⟩
  | trans s s' s'' _ _ ih ih' => exact ⟨ih.1.trans ih'.1, ih.2.trans ih'.2⟩

end Descriptor

/-! ## Records -/

namespace WriteKind

/-- The columns of some pairs that are written: each where it first occurs among them. -/
def distinct (kind : WriteKind) (role : String → ColumnRole) (pairs : List (String × Value)) : List String :=
  (pairs.map (·.1)).eraseDups.filter fun column => role column ∉ kind.omitted

theorem columns_ofList (kind : WriteKind) (role : String → ColumnRole) (pairs : List (String × Value)) :
    kind.columns role (.ofList pairs) = kind.distinct role pairs := by
  rw [columns, OrderedMap.keys_ofList_eq_eraseDups, distinct]

theorem nodup_distinct (kind : WriteKind) (role : String → ColumnRole) (pairs : List (String × Value)) :
    (kind.distinct role pairs).Nodup := by
  rw [← columns_ofList]
  exact (OrderedMap.ofList pairs).nodup.filter _

/-- The fragments of a write name these columns, with these contents, in order. -/
def Lists (kind : WriteKind) (f : Fragments String) (columns contents : List String) : Prop :=
  match kind with
  | create => f.columns = " " ++ ", ".intercalate columns ∧ f.values = " " ++ ", ".intercalate contents
  | update =>
    f.set = " " ++ ", ".intercalate (List.zipWith (fun column content => column ++ " = " ++ content) columns contents)

end WriteKind

namespace Descriptor

variable {d : Descriptor} {record : Record} {kind : WriteKind}

theorem writesNothing_action_iff (hr : d.records.head? = some record) :
    d.WritesNothing kind.action ↔ kind.columns (Schema.roleIn d.schema?) record = [] := by
  have hkind : kind.action.writeKind? = some kind := by cases kind <;> rfl
  have hfields := not_iff_not.1 (writeFields_ne_nil_iff hr kind)
  rw [writesNothing_iff, hkind, ← hfields]
  simp

theorem lists_of_compile (hr : d.records.head? = some record) {g : Dialect} {c : Compiled}
    (h : d.compile kind.action g = .ok c) :
    let columns := kind.columns (Schema.roleIn d.schema?) record
    kind.Lists c.fragments columns (kind.contents (Schema.roleIn d.schema?) g columns) := by
  obtain ⟨x, hx, -, -, hf⟩ := d.compile_ok h
  obtain ⟨hcolumns, hcontents⟩ := map_writeFields hr kind g
  rw [hf]
  cases kind with
  | create =>
    obtain ⟨-, rfl⟩ := d.draft_create hx
    exact ⟨Fields.write_columnPieces hcolumns, Fields.write_valuePieces hcontents⟩
  | update =>
    obtain ⟨-, rfl⟩ := d.draft_update hx
    exact Fields.write_setPieces hcolumns hcontents

/-- What a write makes of the pairs its record was made from. -/
structure WritesLast (d : Descriptor) (pairs : List (String × Value)) (kind : WriteKind) (g : Dialect) : Prop where
  /-- No column is written twice. -/
  once : (kind.distinct (Schema.roleIn d.schema?) pairs).Nodup
  /-- With a column to write there is a statement. -/
  compiles : kind.distinct (Schema.roleIn d.schema?) pairs ≠ [] → d.override? = none →
    ∃ c, d.compile kind.action g = .ok c
  /-- The columns written stand where they first occur. -/
  lists : ∀ c, d.compile kind.action g = .ok c →
    kind.Lists c.fragments (kind.distinct (Schema.roleIn d.schema?) pairs)
      (kind.contents (Schema.roleIn d.schema?) g (kind.distinct (Schema.roleIn d.schema?) pairs))
  /-- A column that no literal stands for has its last value bound. -/
  binds : ∀ c, d.compile kind.action g = .ok c → ∀ (i : Nat) (column : String),
    (kind.distinct (Schema.roleIn d.schema?) pairs)[i]? = some column →
    kind.literal? (Schema.roleIn d.schema? column) = none →
    c.params.get? (column ++ "_" ++ toString i) = (pairs.filter fun e => e.1 = column).getLast?.map (·.2)

theorem writesLast_of_head? {pairs : List (String × Value)} (hr : d.records.head? = some (.ofList pairs))
    (kind : WriteKind) (g : Dialect) : d.WritesLast pairs kind g where
  once := kind.nodup_distinct _ pairs
  compiles hne ho := by
    rw [← WriteKind.columns_ofList] at hne
    have hwrites : ¬ d.WritesNothing kind.action := mt (writesNothing_action_iff hr).1 hne
    exact (d.compile_eq_ok_iff kind.action g).2 ⟨hwrites, by simp [ho]⟩
  lists c hc := by
    rw [← WriteKind.columns_ofList]
    exact lists_of_compile hr hc
  binds c hc i column hi hl := by
    rw [← WriteKind.columns_ofList] at hi
    obtain ⟨v, hv, hentry⟩ := mem_entries_of_getElem? hr hi hl
    rw [← d.toList_params hc] at hentry
    rw [OrderedMap.get?_eq_some_iff.2 hentry, ← OrderedMap.get?_ofList, hv]

/-- Of the definitions of a column the last one counts, so compiling does not see
changes to the others, to their order among other columns, or to columns that the
first record does not have. Of the pairs of a record the first one of a column gives
its place and the last one its value. -/
theorem compile_normalizes (d : Descriptor) :
    (∀ (defs : List ColumnDefinition) (column : String), (Schema.ofDefinitions defs).role column =
      ((defs.filter fun x => x.column = column).getLast?.map (·.role)).getD .standard) ∧
    (∀ defs : List ColumnDefinition, (Schema.ofDefinitions defs).size = (defs.map (·.column)).toFinset.card) ∧
    (∀ s s', Relation.EqvGen (Schema.Unseen d.firstColumns) s s' → ∀ a g,
      (d.withDefinitions s).compile a g = (d.withDefinitions s').compile a g ∧
      (d.withDefinitions s).events a g = (d.withDefinitions s').events a g) ∧
    (∀ pairs : List (String × Value), ∃ record : Record, (d.addRecord pairs).records = d.records ++ [record] ∧
      record.toList = (pairs.map (·.1)).eraseDups.filterMap fun column =>
        (pairs.filter fun e => e.1 = column).getLast?) ∧
    (d.records = [] → ∀ pairs kind g, (d.addRecord pairs).WritesLast pairs kind g) ∧
    ∀ before column v v' after, column ∈ after.map (·.1) →
      d.addRecord (before ++ (column, v) :: after) = d.addRecord (before ++ (column, v') :: after) := by
  refine ⟨Schema.role_ofDefinitions, Schema.size_ofDefinitions, fun s s' h => compile_unseen h, fun pairs => ?_,
    fun hnone pairs => ?_, fun before column v v' after h => ?_⟩
  · exact ⟨.ofList pairs, rfl, OrderedMap.toList_ofList_eq pairs⟩
  · exact writesLast_of_head? (by simp [addRecord, hnone])
  · rw [addRecord, OrderedMap.ofList_set_again h v v', addRecord]

/-- A schema that defines a column twice and one that the record lacks, its definitions
moved and cut down, then with roles that say nothing; and a record with a column twice. -/
theorem compile_normalizes_stamped :
    let d := (Descriptor.new "t").addRecord [("a", .int 1), ("b", .int 2), ("a", .int 3)]
    let defs : List ColumnDefinition :=
      [⟨"a", .createDate⟩, ⟨"z", .deleted⟩, ⟨"b", .updateDate⟩, ⟨"a", .updateUser⟩]
    let defs' : List ColumnDefinition := [⟨"a", .updateUser⟩, ⟨"b", .updateDate⟩]
    Relation.EqvGen (Schema.Unseen d.firstColumns) (some defs) (some defs') ∧
      Relation.EqvGen (Schema.Unseen d.firstColumns) (some [⟨"z", .deleted⟩]) none ∧
      (d.setSchema defs).compile .create .mysql = (d.setSchema defs').compile .create .mysql ∧
      (d.setSchema [⟨"z", .deleted⟩]).compile .create .mysql = d.clearSchema.compile .create .mysql ∧
      (∃ c, (d.setSchema defs).compile .create .mysql = .ok c ∧
        c.body = "INSERT INTO `t` ( a, b) VALUES ( :a_0, NOW());") ∧
      (∃ c, d.compile .create .mysql = .ok c ∧ c.params.get? "a_0" = some (.int 3)) ∧
      d = (Descriptor.new "t").addRecord [("a", .null), ("b", .int 2), ("a", .int 3)] := by
  intro d defs defs'
  have hdrop : Schema.Unseen d.firstColumns (some defs) (some [⟨"z", .deleted⟩, ⟨"b", .updateDate⟩, ⟨"a", .updateUser⟩]) :=
    .drop [] (by decide)
  have hadd : Schema.Unseen d.firstColumns (some [⟨"b", .updateDate⟩, ⟨"a", .updateUser⟩])
      (some [⟨"z", .deleted⟩, ⟨"b", .updateDate⟩, ⟨"a", .updateUser⟩]) := .add [] _ (by decide)
  have hswap : Schema.Unseen d.firstColumns (some [⟨"b", .updateDate⟩, ⟨"a", .updateUser⟩]) (some defs') :=
    .swap _ [] (by decide) []
  have hequal : Relation.EqvGen (Schema.Unseen d.firstColumns) (some defs) (some defs') :=
    .trans _ _ _ (.rel _ _ hdrop) (.trans _ _ _ (.symm _ _ (.rel _ _ hadd)) (.rel _ _ hswap))
  have hclear : Relation.EqvGen (Schema.Unseen d.firstColumns) (some [⟨"z", .deleted⟩]) none :=
    .rel _ _ (.clear (by decide))
  obtain ⟨-, -, hschema, -⟩ := compile_normalizes d
  obtain ⟨-, -, -, -, hrecord, hvalue⟩ := compile_normalizes (Descriptor.new "t")
  have hbinds := (hrecord rfl [("a", .int 1), ("b", .int 2), ("a", .int 3)] .create .mysql).binds _ rfl 0 "a" rfl rfl
  exact ⟨hequal, hclear, (hschema _ _ hequal .create .mysql).1, (hschema _ _ hclear .create .mysql).1,
    ⟨_, rfl, by decide⟩, ⟨_, rfl, hbinds⟩, hvalue [] "a" _ _ _ (by decide)⟩

end Descriptor

end RowQuery
