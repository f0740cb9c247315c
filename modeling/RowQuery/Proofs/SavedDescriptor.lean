import RowQuery.Proofs.SavedFilter
import RowQuery.Saved.Document
/-!
# Descriptors read back from their trees

The tree of a descriptor is always read. Names, sort keys, windows and schemas
come back as they were; values and clauses become what their own trees are read
as (`Descriptor.ofTree_toTree`). Reading leaves nothing that a second round could
change (`Descriptor.faithful_of_ofTree`). What is loaded from a text is what its
tree is read as (`Format.load_eq_ok_iff`).
-/

namespace RowQuery

/-! ## Schemas -/

theorem ColumnRole.ofTree_toTree (f : Format) (r : ColumnRole) : ofTree f r.toTree = .ok r := by
  rw [ofTree, toTree, Tree.asVariant_string]
  cases r <;> rfl

theorem ColumnDefinition.ofTree_toTree (f : Format) (d : ColumnDefinition) :
    ofTree f d.toTree = .ok d := by
  have hr : ColumnRole.ofTree f (.string d.role.name) = .ok d.role := ColumnRole.ofTree_toTree f d.role
  simp [ofTree, toTree, Tree.asStructure, Tree.members?, ofMembers, Tree.foldMembers, member,
    ColumnRole.toTree, hr]

theorem Schema.ofDefinitions_definitions (s : Schema) : ofDefinitions s.definitions = s := by
  have hentries : s.definitions.map (fun d => (d.column, d.role)) = s.roles.toList := by
    simp [definitions, Function.comp_def]
  rw [ofDefinitions, hentries, OrderedMap.ofList_toList]

theorem Schema.ofTree_toTree (f : Format) (s : Schema) : ofTree f s.toTree = .ok s := by
  have hread : Tree.asSequence (ColumnDefinition.ofTree f) s.toTree = .ok (s.definitions.map id) :=
    Tree.asSequence_map fun d _ => d.ofTree_toTree f
  rw [ofTree, hread, Tree.map_ok, List.map_id, ofDefinitions_definitions]

/-! ## Windows -/

theorem Pagination.asOption_bound (n : Option UInt64) :
    Tree.asOption Tree.asWord64 (bound n) = .ok n := by
  cases n <;> simp [bound]

theorem Pagination.isSound_bound (n : Option UInt64) : (bound n).isSound := by
  cases n <;> rfl

theorem Pagination.bound_ne_unnamed (n : Option UInt64) (found : Tree) (s : Bool) :
    bound n ≠ .unnamed found s :=
  Tree.ne_unnamed_of_isSound (isSound_bound n) found s

theorem Pagination.ofMembers_toMembers (p : Pagination) : ofMembers p.toMembers = .ok p := by
  simp [ofMembers, toMembers, Tree.foldMembers_cons, Tree.foldMembers, member, bound_ne_unnamed, asOption_bound]

/-! ## Texts -/

/-- The text is a document of the tree. -/
def Format.Reads (f : Format) (text : String) (t : Tree) : Prop :=
  match f with
  | .json => Json.read text = ⟨t, true⟩
  | .toml => Toml.read text = some t

/-- What is loaded from a text is what its tree is read as. -/
theorem Format.load_eq_ok_iff {α : Type} {f : Format} {decode : Format → Tree → Tree.Read α} {text : String}
    {x : α} : f.load decode text = .ok x ↔ ∃ t, f.Reads text t ∧ decode f t = .ok x := by
  cases f with
  | json =>
    cases hr : Json.read text with
    | mk t clean => cases hx : decode .json t <;> cases clean <;> simp [load, Json.load, Reads, hr, hx]
  | toml =>
    cases hr : Toml.read text with
    | none => simp [load, Toml.load, Reads, hr]
    | some t => cases hx : decode .toml t <;> simp [load, Toml.load, Reads, hr, hx]

namespace Descriptor

/-- The descriptor that a descriptor's tree is read as. -/
def saved (d : Descriptor) : Descriptor :=
  { d with
    records := d.records.map (·.mapValues Value.saved)
    filters := d.filters.map Clause.saved }

theorem foldMembers_toTree (f : Format) (d : Descriptor) :
    Tree.foldMembers (Parts.member f) {} (d.toTree.members?.getD []) = .ok {
      scope := some d.scope
      records := some (d.records.map (·.mapValues Value.saved))
      filters := some (d.filters.map Clause.saved)
      sort := some d.sort
      projection := some d.projection
      schema := some d.schema?
      override := some d.override?
      logLevel := some d.logLevel
      others := d.pagination.toMembers } := by
  have hrecords : Tree.asSequence Saved.valuesOfTree (.array (d.records.map Saved.valuesToTree)) =
      .ok (d.records.map (·.mapValues Value.saved)) :=
    Tree.asSequence_map fun r _ => Saved.valuesOfTree_valuesToTree r
  have hfilters : Tree.asSequence (Clause.ofTree f) (.array (d.filters.map Clause.toTree)) =
      .ok (d.filters.map Clause.saved) :=
    Tree.asSequence_map fun x _ => x.ofTree_toTree f
  have hsort : Tree.asSequence (SortKey.ofTree f) (.array (d.sort.map SortKey.toTree)) =
      .ok (d.sort.map id) :=
    Tree.asSequence_map fun s _ => s.ofTree_toTree f
  have hprojection : Tree.asSequence Tree.asText (.array (d.projection.map Tree.string)) =
      .ok (d.projection.map id) :=
    Tree.asSequence_map fun s _ => rfl
  have hschema : Tree.asOption (Schema.ofTree f) ((d.schema?.map Schema.toTree).getD .null) = .ok d.schema? :=
    Tree.asOption_getD (by simp [Schema.toTree]) (Schema.ofTree_toTree f) _
  have hschemaTree : ∀ found s, (d.schema?.map Schema.toTree).getD .null ≠ .unnamed found s := by
    cases d.schema? <;> simp [Schema.toTree]
  have hoverride : Tree.asOption Tree.asText ((d.override?.map Tree.string).getD .null) = .ok d.override? :=
    Tree.asOption_getD (by simp) Tree.asText_string _
  have hoverrideTree : ∀ found s, (d.override?.map Tree.string).getD .null ≠ .unnamed found s := by
    cases d.override? <;> simp
  simp [toTree, Tree.members?, Tree.foldMembers_cons, Tree.foldMembers, Parts.member, hrecords, hfilters, hsort,
    hprojection, hschema, hschemaTree, hoverride, hoverrideTree, Pagination.toMembers, Pagination.isSound_bound,
    Pagination.bound_ne_unnamed, Tree.keep]

theorem ofTree_toTree (f : Format) (d : Descriptor) : ofTree f d.toTree = .ok d.saved := by
  have hparts := foldMembers_toTree f d
  unfold ofTree
  simp only [toTree, Tree.members?, Option.getD_some] at hparts ⊢
  rw [hparts, Tree.ok_bind, Parts.descriptor, Pagination.ofMembers_toMembers]
  rfl

/-! ## What survives -/

/-- Every clause survives being saved, and every number in a record is finite. -/
structure Faithful (d : Descriptor) : Prop where
  filters : ∀ x ∈ d.filters, x.Faithful
  records : ∀ r ∈ d.records, ∀ e ∈ r.toList, e.2.isFinite

theorem saved_eq_self_iff (d : Descriptor) : d.saved = d ↔ d.Faithful := by
  have hfilters : d.filters.map Clause.saved = d.filters ↔ ∀ x ∈ d.filters, x.Faithful := by
    simp only [map_eq_self_iff, Clause.saved_eq_self_iff]
  have hrecords : d.records.map (·.mapValues Value.saved) = d.records ↔
      ∀ r ∈ d.records, ∀ e ∈ r.toList, e.2.isFinite := by
    simp only [map_eq_self_iff, Saved.mapValues_saved_eq_self_iff]
  constructor
  · intro h
    exact ⟨hfilters.1 (congrArg Descriptor.filters h), hrecords.1 (congrArg Descriptor.records h)⟩
  · intro h
    rw [saved, hfilters.2 h.filters, hrecords.2 h.records]

theorem faithful_saved (d : Descriptor) : d.saved.Faithful := by
  constructor
  · intro x hx
    obtain ⟨y, -, rfl⟩ := List.mem_map.1 hx
    exact y.faithful_saved
  · intro r hr
    obtain ⟨m, -, rfl⟩ := List.mem_map.1 hr
    intro e he
    obtain ⟨e', -, rfl⟩ := List.mem_map.1 he
    exact e'.2.isFinite_saved

/-! ## Descriptors read from any tree -/

/-- The same of the parts read so far. -/
structure Parts.Faithful (p : Parts) : Prop where
  filters : ∀ xs, p.filters = some xs → ∀ x ∈ xs, x.Faithful
  records : ∀ rs, p.records = some rs → ∀ r ∈ rs, ∀ e ∈ r.toList, e.2.isFinite

theorem Parts.faithful_member {f : Format} {p q : Parts} {k : String} {t : Tree} (ht : t.numbersFit)
    (hp : p.Faithful) (h : p.member f k t = .ok q) : q.Faithful := by
  unfold Parts.member at h
  split at h
  case h_2 =>
    obtain ⟨records, honce, h⟩ := Tree.bind_eq_ok_iff.1 h
    obtain ⟨-, rs, hread, rfl⟩ := Tree.once_eq_ok_iff.1 honce
    cases h
    refine ⟨hp.filters, ?_⟩
    rintro _ ⟨⟩ r hr
    obtain ⟨items, rfl, hitems⟩ := Tree.mem_of_asSequence hread
    obtain ⟨u, hu, hru⟩ := hitems r hr
    exact Saved.isFinite_of_valuesOfTree ((Tree.numbersFit_array _).1 ht u hu) hru
  case h_3 =>
    obtain ⟨filters, honce, h⟩ := Tree.bind_eq_ok_iff.1 h
    obtain ⟨-, xs, hread, rfl⟩ := Tree.once_eq_ok_iff.1 honce
    cases h
    refine ⟨?_, hp.records⟩
    rintro _ ⟨⟩ x hx
    obtain ⟨items, rfl, hitems⟩ := Tree.mem_of_asSequence hread
    obtain ⟨u, hu, hxu⟩ := hitems x hx
    exact Clause.faithful_of_ofTree ((Tree.numbersFit_array _).1 ht u hu) hxu
  -- The other members leave the filters and the records alone.
  all_goals
    obtain ⟨_, -, h⟩ := Tree.bind_eq_ok_iff.1 h
    cases h
    exact ⟨hp.filters, hp.records⟩

theorem Parts.faithful_descriptor {p : Parts} {d : Descriptor} (hp : p.Faithful)
    (h : p.descriptor = .ok d) : d.Faithful := by
  obtain ⟨_, -, h⟩ := Tree.bind_eq_ok_iff.1 h
  cases h
  constructor
  · cases hx : p.filters with
    | none => simp
    | some xs => exact hp.filters xs hx
  · cases hr : p.records with
    | none => simp
    | some rs => exact hp.records rs hr

theorem faithful_of_ofTree {f : Format} {t : Tree} {d : Descriptor} (ht : t.numbersFit)
    (h : ofTree f t = .ok d) : d.Faithful := by
  unfold ofTree at h
  split at h
  · rename_i members hm
    obtain ⟨p, hp, h⟩ := Tree.bind_eq_ok_iff.1 h
    refine Parts.faithful_descriptor ?_ h
    exact Tree.foldMembers_induction Parts.Faithful hp ⟨by simp, by simp⟩ fun a k u b hu ha hb =>
      Parts.faithful_member (Tree.numbersFit_of_members? ht hm _ hu) ha hb
  · cases h

theorem faithful_of_ofText {text : String} {d : Descriptor} (h : ofText .json text = .ok d) : d.Faithful := by
  unfold ofText Format.load Json.load at h
  dsimp only at h
  split at h
  · cases h
  · rename_i x hx
    split at h
    · cases h
      exact faithful_of_ofTree (Json.numbersFit_read text) hx
    · cases h

/-! ## The round trip -/

theorem ofTree_toTree_eq_self_iff (f : Format) (d : Descriptor) : ofTree f d.toTree = .ok d ↔ d.Faithful := by
  rw [ofTree_toTree, Except.ok.injEq, saved_eq_self_iff]

theorem faithful_iff (d : Descriptor) :
    d.Faithful ↔
      (∀ c, Clause.condition c ∈ d.filters → c.operator.isGrouping = false) ∧
      (∀ c, Clause.condition c ∈ d.filters → ∀ s, c.operator = .custom s → Operator.parse s = .custom s) ∧
      (∀ c, Clause.condition c ∈ d.filters → c.parameter = "" → c.column = "") ∧
      (∀ c, Clause.condition c ∈ d.filters → c.value.isFinite) ∧
      (∀ r ∈ d.records, ∀ e ∈ r.toList, e.2.isFinite) := by
  constructor
  · intro h
    have hc : ∀ c, Clause.condition c ∈ d.filters → c.Faithful := fun c hm => h.filters _ hm
    exact ⟨fun c hm => (hc c hm).ungrouped, fun c hm => (hc c hm).spelled, fun c hm => (hc c hm).stem,
      fun c hm => (hc c hm).finite, h.records⟩
  · rintro ⟨hungrouped, hspelled, hstem, hfinite, hrecords⟩
    refine ⟨fun x hx => ?_, hrecords⟩
    cases x with
    | condition c => exact ⟨hungrouped c hx, hspelled c hx, hstem c hx, hfinite c hx⟩
    | group _ _ => trivial

/-- Saving and loading always succeeds. It gives the descriptor back exactly when
no condition holds a grouping operator, every operator of its own text reads as
that text, a stem is empty only under an empty column name, and every
floating-point number at any depth is finite. A second round changes nothing,
nor does the first one after a load: from a tree in either format whose numbers
fit, and so from any JSON text. -/
theorem roundTrip (d : Descriptor) :
    (∃ d', ofTree .json d.toTree = .ok d') ∧
    (ofTree .json d.toTree = .ok d ↔
      (∀ c, Clause.condition c ∈ d.filters → c.operator.isGrouping = false) ∧
      (∀ c, Clause.condition c ∈ d.filters → ∀ s, c.operator = .custom s → Operator.parse s = .custom s) ∧
      (∀ c, Clause.condition c ∈ d.filters → c.parameter = "" → c.column = "") ∧
      (∀ c, Clause.condition c ∈ d.filters → c.value.isFinite) ∧
      (∀ r ∈ d.records, ∀ e ∈ r.toList, e.2.isFinite)) ∧
    (ofTree .json d.toTree >>= fun d' => ofTree .json d'.toTree) = ofTree .json d.toTree ∧
    (∀ f t, t.numbersFit → ofTree f t = .ok d → ofTree .json d.toTree = .ok d) ∧
    (∀ text, ofText .json text = .ok d → ofTree .json d.toTree = .ok d) := by
  refine ⟨⟨d.saved, d.ofTree_toTree .json⟩, ?_, ?_, ?_, ?_⟩
  · rw [ofTree_toTree_eq_self_iff, faithful_iff]
  · rw [ofTree_toTree .json d, Tree.ok_bind, ofTree_toTree_eq_self_iff]
    exact d.faithful_saved
  · intro f t ht h
    exact (d.ofTree_toTree_eq_self_iff .json).2 (faithful_of_ofTree ht h)
  · intro text h
    exact (d.ofTree_toTree_eq_self_iff .json).2 (faithful_of_ofText h)

end Descriptor

end RowQuery
