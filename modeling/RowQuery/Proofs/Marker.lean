import RowQuery.Proofs.BindMap
/-!
# Statements in every dialect

A descriptor without a template of its own is compiled to one list of pieces,
and a dialect only says how each piece is written (`compile_pieces`). The
pieces that refer to something are the table, one marker for each entry of the
bind map, in the order of the map, and the window of a read (`body_refers`).
-/

namespace RowQuery

/-- The piece names a table, a bound value or a window of rows; every other
piece is fixed text, or text that the dialect has for it. -/
@[simp] def Piece.refers : Piece → Bool
  | .table _ | .marker _ | .limit _ _ => true
  | .text _ | .now | .null | .countAlias | .sortSuffix _ => false

/-- A piece that refers to nothing binds no name. -/
theorem Piece.bindName?_eq_none {p : Piece} (h : p.refers = false) : p.bindName? = none := by
  cases p <;> first | rfl | cases h

/-- Only the pieces that refer to something bind names. -/
theorem Piece.filterMap_bindName? (ps : List Piece) :
    ps.filterMap bindName? = (ps.filter refers).filterMap bindName? := by
  rw [List.filterMap_filter]
  congr 1
  funext p
  cases h : p.refers with
  | true => rfl
  | false => exact bindName?_eq_none h

theorem Dialect.write_eq_join (g : Dialect) (ps : List Piece) :
    g.write ps = String.join (ps.map g.writePiece) := by
  induction ps with
  | nil => rfl
  | cons p ps ih => rw [write_cons, ih, List.map_cons, String.join_cons]

theorem filter_intercalate {α : Type} (p : α → Bool) (sep : List α) (h : sep.filter p = [])
    (l : List (List α)) : (List.intercalate sep l).filter p = l.flatMap fun x => x.filter p := by
  induction l with
  | nil => rfl
  | cons x l ih =>
    cases l with
    | nil => simp
    | cons y l => rw [List.intercalate_cons_cons, List.filter_append, List.filter_append, h, ih]; simp

/-! ## What the fragments refer to -/

/-- A list with commas refers to what its items refer to. -/
theorem Piece.listed_refers (head : String) (items : List (List Piece)) :
    (Piece.text head :: List.intercalate [.text ", "] items).filter refers =
      items.flatMap fun x => x.filter refers := by
  rw [List.filter_cons_of_neg (by simp)]
  exact filter_intercalate refers [.text ", "] rfl items

/-- The markers of a list of entries. -/
def Piece.markers (l : List (String × Value)) : List Piece := l.map fun e => .marker e.1

theorem Piece.markers_append (l l' : List (String × Value)) :
    markers (l ++ l') = markers l ++ markers l' := List.map_append

namespace Fields

theorem filter_content (c : FieldContent) : [c.piece].filter Piece.refers = Piece.markers c.bindings := by
  cases c <;> rfl

theorem columnPieces_refers (fs : List Field) : (columnPieces fs).filter Piece.refers = [] := by
  rw [columnPieces, Piece.listed_refers]
  simp

theorem valuePieces_refers (fs : List Field) :
    (valuePieces fs).filter Piece.refers = Piece.markers (bindings fs) := by
  rw [valuePieces, Piece.listed_refers, List.flatMap_map]
  simp only [filter_content, Piece.markers, bindings, List.map_flatMap]

theorem setPieces_refers (fs : List Field) :
    (setPieces fs).filter Piece.refers = Piece.markers (bindings fs) := by
  rw [setPieces, Piece.listed_refers, List.flatMap_map]
  have hf : ∀ f : Field, [Piece.text (f.column ++ " = "), f.content.piece].filter Piece.refers =
      Piece.markers f.content.bindings := fun f => filter_content f.content
  simp only [hf, Piece.markers, bindings, List.map_flatMap]

end Fields

namespace Chain

theorem clause_refers (x : Clause) (n : Nat) :
    (x.pieces n).filter Piece.refers = Piece.markers (x.bindings n) := by
  cases x with
  | group g k => rfl
  | condition x =>
    simp only [Clause.pieces, Clause.bindings, Condition.pieces, Condition.bindings]
    split
    · rfl
    · split <;> rfl

theorem joint_refers (x : Clause) : x.joint.filter Piece.refers = [] := by
  unfold Clause.joint
  split
  · rfl
  · split <;> rfl

theorem pieces_refers (joins : Bool) (n : Nat) (c : Chain) :
    (pieces joins n c).filter Piece.refers = Piece.markers (bindings n c) := by
  induction c generalizing joins n with
  | nil => rfl
  | cons x c ih =>
    have hj : (if joins then x.joint else []).filter Piece.refers = [] := by
      cases joins
      · rfl
      · exact joint_refers x
    rw [pieces, List.filter_append, List.filter_append, hj, clause_refers, ih, bindings,
      Piece.markers_append, List.nil_append]

theorem whereClause_refers (c : Chain) :
    (whereClause c).filter Piece.refers = Piece.markers (bindings 0 c) := by
  cases c with
  | nil => rfl
  | cons x c => exact pieces_refers false 0 (x :: c)

end Chain

theorem SortKey.orderBy_refers (keys : List SortKey) : (orderBy keys).filter Piece.refers = [] := by
  cases keys with
  | nil => rfl
  | cons k keys =>
    rw [orderBy, Piece.listed_refers]
    · simp
    · simp

namespace Descriptor

variable (d : Descriptor)

theorem fieldList_refers : d.fieldList.filter Piece.refers = [] := by
  unfold fieldList
  split <;> rfl

/-! ## Whole statements -/

/-- The window that an action asks for: only a read has one. -/
def window : Action → List Piece
  | .read => [.limit d.pagination.begin? d.pagination.cap?]
  | .create | .update | .delete | .count => []

/-- What a statement refers to, from left to right: its table, the names it
binds in the order of the bind map, its window. -/
theorem body_refers {a : Action} {x : Draft} (h : d.draft a = .ok x) :
    (x.body a).filter Piece.refers = .table d.scope :: (Piece.markers (d.bound a) ++ d.window a) := by
  cases a with
  | create =>
    obtain ⟨-, rfl⟩ := d.draft_create h
    simp [List.filter_cons, Draft.body, Action.form, Draft.slot, Fragments.get, tableFragment, bound, window,
      Fields.columnPieces_refers, Fields.valuePieces_refers]
  | update =>
    obtain ⟨-, rfl⟩ := d.draft_update h
    simp [List.filter_cons, Draft.body, Action.form, Draft.slot, Fragments.get, tableFragment, bound, window,
      Fields.setPieces_refers, Chain.whereClause_refers, Piece.markers_append]
  | read =>
    cases h
    simp [List.filter_cons, Draft.body, Action.form, Draft.slot, Fragments.get, tableFragment, bound, window,
      fieldList_refers, Chain.whereClause_refers, SortKey.orderBy_refers]
  | delete | count =>
    cases h
    simp [List.filter_cons, Draft.body, Action.form, Draft.slot, Fragments.get, tableFragment, Fragments.all,
      bound, window, Chain.whereClause_refers]

/-- Without a template of its own, a descriptor has the pieces of its draft for
its body in each dialect. -/
theorem compile_of_draft {a : Action} {x : Draft} (g : Dialect) (hd : d.override? = none)
    (hx : d.draft a = .ok x) :
    d.compile a g = .ok ⟨g.write (x.body a), x.params, x.fragments.map g.write⟩ := by
  simp only [compile, bodyOf, hx, hd]

/-- One list of pieces is the statement in every dialect. Its markers, from left
to right, are the keys of the bind map in their order, each of them once. -/
theorem compile_pieces (a : Action) (g₀ : Dialect) (c₀ : Compiled) (hd : d.override? = none)
    (h : d.compile a g₀ = .ok c₀) :
    ∃ ps : List Piece,
      (∀ g, ∃ c, d.compile a g = .ok c ∧ c.body = String.join (ps.map g.writePiece) ∧ c.params = c₀.params) ∧
      ps.filter Piece.refers = .table d.scope :: (c₀.params.keys.map .marker ++ d.window a) ∧
      ps.filterMap Piece.bindName? = c₀.params.keys ∧ c₀.params.keys.Nodup := by
  obtain ⟨x, hx, -, hp, -⟩ := d.compile_ok h
  have hk : c₀.params.keys = (d.bound a).map (·.1) := by
    rw [d.compile_params h, OrderedMap.keys_ofList (d.nodup_bound a)]
  have hr := d.body_refers hx
  refine ⟨x.body a, fun g => ⟨_, d.compile_of_draft g hd hx, g.write_eq_join _, hp.symm⟩, ?_, ?_, ?_⟩
  · rw [hr, hk, Piece.markers, List.map_map]
    rfl
  · -- A window binds nothing, and the table before the markers binds nothing either.
    have hw : (d.window a).filterMap Piece.bindName? = [] := by cases a <;> rfl
    rw [Piece.filterMap_bindName?, hr, hk, List.filterMap_cons_none rfl, List.filterMap_append, hw]
    simp [Piece.markers, List.filterMap_map, Function.comp_def, Piece.bindName?]
  · rw [hk]
    exact d.nodup_bound a

theorem compile_pieces_lookalike :
    (lookalike .null).override? = none ∧ (∃ c, (lookalike .null).compile .update .mysql = .ok c) ∧
      ∃ ps : List Piece, ps.filterMap Piece.bindName? = ["a_w1_0", "a_1", "a_1_w0", "a_w3"] ∧
        ∀ g, ∃ c, (lookalike .null).compile .update g = .ok c ∧ c.body = String.join (ps.map g.writePiece) := by
  obtain ⟨ps, hb, -, hn, -⟩ := compile_pieces (lookalike .null) .update .mysql _ rfl rfl
  refine ⟨rfl, ⟨_, rfl⟩, ps, hn, fun g => ?_⟩
  obtain ⟨c, hc, hc', -⟩ := hb g
  exact ⟨c, hc, hc'⟩

end Descriptor

end RowQuery
