import RowQuery.Proofs.BindMap
/-!
# Chains that go on

A clause looks back at its position and at whether the clause before it opened a
group, and at nothing else. So the text and the entries of a chain are kept when
clauses are added behind it, and what these add depends on the length of the
chain and on its last clause alone (`Chain.append_keeps`).
-/

namespace RowQuery

namespace Chain

/-- Whether a clause after a chain is joined to it. `joins` says so of the chain's own first clause. -/
def joinsNext (joins : Bool) : Chain → Bool
  | [] => joins
  | x :: rest => joinsNext (!x.opens) rest

theorem pieces_append (joins : Bool) (position : Nat) (c c' : Chain) :
    pieces joins position (c ++ c') =
      pieces joins position c ++ pieces (joinsNext joins c) (position + c.length) c' := by
  induction c generalizing joins position with
  | nil => rfl
  | cons x c ih =>
    have hlength : position + 1 + c.length = position + (x :: c).length := by
      rw [List.length_cons]
      omega
    simp only [List.cons_append, pieces, ih, joinsNext, hlength, List.append_assoc]

theorem bindings_append (position : Nat) (c c' : Chain) :
    bindings position (c ++ c') = bindings position c ++ bindings (position + c.length) c' := by
  induction c generalizing position with
  | nil => rfl
  | cons x c ih =>
    have hlength : position + 1 + c.length = position + (x :: c).length := by
      rw [List.length_cons]
      omega
    simp only [List.cons_append, bindings, ih, hlength, List.append_assoc]

theorem joinsNext_append (joins : Bool) (c c' : Chain) :
    joinsNext joins (c ++ c') = joinsNext (joinsNext joins c) c' := by
  induction c generalizing joins with
  | nil => rfl
  | cons x c ih => exact ih (!x.opens)

/-- The last clause alone decides whether the next one is joined. -/
theorem joinsNext_of_ne_nil (joins : Bool) {c : Chain} (hc : c ≠ []) : joinsNext joins c = !(c.getLast hc).opens := by
  have hlast := congrArg (joinsNext joins) (List.dropLast_append_getLast hc)
  rw [← hlast, joinsNext_append]
  rfl

theorem whereClause_of_ne_nil {c : Chain} (hc : c ≠ []) : whereClause c = .text " WHERE" :: pieces false 0 c := by
  obtain ⟨x, rest, rfl⟩ := List.exists_cons_of_ne_nil hc
  rfl

theorem whereClause_append {a : Chain} (ha : a ≠ []) (b : Chain) :
    whereClause (a ++ b) = whereClause a ++ pieces (!(a.getLast ha).opens) a.length b := by
  rw [whereClause_of_ne_nil (List.append_ne_nil_of_left_ne_nil ha b), whereClause_of_ne_nil ha, pieces_append,
    joinsNext_of_ne_nil false ha, Nat.zero_add, List.cons_append]

/-! ## The entries -/

theorem bind_append (a b : Chain) (p : Params) : bind (a ++ b) p = (bind a p).insertAll (bindings a.length b) := by
  rw [bind, bindings_append, Nat.zero_add, OrderedMap.insertAll_append]
  rfl

/-- No name of a chain is bound again by the clauses behind it. -/
theorem name_ne_of_append {a b : Chain} {e e' : String × Value} (he : e ∈ bindings 0 a)
    (he' : e' ∈ bindings a.length b) : e.1 ≠ e'.1 := by
  have hnodup := nodup_bindings 0 (a ++ b)
  rw [bindings_append, Nat.zero_add, List.map_append, List.nodup_append] at hnodup
  exact hnodup.2.2 _ (List.mem_map_of_mem (f := (·.1)) he) _ (List.mem_map_of_mem (f := (·.1)) he')

/-- Adding clauses behind a chain leaves its text and its entries alone. What the
clauses add to the text depends on them, on the length of the chain and on whether its
last clause opens a group; what they bind is set after the entries of the chain, and
meets none of them. In a map that had entries before, a chain changes an entry only
under one of its own names, and in its place. -/
theorem append_keeps (a b : Chain) (ha : a ≠ []) (p : Params) :
    (∀ g : Dialect, g.write (whereClause (a ++ b)) =
      g.write (whereClause a) ++ g.write (pieces (!(a.getLast ha).opens) a.length b)) ∧
    bind (a ++ b) p = (bind a p).insertAll (bindings a.length b) ∧
    (∀ e ∈ entries a, ∀ e' ∈ bindings a.length b, e.1 ≠ e'.1) ∧
    (∀ (i : Nat) (e : String × Value), (bind a p).toList[i]? = some e →
      e.1 ∈ (entries a).map (·.1) → (bind (a ++ b) p).toList[i]? = some e) ∧
    ∀ (c : Chain) (i : Nat) (e : String × Value), p.toList[i]? = some e →
      ∃ v, (bind c p).toList[i]? = some (e.1, v) ∧ (v = e.2 ∨ (e.1, v) ∈ entries c) := by
  have hentries (c : Chain) : bindings 0 c = entries c := bindings_eq 0 c
  refine ⟨fun g => ?_, bind_append a b p, ?_, ?_, ?_⟩
  · rw [whereClause_append ha, Dialect.write_append]
  · intro e he e' he'
    exact name_ne_of_append (hentries a ▸ he) he'
  · intro i e hi hname
    obtain ⟨v, hv, hset⟩ := OrderedMap.getElem?_insertAll (bindings a.length b) hi
    obtain ⟨e₀, he₀, hsame⟩ := List.mem_map.1 hname
    -- A name of the chain is none of the names behind it, so its value is the old one.
    have hold : v = e.2 := hset.resolve_right fun hm => name_ne_of_append (hentries a ▸ he₀) hm hsame
    rw [bind_append, hv, hold]
  · intro c i e hi
    obtain ⟨v, hv, hset⟩ := OrderedMap.getElem?_insertAll (bindings 0 c) hi
    exact ⟨v, hv, hentries c ▸ hset⟩

/-- A chain that ends in an opening token, clauses that close one group too many, and
a map that has names of both already. -/
theorem append_keeps_unbalanced :
    let a : Chain := [.new "a" (.int 1) .eq .and, .group .opening .or]
    let b : Chain := [.new "b" (.int 2) .ne .or, .closing, .closing]
    let p : Params := .ofList [("b_w2", .null), ("x", .null), ("a_w0", .null)]
    a ≠ [] ∧
      Dialect.mysql.write (whereClause (a ++ b)) =
        Dialect.mysql.write (whereClause a) ++ Dialect.mysql.write (pieces false 2 b) ∧
      Dialect.mysql.write (whereClause a) = " WHERE a = :a_w0 OR (" ∧
      Dialect.mysql.write (pieces false 2 b) = " b != :b_w2 ) )" ∧
      bind (a ++ b) p = (bind a p).insertAll [("b_w2", .int 2)] ∧
      (bind (a ++ b) p).toList = [("b_w2", .int 2), ("x", .null), ("a_w0", .int 1)] := by
  intro a b p
  have ha : a ≠ [] := by simp [a]
  obtain ⟨htext, hbind, -⟩ := append_keeps a b ha p
  have hadded : bindings a.length b = [("b_w2", .int 2)] := by cbv
  exact ⟨ha, htext .mysql, by decide, by decide, by rw [hbind, hadded], rfl⟩

end Chain

end RowQuery
