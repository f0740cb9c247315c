import RowQuery.Proofs.BindMap
import RowQuery.Proofs.Override
/-!
# Actions select the same rows

A read, a count, a delete and an update of one filter have the same `WHERE`
fragment and bind the same names to the same values for it; an update binds its
fields before them. Nothing else in the descriptor matters
(`compile_selects`).
-/

namespace RowQuery

/-! ## The fragment of a filter -/

/-- A clause that nothing is joined to starts with a blank. -/
theorem Clause.write_pieces (g : Dialect) (x : Clause) (n : Nat) :
    ∃ rest, g.write (x.pieces n) = " " ++ rest := by
  cases x with
  | group h k => exact ⟨h.token, by simp [pieces, Dialect.writePiece]⟩
  | condition x => exact ⟨g.write (x.pieces n), by simp [pieces, Dialect.writePiece]⟩

namespace Chain

/-- The fragment of a filter begins with its keyword. -/
theorem write_whereClause_cons (g : Dialect) (x : Clause) (c : Chain) :
    ∃ rest, g.write (whereClause (x :: c)) = " WHERE " ++ rest := by
  obtain ⟨rest, hx⟩ := x.write_pieces g 0
  have hw : whereClause (x :: c) = .text " WHERE" :: (x.pieces 0 ++ pieces (!x.opens) 1 c) := rfl
  refine ⟨rest ++ g.write (pieces (!x.opens) 1 c), ?_⟩
  rw [hw, Dialect.write_cons, Dialect.write_append, hx, Dialect.writePiece, String.append_assoc, ← String.append_assoc]
  rfl

theorem write_whereClause_eq_empty (g : Dialect) (c : Chain) : g.write (whereClause c) = "" ↔ c = [] := by
  cases c with
  | nil => simp [whereClause]
  | cons x c =>
    obtain ⟨rest, h⟩ := write_whereClause_cons g x c
    simp [h]

end Chain

namespace Descriptor

variable (d : Descriptor)

/-! ## The actions that filter -/

/-- The entries that an action binds before those of its filter. -/
def fieldEntries : Action → List (String × Value)
  | .create => d.recordEntries .create
  | .update => d.recordEntries .update
  | .read | .delete | .count => []

theorem draft_whereClause {a : Action} (ha : a ≠ .create) {x : Draft} (h : d.draft a = .ok x) :
    x.fragments.whereClause = Chain.whereClause d.filters := by
  cases a with
  | create => exact absurd rfl ha
  | update =>
    obtain ⟨-, rfl⟩ := d.draft_update h
    rfl
  | read | delete | count =>
    cases h
    rfl

theorem compile_whereClause {a : Action} (ha : a ≠ .create) {g : Dialect} {c : Compiled}
    (h : d.compile a g = .ok c) : c.fragments.whereClause = g.write (Chain.whereClause d.filters) := by
  obtain ⟨x, hx, -, -, hf⟩ := d.compile_ok h
  rw [hf, ← d.draft_whereClause ha hx]
  rfl

/-- The names of a filter are none of a record, so its entries stand behind those of the record. -/
theorem compile_entries {a : Action} (ha : a ≠ .create) {g : Dialect} {c : Compiled} (h : d.compile a g = .ok c) :
    c.params.toList = d.fieldEntries a ++ Chain.entries d.filters := by
  rw [d.toList_params h]
  cases a with
  | create => exact absurd rfl ha
  | read | update | delete | count => rfl

/-- Without a template, the text of a statement is its form. -/
theorem compile_body {a : Action} {g : Dialect} {c : Compiled} (ho : d.override? = none)
    (h : d.compile a g = .ok c) : c.body = Template.filled c.fragments (a.parts g.countAlias) a.lastPart := by
  obtain ⟨x, -, hb, -, hf⟩ := d.compile_ok h
  rw [bodyOf, ho] at hb
  rw [hf, ← Action.write_body, ← Except.ok.inj hb]

/-- Two actions on descriptors with one filter have the same `WHERE` fragment,
which is empty only when the filter is. They bind the same entries for it, behind
those of the fields; and the text of a delete or an update ends with it. -/
theorem compile_selects (d' : Descriptor) (hf : d.filters = d'.filters) (g : Dialect) (a a' : Action)
    (ha : a ≠ .create) (ha' : a' ≠ .create) (c c' : Compiled) (h : d.compile a g = .ok c)
    (h' : d'.compile a' g = .ok c') :
    c.fragments.whereClause = c'.fragments.whereClause ∧
    (∃ l, c.params.toList = d.fieldEntries a ++ l ∧ c'.params.toList = d'.fieldEntries a' ++ l) ∧
    (a ≠ .update → a' ≠ .update → c.params = c'.params) ∧
    (c.fragments.whereClause = "" ↔ d.filters = []) ∧
    (d.filters ≠ [] → ∃ rest, c.fragments.whereClause = " WHERE " ++ rest) ∧
    (d.override? = none →
      (a = .delete → c.body = "DELETE FROM" ++ c.fragments.table ++ c.fragments.whereClause ++ ";") ∧
      (a = .update →
        c.body = "UPDATE" ++ c.fragments.table ++ " SET" ++ c.fragments.set ++ c.fragments.whereClause ++ ";")) := by
  have hw := d.compile_whereClause ha h
  have he := d.compile_entries ha h
  have he' := d'.compile_entries ha' h'
  refine ⟨?_, ⟨Chain.entries d.filters, he, by rw [he', hf]⟩, fun hu hu' => ?_, ?_, fun hn => ?_, fun ho => ⟨?_, ?_⟩⟩
  · rw [hw, hf, d'.compile_whereClause ha' h']
  · have hd : d.fieldEntries a = [] := by cases a <;> first | rfl | contradiction
    have hd' : d'.fieldEntries a' = [] := by cases a' <;> first | rfl | contradiction
    rw [hd, List.nil_append] at he
    rw [hd', List.nil_append, ← hf, ← he] at he'
    exact OrderedMap.ext he'.symm
  · rw [hw, Chain.write_whereClause_eq_empty]
  · obtain ⟨x, l, hc⟩ := List.exists_cons_of_ne_nil hn
    rw [hw, hc]
    exact Chain.write_whereClause_cons g x l
  · rintro rfl
    rw [d.compile_body ho h]
    simp [Action.parts, Action.lastPart, Template.filled, Fragments.get, String.append_assoc]
  · rintro rfl
    rw [d.compile_body ho h]
    simp [Action.parts, Action.lastPart, Template.filled, Fragments.get, String.append_assoc]

/-- An update whose columns look like the names of its filter, and a read with
nothing but the filter. -/
theorem compile_selects_lookalike :
    ∃ c c', (lookalike .null).compile .update .mysql = .ok c ∧
      ((Descriptor.new "u").setFilters (lookalike .null).filters).compile .read .mysql = .ok c' ∧
      c.fragments.whereClause = " WHERE a = :a_1_w0 AND ( b IS NULL AND a != :a_w3 )" ∧
      c.fragments.whereClause = c'.fragments.whereClause ∧
      ∃ l, c.params.toList = (lookalike .null).recordEntries .update ++ l ∧ c'.params.toList = l := by
  have h := compile_selects (lookalike .null) ((Descriptor.new "u").setFilters (lookalike .null).filters) rfl .mysql
    .update .read (by decide) (by decide) _ _ rfl rfl
  exact ⟨_, _, rfl, rfl, by decide, h.1, h.2.1⟩

end Descriptor

end RowQuery
