import RowQuery.Compile
import RowQuery.Proofs.TemplateText
/-!
# A statement's own form as a template

The form of each action can be written as a template. A descriptor with that
template compiles to what it compiles to with none (`compile_template`): the
text of a fragment is never read again, so it may hold placeholders itself. The
dialect's name for a row count becomes part of a template, so it must not hold
a `<%`.
-/

namespace RowQuery

namespace Action

/-- The form of an action as a template, with a name for the row count. -/
def template (countAlias : String) : Action → String
  | create => "INSERT INTO<%= TableName %> (<%= Columns %>) VALUES (<%= Values %>);"
  | read => "SELECT<%= FieldList %> FROM<%= TableName %><%= Where %><%= OrderBy %><%= Limit %>;"
  | update => "UPDATE<%= TableName %> SET<%= Set %><%= Where %>;"
  | delete => "DELETE FROM<%= TableName %><%= Where %>;"
  | count => "SELECT COUNT(*) AS " ++ countAlias ++ " FROM<%= TableName %><%= Where %>;"

/-- The texts of a form, each in front of its fragment. -/
def parts (countAlias : String) : Action → List (String × FragmentName)
  | create => [("INSERT INTO", .table), (" (", .columns), (") VALUES (", .values)]
  | read => [("SELECT", .fieldList), (" FROM", .table), ("", .whereClause), ("", .orderBy), ("", .limit)]
  | update => [("UPDATE", .table), (" SET", .set), ("", .whereClause)]
  | delete => [("DELETE FROM", .table), ("", .whereClause)]
  | count => [("SELECT COUNT(*) AS " ++ countAlias ++ " FROM", .table), ("", .whereClause)]

/-- The text of a form behind its last fragment. -/
def lastPart : Action → String
  | create => ");"
  | read | update | delete | count => ";"

theorem template_eq_written (countAlias : String) (a : Action) :
    a.template countAlias = Template.written (a.parts countAlias) a.lastPart := by
  unfold template
  cases a <;> simp [parts, lastPart, Template.written, FragmentName.placeholder, String.append_assoc]

theorem plain_parts {countAlias : String} (h : Template.Plain countAlias.toList) (a : Action) :
    ∀ p ∈ a.parts countAlias, Template.Plain p.1.toList := by
  cases a with
  | count =>
    -- The texts around the alias end and begin with a blank, so no `<%` arises next to it.
    have hs : Template.Plain ("SELECT COUNT(*) AS ".toList ++ countAlias.toList) :=
      .append (by decide) h (.inl (by decide))
    have ht : Template.Plain ("SELECT COUNT(*) AS " ++ countAlias ++ " FROM").toList := by
      rw [String.toList_append, String.toList_append]
      exact hs.append (by decide) (.inr (by decide))
    simp only [parts, List.forall_mem_cons]
    exact ⟨ht, by decide, by simp⟩
  | create | read | update | delete => simp only [parts]; decide

/-- The statement of a draft puts the fragments between the texts of the form. -/
theorem write_body (g : Dialect) (a : Action) (x : Draft) :
    g.write (x.body a) = Template.filled (x.fragments.map g.write) (a.parts g.countAlias) a.lastPart := by
  cases a <;>
    simp [Draft.body, form, Draft.slot, parts, lastPart, Template.filled, Dialect.write_append, Dialect.writePiece,
      String.append_assoc]

theorem render_template (g : Dialect) (a : Action) (x : Draft) (h : Template.Plain g.countAlias.toList) :
    Template.render (a.template g.countAlias) (x.fragments.map g.write) = .ok (g.write (x.body a)) := by
  rw [template_eq_written, write_body]
  exact Template.render_written _ _ _ (plain_parts h a) (by cases a <;> decide)

end Action

/-- With the form of the action for a template, a descriptor compiles to what it
compiles to without any. -/
theorem Descriptor.compile_template (d : Descriptor) (a : Action) (g : Dialect)
    (h : ¬ ['<', '%'] <:+: g.countAlias.toList) :
    d.clearOverride.compile a g = (d.setOverride (a.template g.countAlias)).compile a g := by
  have hc : d.clearOverride.draft a = d.draft a := by cases a <;> rfl
  have hs : (d.setOverride (a.template g.countAlias)).draft a = d.draft a := by cases a <;> rfl
  simp only [compile, hc, hs]
  cases d.draft a with
  | error e => rfl
  | ok x => simp only [bodyOf, clearOverride, setOverride, a.render_template g x h]

/-- A scope that is a placeholder, and a name for the row count that could begin or end one. -/
theorem Descriptor.compile_template_nested :
    ¬ ['<', '%'] <:+: "%><".toList ∧
      ∃ c, ((Descriptor.new "<%= Where %>").setOverride (Action.count.template "%><")).compile .count
          { Dialect.mysql with countAlias := "%><" } = .ok c ∧
        c.body = "SELECT COUNT(*) AS %>< FROM `<%= Where %>`;" := by
  have h : ¬ ['<', '%'] <:+: "%><".toList := by decide
  have hc := compile_template (Descriptor.new "<%= Where %>") .count { Dialect.mysql with countAlias := "%><" } h
  exact ⟨h, _, hc.symm, by decide⟩

end RowQuery
