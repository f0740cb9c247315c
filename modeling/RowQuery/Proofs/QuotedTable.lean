import RowQuery.Proofs.RowSelection
import RowQuery.Proofs.WriteStatement
/-!
# The name of a table in a statement

A quoted name is read up to the first single backquote, and two of them stand for one.
Read in this way, what the dialect writes for a table is the name of the table again,
in front of any text that does not go on with a backquote (`closeQuoted_backquoted`).
No statement goes on with one behind its table: a fragment that is not empty begins
with a blank (`blankFirst_fragment`). So the name can be read back from the statement
of every action, whatever it holds (`table_reads_back`).
-/

namespace RowQuery

namespace Dialect

/-- The rest of a quoted name, and what follows the backquote that closes it. -/
def closeQuoted : List Char → Option (List Char × List Char)
  | [] => none
  | '\x60' :: '\x60' :: rest => (closeQuoted rest).map fun (name, after) => ('\x60' :: name, after)
  | '\x60' :: rest => some ([], rest)
  | c :: rest => (closeQuoted rest).map fun (name, after) => (c :: name, after)

/-- The quoted name at the start of a text, and what follows it. -/
def readQuoted (s : String) : Option (String × String) :=
  match s.toList with
  | '\x60' :: rest => (closeQuoted rest).map fun (name, after) => (.ofList name, .ofList after)
  | _ => none

/-! ## Reading what is quoted -/

theorem closeQuoted_backquoted (name : List Char) {rest : List Char} (h : rest.head? ≠ some '\x60') :
    closeQuoted (name.flatMap (fun c => if c = '\x60' then ['\x60', '\x60'] else [c]) ++ '\x60' :: rest) =
      some (name, rest) := by
  induction name with
  | nil =>
    have hclose : ∀ after, rest = '\x60' :: after → False := by
      rintro after rfl
      exact h rfl
    exact closeQuoted.eq_3 rest hclose
  | cons c name ih =>
    rw [List.flatMap_cons, List.append_assoc]
    by_cases hc : c = '\x60'
    · rw [if_pos hc, hc, List.cons_append, List.cons_append, List.nil_append, closeQuoted, ih]
      rfl
    · rw [if_neg hc, List.cons_append, List.nil_append, closeQuoted.eq_4 c _ (fun _ he => absurd he hc) hc, ih]
      rfl

theorem readQuoted_table (scope : String) {rest : String} (h : rest.toList.head? ≠ some '\x60') :
    readQuoted (mysql.table scope ++ rest) = some (scope, rest) := by
  have hs : (mysql.table scope ++ rest).toList = '\x60' :: (scope.toList.flatMap
      (fun c => if c = '\x60' then ['\x60', '\x60'] else [c]) ++ '\x60' :: rest.toList) := by
    simp [mysql, backquoted]
  simp only [readQuoted, hs, closeQuoted_backquoted scope.toList h, Option.map_some, String.ofList_toList]

theorem table_injective : Function.Injective mysql.table := by
  intro scope scope' h
  have hempty : "".toList.head? ≠ some '\x60' := by simp
  have hread (s : String) : readQuoted (mysql.table s) = some (s, "") := by
    simpa using readQuoted_table s hempty
  have hboth := hread scope
  rw [h, hread] at hboth
  exact (congrArg Prod.fst (Option.some.inj hboth)).symm

end Dialect

/-! ## What follows the table -/

/-- The text is empty or begins with a blank. -/
def BlankFirst (s : String) : Prop := s = "" ∨ ∃ rest, s = " " ++ rest

theorem BlankFirst.head?_append {s rest : String} (hs : BlankFirst s) (h : rest.toList.head? ≠ some '\x60') :
    (s ++ rest).toList.head? ≠ some '\x60' := by
  rcases hs with rfl | ⟨s, rfl⟩
  · simpa using h
  · simp

theorem BlankFirst.write_text (g : Dialect) (s : String) (ps : List Piece) :
    BlankFirst (g.write (.text (" " ++ s) :: ps)) :=
  .inr ⟨s ++ g.write ps, String.append_assoc⟩

theorem blankFirst_whereClause (g : Dialect) (c : Chain) : BlankFirst (g.write (Chain.whereClause c)) := by
  cases c with
  | nil => exact .inl rfl
  | cons x c => exact .write_text g "WHERE" _

theorem blankFirst_orderBy (g : Dialect) (keys : List SortKey) : BlankFirst (g.write (SortKey.orderBy keys)) := by
  cases keys with
  | nil => exact .inl rfl
  | cons k keys => exact .write_text g "ORDER BY " _

theorem blankFirst_fieldList (g : Dialect) (d : Descriptor) : BlankFirst (g.write d.fieldList) := by
  unfold Descriptor.fieldList
  split
  · exact .write_text g "*" []
  · exact .write_text g _ []

theorem blankFirst_mysqlLimit (first cap : Option UInt64) : BlankFirst (Dialect.mysqlLimit first cap) := by
  cases cap with
  | none => exact .inl (by cases first <;> rfl)
  | some cap =>
    cases first with
    | none =>
      refine .inr ⟨"LIMIT " ++ toString cap.toNat, ?_⟩
      simp only [Dialect.mysqlLimit, ← String.append_assoc]
      rfl
    | some first =>
      refine .inr ⟨"LIMIT " ++ toString first.toNat ++ ", " ++ toString cap.toNat, ?_⟩
      simp only [Dialect.mysqlLimit, ← String.append_assoc]
      rfl

theorem Fragments.forall_get {α : Type} {P : α → Prop} (f : Fragments α) :
    (∀ n, P (f.get n)) ↔
      P f.table ∧ P f.fieldList ∧ P f.whereClause ∧ P f.orderBy ∧ P f.limit ∧ P f.set ∧ P f.columns ∧ P f.values := by
  constructor
  · exact fun h => ⟨h .table, h .fieldList, h .whereClause, h .orderBy, h .limit, h .set, h .columns, h .values⟩
  · rintro ⟨h₁, h₂, h₃, h₄, h₅, h₆, h₇, h₈⟩ n
    cases n <;> assumption

namespace Descriptor

variable (d : Descriptor)

/-- Each fragment of a statement is empty or begins with a blank, if the dialect's
window of rows does. -/
theorem blankFirst_fragment {g : Dialect} (hg : ∀ first cap, BlankFirst (g.limit first cap)) {a : Action}
    {x : Draft} (h : d.draft a = .ok x) : ∀ n, BlankFirst (g.write (x.fragments.get n)) := by
  have hnone : BlankFirst (g.write []) := .inl rfl
  have htable : BlankFirst (g.write d.tableFragment.table) := .write_text g "" _
  have hfilter := blankFirst_whereClause g d.filters
  rw [Fragments.forall_get (P := fun ps => BlankFirst (g.write ps))]
  cases a with
  | create =>
    obtain ⟨-, rfl⟩ := d.draft_create h
    exact ⟨htable, hnone, hnone, hnone, hnone, hnone, .write_text g "" _, .write_text g "" _⟩
  | update =>
    obtain ⟨-, rfl⟩ := d.draft_update h
    exact ⟨htable, hnone, hfilter, hnone, hnone, .write_text g "" _, hnone, hnone⟩
  | read =>
    cases h
    have hlimit : BlankFirst (g.write [.limit d.pagination.begin? d.pagination.cap?]) := by
      simpa [Dialect.writePiece] using hg d.pagination.begin? d.pagination.cap?
    exact ⟨htable, blankFirst_fieldList g d, hfilter, blankFirst_orderBy g d.sort, hlimit, hnone, hnone, hnone⟩
  | delete | count =>
    cases h
    exact ⟨htable, hnone, hfilter, hnone, hnone, hnone, hnone, hnone⟩

end Descriptor

/-! ## The table in a statement -/

namespace Action

/-- The text of a statement in front of its table. -/
def lead (projection : List String) : Action → String
  | create => "INSERT INTO "
  | read => "SELECT " ++ (if projection.isEmpty then "*" else ", ".intercalate projection) ++ " FROM "
  | update => "UPDATE "
  | delete => "DELETE FROM "
  | count => "SELECT COUNT(*) AS RowCount FROM "

/-- The text of a statement behind its table. -/
def trail (f : Fragments String) : Action → String
  | create => " (" ++ f.columns ++ ") VALUES (" ++ f.values ++ ");"
  | read => f.whereClause ++ (f.orderBy ++ (f.limit ++ ";"))
  | update => " SET" ++ f.set ++ f.whereClause ++ ";"
  | delete | count => f.whereClause ++ ";"

theorem head?_trail {f : Fragments String} (hf : ∀ n, BlankFirst (f.get n)) (a : Action) :
    (a.trail f).toList.head? ≠ some '\x60' := by
  have hend : ";".toList.head? ≠ some '\x60' := by decide
  cases a with
  | create | update => simp [trail]
  | read => exact (hf .whereClause).head?_append ((hf .orderBy).head?_append ((hf .limit).head?_append hend))
  | delete | count => exact (hf .whereClause).head?_append hend

end Action

namespace Descriptor

variable (d : Descriptor)

theorem write_fieldList (g : Dialect) :
    g.write d.fieldList = " " ++ if d.projection.isEmpty then "*" else ", ".intercalate d.projection := by
  unfold fieldList
  cases d.projection <;> simp [Dialect.writePiece]

theorem compile_table {a : Action} {g : Dialect} {c : Compiled} (h : d.compile a g = .ok c) :
    c.fragments.table = " " ++ g.table d.scope := by
  obtain ⟨x, hx, -, -, hf⟩ := d.compile_ok h
  rw [hf, ← write_tableFragment]
  cases a with
  | create =>
    obtain ⟨-, rfl⟩ := d.draft_create hx
    rfl
  | update =>
    obtain ⟨-, rfl⟩ := d.draft_update hx
    rfl
  | read | delete | count =>
    cases hx
    rfl

theorem compile_fieldList {g : Dialect} {c : Compiled} (h : d.compile .read g = .ok c) :
    c.fragments.fieldList = " " ++ if d.projection.isEmpty then "*" else ", ".intercalate d.projection := by
  obtain ⟨x, hx, -, -, hf⟩ := d.compile_ok h
  cases hx
  rw [hf, ← write_fieldList]
  rfl

/-- A statement without a template is its table between two texts. -/
theorem compile_around_table {a : Action} {c : Compiled} (ho : d.override? = none)
    (h : d.compile a .mysql = .ok c) :
    c.body = a.lead d.projection ++ (Dialect.mysql.table d.scope ++ a.trail c.fragments) := by
  have htable := d.compile_table h
  have halias : Dialect.mysql.countAlias = "RowCount" := rfl
  rw [d.compile_body ho h]
  -- The texts of a form and of a fragment meet at a blank, so they are compared letter by letter.
  apply String.toList_inj.1
  cases a with
  | read =>
    have hfields := d.compile_fieldList h
    simp [Action.parts, Action.lastPart, Template.filled, Fragments.get, Action.lead, Action.trail, htable, hfields]
  | create | update | delete | count =>
    simp [Action.parts, Action.lastPart, Template.filled, Fragments.get, Action.lead, Action.trail, htable, halias]

/-- A quoted name is read back in front of any text that does not go on with a
backquote, so two names are never quoted alike. In the statement of each action no
backquote follows the table: reading there gives the scope and leaves the rest. -/
theorem table_reads_back :
    (∀ scope rest : String, rest.toList.head? ≠ some '\x60' →
      Dialect.readQuoted (Dialect.mysql.table scope ++ rest) = some (scope, rest)) ∧
    Function.Injective Dialect.mysql.table ∧
    ∀ (d : Descriptor) (a : Action) (c : Compiled), d.override? = none → d.compile a .mysql = .ok c →
      ∃ rest, c.body = a.lead d.projection ++ (Dialect.mysql.table d.scope ++ rest) ∧
        rest.toList.head? ≠ some '\x60' ∧
        Dialect.readQuoted (Dialect.mysql.table d.scope ++ rest) = some (d.scope, rest) := by
  refine ⟨fun scope rest h => Dialect.readQuoted_table scope h, Dialect.table_injective, fun d a c ho h => ?_⟩
  obtain ⟨x, hx, -, -, hf⟩ := d.compile_ok h
  have hblank (n : FragmentName) : BlankFirst (c.fragments.get n) := by
    rw [hf, Fragments.get_map]
    exact d.blankFirst_fragment blankFirst_mysqlLimit hx n
  have hrest := a.head?_trail hblank
  exact ⟨_, d.compile_around_table ho h, hrest, Dialect.readQuoted_table d.scope hrest⟩

/-- A scope that ends in backquotes, behind a column that looks like a table. -/
theorem table_reads_back_backquotes :
    let d := ((Descriptor.new "`a``").setProjection ["x FROM `y`"]).setCap 1
    Dialect.readQuoted (Dialect.mysql.table "a`" ++ " `b`") = some ("a`", " `b`") ∧
      d.override? = none ∧ ∃ c rest, d.compile .read .mysql = .ok c ∧
        c.body = "SELECT x FROM `y` FROM ```a````` LIMIT 1;" ∧
        c.body = "SELECT x FROM `y` FROM " ++ (Dialect.mysql.table "`a``" ++ rest) ∧
        Dialect.readQuoted (Dialect.mysql.table "`a``" ++ rest) = some ("`a``", rest) := by
  intro d
  obtain ⟨rest, hbody, -, hread⟩ := table_reads_back.2.2 d .read _ rfl rfl
  exact ⟨table_reads_back.1 "a`" " `b`" (by decide), rfl, _, rest, rfl, by decide, hbody, hread⟩

end Descriptor

end RowQuery
