import RowQuery.Command.Run
import RowQuery.Proofs.SavedDescriptor
import RowQuery.Proofs.Source
/-!
# What a compiled statement hands over

A program that asks for JSON gets a table of the statement's body and of its bind
map. Every bound name has one member there, and the member is read as the value
that is bound (`compiledTree_carries`). The exception is a number that is not
finite, for which JSON has no form. No JSON text makes such a number, but a TOML
text can (`compiledTree_infinite`).
-/

namespace RowQuery

/-! ## Bound values -/

namespace Descriptor

/-- In a descriptor that survives being saved, the value at any place is finite. -/
theorem Faithful.isFinite_of_valueAt? {d : Descriptor} (hd : d.Faithful) {s : Source} {v : Value}
    (h : d.valueAt? s = some v) : v.isFinite := by
  cases s with
  | column name =>
    obtain ⟨record, hr, hv⟩ := Option.bind_eq_some_iff.1 h
    exact hd.records record (List.mem_of_head? hr) (name, v) (OrderedMap.get?_eq_some_iff.1 hv)
  | clause k =>
    rw [valueAt?] at h
    split at h
    · rename_i x hx
      obtain rfl := Option.some.inj h
      exact (hd.filters _ (List.mem_of_getElem? hx)).finite
    · cases h

/-- So is every value that is bound. -/
theorem Faithful.isFinite_of_compile {d : Descriptor} (hd : d.Faithful) {a : Action} {g : Dialect} {c : Compiled}
    (h : d.compile a g = .ok c) : ∀ e ∈ c.params.toList, e.2.isFinite := by
  intro e he
  obtain ⟨s, -, hs⟩ := exists_of_mem_forall₂ (d.params_supplied h) he
  exact hd.isFinite_of_valueAt? hs.2

end Descriptor

/-! ## The table of a bind map -/

namespace Command.Report

/-- The members of the bind map's table. -/
def paramMembers (params : Params) : List (String × Tree) := (sorted params).map fun e => (e.1, e.2.toTree)

theorem sorted_perm (params : Params) : (sorted params).Perm params.toList := List.mergeSort_perm _ _

theorem mem_paramMembers {params : Params} {name : String} {v : Value} (h : params.get? name = some v) :
    (name, v.toTree) ∈ paramMembers params := by
  have hm : (name, v) ∈ sorted params := (sorted_perm params).mem_iff.2 (OrderedMap.get?_eq_some_iff.1 h)
  exact List.mem_map_of_mem (f := fun e : String × Value => (e.1, e.2.toTree)) hm

theorem keys_paramMembers (params : Params) : ((paramMembers params).map (·.1)).Perm params.keys := by
  have hkeys : (paramMembers params).map (·.1) = (sorted params).map (·.1) := by simp [paramMembers]
  rw [hkeys]
  exact (sorted_perm params).map _

theorem nodup_paramMembers (params : Params) : ((paramMembers params).map (·.1)).Nodup :=
  (keys_paramMembers params).nodup_iff.2 params.nodup

/-! ## The table of a statement -/

/-- The tree is a table of a statement's body and its bind map: each bound name has
one member, which is read as `read v` where `v` is bound. -/
def Carries (c : Compiled) (t : Tree) (read : Value → Value) : Prop :=
  ∃ members : List (String × Tree),
    t = .object [("body", .string c.body), ("params", .object members)] ∧
    (members.map (·.1)).Nodup ∧ (members.map (·.1)).Perm c.params.keys ∧
    ∀ name v, c.params.get? name = some v → ∃ u, (name, u) ∈ members ∧ Value.ofTree u = .ok (read v)

theorem carries_saved (c : Compiled) : Carries c (compiledTree c) Value.saved :=
  ⟨paramMembers c.params, rfl, nodup_paramMembers c.params, keys_paramMembers c.params,
    fun _ v h => ⟨v.toTree, mem_paramMembers h, v.ofTree_toTree⟩⟩

/-- The values come back as they are exactly when their numbers are finite. -/
theorem carries_self_iff (c : Compiled) :
    Carries c (compiledTree c) id ↔ ∀ name v, c.params.get? name = some v → v.isFinite := by
  constructor
  · rintro ⟨members, htree, hnodup, -, hvalues⟩ name v h
    obtain ⟨u, hu, hread⟩ := hvalues name v h
    have hmembers : paramMembers c.params = members := by simpa [compiledTree, paramMembers] using htree
    -- The name has one member, so what is read is the value's own tree.
    have hown : (name, v.toTree) ∈ members := hmembers ▸ mem_paramMembers h
    have hsame : (name, u) = (name, v.toTree) := List.inj_on_of_nodup_map hnodup hu hown rfl
    obtain rfl : u = v.toTree := congrArg Prod.snd hsame
    rw [v.ofTree_toTree] at hread
    exact v.saved_eq_self_iff.1 (Except.ok.inj hread)
  · intro hfinite
    obtain ⟨members, htree, hnodup, hkeys, hvalues⟩ := carries_saved c
    refine ⟨members, htree, hnodup, hkeys, fun name v h => ?_⟩
    obtain ⟨u, hu, hread⟩ := hvalues name v h
    rw [v.saved_eq_self_iff.2 (hfinite name v h)] at hread
    exact ⟨u, hu, hread⟩

/-- What a loaded descriptor compiles to is printed as a table of the statement's
body and its bind map, with one member for each bound name. A value comes back
from its member with its infinite and undefined numbers lost and all else as it
was, so exactly as it was when all its numbers are finite, which they are in
every descriptor from a JSON text. The members are those of the tree that is
printed: a number read from the printed text may be one unit off in its last
place, as reading JSON rounds more than once. -/
theorem compiledTree_carries {f : Format} {text : String} {d : Descriptor} {a : Action} {g : Dialect}
    {c : Compiled} (hload : Descriptor.ofText f text = .ok d) (h : d.compile a g = .ok c) :
    Carries c (compiledTree c) Value.saved ∧
    (Carries c (compiledTree c) id ↔ ∀ name v, c.params.get? name = some v → v.isFinite) ∧
    (f = .json → Carries c (compiledTree c) id) ∧
    ∀ (s : Surroundings) (ink : Ink) (path : String) (k : KnownDialect), s.loadDescriptor path = .ok d →
      k.dialect = g → (compileFile s ink path a k .json).out = lines [Json.pretty "" (compiledTree c)] := by
  refine ⟨carries_saved c, carries_self_iff c, ?_, ?_⟩
  · rintro rfl
    refine (carries_self_iff c).2 fun name v hv => ?_
    exact (Descriptor.faithful_of_ofText hload).isFinite_of_compile h (name, v) (OrderedMap.get?_eq_some_iff.1 hv)
  · rintro s ink path k hpath rfl
    rw [compileFile, hpath]
    dsimp only
    rw [h, result]

/-- A nested list from a JSON text comes back as it is. -/
theorem compiledTree_carries_nested :
    ∃ d c, Descriptor.ofText .json "\x7b\"filters\":[\x7b\"Column\":\"a\",\"Value\":[[],null,1]\x7d]\x7d" = .ok d ∧
      d.compile .read .mysql = .ok c ∧ c.params.get? "a_w0" = some (.array [.array [], .null, .int 1]) ∧
      Carries c (compiledTree c) id := by
  have hread : Json.read "\x7b\"filters\":[\x7b\"Column\":\"a\",\"Value\":[[],null,1]\x7d]\x7d" =
      ⟨.object [("filters", .array [.object [("Column", .string "a"),
        ("Value", .array [.array [], .null, .int 1])]])], true⟩ := by decide +kernel
  have hload : Descriptor.ofText .json "\x7b\"filters\":[\x7b\"Column\":\"a\",\"Value\":[[],null,1]\x7d]\x7d" =
      .ok { Descriptor.empty with filters := [.new "a" (.array [.array [], .null, .int 1]) .eq .and] } :=
    Format.load_eq_ok_iff.2 ⟨_, hread, rfl⟩
  exact ⟨_, _, hload, rfl, rfl, (compiledTree_carries (a := .read) (g := .mysql) hload rfl).2.2.1 rfl⟩

/-- An infinite number that a TOML text binds is printed as nothing. -/
theorem compiledTree_infinite :
    ¬ ∀ (f : Format) (text : String) (d : Descriptor) (a : Action) (g : Dialect) (c : Compiled),
      Descriptor.ofText f text = .ok d → d.compile a g = .ok c → Carries c (compiledTree c) id := by
  intro hall
  have hread : Toml.read "filters = [[\"a\", \"=\", inf]]" =
      some (.object [("filters", .array [.array [.string "a", .string "=", .float .infinity]])]) := by decide +kernel
  have hload : Descriptor.ofText .toml "filters = [[\"a\", \"=\", inf]]" =
      .ok { Descriptor.empty with filters := [.new "a" (.float .infinity) .eq .and] } :=
    Format.load_eq_ok_iff.2 ⟨_, hread, by with_unfolding_all rfl⟩
  have hfinite := (carries_self_iff _).1 (hall _ _ _ .read .mysql _ hload rfl) "a_w0" (.float .infinity) rfl
  exact absurd hfinite (by decide)

end Command.Report

end RowQuery
