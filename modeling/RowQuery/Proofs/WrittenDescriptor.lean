import RowQuery.Compile
import RowQuery.Proofs.EditOrder
import RowQuery.Proofs.SavedDescriptor
import RowQuery.Proofs.WrittenFilter
/-!
# Descriptors as a file writes them

A file of a descriptor has a member for each part that it says something about.
Each member asks for the calls that set its part (`Member.calls`). A file is
read as the descriptor that its members' calls build, whatever the order of the
members and of the calls for different parts (`Descriptor.load_eq_build`).
-/

namespace RowQuery

/-- The name of a part in a file. -/
def Part.key : Part → String
  | scope => "scope"
  | records => "records"
  | filters => "filters"
  | sort => "sort"
  | begin => "begin"
  | cap => "cap"
  | projection => "projection"
  | schema => "schema"
  | override => "override"
  | logLevel => "log_level"

theorem Part.key_inj {p q : Part} (h : p.key = q.key) : p = q := by
  cases p <;> cases q <;> first | rfl | simp [key] at h

namespace Descriptor

/-- A member of a descriptor's file. What may be missing may also be `null`. -/
inductive Member where
  | scope (s : String)
  | records (rs : List (List (String × FiniteValue)))
  | filters (l : List (Tabled Clause.Given.members))
  | sort (l : List (Tabled SortKey.Given.members))
  | begin (n : Option UInt64)
  | cap (n : Option UInt64)
  | projection (columns : List String)
  | schema (l : Option (List (Tabled ColumnDefinition.Given.members)))
  | override (template : Option String)
  | logLevel (n : UInt8)

namespace Member

def part : Member → Part
  | scope _ => .scope
  | records _ => .records
  | filters _ => .filters
  | sort _ => .sort
  | begin _ => .begin
  | cap _ => .cap
  | projection _ => .projection
  | schema _ => .schema
  | override _ => .override
  | logLevel _ => .logLevel

/-- What the file has under the member's name. A record may repeat a column. -/
def tree : Member → Tree
  | scope s => .string s
  | records rs => .array (rs.map fun r => .object (r.map fun e => (e.1, e.2.val.toTree)))
  | filters l => .array (l.map Tabled.tree)
  | sort l => .array (l.map Tabled.tree)
  | begin n | cap n => Pagination.bound n
  | projection columns => .array (columns.map Tree.string)
  | schema l => (l.map fun l => Tree.array (l.map Tabled.tree)).getD .null
  | override template => (template.map Tree.string).getD .null
  | logLevel n => .int n.toNat

/-- The calls that set the part. -/
def calls : Member → List Edit
  | scope s => [.setScope s]
  | records rs => rs.map fun r => .addRecord (r.map fun e => (e.1, e.2.val))
  | filters l => l.map fun x => .addFilterClause x.data.clause
  | sort l => l.map fun x => .addSort x.data.key
  | begin n => (n.map .setBegin).toList
  | cap n => (n.map .setCap).toList
  | projection columns => [.setProjection columns]
  | schema l => (l.map fun l => .setSchema (l.map fun x => x.data.definition)).toList
  | override template => (template.map .setOverride).toList
  | logLevel n => [.setLogLevel n]

/-- The parts with a member in its place. -/
def set (p : Parts) : Member → Parts
  | scope s => { p with scope := some s }
  | records rs => { p with records := some (rs.map fun r => .ofList (r.map fun e => (e.1, e.2.val))) }
  | filters l => { p with filters := some (l.map fun x => x.data.clause) }
  | sort l => { p with sort := some (l.map fun x => x.data.key) }
  | begin n => { p with others := p.others ++ [("begin", Pagination.bound n)] }
  | cap n => { p with others := p.others ++ [("cap", Pagination.bound n)] }
  | projection columns => { p with projection := some columns }
  | schema l => { p with schema := some (l.map fun l => .ofDefinitions (l.map fun x => x.data.definition)) }
  | override template => { p with override := some template }
  | logLevel n => { p with logLevel := some n }

/-- The place of a member is empty. -/
def Free (p : Parts) : Member → Prop
  | scope _ => p.scope = none
  | records _ => p.records = none
  | filters _ => p.filters = none
  | sort _ => p.sort = none
  | begin _ => "begin" ∉ p.others.map (·.1)
  | cap _ => "cap" ∉ p.others.map (·.1)
  | projection _ => p.projection = none
  | schema _ => p.schema = none
  | override _ => p.override = none
  | logLevel _ => p.logLevel = none

theorem free_empty (m : Member) : Free {} m := by
  cases m <;> simp [Free]

theorem tree_ne_unnamed (m : Member) (found : Tree) (s : Bool) : m.tree ≠ .unnamed found s := by
  cases m with
  | begin n | cap n => exact Pagination.bound_ne_unnamed n found s
  | schema l => cases l <;> simp [tree]
  | override template => cases template <;> simp [tree]
  | _ => simp [tree]

/-! ## Reading the members -/

theorem valuesOfTree_entries (r : List (String × FiniteValue)) :
    Saved.valuesOfTree (.object (r.map fun e => (e.1, e.2.val.toTree))) =
      .ok (.ofList (r.map fun e => (e.1, e.2.val))) := by
  have hread : Tree.eachMember Value.ofTree (r.map fun e => (e.1, e.2.val.toTree)) =
      .ok (r.map fun e => (e.1, e.2.val)) :=
    Tree.eachMember_map (g := fun v : FiniteValue => v.val.toTree) (h := Subtype.val)
      (fun e _ => e.2.val.isSound_toTree) fun e _ => e.2.ofTree_toTree
  rw [Saved.valuesOfTree, Tree.asMembers, Tree.members?]
  dsimp only
  rw [hread, Tree.map_ok]

theorem schema_ofTree_tables (f : Format) (l : List (Tabled ColumnDefinition.Given.members)) :
    Schema.ofTree f (.array (l.map Tabled.tree)) = .ok (.ofDefinitions (l.map fun x => x.data.definition)) := by
  rw [Schema.ofTree, Tabled.asSequence_map (ColumnDefinition.ofTree_given f), Tree.map_ok]

/-- A member whose place is empty is read into it. -/
theorem read_member (f : Format) (p : Parts) (m : Member) (h : Free p m) :
    p.member f m.part.key m.tree = .ok (set p m) := by
  cases m with
  | scope s => simp_all [Parts.member, part, Part.key, tree, set, Free]
  | records rs =>
    have hread : Tree.asSequence Saved.valuesOfTree (tree (records rs)) =
        .ok (rs.map fun r => .ofList (r.map fun e => (e.1, e.2.val))) :=
      Tree.asSequence_map fun r _ => valuesOfTree_entries r
    simp_all [Parts.member, part, Part.key, set, Free]
  | filters l =>
    have hread := Tabled.asSequence_map (Clause.ofTree_given f) l
    simp_all [Parts.member, part, Part.key, tree, set, Free]
  | sort l =>
    have hread := Tabled.asSequence_map (SortKey.ofTree_given f) l
    simp_all [Parts.member, part, Part.key, tree, set, Free]
  | begin n | cap n =>
    simp [Parts.member, part, Part.key, tree, set, Tree.keep, Pagination.isSound_bound]
  | projection columns =>
    have hread : Tree.asSequence Tree.asText (tree (projection columns)) = .ok (columns.map id) :=
      Tree.asSequence_map fun s _ => rfl
    simp_all [Parts.member, part, Part.key, set, Free]
  | schema l =>
    have hread : Tree.asOption (Schema.ofTree f) (tree (schema l)) =
        .ok (l.map fun l => .ofDefinitions (l.map fun x => x.data.definition)) := by
      cases l with
      | none => rfl
      | some l => simp [tree, schema_ofTree_tables]
    simp_all [Parts.member, part, Part.key, set, Free]
  | override template =>
    have hread : Tree.asOption Tree.asText (tree (override template)) = .ok template :=
      Tree.asOption_getD (by simp) Tree.asText_string template
    simp_all [Parts.member, part, Part.key, set, Free]
  | logLevel n => simp_all [Parts.member, part, Part.key, tree, set, Free]

/-- Members leave each other's places alone. -/
theorem free_set (p : Parts) (m m' : Member) (hne : m.part.key ≠ m'.part.key) (h : Free p m') :
    Free (set p m) m' := by
  cases m <;> cases m' <;> first | exact h | exact absurd rfl hne | simpa [Free, set] using h

end Member

end Descriptor

/-! ## The window -/

namespace Pagination

/-- The two sides of a window. -/
inductive Side where
  | begin
  | cap

namespace Side

/-- The name of a side in a file. -/
def key : Side → String
  | begin => "begin"
  | cap => "cap"

/-- Where a side is kept while the members are read. -/
def place {α : Type} : Side → α × α → α
  | begin, p => p.1
  | cap, p => p.2

def get : Side → Pagination → Option UInt64
  | begin, q => q.begin?
  | cap, q => q.cap?

def set (s : Side) (q : Pagination) (n : Option UInt64) : Pagination :=
  match s with
  | begin => { q with begin? := n }
  | cap => { q with cap? := n }

/-- The call that sets a side. -/
def call : Side → UInt64 → Edit
  | begin => .setBegin
  | cap => .setCap

end Side

/-- A member leaves the other side alone. -/
theorem place_member {s : Side} {p p' : Option (Option UInt64) × Option (Option UInt64)} {key : String} {t : Tree}
    (h : member p key t = .ok p') (hk : key ≠ s.key) : s.place p' = s.place p := by
  unfold member at h
  split at h <;> obtain ⟨_, -, h⟩ := Tree.bind_eq_ok_iff.1 h <;> cases h <;> cases s <;>
    first | rfl | exact absurd rfl hk

/-- A side that no member is named for is not set. -/
theorem place_eq_none {s : Side} {l : List (String × Tree)} {p : Option (Option UInt64) × Option (Option UInt64)}
    (h : Tree.foldMembers member (none, none) l = .ok p) (hl : s.key ∉ l.map (·.1)) : s.place p = none := by
  refine Tree.foldMembers_induction (fun q => s.place q = none) h (by cases s <;> rfl) ?_
  intro a k t b hm ha hb
  have hk : k ≠ s.key := by
    rintro rfl
    exact hl (List.mem_map_of_mem (f := fun e => e.1) hm)
  exact (place_member hb hk).trans ha

/-- The window after a first member for one of its sides. -/
theorem ofMembers_side (s : Side) {l : List (String × Tree)} {q : Pagination} (h : ofMembers l = .ok q)
    (hl : s.key ∉ l.map (·.1)) (n : Option UInt64) :
    s.get q = none ∧ ofMembers (l ++ [(s.key, bound n)]) = .ok (s.set q n) := by
  obtain ⟨⟨first, cap⟩, hfold, h⟩ := Tree.bind_eq_ok_iff.1 h
  have hplace : s.place (first, cap) = none := place_eq_none hfold hl
  cases h
  rw [ofMembers, Tree.foldMembers_append, hfold]
  cases s <;> obtain rfl := hplace <;>
    simp [Side.get, Side.set, Side.key, Tree.foldMembers_cons, Tree.foldMembers, bound_ne_unnamed, member,
      asOption_bound]

end Pagination

namespace Descriptor

/-! ## The calls -/

/-- Edits that each add to a list add to it together. `put` sets the list. -/
theorem editAll_map {α β : Type} (list : Descriptor → List β) (put : Descriptor → List β → Descriptor)
    {call : α → Edit} {make : α → β} (hcall : ∀ d x, d.edit (call x) = put d (list d ++ [make x]))
    (hlist : ∀ d l, list (put d l) = l) (hput : ∀ d l l', put (put d l) l' = put d l')
    (hself : ∀ d, put d (list d) = d) (d : Descriptor) (l : List α) :
    d.editAll (l.map call) = put d (list d ++ l.map make) := by
  induction l generalizing d with
  | nil =>
    rw [List.map_nil, List.map_nil, List.append_nil, hself]
    rfl
  | cons x l ih =>
    calc
      d.editAll (call x :: l.map call) = (put d (list d ++ [make x])).editAll (l.map call) := by rw [← hcall]; rfl
      _ = put d (list d ++ [make x] ++ l.map make) := by rw [ih, hlist, hput]
      _ = put d (list d ++ make x :: l.map make) := by rw [List.append_assoc, List.singleton_append]

/-- A side of the window read into its place does what the call for it does. -/
theorem descriptor_side {p : Parts} {d : Descriptor} (hd : p.descriptor = .ok d) (s : Pagination.Side)
    (h : s.key ∉ p.others.map (·.1)) (n : Option UInt64) :
    { p with others := p.others ++ [(s.key, Pagination.bound n)] }.descriptor =
      .ok (d.editAll (n.map s.call).toList) := by
  obtain ⟨⟨first, cap⟩, hq, hd⟩ := Tree.bind_eq_ok_iff.1 hd
  cases hd
  obtain ⟨hunset, hset⟩ := Pagination.ofMembers_side s hq h n
  rw [Parts.descriptor, hset]
  cases s <;> obtain rfl := hunset <;> cases n <;> rfl

/-- A member read into its place does what its calls do. -/
theorem descriptor_set {p : Parts} {d : Descriptor} (hd : p.descriptor = .ok d) (m : Member) (h : m.Free p) :
    (m.set p).descriptor = .ok (d.editAll m.calls) := by
  obtain ⟨q, hq, hparts⟩ := Tree.bind_eq_ok_iff.1 hd
  cases hparts
  cases m with
  | records rs =>
    have hrecords : p.records = none := h
    rw [Member.calls, editAll_map records (fun d l => { d with records := l }) (fun _ _ => rfl) (fun _ _ => rfl)
      (fun _ _ _ => rfl) (fun _ => rfl)]
    simp [Parts.descriptor, Member.set, hq, hrecords]
  | filters l =>
    have hfilters : p.filters = none := h
    rw [Member.calls, editAll_map filters (fun d l => { d with filters := l }) (fun _ _ => rfl) (fun _ _ => rfl)
      (fun _ _ _ => rfl) (fun _ => rfl)]
    simp [Parts.descriptor, Member.set, hq, hfilters]
  | sort l =>
    have hsort : p.sort = none := h
    rw [Member.calls, editAll_map sort (fun d l => { d with sort := l }) (fun _ _ => rfl) (fun _ _ => rfl)
      (fun _ _ _ => rfl) (fun _ => rfl)]
    simp [Parts.descriptor, Member.set, hq, hsort]
  | begin n => exact descriptor_side hd .begin h n
  | cap n => exact descriptor_side hd .cap h n
  | schema l =>
    have hschema : p.schema = none := h
    rw [Parts.descriptor, Member.set, hq]
    cases l with
    | none => simp [Member.calls, editAll, hschema]
    | some l => rfl
  | override template =>
    have hoverride : p.override = none := h
    rw [Parts.descriptor, Member.set, hq]
    cases template with
    | none => simp [Member.calls, editAll, hoverride]
    | some template => rfl
  | scope s | projection columns | logLevel n =>
    rw [Parts.descriptor, Member.set, hq]
    rfl

/-- Members read into empty places one after the other do what all their calls do. -/
theorem descriptor_foldl {p : Parts} {d : Descriptor} (hd : p.descriptor = .ok d) (ms : List Member)
    (hms : (ms.map fun m => m.part.key).Nodup) (h : ∀ m ∈ ms, m.Free p) :
    (ms.foldl Member.set p).descriptor = .ok (d.editAll (ms.flatMap Member.calls)) := by
  induction ms generalizing p d with
  | nil => exact hd
  | cons m ms ih =>
    rw [List.map_cons, List.nodup_cons] at hms
    rw [List.forall_mem_cons] at h
    have hfree : ∀ m' ∈ ms, m'.Free (m.set p) := by
      intro m' hm'
      refine Member.free_set p m m' ?_ (h.2 m' hm')
      exact fun he => hms.1 (he ▸ List.mem_map_of_mem (f := fun m => m.part.key) hm')
    rw [List.foldl_cons, ih (descriptor_set hd m h.1) hms.2 hfree, List.flatMap_cons]
    exact congrArg Except.ok List.foldl_append.symm

/-! ## Files -/

/-- The file of some members. -/
def file (ms : List Member) : Tree := .object (ms.map fun m => (m.part.key, m.tree))

/-- The descriptor that the calls of some members build. -/
def built (ms : List Member) : Descriptor := empty.editAll (ms.flatMap Member.calls)

theorem nodup_keys {ms : List Member} (h : (ms.map Member.part).Nodup) : (ms.map fun m => m.part.key).Nodup := by
  have hmap : (ms.map fun m => m.part.key) = (ms.map Member.part).map Part.key := by simp
  rw [hmap]
  exact h.map fun _ _ => Part.key_inj

/-- A file is read as what its members' calls build in the order of the file. -/
theorem ofTree_file (f : Format) {ms : List Member} (h : (ms.map Member.part).Nodup) :
    ofTree f (file ms) = .ok (built ms) := by
  have hkeys := nodup_keys h
  have hread : Tree.foldMembers (Parts.member f) {} (ms.map fun m => (m.part.key, m.tree)) =
      .ok (ms.foldl Member.set {}) :=
    Tree.foldMembers_map Member.tree_ne_unnamed (Member.read_member f) Member.free_set hkeys
      fun m _ => m.free_empty
  have hempty : Parts.descriptor {} = .ok empty := rfl
  rw [ofTree, file, Tree.members?]
  dsimp only
  rw [hread, Tree.ok_bind, built]
  exact descriptor_foldl hempty ms hkeys fun m _ => m.free_empty

/-! ## The order of the members -/

theorem Member.parts_of_mem_calls {m : Member} {e : Edit} (h : e ∈ m.calls) : e.parts = [m.part] := by
  cases m with
  | scope _ | projection _ | logLevel _ =>
    obtain rfl := List.mem_singleton.1 h
    rfl
  | records _ | filters _ | sort _ =>
    obtain ⟨_, -, rfl⟩ := List.mem_map.1 h
    rfl
  | begin _ | cap _ | schema _ | override _ =>
    obtain ⟨_, -, rfl⟩ := Option.map_eq_some_iff.1 (Option.mem_toList.1 h)
    rfl

/-- The calls that write a part are those of the members for it. -/
theorem writing_calls (p : Part) (ms : List Member) :
    Edit.writing p (ms.flatMap Member.calls) = (ms.filter fun m => m.part = p).flatMap Member.calls := by
  induction ms with
  | nil => rfl
  | cons m ms ih =>
    rw [List.flatMap_cons, Edit.writing, List.filter_append, ← Edit.writing, ← Edit.writing, ih]
    by_cases hp : m.part = p
    · have hcalls : Edit.writing p m.calls = m.calls := by
        refine List.filter_eq_self.2 fun e he => ?_
        simp [Member.parts_of_mem_calls he, hp]
      rw [hcalls, List.filter_cons_of_pos (by simpa using hp), List.flatMap_cons]
    · have hcalls : Edit.writing p m.calls = [] := by
        refine List.filter_eq_nil_iff.2 fun e he => ?_
        simp [Member.parts_of_mem_calls he, Ne.symm hp]
      rw [hcalls, List.filter_cons_of_neg (by simpa using hp), List.nil_append]

/-- Of different parts, there is at most one member for each. -/
theorem pairwise_filter_part {ms : List Member} (h : (ms.map Member.part).Nodup) (p : Part) :
    (ms.filter fun m => m.part = p).Pairwise fun _ _ => False := by
  have hdiffer : (ms.filter fun m => m.part = p).Pairwise fun m m' => m.part ≠ m'.part :=
    (List.pairwise_map.1 h).filter _
  refine hdiffer.imp_of_mem ?_
  intro m m' hm hm' hne
  have hp : m.part = p := by simpa using (List.mem_filter.1 hm).2
  have hp' : m'.part = p := by simpa using (List.mem_filter.1 hm').2
  exact hne (hp.trans hp'.symm)

/-- Members for different parts may make their calls in any order. -/
theorem built_perm {ms ms' : List Member} (hperm : ms.Perm ms') (h : (ms'.map Member.part).Nodup) :
    built ms = built ms' := by
  have h' : (ms.map Member.part).Nodup := (hperm.map _).nodup_iff.2 h
  refine editAll_congr (fun p => ?_) empty
  -- The members for a part are at most one, so they stand in the same order.
  have hsame : (ms.filter fun m => m.part = p) = ms'.filter fun m => m.part = p :=
    List.Perm.eq_of_pairwise (fun _ _ _ _ hfalse => hfalse.elim) (pairwise_filter_part h' p)
      (pairwise_filter_part h p) (hperm.filter _)
  rw [writing_calls, writing_calls, hsame]

/-! ## Loading -/

/-- Loading a descriptor is building it. A file with at most one member for each
part is read as what the calls for its members build, in whichever order the file
and the calls take them. Texts of the file load to the same descriptor, and so
compile and log alike. -/
theorem load_eq_build (f : Format) {ms ms' : List Member} (hperm : ms.Perm ms')
    (hdistinct : (ms'.map Member.part).Nodup) :
    ofTree f (file ms) = .ok (built ms') ∧
    (∀ scope rest, ms' = .scope scope :: rest → built ms' = (new scope).editAll (rest.flatMap Member.calls)) ∧
    (∀ text, f.Reads text (file ms) → ofText f text = .ok (built ms')) ∧
    (∀ text d, f.Reads text (file ms) → ofText f text = .ok d → ∀ a g,
      d.compile a g = (built ms').compile a g ∧ d.events a g = (built ms').events a g) := by
  have htree : ofTree f (file ms) = .ok (built ms') := by
    rw [ofTree_file f ((hperm.map _).nodup_iff.2 hdistinct), built_perm hperm hdistinct]
  have htext : ∀ text, f.Reads text (file ms) → ofText f text = .ok (built ms') :=
    fun _ h => Format.load_eq_ok_iff.2 ⟨_, h, htree⟩
  refine ⟨htree, ?_, htext, ?_⟩
  · rintro scope rest rfl
    rfl
  · intro text d h hd a g
    rw [htext text h] at hd
    cases hd
    exact ⟨rfl, rfl⟩

/-- A column written twice, operators in spellings of their own, one of them a
token's, and parts in the opposite order; then a text of two members. -/
theorem load_eq_build_spelled :
    let ms : List Member :=
      [.scope "t", .cap (some 5),
        .records [[("a", ⟨.int 1, rfl⟩), ("b", ⟨.null, rfl⟩), ("a", ⟨.string "x", rfl⟩)]],
        .filters
          [⟨⟨some "a", some "Like", some ⟨.string "x", rfl⟩, some " or", some (some "p")⟩, _, _, .refl _, rfl⟩,
            ⟨⟨some "g", some " ( ", none, none, some (some "p")⟩, _, _, .refl _, rfl⟩,
            ⟨⟨some "b", none, some ⟨.array [.int 2], rfl⟩, none, some (some "")⟩, _, _, .refl _, rfl⟩]]
    ofTree .json (file ms.reverse) = .ok (built ms) ∧
      (built ms).records.map (·.toList) = [[("a", .string "x"), ("b", .null)]] ∧
      (built ms).filters =
        [.condition ⟨"a", .like, .string "x", .or, "p"⟩, .group .opening .and,
          .condition ⟨"b", .eq, .array [.int 2], .and, "b"⟩] ∧
      ofText .json "\x7b\"cap\":5,\"scope\":\"t\"\x7d" = .ok { new "t" with pagination := ⟨none, some 5⟩ } := by
  intro ms
  refine ⟨(load_eq_build .json (List.reverse_perm ms) (by decide)).1, rfl, ?_, ?_⟩
  · have hlike : Operator.parse "Like" = .like := by decide +kernel
    have hopen : Operator.parse " ( " = .openGroup := by decide +kernel
    have heq : Operator.parse "=" = .eq := by decide +kernel
    have hor : Connector.parse " or" = .or := by decide +kernel
    have hand : Connector.parse "AND" = .and := by decide +kernel
    simp [ms, built, Member.calls, editAll, edit, setScope, setCap, addRecord, addFilterClause, empty,
      Clause.Given.clause, hlike, hopen, heq, hor, hand, Clause.new, Clause.withParameter, Condition.new,
      Condition.withOperator, Condition.withConnector, Condition.withParameter]
  · have hread : Json.read "\x7b\"cap\":5,\"scope\":\"t\"\x7d" = ⟨file [.cap (some 5), .scope "t"], true⟩ := by decide +kernel
    have hperm : [Member.cap (some 5), .scope "t"].Perm [.scope "t", .cap (some 5)] := .swap _ _ []
    exact (load_eq_build .json hperm (by decide)).2.2.1 _ hread

end Descriptor

end RowQuery
