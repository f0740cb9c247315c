import Mathlib.Data.List.Forall2
import RowQuery.Proofs.SavedValue
/-!
# Values read from trees without a mark

Nothing in a tree says of which kind a value is, so a tree is read as the value
that looks like it (`Value.LooksLike`), and there is none only where a table
stands somewhere inside, however deep (`Value.ofTree_unmarked`). The value's own
tree is then the one it was read from, but for integers beyond 64 bits, which
have become floating-point numbers (`Tree.narrowed`).
-/

namespace RowQuery

namespace Tree

/-- The tree is the other one, or stands somewhere inside it. -/
inductive OccursIn (u : Tree) : Tree → Prop
  | here : OccursIn u u
  | item {items : List Tree} {t : Tree} (ht : t ∈ items) (h : OccursIn u t) : OccursIn u (.array items)
  | member {members : List (String × Tree)} {key : String} {t : Tree} (ht : (key, t) ∈ members)
      (h : OccursIn u t) : OccursIn u (.object members)

mutual
/-- The tree with floating-point numbers for the integers beyond 64 bits. -/
def narrowed : Tree → Tree
  | int n => if -2 ^ 63 ≤ n ∧ n < 2 ^ 63 then int n else float (.ofInt n)
  | array items => array (allNarrowed items)
  | null => null
  | bool b => bool b
  | float x => float x
  | string s => string s
  | date text => date text
  | object members => object members
  | unreadable s => unreadable s
  | unnamed found s => unnamed found s

def allNarrowed : List Tree → List Tree
  | [] => []
  | t :: rest => t.narrowed :: allNarrowed rest
end

end Tree

namespace Value

/-- A value that looks like a tree: of the same kind, with the same parts in the same
order. Only an integer beyond 64 bits is of another kind. -/
inductive LooksLike : Tree → Value → Prop
  | null : LooksLike .null null
  | bool (b : Bool) : LooksLike (.bool b) (bool b)
  | int (n : Int64) : LooksLike (.int n.toInt) (int n)
  | large {n : Int} (h : n < -2 ^ 63 ∨ 2 ^ 63 ≤ n) : LooksLike (.int n) (float (.ofInt n))
  | float (x : Binary64) : LooksLike (.float x) (float x)
  | string (s : String) : LooksLike (.string s) (string s)
  | array {items : List Tree} {vs : List Value} (h : List.Forall₂ LooksLike items vs) :
      LooksLike (.array items) (array vs)

/-! ## What looks like a tree -/

theorem looksLike_ofInteger (n : Int) : LooksLike (.int n) (ofInteger n) := by
  rw [ofInteger, Int64.toInt_minValue, Int64.toInt_maxValue]
  split
  · rename_i h
    have hn : (Int64.ofInt n).toInt = n := Int64.toInt_ofInt_of_le h.1 (by omega)
    have hint := LooksLike.int (.ofInt n)
    rwa [hn] at hint
  · exact .large (by omega)

theorem eq_ofInteger_of_looksLike {n : Int} {v : Value} (h : LooksLike (.int n) v) : v = ofInteger n := by
  cases h with
  | int m => exact (ofInteger_toInt m).symm
  | large h => rw [ofInteger, Int64.toInt_minValue, Int64.toInt_maxValue, if_neg (by omega)]

theorem ofTrees?_cons_eq_some_iff {t : Tree} {rest : List Tree} {vs : List Value} :
    ofTrees? (t :: rest) = some vs ↔ ∃ v vs', ofTree? t = some v ∧ ofTrees? rest = some vs' ∧ vs = v :: vs' := by
  rw [ofTrees?]
  cases ofTree? t <;> cases ofTrees? rest <;> simp [eq_comm]

mutual
/-- A tree is read as the one value that looks like it. -/
theorem ofTree?_eq_some_iff (t : Tree) (v : Value) : ofTree? t = some v ↔ LooksLike t v := by
  match t with
  | .null | .bool _ | .float _ | .string _ =>
    constructor
    · rintro ⟨⟩
      constructor
    · rintro ⟨⟩
      rfl
  | .int n =>
    rw [ofTree?, Option.some_inj]
    constructor
    · rintro rfl
      exact looksLike_ofInteger n
    · intro h
      exact (eq_ofInteger_of_looksLike h).symm
  | .array items =>
    rw [ofTree?, Option.map_eq_some_iff]
    constructor
    · rintro ⟨vs, hvs, rfl⟩
      exact .array ((ofTrees?_eq_some_iff items vs).1 hvs)
    · rintro (_ | _ | _ | _ | _ | _ | h)
      exact ⟨_, (ofTrees?_eq_some_iff items _).2 h, rfl⟩
  | .date _ | .object _ | .unreadable _ | .unnamed _ _ =>
    constructor
    · rintro ⟨⟩
    · rintro ⟨⟩

theorem ofTrees?_eq_some_iff (ts : List Tree) (vs : List Value) :
    ofTrees? ts = some vs ↔ List.Forall₂ LooksLike ts vs := by
  match ts with
  | [] => simp [ofTrees?, eq_comm]
  | t :: rest =>
    simp only [ofTrees?_cons_eq_some_iff, List.forall₂_cons_left_iff, ofTree?_eq_some_iff t,
      ofTrees?_eq_some_iff rest]
end

/-! ## Tables inside a tree -/

mutual
/-- Of the trees that were read, those with a table inside are no values. -/
theorem ofTree?_eq_none_iff {t : Tree} (ht : t.isSound) :
    ofTree? t = none ↔ ∃ u : Tree, u.OccursIn t ∧ u.members? ≠ none := by
  match t with
  | .null | .bool _ | .int _ | .float _ | .string _ =>
    refine iff_of_false (by simp [ofTree?]) ?_
    rintro ⟨u, hu, hm⟩
    cases hu
    exact hm rfl
  | .array items =>
    rw [ofTree?, Option.map_eq_none_iff, ofTrees?_eq_none_iff_exists ht]
    constructor
    · rintro ⟨t, ht, u, hu, hm⟩
      exact ⟨u, .item ht hu, hm⟩
    · rintro ⟨u, hu, hm⟩
      cases hu with
      | here => exact absurd rfl hm
      | item ht hu => exact ⟨_, ht, u, hu, hm⟩
  | .date _ | .object _ => exact iff_of_true rfl ⟨_, .here, by simp [Tree.members?]⟩
  | .unreadable _ | .unnamed _ _ => cases ht

theorem ofTrees?_eq_none_iff_exists {ts : List Tree} (hts : Tree.areSound ts) :
    ofTrees? ts = none ↔ ∃ t ∈ ts, ∃ u : Tree, u.OccursIn t ∧ u.members? ≠ none := by
  match ts with
  | [] => simp [ofTrees?]
  | t :: rest =>
    rw [Tree.areSound, Bool.and_eq_true] at hts
    rw [List.exists_mem_cons_iff, ← ofTree?_eq_none_iff hts.1, ← ofTrees?_eq_none_iff_exists hts.2, ofTrees?]
    cases ofTree? t <;> cases ofTrees? rest <;> simp
end

theorem ofTree_of_isSound {t : Tree} (ht : t.isSound) :
    ofTree t = (ofTree? t).elim (.error .noValue) .ok := by
  rw [ofTree, Tree.keep, if_pos ht, Tree.ok_bind]
  cases ofTree? t <;> rfl

theorem ofTree_eq_ok_iff {t : Tree} (ht : t.isSound) (v : Value) : ofTree t = .ok v ↔ LooksLike t v := by
  rw [← ofTree?_eq_some_iff, ofTree_of_isSound ht]
  cases ofTree? t <;> simp

theorem exists_ofTree_iff {t : Tree} (ht : t.isSound) :
    (∃ v, ofTree t = .ok v) ↔ ∀ u : Tree, u.OccursIn t → u.members? = none := by
  calc
    (∃ v, ofTree t = .ok v) ↔ ¬ ofTree? t = none := by
      rw [ofTree_of_isSound ht]
      cases ofTree? t <;> simp
    _ ↔ ∀ u : Tree, u.OccursIn t → u.members? = none := by
      rw [ofTree?_eq_none_iff ht]
      simp

theorem eq_noValue_of_ofTree {t : Tree} (ht : t.isSound) {e : Fault} (h : ofTree t = .error e) : e = .noValue := by
  rw [ofTree_of_isSound ht] at h
  cases hv : ofTree? t with
  | none =>
    rw [hv] at h
    cases h
    rfl
  | some v =>
    rw [hv] at h
    cases h

/-! ## The tree of a value that was read -/

mutual
/-- The tree of a value looks like the tree it was read from. -/
theorem toTree_of_looksLike {t : Tree} {v : Value} (ht : t.numbersFit) (h : LooksLike t v) : v.toTree = t.narrowed := by
  match t with
  | .null | .bool _ | .string _ =>
    cases h
    rfl
  | .int n =>
    cases h with
    | int m =>
      have hmin := m.minValue_le_toInt
      have hmax := m.toInt_le
      rw [toTree, Tree.narrowed, if_pos ⟨hmin, Int.lt_of_le_sub_one hmax⟩]
    | large h =>
      simp only [Tree.numbersFit, Bool.and_eq_true, decide_eq_true_eq] at ht
      have hfinite : (Binary64.ofInt n).isFinite := Binary64.isFinite_ofInt (by omega)
      rw [toTree, if_pos hfinite, Tree.narrowed, if_neg (by omega)]
  | .float x =>
    cases h
    rw [Tree.numbersFit] at ht
    rw [toTree, if_pos ht, Tree.narrowed]
  | .array items =>
    cases h with
    | array h => rw [toTree, Tree.narrowed, toTrees_of_looksLike ht h]
  | .date _ | .object _ | .unreadable _ | .unnamed _ _ => cases h

theorem toTrees_of_looksLike {ts : List Tree} {vs : List Value} (hts : Tree.allNumbersFit ts)
    (h : List.Forall₂ LooksLike ts vs) : toTrees vs = Tree.allNarrowed ts := by
  match ts with
  | [] =>
    cases h
    rfl
  | t :: rest =>
    rw [Tree.allNumbersFit, Bool.and_eq_true] at hts
    cases h with
    | cons h hrest =>
      rw [toTrees, Tree.allNarrowed, toTree_of_looksLike hts.1 h, toTrees_of_looksLike hts.2 hrest]
end

/-- A tree is a value unless a table stands somewhere inside it. Then there is one
fault to report, else the value looks like the tree, and its own tree is the same
but for integers beyond 64 bits. The numbers of a JSON text all fit
(`Json.numbersFit_read`). -/
theorem ofTree_unmarked (t : Tree) (ht : t.isSound) :
    ((∃ v, ofTree t = .ok v) ↔ ∀ u : Tree, u.OccursIn t → u.members? = none) ∧
    (∀ e, ofTree t = .error e → ∀ f, e.message f = "data did not match any variant of untagged enum Value") ∧
    (∀ v, ofTree t = .ok v ↔ LooksLike t v) ∧
    (t.numbersFit → ∀ v, ofTree t = .ok v → v.toTree = t.narrowed) := by
  refine ⟨exists_ofTree_iff ht, fun e he f => ?_, ofTree_eq_ok_iff ht, fun hfit v hv => ?_⟩
  · rw [eq_noValue_of_ofTree ht he]
    rfl
  · exact toTree_of_looksLike hfit ((ofTree_eq_ok_iff ht v).1 hv)

/-- Integers at both ends of 64 bits and one beyond, and an integral number; and a table three lists deep. -/
theorem ofTree_unmarked_nested :
    let x : Binary64 := .ofInt 1
    let t : Tree := .array [.int (2 ^ 63), .array [.float x, .int (2 ^ 63 - 1), .int (-2 ^ 63)]]
    let t' : Tree := .array [.null, .array [.array [.object []]]]
    t.isSound ∧ t.numbersFit ∧ t'.isSound ∧
      (∃ v, ofTree t = .ok v ∧
        v.toTree = .array [.float (.ofInt (2 ^ 63)), .array [.float x, .int (2 ^ 63 - 1), .int (-2 ^ 63)]]) ∧
      ¬ ∃ v, ofTree t' = .ok v := by
  intro x t t'
  have ht : t.isSound := rfl
  have hfit : t.numbersFit := by decide +kernel
  have ht' : t'.isSound := rfl
  obtain ⟨-, -, -, hback⟩ := ofTree_unmarked t ht
  obtain ⟨htables, -⟩ := ofTree_unmarked t' ht'
  have hv : ofTree t = .ok (.array [.float (.ofInt (2 ^ 63)), .array [.float x, .int (.ofInt (2 ^ 63 - 1)),
      .int (.ofInt (-2 ^ 63))]]) := rfl
  refine ⟨ht, hfit, ht', ⟨_, hv, hback hfit _ hv⟩, fun hsome => ?_⟩
  have hinside : (Tree.object []).OccursIn t' :=
    .item (List.mem_cons_of_mem _ (List.mem_singleton_self _))
      (.item (List.mem_singleton_self _) (.item (List.mem_singleton_self _) .here))
  exact Option.some_ne_none _ (htables.1 hsome _ hinside)

end Value

end RowQuery
