import RowQuery.Json.Reader
import RowQuery.Proofs.Rounding
/-!
# Numbers in a tree read from JSON

JSON has no word for an infinity, and a number too large for floating point is
unreadable. So whatever the text, every integer in its tree fits a word of 64
bits, signed or unsigned, and every floating-point number is finite
(`Json.numbersFit_read`).
-/

namespace RowQuery

namespace Tree

mutual
/-- Every integer fits a word of 64 bits, signed or unsigned, and every
floating-point number is finite. -/
def numbersFit : Tree → Bool
  | int n => -2 ^ 63 ≤ n && n < 2 ^ 64
  | float x => x.isFinite
  | array items => allNumbersFit items
  | object members => memberNumbersFit members
  | null | bool _ | string _ | date _ | unreadable _ | unnamed _ _ => true

def allNumbersFit : List Tree → Bool
  | [] => true
  | t :: rest => t.numbersFit && allNumbersFit rest

def memberNumbersFit : List (String × Tree) → Bool
  | [] => true
  | (_, t) :: rest => t.numbersFit && memberNumbersFit rest
end

theorem allNumbersFit_iff (items : List Tree) : allNumbersFit items ↔ ∀ t ∈ items, t.numbersFit := by
  induction items with
  | nil => simp [allNumbersFit]
  | cons t rest ih => simp [allNumbersFit, ih]

theorem memberNumbersFit_iff (members : List (String × Tree)) :
    memberNumbersFit members ↔ ∀ m ∈ members, m.2.numbersFit := by
  induction members with
  | nil => simp [memberNumbersFit]
  | cons m rest ih => simp [memberNumbersFit, ih]

@[simp] theorem numbersFit_array (items : List Tree) :
    (array items).numbersFit ↔ ∀ t ∈ items, t.numbersFit := by
  rw [numbersFit, allNumbersFit_iff]

@[simp] theorem numbersFit_object (members : List (String × Tree)) :
    (object members).numbersFit ↔ ∀ m ∈ members, m.2.numbersFit := by
  rw [numbersFit, memberNumbersFit_iff]

theorem numbersFit_of_members? {t : Tree} {members : List (String × Tree)} (ht : t.numbersFit)
    (h : t.members? = some members) : ∀ m ∈ members, m.2.numbersFit := by
  cases t with
  | object members =>
    cases h
    exact (numbersFit_object _).1 ht
  | date text =>
    cases h
    simp [numbersFit]
  | _ => cases h

end Tree

namespace Json

/-! ## One number -/

theorem gather_lt {n : Nat} (h : n < UInt64.size) (ds : List Char) : (gather n ds).1 < UInt64.size := by
  fun_induction gather n ds with
  | case1 => exact h
  | case2 _ _ _ hlt ih => exact ih hlt
  | case3 => exact h

theorem ratio_powerOfTen : ∀ k ≤ largestPower, (powerOfTen k).ratio.2 ≤ (powerOfTen k).ratio.1 := by
  decide +kernel

theorem ratio_largestPower :
    (powerOfTen largestPower).ratio.2 * 2 ^ 2 ≤ (powerOfTen largestPower).ratio.1 := by
  decide +kernel

/-- Scaling down by the largest power makes up for the rounding, so the bound
stays the same however often it is done. -/
theorem isFinite_scaleDown {x : Binary64} (h : x.exponentBits ≤ 1089) (k : Nat) :
    (scaleDown x k).isFinite := by
  fun_induction scaleDown x k with
  | case1 x k hk =>
    have := Binary64.exponentBits_div_le (j := 0) (k := 67) h (by simpa using ratio_powerOfTen k hk)
    rw [Binary64.isFinite_iff]
    omega
  | case2 x k hk hz =>
    rw [Binary64.isFinite_iff]
    omega
  | case3 x k hk hz ih =>
    have := Binary64.exponentBits_div_le (j := 2) (k := 65) h ratio_largestPower
    exact ih this

theorem isFinite_scale {digits : Nat} {e : Int} {x : Binary64} (hd : digits < UInt64.size)
    (h : scale digits e = some x) : x.isFinite := by
  have hbits : (Binary64.ofInt digits).exponentBits ≤ 1089 :=
    Binary64.exponentBits_ofInt_le (Nat.le_of_lt hd)
  unfold scale at h
  dsimp only at h
  split at h
  · cases h
    exact isFinite_scaleDown hbits _
  · split at h
    · cases h
      rw [Binary64.isFinite_iff]
      omega
    · split at h
      · split at h
        · cases h
          assumption
        · cases h
      · cases h

theorem numbersFit_tree (t : NumberText) : t.tree.numbersFit := by
  have hw := gather_lt (n := 0) (by decide) t.whole
  have hs : UInt64.size = 2 ^ 64 := rfl
  unfold NumberText.tree
  dsimp only
  split
  · rename_i hint
    simp only [Bool.and_eq_true, Bool.or_eq_true, Bool.not_eq_true', decide_eq_true_eq,
      Nat.shiftLeft_eq] at hint
    simp only [Tree.numbersFit, Bool.and_eq_true, decide_eq_true_eq]
    cases hn : t.negative <;> simp only [hn] at hint ⊢ <;> grind
  · split
    · rename_i x hx
      have hf := isFinite_scale (gather_lt hw t.fraction) hx
      rw [Tree.numbersFit]
      split
      · exact Binary64.isFinite_neg hf
      · exact hf
    · rfl

/-! ## Tokens -/

/-- The numbers in a token fit. -/
def Token.NumbersFit : Token → Prop
  | scalar t => t.numbersFit
  | _ => True

theorem numbersFit_of_word? {cs rest : List Char} {t : Tree} (h : word? cs = some (t, rest)) :
    t.numbersFit := by
  unfold word? at h
  split at h
  · cases h; rfl
  · split at h
    · cases h; rfl
    · split at h
      · cases h; rfl
      · obtain ⟨⟨number, _⟩, -, he⟩ := Option.map_eq_some_iff.1 h
        cases he
        exact numbersFit_tree number

theorem numbersFit_wordTokens (cs : List Char) : ∀ token ∈ (wordTokens cs).1, token.NumbersFit := by
  unfold wordTokens
  split
  · rename_i t hw
    simpa [Token.NumbersFit] using numbersFit_of_word? hw
  · rename_i t rest hne hw
    simpa [Token.NumbersFit] using numbersFit_of_word? hw
  · simp [Token.NumbersFit]

theorem numbersFit_mark {c : Char} {token : Token} (h : mark? c = some token) : token.NumbersFit := by
  unfold mark? at h
  split at h <;> cases h <;> trivial

theorem numbersFit_tokens (cs : List Char) : ∀ token ∈ tokens cs, token.NumbersFit := by
  fun_induction tokens cs with
  | case1 => simp
  | case2 _ _ _ ih => exact ih
  | case3 | case8 => simp [Token.NumbersFit]
  | case4 _ _ _ _ _ ih => exact List.forall_mem_cons.2 ⟨trivial, ih⟩
  | case5 _ _ _ _ _ hm ih => exact List.forall_mem_cons.2 ⟨numbersFit_mark hm, ih⟩
  | case6 c rest _ _ _ _ ts hw ih =>
    have hts := numbersFit_wordTokens (c :: rest.takeWhile isWordChar)
    rw [hw] at hts
    exact List.forall_mem_append.2 ⟨hts, ih⟩
  | case7 c rest _ _ _ _ ts hw =>
    have hts := numbersFit_wordTokens (c :: rest.takeWhile isWordChar)
    rwa [hw] at hts

/-! ## The tree -/

/-- The numbers in an open container fit. -/
def Frame.NumbersFit : Frame → Prop
  | array items => ∀ t ∈ items, t.numbersFit
  | object members _ => ∀ m ∈ members, m.2.numbersFit

/-- The numbers met so far fit. -/
def State.NumbersFit : State → Prop
  | inside stack _ => ∀ f ∈ stack, f.NumbersFit
  | complete t => t.numbersFit
  | ended r => r.tree.numbersFit

theorem numbersFit_member (key : Except Tree String) {t : Tree} (h : t.numbersFit) :
    (member key t).2.numbersFit := by
  cases key with
  | ok _ => exact h
  | error _ => rfl

theorem numbersFit_closeWith {f : Frame} {t : Tree} (hf : f.NumbersFit) (ht : t.numbersFit) :
    (f.closeWith t).numbersFit := by
  -- The container is listed latest first, the new tree ahead of the others.
  have hreverse {α : Type} {P : α → Prop} {x : α} {l : List α} (hx : P x) (hl : ∀ y ∈ l, P y) :
      ∀ y ∈ (x :: l).reverse, P y := fun y hy => by
    rcases List.mem_cons.1 (List.mem_reverse.1 hy) with rfl | hy
    · exact hx
    · exact hl y hy
  match f with
  | .array items =>
    rw [Frame.closeWith, Tree.numbersFit_array]
    exact hreverse ht hf
  | .object members (some key) =>
    rw [Frame.closeWith, Tree.numbersFit_object]
    exact hreverse (numbersFit_member key ht) hf
  | .object members none =>
    rw [Frame.closeWith, Tree.numbersFit_object]
    exact hreverse rfl hf

theorem numbersFit_abandon {stack : List Frame} {t : Tree} (hs : ∀ f ∈ stack, f.NumbersFit)
    (ht : t.numbersFit) : (abandon stack t).numbersFit := by
  induction stack generalizing t with
  | nil => exact ht
  | cons f rest ih =>
    rw [List.forall_mem_cons] at hs
    exact ih hs.2 (numbersFit_closeWith hs.1 ht)

theorem numbersFit_place {stack : List Frame} {t : Tree} (hs : ∀ f ∈ stack, f.NumbersFit)
    (ht : t.numbersFit) : (place t stack).NumbersFit := by
  match stack with
  | [] => exact ht
  | .array items :: rest =>
    rw [List.forall_mem_cons] at hs
    exact List.forall_mem_cons.2 ⟨List.forall_mem_cons.2 ⟨ht, hs.1⟩, hs.2⟩
  | .object members (some key) :: rest =>
    rw [List.forall_mem_cons] at hs
    exact List.forall_mem_cons.2 ⟨List.forall_mem_cons.2 ⟨numbersFit_member key ht, hs.1⟩, hs.2⟩
  | .object members none :: rest => exact numbersFit_abandon hs ht

theorem numbersFit_close {stack : List Frame} (hs : ∀ f ∈ stack, f.NumbersFit) :
    (close stack).NumbersFit := by
  match stack with
  | [] => rfl
  | f :: rest =>
    rw [List.forall_mem_cons] at hs
    refine numbersFit_place hs.2 ?_
    split
    · cases f <;> simpa [Frame.NumbersFit] using hs.1
    · rfl

theorem numbersFit_fail {stack : List Frame} {token : Token} (hs : ∀ f ∈ stack, f.NumbersFit)
    (ht : token.NumbersFit) (due : Due) : (fail stack due token).NumbersFit := by
  refine numbersFit_abandon hs ?_
  have hsketch : token.sketch.numbersFit := by
    cases token with
    | scalar t => exact ht
    | _ => rfl
  split
  · exact hsketch
  · exact hsketch
  · rfl

theorem numbersFit_step {s : State} {token : Token} (hs : s.NumbersFit) (ht : token.NumbersFit) :
    (step s token).NumbersFit := by
  fun_cases step s token with
  | case1 | case2 => exact hs
  | case3 | case4 | case5 | case6 => exact List.forall_mem_cons.2 ⟨by simp [Frame.NumbersFit], hs⟩
  | case7 | case8 => exact numbersFit_place hs ht
  | case9 _ text | case10 _ text =>
    refine numbersFit_place hs ?_
    cases text <;> rfl
  | case11 | case14 | case18 | case19 => exact numbersFit_close hs
  | case12 _ _ _ _ | case13 _ _ _ _ =>
    have h := List.forall_mem_cons.1 hs
    exact List.forall_mem_cons.2 ⟨h.1, h.2⟩
  | case15 | case16 | case17 => exact hs
  | case20 => exact numbersFit_fail hs ht _

theorem numbersFit_finish {s : State} (h : s.NumbersFit) : s.finish.tree.numbersFit := by
  cases s with
  | inside stack due => exact numbersFit_abandon h rfl
  | complete t => exact h
  | ended r => exact h

theorem numbersFit_run {s : State} (hs : s.NumbersFit) {ts : List Token}
    (ht : ∀ token ∈ ts, token.NumbersFit) : (ts.foldl step s).NumbersFit := by
  induction ts generalizing s with
  | nil => exact hs
  | cons token rest ih =>
    rw [List.forall_mem_cons] at ht
    exact ih (numbersFit_step hs ht.1) ht.2

/-- No JSON text holds a number that does not fit. -/
theorem numbersFit_read (text : String) : (read text).tree.numbersFit :=
  numbersFit_finish (numbersFit_run (by simp [State.NumbersFit]) (numbersFit_tokens _))

end Json

end RowQuery
