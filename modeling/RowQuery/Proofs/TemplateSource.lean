import Mathlib.Data.List.Chain
import RowQuery.Proofs.TemplateGrammar
/-!
# Templates and their segments

A template is written from parts: texts without `<%`, no two of them next to each
other, and placeholders with blanks around their names. Parts are read off one after
the other (`segmentsFrom_source`), and every text is made of parts, up to its end or
up to a `<%` that starts no placeholder (`parts_or_broken`). So a template and its
segments determine each other (`parse_rebuilds`): the segments with their positions
are those of the parts, and the slices of the template at the positions are the
placeholders again.
-/

namespace RowQuery

namespace Template

/-! ## Widths -/

theorem width_append (cs ds : List Char) : width (cs ++ ds) = width cs + width ds := by
  induction cs with
  | nil => simp [width]
  | cons c cs ih => simp only [List.cons_append, width, ih, Nat.add_assoc]

/-- Positions count the bytes of a text. -/
theorem width_toList (s : String) : width s.toList = s.utf8ByteSize := by
  have h (cs : List Char) : width cs = (String.ofList cs).utf8ByteSize := by
    induction cs with
    | nil => rfl
    | cons c cs ih =>
      have hc : String.ofList (c :: cs) = String.singleton c ++ String.ofList cs := by
        rw [String.singleton_eq_ofList, ← String.ofList_append]
        rfl
      rw [width, ih, hc, String.utf8ByteSize_append, String.utf8ByteSize_singleton]
  rw [h, String.ofList_toList]

/-! ## Parts -/

/-- What a template is written from. -/
inductive Part where
  | text (s : String)
  /-- A name between blanks. -/
  | placeholder (before name after : String)
deriving DecidableEq, Repr

namespace Part

/-- The part as it stands in a template. -/
def source : Part → String
  | text s => s
  | placeholder before name after => "<%=" ++ before ++ name ++ after ++ "%>"

def isText : Part → Bool
  | text _ => true
  | placeholder .. => false

/-- The part can be read back. -/
def Readable : Part → Prop
  | text s => s ≠ "" ∧ ¬ ['<', '%'] <:+: s.toList
  | placeholder before name after =>
    before.toList.all isBlank = true ∧ IsName name.toList ∧ after.toList.all isBlank = true

/-- The segment of a part that stands at a position. -/
def segment (position : Nat) : Part → Segment
  | text s => .text s
  | placeholder _ name _ => .placeholder name position

end Part

instance : DecidablePred Part.Readable
  | .text _ => inferInstanceAs (Decidable (_ ∧ _))
  | .placeholder .. => inferInstanceAs (Decidable (_ ∧ _ ∧ _))

/-- Readable parts, no two texts of them next to each other. -/
def Readable (parts : List Part) : Prop :=
  (∀ p ∈ parts, p.Readable) ∧ parts.IsChain fun p q => ¬ (p.isText ∧ q.isText)

instance (parts : List Part) : Decidable (Readable parts) := inferInstanceAs (Decidable (_ ∧ _))

/-- The template written from parts. -/
def source : List Part → String
  | [] => ""
  | p :: parts => p.source ++ source parts

/-- The segments of parts, the first of them at a position. -/
def located (position : Nat) : List Part → List Segment
  | [] => []
  | p :: parts => p.segment position :: located (position + p.source.utf8ByteSize) parts

theorem Readable.nil : Readable [] := ⟨by simp, .nil⟩

theorem readable_cons {p : Part} {parts : List Part} :
    Readable (p :: parts) ↔
      p.Readable ∧ Readable parts ∧ ∀ q ∈ parts.head?, ¬ (p.isText ∧ q.isText) := by
  simp only [Readable, List.forall_mem_cons, List.isChain_cons]
  tauto

theorem toList_source_cons (p : Part) (parts : List Part) :
    (source (p :: parts)).toList = p.source.toList ++ (source parts).toList := String.toList_append

theorem toList_source_placeholder (before name after : String) (rest : List Char) :
    (Part.placeholder before name after).source.toList ++ rest =
      '<' :: '%' :: '=' :: (before.toList ++ (name.toList ++ (after.toList ++ '%' :: '>' :: rest))) := by
  simp [Part.source]

theorem Part.Readable.isPlaceholder {before name after : String}
    (h : (Part.placeholder before name after).Readable) (rest : List Char) :
    IsPlaceholder ((Part.placeholder before name after).source.toList ++ rest) name.toList rest :=
  ⟨before.toList, after.toList, List.all_eq_true.1 h.1, h.2.1, List.all_eq_true.1 h.2.2,
    toList_source_placeholder before name after rest⟩

/-- A placeholder is the source of a part. -/
theorem IsPlaceholder.exists_part {cs name rest : List Char} (h : IsPlaceholder cs name rest) :
    ∃ before after, (Part.placeholder before (.ofList name) after).Readable ∧
      cs = (Part.placeholder before (.ofList name) after).source.toList ++ rest := by
  obtain ⟨before, after, hb, hn, ha, rfl⟩ := h
  refine ⟨.ofList before, .ofList after, ⟨?_, ?_, ?_⟩, ?_⟩
  · rwa [String.toList_ofList, List.all_eq_true]
  · rwa [String.toList_ofList]
  · rwa [String.toList_ofList, List.all_eq_true]
  · simp only [toList_source_placeholder, String.toList_ofList]

/-! ## Parts are read off one after the other -/

/-- A text that ends in front of these characters is not read on into them. -/
def EndsText (cs : List Char) : Prop := cs = [] ∨ ∃ rest, cs = '<' :: '%' :: rest

theorem plain_nil : Plain [] := plain_of_not_mem (by simp)

theorem segmentsFrom_nil (position : Nat) : segmentsFrom position [] = .ok [] :=
  segmentsFrom_plain position plain_nil

theorem segmentsFrom_text (position : Nat) {s : String} {cs : List Char} (hs : (Part.text s).Readable)
    (hcs : EndsText cs) :
    segmentsFrom position (s.toList ++ cs) =
      (segmentsFrom (position + width s.toList) cs).map (.text s :: ·) := by
  obtain ⟨hne, hplain⟩ := hs
  have htext : textSegment s.toList = [.text s] := by
    rw [textSegment, if_neg (by simpa using hne), String.ofList_toList]
  rcases hcs with rfl | ⟨rest, rfl⟩
  · rw [List.append_nil, segmentsFrom_plain position hplain, segmentsFrom_nil, htext]
    rfl
  · cases hp : placeholder? ('<' :: '%' :: rest) with
    | none =>
      rw [segmentsFrom_broken position hplain hp]
      exact congrArg (Except.map _) (segmentsFrom_broken _ plain_nil hp).symm
    | some p =>
      obtain ⟨name, after⟩ := p
      have hrest := segmentsFrom_placeholder (position + width s.toList) plain_nil hp
      rw [List.nil_append, width, Nat.add_zero] at hrest
      rw [segmentsFrom_placeholder position hplain hp, hrest, htext]
      cases segmentsFrom _ after <;> rfl

theorem segmentsFrom_tag (position : Nat) {before name after : String}
    (hp : (Part.placeholder before name after).Readable) (cs : List Char) :
    segmentsFrom position ((Part.placeholder before name after).source.toList ++ cs) =
      (segmentsFrom (position + width (Part.placeholder before name after).source.toList) cs).map
        (.placeholder name position :: ·) := by
  have hread := placeholder?_eq_some_iff.2 (hp.isPlaceholder cs)
  have h := segmentsFrom_placeholder position plain_nil hread
  rw [List.nil_append] at h
  rw [h, width, Nat.add_zero, width_append, Nat.add_sub_cancel, String.ofList_toList]
  rfl

theorem Readable.endsText {p : Part} {parts : List Part} (h : Readable (p :: parts)) (hp : p.isText)
    {cs : List Char} (hcs : EndsText cs) : EndsText ((source parts).toList ++ cs) := by
  cases parts with
  | nil => exact hcs
  | cons q parts =>
    cases q with
    | text s => exact absurd ⟨hp, rfl⟩ ((readable_cons.1 h).2.2 _ rfl)
    | placeholder before name after =>
      rw [toList_source_cons, List.append_assoc, toList_source_placeholder]
      exact .inr ⟨_, rfl⟩

/-- The parts of a template are read off, and reading goes on behind them. -/
theorem segmentsFrom_source {parts : List Part} (h : Readable parts) (position : Nat) {cs : List Char}
    (hcs : EndsText cs) :
    segmentsFrom position ((source parts).toList ++ cs) =
      (segmentsFrom (position + width (source parts).toList) cs).map (located position parts ++ ·) := by
  induction parts generalizing position with
  | nil =>
    have hnil : position + width (source []).toList = position := rfl
    rw [hnil]
    cases hread : segmentsFrom position cs <;> exact hread
  | cons p parts ih =>
    obtain ⟨hp, hparts, -⟩ := readable_cons.1 h
    have hpart : segmentsFrom position (p.source.toList ++ ((source parts).toList ++ cs)) =
        (segmentsFrom (position + width p.source.toList) ((source parts).toList ++ cs)).map
          (p.segment position :: ·) := by
      cases p with
      | text s => exact segmentsFrom_text position hp (h.endsText rfl hcs)
      | placeholder before name after => exact segmentsFrom_tag position hp _
    rw [toList_source_cons, List.append_assoc, hpart, ih hparts, width_append, ← Nat.add_assoc, located, width_toList]
    cases segmentsFrom _ cs <;> rfl

theorem parse_source {parts : List Part} (h : Readable parts) : parse (source parts) = .ok (located 0 parts) := by
  have hread := segmentsFrom_source h 0 (.inl rfl)
  rw [List.append_nil, segmentsFrom_nil] at hread
  rw [parse, hread, Except.map, List.append_nil]

/-! ## Every text is made of parts, or stops behind some -/

/-- Parts behind a text, if there is any text. -/
theorem exists_parts_text {text : List Char} (ht : Plain text) {parts : List Part} (h : Readable parts)
    (hhead : ∀ q ∈ parts.head?, ¬ q.isText) :
    ∃ parts', Readable parts' ∧ (source parts').toList = text ++ (source parts).toList := by
  by_cases hne : text = []
  · exact ⟨parts, h, by rw [hne, List.nil_append]⟩
  · refine ⟨.text (.ofList text) :: parts, readable_cons.2 ⟨⟨?_, ?_⟩, h, fun q hq hpq => hhead q hq hpq.2⟩, ?_⟩
    · intro he
      exact hne (by rw [← String.toList_ofList (l := text), he]; rfl)
    · rwa [String.toList_ofList]
    · rw [toList_source_cons, Part.source, String.toList_ofList]

theorem parts_or_broken (cs : List Char) :
    ∃ parts, Readable parts ∧
      (cs = (source parts).toList ∨
        ∃ rest, cs = (source parts).toList ++ '<' :: '%' :: rest ∧ placeholder? ('<' :: '%' :: rest) = none) := by
  induction cs using reading_induction with
  | plain text h =>
    obtain ⟨parts, hparts, hs⟩ := exists_parts_text h Readable.nil (by simp)
    exact ⟨parts, hparts, .inl (hs.trans (List.append_nil text)).symm⟩
  | broken text rest h hp =>
    obtain ⟨parts, hparts, hs⟩ := exists_parts_text h Readable.nil (by simp)
    have hs : (source parts).toList = text := hs.trans (List.append_nil text)
    exact ⟨parts, hparts, .inr ⟨rest, by rw [hs], hp⟩⟩
  | placeholder text cs name after h hp ih =>
    obtain ⟨parts, hparts, hafter⟩ := ih
    obtain ⟨before, blanks, hpart, rfl⟩ := (placeholder?_eq_some_iff.1 hp).exists_part
    have hnotext : ¬ (Part.placeholder before (.ofList name) blanks).isText := Bool.false_ne_true
    have hmore := readable_cons.2 ⟨hpart, hparts, fun _ _ hpq => hnotext hpq.1⟩
    obtain ⟨parts', hparts', hs⟩ := exists_parts_text h hmore (by rintro q ⟨⟩; exact hnotext)
    rw [toList_source_cons] at hs
    refine ⟨parts', hparts', ?_⟩
    rcases hafter with rfl | ⟨rest', rfl, hbroken⟩
    · exact .inl hs.symm
    · exact .inr ⟨rest', by rw [hs]; simp only [List.append_assoc], hbroken⟩

/-- A template is read as the parts that it is written from, or fails at the first
`<%` that starts no placeholder, behind parts that are read. -/
theorem parse_cases (t : String) :
    ∃ parts, Readable parts ∧
      ((t = source parts ∧ parse t = .ok (located 0 parts)) ∨
        ∃ back, t = source parts ++ "<%" ++ back ∧ placeholder? ('<' :: '%' :: back.toList) = none ∧
          parse t = .error ⟨(source parts).utf8ByteSize, faultAt ('<' :: '%' :: back.toList)⟩) := by
  obtain ⟨parts, hparts, ht | ⟨rest, ht, hbroken⟩⟩ := parts_or_broken t.toList
  · obtain rfl : t = source parts := String.toList_inj.1 ht
    exact ⟨parts, hparts, .inl ⟨rfl, parse_source hparts⟩⟩
  · refine ⟨parts, hparts, .inr ⟨.ofList rest, ?_, ?_, ?_⟩⟩
    · apply String.toList_inj.1
      simp [ht]
    · rwa [String.toList_ofList]
    · have hread := segmentsFrom_source hparts 0 (.inr ⟨rest, rfl⟩)
      have hstop := segmentsFrom_broken (0 + width (source parts).toList) plain_nil hbroken
      rw [List.nil_append] at hstop
      rw [parse, ht, hread, hstop, String.toList_ofList, Nat.zero_add, width_toList]
      rfl

/-- What is read are the segments of the parts that the template is written from. -/
theorem parts_of_parse {t : String} {segments : List Segment} (h : parse t = .ok segments) :
    ∃ parts, Readable parts ∧ t = source parts ∧ segments = located 0 parts := by
  obtain ⟨parts, hparts, ⟨ht, hread⟩ | ⟨back, -, -, hread⟩⟩ := parse_cases t
  · exact ⟨parts, hparts, ht, Except.ok.inj (h.symm.trans hread)⟩
  · cases hread.symm.trans h

/-! ## Segments written back -/

/-- What is left of a text behind a number of bytes. -/
def dropBytes (n : Nat) : List Char → List Char
  | [] => []
  | c :: cs => if n = 0 then c :: cs else dropBytes (n - c.utf8Size) cs

/-- A text up to the end of its first `%>`. -/
def throughClose : List Char → List Char
  | [] => []
  | '%' :: '>' :: _ => ['%', '>']
  | c :: cs => c :: throughClose cs

/-- The slice of a template from a position through the next `%>`. -/
def sliceAt (t : String) (position : Nat) : String := .ofList (throughClose (dropBytes position t.toList))

namespace Segment

def isText : Segment → Bool
  | text _ => true
  | placeholder .. => false

/-- A segment of a template as it stands there. -/
def source (t : String) : Segment → String
  | text s => s
  | placeholder _ position => sliceAt t position

end Segment

/-- The segments of a template, put together again. -/
def writeBack (t : String) (segments : List Segment) : String := String.join (segments.map (Segment.source t))

theorem dropBytes_width (before rest : List Char) : dropBytes (width before) (before ++ rest) = rest := by
  induction before with
  | nil => cases rest <;> simp [width, dropBytes]
  | cons c before ih =>
    have hc : c.utf8Size + width before ≠ 0 := by
      have := c.utf8Size_pos
      omega
    rw [List.cons_append, width, dropBytes, if_neg hc, Nat.add_sub_cancel_left, ih]

theorem throughClose_append {body : List Char} (h : '>' ∉ body) (rest : List Char) :
    throughClose (body ++ '%' :: '>' :: rest) = body ++ ['%', '>'] := by
  induction body with
  | nil => rfl
  | cons c body ih =>
    have hbody : '>' ∉ body := fun hm => h (List.mem_cons_of_mem c hm)
    have hopen : ∀ tail, c = '%' → body ++ '%' :: '>' :: rest = '>' :: tail → False := by
      rintro tail - htail
      cases body with
      | nil => simp at htail
      | cons x body => exact hbody (by rw [(List.cons.inj htail).1]; exact List.mem_cons_self)
    rw [List.cons_append, throughClose.eq_3 c _ hopen, ih hbody, List.cons_append]

theorem Part.Readable.not_mem_body {before name after : String}
    (h : (Part.placeholder before name after).Readable) :
    '>' ∉ '<' :: '%' :: '=' :: (before.toList ++ (name.toList ++ after.toList)) := by
  obtain ⟨hb, hn, ha⟩ := h
  rw [List.all_eq_true] at hb ha
  obtain ⟨h₁, h₂, h₃⟩ := not_mem_inside (c := '>') (by decide) (by decide) hb hn ha
  simp [h₁, h₂, h₃]

/-- The slice at a placeholder's position is the placeholder. -/
theorem sliceAt_placeholder {before name after : String} (h : (Part.placeholder before name after).Readable)
    (front back : String) :
    sliceAt (front ++ (Part.placeholder before name after).source ++ back) front.utf8ByteSize =
      (Part.placeholder before name after).source := by
  have hsource (rest : List Char) : (Part.placeholder before name after).source.toList ++ rest =
      ('<' :: '%' :: '=' :: (before.toList ++ (name.toList ++ after.toList))) ++ '%' :: '>' :: rest := by
    rw [toList_source_placeholder]
    simp
  rw [sliceAt, String.toList_append, String.toList_append, List.append_assoc, ← width_toList, dropBytes_width,
    hsource, throughClose_append h.not_mem_body, ← hsource, List.append_nil, String.ofList_toList]

theorem source_append (parts parts' : List Part) : source (parts ++ parts') = source parts ++ source parts' := by
  induction parts with
  | nil => simp [source]
  | cons p parts ih => rw [List.cons_append, source, source, ih, String.append_assoc]

/-- Some parts of a template are written back from their segments. -/
theorem writeBack_located {parts : List Part} (h : ∀ p ∈ parts, p.Readable) (front back : String) :
    writeBack (front ++ source parts ++ back) (located front.utf8ByteSize parts) = source parts := by
  induction parts generalizing front with
  | nil => rfl
  | cons p parts ih =>
    obtain ⟨hp, hparts⟩ := List.forall_mem_cons.1 h
    have hpart : (p.segment front.utf8ByteSize).source (front ++ source (p :: parts) ++ back) = p.source := by
      cases p with
      | text s => rfl
      | placeholder before name after =>
        have hslice := sliceAt_placeholder hp front (source parts ++ back)
        rw [Part.segment, Segment.source, source]
        simpa only [String.append_assoc] using hslice
    have hsource : front ++ p.source ++ source parts = front ++ source (p :: parts) := String.append_assoc
    have hrest := ih hparts (front ++ p.source)
    rw [String.utf8ByteSize_append, hsource] at hrest
    rw [located, writeBack, List.map_cons, String.join_cons, hpart]
    exact congrArg (p.source ++ ·) hrest

theorem map_isText_located (position : Nat) (parts : List Part) :
    (located position parts).map Segment.isText = parts.map Part.isText := by
  induction parts generalizing position with
  | nil => rfl
  | cons p parts ih =>
    rw [located, List.map_cons, List.map_cons, ih]
    cases p <;> rfl

/-- What stands before a segment comes from the parts before its part, and they give it its position. -/
theorem located_eq_append {position : Nat} {parts : List Part} {before after : List Segment} {x : Segment}
    (h : located position parts = before ++ x :: after) :
    ∃ front p back, parts = front ++ p :: back ∧ before = located position front ∧
      x = p.segment (position + (source front).utf8ByteSize) := by
  induction parts generalizing position before with
  | nil => simp [located] at h
  | cons p parts ih =>
    cases before with
    | nil => exact ⟨[], p, parts, rfl, rfl, (List.cons.inj h).1.symm⟩
    | cons y before =>
      obtain ⟨rfl, hrest⟩ := List.cons.inj h
      obtain ⟨front, p', back, rfl, rfl, rfl⟩ := ih hrest
      refine ⟨p :: front, p', back, rfl, rfl, ?_⟩
      rw [source, String.utf8ByteSize_append, Nat.add_assoc]

/-- A placeholder among the segments of readable parts comes from one of them, and
its position is the length of what is written before that. -/
theorem located_eq_append_placeholder {parts : List Part} {before after : List Segment} {name : String}
    {position : Nat} (hparts : ∀ p ∈ parts, p.Readable)
    (h : located 0 parts = before ++ .placeholder name position :: after) :
    ∃ front blanks blanks' back, (∀ p ∈ front, p.Readable) ∧ (Part.placeholder blanks name blanks').Readable ∧
      before = located 0 front ∧ position = (source front).utf8ByteSize ∧
      source parts = source front ++ (Part.placeholder blanks name blanks').source ++ source back := by
  obtain ⟨front, p, back, rfl, rfl, hseg⟩ := located_eq_append h
  cases p with
  | text => cases hseg
  | placeholder blanks name' blanks' =>
    cases hseg
    refine ⟨front, blanks, blanks', back, fun q hq => hparts q (List.mem_append_left _ hq),
      hparts _ (List.mem_append_right _ List.mem_cons_self), rfl, Nat.zero_add _, ?_⟩
    rw [source_append, source, String.append_assoc]

/-- A template that is read is its segments, each text as it is and each placeholder
as the slice at its position; the texts are not empty, hold no `<%` and are kept
apart by placeholders, and a position counts the bytes before it. The other way round,
readable parts are read as they were written, whatever blanks stand in them. -/
theorem parse_rebuilds :
    (∀ t segments, parse t = .ok segments →
      writeBack t segments = t ∧
      (∀ s, .text s ∈ segments → s ≠ "" ∧ ¬ ['<', '%'] <:+: s.toList) ∧
      (segments.IsChain fun x y => ¬ (x.isText ∧ y.isText)) ∧
      ∀ before name position after, segments = before ++ .placeholder name position :: after →
        position = (writeBack t before).utf8ByteSize ∧
        IsPlaceholder (sliceAt t position).toList name.toList []) ∧
    ∀ parts, Readable parts → parse (source parts) = .ok (located 0 parts) := by
  refine ⟨fun t segments h => ?_, fun parts hparts => parse_source hparts⟩
  obtain ⟨parts, ⟨hparts, hchain⟩, rfl, rfl⟩ := parts_of_parse h
  refine ⟨?_, fun s hs => ?_, ?_, fun before name position after hsplit => ?_⟩
  · simpa using writeBack_located hparts "" ""
  · obtain ⟨before, after, hsplit⟩ := List.append_of_mem hs
    obtain ⟨front, p, back, rfl, -, hseg⟩ := located_eq_append hsplit
    cases p with
    | text s' =>
      cases hseg
      exact hparts _ (List.mem_append_right _ List.mem_cons_self)
    | placeholder => cases hseg
  · rw [← List.isChain_map (R := fun a b : Bool => ¬ (a ∧ b)) Segment.isText, map_isText_located, List.isChain_map]
    exact hchain
  · obtain ⟨front, blanks, blanks', back, hfront, hpart, rfl, rfl, ht⟩ := located_eq_append_placeholder hparts hsplit
    refine ⟨?_, ?_⟩
    · have hwritten := writeBack_located hfront "" ((Part.placeholder blanks name blanks').source ++ source back)
      rw [String.empty_append, ← String.append_assoc, ← ht] at hwritten
      exact congrArg String.utf8ByteSize hwritten.symm
    · rw [ht, sliceAt_placeholder hpart]
      simpa using hpart.isPlaceholder []

/-- Texts that end in `<` or begin like the end of a placeholder, and letters of two bytes. -/
theorem parse_rebuilds_tight :
    let parts : List Part := [.text "é<", .placeholder " " "Where" "\t", .text "%>é", .placeholder "" "Größe" ""]
    let t := "é<<%= Where\t%>%>é<%=Größe%>"
    let segments : List Segment :=
      [.text "é<", .placeholder "Where" 3, .text "%>é", .placeholder "Größe" 19]
    Readable parts ∧ parse t = .ok segments ∧ writeBack t segments = t ∧
      sliceAt t 19 = "<%=Größe%>" := by
  intro parts t segments
  have hparts : Readable parts := by decide
  have hparse : parse t = .ok segments := parse_rebuilds.2 parts hparts
  exact ⟨hparts, hparse, (parse_rebuilds.1 t segments hparse).1, by decide⟩

end Template

end RowQuery
