import MetricBundle.Proofs.OwnNames
import MetricBundle.Proofs.SampleText

/-!
# Families can be read off a text

A text has one family after the other, and nothing stands between them.  Yet it can be cut into the
families again: whatever a line is made of, it has no line break but the one at its end, so the text
gives the lines; and only the first line of a family begins with `# HELP `, since the second one
begins with `# TYPE ` and those of samples with the name of the metric.  The first line also gives
the name, which has no space in it.

So two texts are equal only if they are texts of the same families, as far as the names and the
texts of these go (`text_eq_iff`).  For the families no more is needed than that their names and
label names are valid and that they have a help text (`Family.Legible`).

Both steps are the same cut: of a list of blocks, each of which has a mark at its first place and
nowhere else, the flattened list gives the blocks (`eq_of_flatten_eq`).
-/

namespace MetricBundle

/-! ## Blocks -/

section Blocks

variable {α : Type} (mark : α → Bool)

/-- The first one of the block has a mark, and no other one has. -/
def Marked (block : List α) : Prop :=
  ∃ first rest, block = first :: rest ∧ mark first = true ∧ ∀ x ∈ rest, mark x = false

/-- Where nothing has a mark until the rest begins, which is where the first mark is, the rest is
found by looking for a mark. -/
theorem append_inj_of_marks {front front' rest rest' : List α}
    (hfront : ∀ x ∈ front, mark x = false) (hfront' : ∀ x ∈ front', mark x = false)
    (hrest : ∀ x ∈ rest.head?, mark x = true) (hrest' : ∀ x ∈ rest'.head?, mark x = true)
    (h : front ++ rest = front' ++ rest') : front = front' ∧ rest = rest' := by
  have htake {front rest : List α} (hfront : ∀ x ∈ front, mark x = false)
      (hrest : ∀ x ∈ rest.head?, mark x = true) :
      (front ++ rest).takeWhile (fun x => !mark x) = front := by
    rw [List.takeWhile_append_of_pos (by simpa using hfront)]
    cases rest with
    | nil => simp
    | cons x rest => simp [hrest x rfl]
  have hsame : front = front' := by
    rw [← htake hfront hrest, h, htake hfront' hrest']
  subst hsame
  exact ⟨rfl, List.append_cancel_left h⟩

theorem mark_head?_flatten {mark : α → Bool} {blocks : List (List α)}
    (h : ∀ b ∈ blocks, Marked mark b) : ∀ x ∈ blocks.flatten.head?, mark x = true := by
  cases blocks with
  | nil => exact fun x hx => nomatch hx
  | cons b blocks =>
    obtain ⟨first, rest, rfl, hfirst, -⟩ := h b List.mem_cons_self
    intro x hx
    obtain rfl : first = x := by simpa using hx
    exact hfirst

/-- **Blocks that begin with their only mark can be told from their concatenation.** -/
theorem eq_of_flatten_eq {blocks blocks' : List (List α)} (h : ∀ b ∈ blocks, Marked mark b)
    (h' : ∀ b ∈ blocks', Marked mark b) (heq : blocks.flatten = blocks'.flatten) :
    blocks = blocks' := by
  induction blocks generalizing blocks' with
  | nil =>
    cases blocks' with
    | nil => rfl
    | cons b' blocks' =>
      obtain ⟨first, rest, rfl, -, -⟩ := h' b' List.mem_cons_self
      cases heq
  | cons b blocks ih =>
    obtain ⟨first, rest, rfl, -, hrest⟩ := h b List.mem_cons_self
    cases blocks' with
    | nil => cases heq
    | cons b' blocks' =>
      obtain ⟨first', rest', rfl, -, hrest'⟩ := h' b' List.mem_cons_self
      have hblocks := (List.forall_mem_cons.mp h).2
      have hblocks' := (List.forall_mem_cons.mp h').2
      obtain ⟨rfl, hrests⟩ := List.cons.inj heq
      obtain ⟨rfl, hflat⟩ := append_inj_of_marks mark hrest hrest' (mark_head?_flatten hblocks)
        (mark_head?_flatten hblocks') hrests
      rw [ih hblocks hblocks' hflat]

end Blocks

/-! ## Characters -/

/-- There is no line break in the text. -/
def Unbroken (s : String) : Prop := '\n' ∉ s.toList

instance : DecidablePred Unbroken := fun s => inferInstanceAs (Decidable ('\n' ∉ s.toList))

theorem Unbroken.append {s s' : String} (h : Unbroken s) (h' : Unbroken s') :
    Unbroken (s ++ s') := by
  rw [Unbroken, String.toList_append, List.mem_append, not_or]
  exact ⟨h, h'⟩

namespace Decimal

/-- Decimal text has nothing in it but digits and the point. -/
theorem mem_positional {d : Decimal} {c : Char} (h : c ∈ d.positional) :
    c.isDigit = true ∨ c = '.' := by
  have hdigits {c : Char} (hc : c ∈ Nat.toDigits 10 d.digits) : c.isDigit = true :=
    Nat.isDigit_of_mem_toDigits (by decide) (by decide) hc
  have hzeros {n : Nat} {c : Char} (hc : c ∈ List.replicate n '0') : c.isDigit = true := by
    rw [List.eq_of_mem_replicate hc]
    rfl
  unfold positional at h
  simp only at h
  split at h
  · rcases List.mem_append.mp h with h | h
    · exact .inl (hdigits h)
    · exact .inl (hzeros h)
  · split at h
    · rcases List.mem_append.mp h with h | h
      · exact .inl (hdigits (List.mem_of_mem_take h))
      · rcases List.mem_cons.mp h with rfl | h
        · exact .inr rfl
        · exact .inl (hdigits (List.mem_of_mem_drop h))
    · simp only [List.cons_append, List.mem_cons, List.mem_append] at h
      rcases h with rfl | rfl | h | h
      · exact .inl rfl
      · exact .inr rfl
      · exact .inl (hzeros h)
      · exact .inl (hdigits h)

end Decimal

namespace Number

theorem unbroken_magnitudeText (x : Number) : '\n' ∉ x.magnitudeText := by
  unfold magnitudeText
  split
  · decide
  · simp only
    split
    · decide
    · intro h
      rcases Decimal.mem_positional h with h | h
      · exact absurd h (by decide)
      · exact absurd h (by decide)

theorem unbroken_text (x : Number) : Unbroken x.text := by
  unfold text Unbroken
  split
  · decide
  · split
    · rw [String.toList_ofList, List.mem_cons, not_or]
      exact ⟨by decide, x.unbroken_magnitudeText⟩
    · rw [String.toList_ofList]
      exact x.unbroken_magnitudeText

end Number

theorem isNamePart_of_mem {name : String} (h : isMetricName name = true) {c : Char}
    (hc : c ∈ name.toList) : isNamePart c = true :=
  (isWord_iff.mp h).2 c hc

theorem unbroken_of_isMetricName {name : String} (h : isMetricName name = true) :
    Unbroken name :=
  fun hbreak => absurd (isNamePart_of_mem h hbreak) (by decide)

theorem unbroken_of_isLabelName {name : String} (h : isLabelName name = true) : Unbroken name := by
  intro hbreak
  exact absurd ((isWord_iff.mp h).2 '\n' hbreak) (by decide)

namespace Exposition

theorem unbroken_escape (quotes : Bool) (s : String) : Unbroken (escape quotes s) := by
  rw [Unbroken, escape, String.toList_ofList, List.mem_flatMap]
  rintro ⟨c, -, hc⟩
  split_ifs at hc with hbreak
  · exact absurd hc (by decide)
  · exact absurd hc (by decide)
  · exact absurd hc (by decide)
  · exact hbreak (List.mem_singleton.mp hc).symm

theorem unbroken_label {name value : String} (h : Unbroken name) : Unbroken (label name value) :=
  ((h.append (by decide)).append (unbroken_escape true value)).append (by decide)

theorem unbroken_labelBlock {labels : List (String × String)} (h : ∀ p ∈ labels, Unbroken p.1) :
    Unbroken (labelBlock labels) := by
  cases labels with
  | nil => exact (by decide : Unbroken "")
  | cons p labels =>
    have hlisted : '\n' ∉ listed (p :: labels) := by
      rw [listed, List.mem_flatMap]
      rintro ⟨q, hq, hbreak⟩
      rcases List.mem_cons.mp hbreak with hbreak | hbreak
      · exact absurd hbreak (by decide)
      · exact unbroken_label (h q hq) hbreak
    rw [Unbroken, toList_labelBlock, List.mem_append, List.mem_cons]
    rintro ((hbreak | hbreak) | hbreak)
    · exact absurd hbreak (by decide)
    · exact hlisted (List.mem_of_mem_tail hbreak)
    · exact absurd hbreak (by decide)

/-! ## Lines -/

/-- The text is one line. -/
def IsLine (line : String) : Prop := ∃ content, Unbroken content ∧ line = content ++ "\n"

/-- **Lines can be read off the text that they make.** -/
theorem eq_of_join_eq {lines lines' : List String} (h : ∀ l ∈ lines, IsLine l)
    (h' : ∀ l ∈ lines', IsLine l) (heq : String.join lines = String.join lines') :
    lines = lines' := by
  -- from its end, a line is a block that begins with its only line break
  have hmarked {lines : List String} (h : ∀ l ∈ lines, IsLine l) :
      ∀ b ∈ (lines.map fun l => l.toList.reverse).reverse, Marked (· == '\n') b := by
    intro b hb
    obtain ⟨l, hl, rfl⟩ := List.mem_map.mp (List.mem_reverse.mp hb)
    obtain ⟨content, hcontent, rfl⟩ := h l hl
    refine ⟨'\n', content.toList.reverse, by simp, rfl, fun c hc => ?_⟩
    rw [beq_eq_false_iff_ne]
    rintro rfl
    exact hcontent (List.mem_reverse.mp hc)
  have hreversed (lines : List String) :
      (lines.map fun l => l.toList.reverse).reverse.flatten =
        (String.join lines).toList.reverse := by
    rw [String.toList_join, List.flatMap_def, List.reverse_flatten, List.map_map]
    rfl
  have hblocks := eq_of_flatten_eq (· == '\n') (hmarked h) (hmarked h')
    (by rw [hreversed, hreversed, heq])
  refine List.map_injective_iff.mpr (fun l l' hl => ?_) (List.reverse_injective hblocks)
  exact String.toList_inj.mp (List.reverse_injective hl)

/-- What the name of a line ends with, if it is not the name of the family itself. -/
def lineEndings : List String := ["", "_bucket", "_sum", "_count"]

/-- The line has the name with one of the endings, the labels and perhaps one more, and a value. -/
def IsValueLine (name : String) (labels : List (String × String)) (line : String) : Prop :=
  ∃ ending ∈ lineEndings, ∃ own x, line = valueLine (name ++ ending) (labels ++ own) x ∧
    ∀ p ∈ own, p.1 = bucketLabel ∨ p.1 = quantileLabel

section ValueLines

variable {name line : String} {labels : List (String × String)}

theorem isValueLine_of_mem_totalLines {sum : Number} {count : Nat}
    (h : line ∈ totalLines name labels sum count) : IsValueLine name labels line := by
  rcases List.mem_pair.mp h with rfl | rfl
  · exact ⟨"_sum", by decide, [], sum, by rw [List.append_nil], by simp⟩
  · exact ⟨"_count", by decide, [], Number.ofNat count, by rw [List.append_nil], by simp⟩

theorem isValueLine_of_mem_bucketLines {buckets : List (Number × Nat)} {count : Nat}
    (h : line ∈ bucketLines name labels buckets count) : IsValueLine name labels line := by
  have hline (bound : String) (n : Nat) : IsValueLine name labels
      (valueLine (name ++ "_bucket") (labels ++ [(bucketLabel, bound)]) (Number.ofNat n)) :=
    ⟨"_bucket", by decide, [(bucketLabel, bound)], Number.ofNat n, rfl, by simp⟩
  rcases List.mem_append.mp h with h | h
  · obtain ⟨b, -, rfl⟩ := List.mem_map.mp h
    exact hline _ _
  · split at h
    · cases h
    · rw [List.mem_singleton.mp h]
      exact hline _ _

theorem isValueLine_of_mem {s : Sample} (h : line ∈ sampleLines name s) :
    IsValueLine name s.labels line := by
  unfold sampleLines at h
  split at h
  case h_1 x hreading =>
    rw [List.mem_singleton.mp h]
    exact ⟨"", by decide, [], x, by rw [List.append_nil, String.append_empty], by simp⟩
  case h_2 buckets sum count hreading =>
    rcases List.mem_append.mp h with h | h
    · exact isValueLine_of_mem_bucketLines h
    · exact isValueLine_of_mem_totalLines h
  case h_3 quantiles sum count hreading =>
    rcases List.mem_append.mp h with h | h
    · obtain ⟨q, -, rfl⟩ := List.mem_map.mp h
      exact ⟨"", by decide, [(quantileLabel, q.1.text)], q.2, by rw [String.append_empty], by simp⟩
    · exact isValueLine_of_mem_totalLines h

theorem IsValueLine.isLine (h : IsValueLine name labels line) (hname : Unbroken name)
    (hlabels : ∀ p ∈ labels, Unbroken p.1) : IsLine line := by
  obtain ⟨ending, hending, own, x, rfl, hown⟩ := h
  have hending : Unbroken ending :=
    (by decide : ∀ ending ∈ lineEndings, Unbroken ending) ending hending
  have hblock : Unbroken (labelBlock (labels ++ own)) := by
    refine unbroken_labelBlock (List.forall_mem_append.mpr ⟨hlabels, fun p hp => ?_⟩)
    rcases hown p hp with hp | hp
    all_goals
      rw [hp]
      decide
  exact ⟨_, (((hname.append hending).append hblock).append (by decide)).append x.unbroken_text, rfl⟩

/-- The line begins with the name. -/
theorem IsValueLine.exists_append (h : IsValueLine name labels line) :
    ∃ rest, line.toList = name.toList ++ rest := by
  obtain ⟨ending, -, own, x, rfl, -⟩ := h
  simp only [valueLine, String.append_assoc, String.toList_append]
  exact ⟨_, rfl⟩

end ValueLines

end Exposition

/-! ## Families -/

/-- The names in the family are valid, and it has a help text. -/
structure Family.Legible (f : Family) : Prop where
  name_valid : isMetricName f.name = true
  help_ne : f.help.isEmpty = false
  labels_valid : ∀ s ∈ f.samples, ∀ p ∈ s.labels, isLabelName p.1 = true

namespace Exposition

variable {f : Family}

/-- The lines of a family. -/
def familyLines (f : Family) : List String := headLines f ++ f.samples.flatMap (sampleLines f.name)

/-- The line with the help text. -/
def helpLine (f : Family) : String :=
  "# HELP " ++ f.name ++ " " ++ escape false f.help ++ "\n"

/-- The line with the type. -/
def typeLine (f : Family) : String :=
  "# TYPE " ++ f.name ++ " " ++ f.instrument.name ++ "\n"

/-- What a line with a help text begins with. -/
def helpMark : List Char := "# HELP ".toList

def isHelpLine (line : String) : Bool := helpMark.isPrefixOf line.toList

theorem familyLines_eq (h : f.Legible) :
    familyLines f = helpLine f :: typeLine f :: f.samples.flatMap (sampleLines f.name) := by
  simp only [familyLines, headLines, h.help_ne]
  rfl

theorem isHelpLine_helpLine (f : Family) : isHelpLine (helpLine f) = true := by
  rw [isHelpLine, List.isPrefixOf_iff_prefix, helpLine]
  simp only [String.append_assoc, String.toList_append]
  exact List.prefix_append _ _

theorem not_isHelpLine_typeLine (f : Family) : isHelpLine (typeLine f) = false := by
  rw [isHelpLine, typeLine]
  simp only [String.append_assoc, String.toList_append]
  rfl

/-- A sample's line begins with the name of the metric, so not with `#`. -/
theorem not_isHelpLine_of_mem (h : f.Legible) {line : String}
    (hline : line ∈ f.samples.flatMap (sampleLines f.name)) : isHelpLine line = false := by
  obtain ⟨s, -, hline⟩ := List.mem_flatMap.mp hline
  obtain ⟨rest, hrest⟩ := (isValueLine_of_mem hline).exists_append
  obtain ⟨c, hc, hstart⟩ := (isWord_iff.mp h.name_valid).1
  obtain ⟨cs, hname⟩ := List.head?_eq_some_iff.mp hc
  have hne : '#' ≠ c := by
    rintro rfl
    exact absurd hstart (by decide)
  rw [isHelpLine, hrest, hname]
  exact Bool.and_eq_false_iff.mpr (.inl (beq_eq_false_iff_ne.mpr hne))

theorem unbroken_instrument (i : Instrument) : Unbroken i.name := by
  cases i <;> decide

theorem isLine_of_mem (h : f.Legible) : ∀ line ∈ familyLines f, IsLine line := by
  have hname := unbroken_of_isMetricName h.name_valid
  rw [familyLines_eq h, List.forall_mem_cons, List.forall_mem_cons]
  refine ⟨⟨_, ?_, rfl⟩, ⟨_, ?_, rfl⟩, fun line hline => ?_⟩
  · exact (((Unbroken.append (by decide) hname).append (by decide))).append
      (unbroken_escape false f.help)
  · exact (((Unbroken.append (by decide) hname).append (by decide))).append
      (unbroken_instrument f.instrument)
  · obtain ⟨s, hs, hline⟩ := List.mem_flatMap.mp hline
    exact (isValueLine_of_mem hline).isLine hname fun p hp =>
      unbroken_of_isLabelName (h.labels_valid s hs p hp)

/-- Only the first line of a family has a help text. -/
theorem marked_familyLines (h : f.Legible) : Marked isHelpLine (familyLines f) := by
  refine ⟨_, _, familyLines_eq h, isHelpLine_helpLine f, ?_⟩
  rw [List.forall_mem_cons]
  exact ⟨not_isHelpLine_typeLine f, fun line hline => not_isHelpLine_of_mem h hline⟩

theorem name_eq_of_helpLine_eq {g : Family} (hf : f.Legible) (hg : g.Legible)
    (h : helpLine f = helpLine g) : f.name = g.name := by
  -- a name ends where the first space is
  have hspace {f : Family} (hf : f.Legible) : ∀ c ∈ f.name.toList, (c == ' ') = false := by
    intro c hc
    rw [beq_eq_false_iff_ne]
    rintro rfl
    exact absurd (isNamePart_of_mem hf.name_valid hc) (by decide)
  have hchars := congrArg String.toList h
  simp only [helpLine, String.append_assoc, String.toList_append] at hchars
  have hnames := append_inj_of_marks (· == ' ') (hspace hf) (hspace hg)
    (by simp) (by simp) (List.append_cancel_left hchars)
  exact String.toList_inj.mp hnames.1

theorem text_eq_join (families : List Family) :
    text families = String.join (families.flatMap familyLines) := by
  rw [← String.toList_inj, text, String.toList_join, String.toList_join, List.flatMap_map,
    List.flatMap_assoc]
  refine congrArg (families.flatMap ·) (funext fun f => ?_)
  rw [familyText, String.toList_join, familyLines]

/-- The name of a family and its text. -/
def nameAndText (f : Family) : String × String := (f.name, familyText f)

/-- The lines of a family give its name and its text. -/
theorem nameAndText_eq_of_lines {g : Family} (hf : f.Legible) (hg : g.Legible)
    (h : familyLines f = familyLines g) : nameAndText f = nameAndText g := by
  refine Prod.ext ?_ (congrArg String.join h)
  rw [familyLines_eq hf, familyLines_eq hg] at h
  exact name_eq_of_helpLine_eq hf hg (List.cons.inj h).1

/-- **Texts are equal just if they are texts of the same families**, as far as names and texts
go. -/
theorem text_eq_iff {families families' : List Family} (h : ∀ f ∈ families, f.Legible)
    (h' : ∀ f ∈ families', f.Legible) :
    text families = text families' ↔ families.map nameAndText = families'.map nameAndText := by
  have htexts (families : List Family) :
      text families = String.join ((families.map nameAndText).map Prod.snd) := by
    rw [List.map_map]
    rfl
  refine ⟨fun heq => ?_, fun hpairs => by rw [htexts, htexts, hpairs]⟩
  have hlines {families : List Family} (h : ∀ f ∈ families, f.Legible) :
      ∀ line ∈ families.flatMap familyLines, IsLine line := by
    intro line hline
    obtain ⟨f, hf, hline⟩ := List.mem_flatMap.mp hline
    exact isLine_of_mem (h f hf) line hline
  have hmarked {families : List Family} (h : ∀ f ∈ families, f.Legible) :
      ∀ b ∈ families.map familyLines, Marked isHelpLine b :=
    List.forall_mem_map.mpr fun f hf => marked_familyLines (h f hf)
  have hflat : families.flatMap familyLines = families'.flatMap familyLines :=
    eq_of_join_eq (hlines h) (hlines h') (by rw [← text_eq_join, ← text_eq_join, heq])
  have hblocks := eq_of_flatten_eq isHelpLine (hmarked h) (hmarked h') hflat
  refine List.ext_getElem (by simpa using congrArg List.length hblocks) fun i hi hi' => ?_
  rw [List.length_map] at hi hi'
  rw [List.getElem_map, List.getElem_map]
  refine nameAndText_eq_of_lines (h _ (List.getElem_mem hi)) (h' _ (List.getElem_mem hi')) ?_
  have hline := List.getElem_of_eq hblocks (i := i) (by simpa using hi)
  simpa using hline

end Exposition

end MetricBundle
