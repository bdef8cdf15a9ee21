import MetricBundle.Proofs.TagLegality
import MetricBundle.Proofs.TagMap

/-!
# Label names

The label names of a vector are one text, with a comma between two names and white space around each
of them.  Names are read back from the text in which they are written (`Field.labelNames_joined`),
and there is no text that is not written like this (`Field.exists_joined`), so reading and writing
are inverse to each other.  The one list that is not read back without a fault is that of an empty
name alone: its text is blank, which is how no names at all are written.
-/

namespace MetricBundle

/-! ## Cutting and joining -/

/-- A text is cut in the same way as any list. -/
theorem splitOn_eq (separator : Char) (cs : List Char) :
    splitOn separator cs = cs.splitOn separator := by
  rw [List.splitOn_eq_splitOnP]
  induction cs with
  | nil => rfl
  | cons c cs ih =>
    rw [List.splitOnP_cons_eq_if_modifyHead, ← ih, splitOn]
    by_cases hc : c = separator
    · rw [if_pos hc, if_pos (beq_iff_eq.mpr hc)]
    · rw [if_neg hc, if_neg (by simpa using hc)]
      cases hparts : splitOn separator cs with
      | nil => exact absurd hparts (splitOn_ne_nil separator cs)
      | cons part parts => rfl

/-- Parts without the separator are cut where they were joined. -/
theorem splitOn_intercalate {separator : Char} {parts : List (List Char)}
    (hparts : ∀ part ∈ parts, separator ∉ part) (hne : parts ≠ []) :
    splitOn separator ([separator].intercalate parts) = parts := by
  rw [splitOn_eq]
  exact List.splitOn_intercalate separator hparts hne

/-- The separator is in none of the parts. -/
theorem not_mem_of_mem_splitOn {separator : Char} {cs part : List Char}
    (h : part ∈ splitOn separator cs) : separator ∉ part := by
  induction cs generalizing part with
  | nil =>
    rw [List.mem_singleton.mp h]
    exact List.not_mem_nil
  | cons c cs ih =>
    rw [splitOn] at h
    split at h
    case isTrue =>
      rcases List.mem_cons.mp h with rfl | h
      · exact List.not_mem_nil
      · exact ih h
    case isFalse hc =>
      split at h
      case h_1 hnil => exact absurd hnil (splitOn_ne_nil separator cs)
      case h_2 first others hcut =>
        rw [hcut] at ih
        rcases List.mem_cons.mp h with rfl | h
        · refine List.not_mem_cons_of_ne_of_not_mem (Ne.symm hc) ?_
          exact ih List.mem_cons_self
        · exact ih (List.mem_cons_of_mem _ h)

/-! ## White space around a text -/

/-- White space before a text does not matter, nor does white space after it. -/
theorem trimBlank_surrounded {before after : List Char} (hbefore : before.all isBlank = true)
    (hafter : after.all isBlank = true) (cs : List Char) :
    trimBlank (before ++ cs ++ after) = trimBlank cs := by
  rw [List.all_eq_true] at hbefore hafter
  have hafter' : ∀ c ∈ after.reverse, isBlank c = true := fun c hc =>
    hafter c (List.mem_reverse.mp hc)
  rw [trimBlank, trimBlank, List.append_assoc, List.dropWhile_append_of_pos hbefore,
    List.dropWhile_append]
  by_cases hcs : cs.dropWhile isBlank = []
  · -- all of it is white space, so the text after it is all that could be left
    have hnone : after.dropWhile isBlank = [] := List.dropWhile_eq_nil_iff.mpr hafter
    simp [hcs, hnone]
  · rw [if_neg (by simpa using hcs), List.reverse_append, List.dropWhile_append_of_pos hafter']

/-- A text is what is left of it when it is trimmed, with white space around that. -/
theorem exists_surroundings (cs : List Char) :
    ∃ before after : List Char, before.all isBlank = true ∧ after.all isBlank = true ∧
      cs = before ++ trimBlank cs ++ after := by
  refine ⟨cs.takeWhile isBlank, ((cs.dropWhile isBlank).reverse.takeWhile isBlank).reverse,
    List.all_takeWhile, ?_, ?_⟩
  · rw [List.all_reverse]
    exact List.all_takeWhile
  · have hback : trimBlank cs ++ ((cs.dropWhile isBlank).reverse.takeWhile isBlank).reverse =
        cs.dropWhile isBlank := by
      rw [trimBlank, ← List.reverse_append, List.takeWhile_append_dropWhile, List.reverse_reverse]
    rw [List.append_assoc, hback, List.takeWhile_append_dropWhile]

/-- What has been trimmed has no white space around it. -/
theorem trimBlank_trimBlank (cs : List Char) : trimBlank (trimBlank cs) = trimBlank cs := by
  obtain ⟨before, after, hbefore, hafter, hcs⟩ := exists_surroundings cs
  conv_rhs => rw [hcs, trimBlank_surrounded hbefore hafter]

theorem mem_of_mem_trimBlank {cs : List Char} {c : Char} (h : c ∈ trimBlank cs) : c ∈ cs := by
  obtain ⟨before, after, -, -, hcs⟩ := exists_surroundings cs
  rw [hcs]
  exact List.mem_append_left _ (List.mem_append_right _ h)

/-! ## Written names -/

/-- A label name with the white space around it in a list of names.  The name itself has no comma
and no white space around it; it may be empty. -/
structure WrittenName where
  before : List Char
  name : String
  after : List Char
  blank_before : before.all isBlank = true
  blank_after : after.all isBlank = true
  trimmed : trimBlank name.toList = name.toList
  comma_free : ',' ∉ name.toList

namespace WrittenName

def text (w : WrittenName) : List Char := w.before ++ w.name.toList ++ w.after

/-- Names written one after the other, with commas between them. -/
def joined (ws : List WrittenName) : String := String.ofList ([','].intercalate (ws.map text))

theorem comma_not_mem_text (w : WrittenName) : ',' ∉ w.text := by
  have hblank {cs : List Char} (h : cs.all isBlank = true) : ',' ∉ cs := fun hmem => by
    cases List.all_eq_true.mp h ',' hmem
  simp only [text, List.mem_append, not_or]
  exact ⟨⟨hblank w.blank_before, w.comma_free⟩, hblank w.blank_after⟩

theorem trimBlank_text (w : WrittenName) : trimBlank w.text = w.name.toList := by
  rw [text, trimBlank_surrounded w.blank_before w.blank_after, w.trimmed]

/-- Every text without a comma is a written name. -/
theorem exists_text_eq {cs : List Char} (h : ',' ∉ cs) :
    ∃ w : WrittenName, w.text = cs ∧ w.name = String.ofList (trimBlank cs) := by
  obtain ⟨before, after, hbefore, hafter, hcs⟩ := exists_surroundings cs
  refine ⟨{
    before
    name := String.ofList (trimBlank cs)
    after
    blank_before := hbefore
    blank_after := hafter
    trimmed := by rw [String.toList_ofList, trimBlank_trimBlank]
    comma_free := ?_ }, ?_, rfl⟩
  · rw [String.toList_ofList]
    exact fun hmem => h (mem_of_mem_trimBlank hmem)
  · show before ++ (String.ofList (trimBlank cs)).toList ++ after = cs
    rw [String.toList_ofList, ← hcs]

/-- Texts without commas are written names, one by one. -/
theorem exists_map_text_eq {parts : List (List Char)} (h : ∀ part ∈ parts, ',' ∉ part) :
    ∃ ws : List WrittenName, ws.map text = parts ∧
      ws.map name = parts.map fun part => String.ofList (trimBlank part) := by
  induction parts with
  | nil => exact ⟨[], rfl, rfl⟩
  | cons part parts ih =>
    obtain ⟨hpart, hparts⟩ := List.forall_mem_cons.mp h
    obtain ⟨w, htext, hname⟩ := exists_text_eq hpart
    obtain ⟨ws, htexts, hnames⟩ := ih hparts
    exact ⟨w :: ws, by rw [List.map_cons, htext, htexts],
      by rw [List.map_cons, hname, hnames, List.map_cons]⟩

end WrittenName

namespace Field

theorem get_withTag (f : Field) (tag : Tag) (value : String) :
    (f.withTag tag value).tags.get tag = value := by
  rw [Tags.get, withTag, Tags.lookup_insert, if_pos rfl, Option.getD_some]

theorem value_labelNames (f : Field) :
    f.labelNames.value =
      (splitOn ',' (f.tags.get .labelNames).toList).map fun part =>
        String.ofList (trimBlank part) := by
  rw [labelNames, List.map_map]
  rfl

/-- **Names are read back from the text in which they are written.**  An empty name alone is a blank
text, and the only list of names with a fault. -/
theorem labelNames_joined (f : Field) {ws : List WrittenName} (hne : ws ≠ []) :
    (f.withTag .labelNames (WrittenName.joined ws)).labelNames =
      ⟨ws.map (·.name),
        if ws.map (·.name) = [""] then [.labelNamesRequired] else []⟩ := by
  have hcut : (splitOn ',' (WrittenName.joined ws).toList).map trimBlank =
      ws.map (·.name.toList) := by
    rw [WrittenName.joined, String.toList_ofList, splitOn_intercalate, List.map_map]
    · exact List.map_congr_left fun w _ => w.trimBlank_text
    · simp only [List.forall_mem_map]
      exact fun w _ => w.comma_not_mem_text
    · simpa using hne
  have halone : ws.map (·.name.toList) = [[]] ↔ ws.map (·.name) = [""] := by
    simp [List.map_eq_singleton_iff]
  simp only [labelNames, get_withTag, hcut, List.map_map, halone]
  congr 1
  exact List.map_congr_left fun w _ => String.ofList_toList

/-- **Every text writes the names that are read from it.** -/
theorem exists_joined (f : Field) :
    ∃ ws : List WrittenName, f.tags.get .labelNames = WrittenName.joined ws ∧
      f.labelNames.value = ws.map (·.name) := by
  have hparts : ∀ part ∈ splitOn ',' (f.tags.get .labelNames).toList, ',' ∉ part :=
    fun _ => not_mem_of_mem_splitOn
  obtain ⟨ws, htexts, hnames⟩ := WrittenName.exists_map_text_eq hparts
  refine ⟨ws, ?_, by rw [value_labelNames, hnames]⟩
  rw [WrittenName.joined, htexts, splitOn_eq, List.intercalate_splitOn, String.ofList_toList]

/-- **Reading label names undoes writing them.**  Names that are written with commas between them
and white space around them are read back without faults, unless they are an empty name alone.
Whatever the tag holds, there is at least one name, and one more than there are commas; it writes
these very names; and there is a fault, and a single one, just if it is blank. -/
theorem labelNames_undo_joining (f : Field) :
    (∀ ws : List WrittenName, ws ≠ [] → ws.map (·.name) ≠ [""] →
      (f.withTag .labelNames (WrittenName.joined ws)).labelNames = ⟨ws.map (·.name), []⟩) ∧
    f.labelNames.value ≠ [] ∧
    f.labelNames.value.length = (f.tags.get .labelNames).toList.count ',' + 1 ∧
    (∃ ws : List WrittenName, f.tags.get .labelNames = WrittenName.joined ws ∧
      f.labelNames.value = ws.map (·.name)) ∧
    (f.labelNames.faults.length = 1 ↔ (f.tags.get .labelNames).toList.all isBlank = true) ∧
    f.labelNames.faults =
      if (f.tags.get .labelNames).toList.all isBlank then [.labelNamesRequired] else [] := by
  refine ⟨fun ws hne halone => ?_, f.labelNames_ne_nil, ?_, f.exists_joined, ?_,
    f.faults_labelNames⟩
  · rw [f.labelNames_joined hne, if_neg halone]
  · rw [value_labelNames, List.length_map, length_splitOn]
  · rw [faults_labelNames]
    cases (f.tags.get .labelNames).toList.all isBlank <;> simp

/-- Two names with white space around them, the second one empty. -/
theorem labelNames_undo_joining_of_empty_name :
    let f := ofKind "requests" (.metric .counter .vector)
    let code : WrittenName := ⟨[' '], "code", ['\t', '\u2003'], rfl, rfl, rfl, by decide⟩
    let empty : WrittenName := ⟨['\n'], "", [], rfl, rfl, rfl, by decide⟩
    WrittenName.joined [code, empty] = " code\t\u2003,\n" ∧
      (f.withTag .labelNames " code\t\u2003,\n").labelNames = ⟨["code", ""], []⟩ := by
  intro f code empty
  obtain ⟨hread, -⟩ := labelNames_undo_joining f
  have hjoined : WrittenName.joined [code, empty] = " code\t\u2003,\n" := by decide +kernel
  refine ⟨hjoined, ?_⟩
  rw [← hjoined]
  exact hread [code, empty] (by simp) (by simp [code, empty])

end Field

end MetricBundle
