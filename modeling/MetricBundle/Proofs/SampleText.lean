import MetricBundle.Snapshot
import MetricBundle.Proofs.TelemetryRun
import Mathlib.Data.List.Perm.Basic
import Mathlib.Data.String.Basic

/-!
# Samples of summaries as text

The text of a family does not say where one sample ends and the next one begins, and label values
can hold whatever the text itself is made of.  Yet it tells the samples apart: a quote within a
value is written with a backslash, so the first quote without one ends the value (`quoted_inj`).

For samples of one summary, which all have the same label names and the same quantiles, the first
line of each gives its labels (`labels_eq_of_sampleLines`).  So the samples of a summary cannot be
put in another order without changing the text (`eq_of_samplesText`).
-/

namespace MetricBundle.Exposition

/-! ## Label values -/

/-- A character of a label value, as it is written. -/
def escapeChar (c : Char) : List Char :=
  if c = '\n' then ['\\', 'n']
  else if c = '\\' then ['\\', '\\']
  else if c = '"' then ['\\', '"']
  else [c]

theorem toList_escape (value : String) :
    (escape true value).toList = value.toList.flatMap escapeChar := by
  have hbackslash (c : Char) : c.toNat = 0x5C ↔ c = '\\' := Char.toNat_inj (d := '\\')
  have hquote (c : Char) : c.toNat = 0x22 ↔ c = '"' := Char.toNat_inj (d := '"')
  rw [escape, String.toList_ofList]
  refine congrArg (value.toList.flatMap ·) (funext fun c => ?_)
  simp only [hbackslash, hquote, true_and]
  rfl

/-- What is written for one character is not the beginning of what is written for another one. -/
theorem escapeChar_append_inj {c d : Char} {rest rest' : List Char}
    (h : escapeChar c ++ rest = escapeChar d ++ rest') : c = d ∧ rest = rest' := by
  unfold escapeChar at h
  split_ifs at h
  all_goals
    simp only [List.cons_append, List.nil_append, List.cons.injEq] at h
    grind

/-- A quote of its own is not the beginning of what is written for a character. -/
theorem escapeChar_ne_quote {c : Char} {rest rest' : List Char} :
    escapeChar c ++ rest ≠ '"' :: rest' := by
  unfold escapeChar
  split_ifs
  all_goals simp_all

/-- **The first quote that is not written with a backslash ends a label value.** -/
theorem quoted_inj {value value' rest rest' : List Char}
    (h : value.flatMap escapeChar ++ '"' :: rest = value'.flatMap escapeChar ++ '"' :: rest') :
    value = value' ∧ rest = rest' := by
  -- both values are read at once: as long as neither has ended, the next characters are the same
  induction value generalizing value' with
  | nil =>
    cases value' with
    | nil => exact ⟨rfl, (List.cons.inj h).2⟩
    | cons d value' =>
      rw [List.flatMap_cons, List.append_assoc] at h
      exact absurd h.symm escapeChar_ne_quote
  | cons c value ih =>
    rw [List.flatMap_cons, List.append_assoc] at h
    cases value' with
    | nil => exact absurd h escapeChar_ne_quote
    | cons d value' =>
      rw [List.flatMap_cons, List.append_assoc] at h
      obtain ⟨rfl, hrest⟩ := escapeChar_append_inj h
      obtain ⟨rfl, rfl⟩ := ih hrest
      exact ⟨rfl, rfl⟩

/-! ## Labels -/

theorem toList_label (name value : String) :
    (label name value).toList =
      name.toList ++ '=' :: '"' :: (value.toList.flatMap escapeChar ++ ['"']) := by
  simp [label, toList_escape]

theorem label_append_inj {name value value' : String} {rest rest' : List Char}
    (h : (label name value).toList ++ rest = (label name value').toList ++ rest') :
    value = value' ∧ rest = rest' := by
  simp only [toList_label, List.append_assoc, List.cons_append, List.nil_append] at h
  obtain ⟨-, -, h⟩ := And.imp_right List.cons.inj (List.cons.inj (List.append_cancel_left h))
  obtain ⟨hvalue, hrest⟩ := quoted_inj h
  exact ⟨String.toList_inj.mp hvalue, hrest⟩

/-- Labels as they are written, each with a comma before it. -/
def listed (labels : List (String × String)) : List Char :=
  labels.flatMap fun p => ',' :: (label p.1 p.2).toList

/-- Commas between labels are commas before all of them but the first. -/
theorem intercalate_label (p : String × String) (labels : List (String × String)) :
    [','].intercalate ((p :: labels).map fun q => (label q.1 q.2).toList) =
      (listed (p :: labels)).tail := by
  induction labels generalizing p with
  | nil => simp [listed]
  | cons q labels ih =>
    have hrest := ih q
    rw [List.map_cons] at hrest
    rw [List.map_cons, List.map_cons, List.intercalate_cons_cons, hrest]
    simp [listed]

theorem toList_labelBlock (p : String × String) (labels : List (String × String)) :
    (labelBlock (p :: labels)).toList = '\x7b' :: (listed (p :: labels)).tail ++ ['\x7d'] := by
  rw [← intercalate_label, labelBlock, if_neg (by simp), String.toList_append,
    String.toList_append, String.toList_intercalate, List.map_map]
  rfl

/-- Labels of the same names tell their values, with whatever comes behind. -/
theorem listed_append_inj {labels labels' : List (String × String)} {rest rest' : List Char}
    (hnames : labels.map Prod.fst = labels'.map Prod.fst)
    (h : listed labels ++ rest = listed labels' ++ rest') : labels = labels' := by
  induction labels generalizing labels' with
  | nil => exact (List.map_eq_nil_iff.mp hnames.symm).symm
  | cons p labels ih =>
    cases labels' with
    | nil => cases hnames
    | cons q labels' =>
      obtain ⟨hname, hnames⟩ := List.cons.inj hnames
      simp only [listed, List.flatMap_cons, List.cons_append, List.append_assoc, hname] at h
      obtain ⟨hvalue, hrest⟩ := label_append_inj (List.cons.inj h).2
      rw [Prod.ext hname hvalue, ih hnames hrest]

theorem labelBlock_append_inj {labels labels' : List (String × String)} {rest rest' : List Char}
    (hnames : labels.map Prod.fst = labels'.map Prod.fst)
    (h : (labelBlock labels).toList ++ rest = (labelBlock labels').toList ++ rest') :
    labels = labels' := by
  cases labels with
  | nil => exact (List.map_eq_nil_iff.mp hnames.symm).symm
  | cons p labels =>
    cases labels' with
    | nil => cases hnames
    | cons q labels' =>
      rw [toList_labelBlock, toList_labelBlock, List.append_assoc, List.append_assoc] at h
      have hlisted : listed (p :: labels) ++ (['\x7d'] ++ rest) =
          listed (q :: labels') ++ (['\x7d'] ++ rest') :=
        congrArg (',' :: ·) (List.cons.inj h).2
      exact listed_append_inj hnames hlisted

/-! ## Samples -/

/-- The labels that are put in front of a line's own ones can be read off the line. -/
theorem valueLine_append_inj {name : String} {labels labels' own : List (String × String)}
    {x x' : Number} {rest rest' : List Char}
    (hnames : labels.map Prod.fst = labels'.map Prod.fst)
    (h : (valueLine name (labels ++ own) x).toList ++ rest =
      (valueLine name (labels' ++ own) x').toList ++ rest') : labels = labels' := by
  simp only [valueLine, String.toList_append, List.append_assoc] at h
  have hblocks := labelBlock_append_inj (by rw [List.map_append, List.map_append, hnames])
    (List.append_cancel_left h)
  exact List.append_cancel_right hblocks

/-- The lines of a summary's sample: one for each quantile, and those with the totals. -/
theorem exists_sampleLines {s : Sample} {names : List String} {quantiles : List Number}
    (name : String) (h : s.Shows names quantiles) :
    ∃ (reported : List (Number × Number)) (sum : Number) (count : Nat),
      s.reading = .summary reported sum count ∧ reported.map Prod.fst = quantiles ∧
      sampleLines name s =
        reported.map (fun q => valueLine name (s.labels ++ [(quantileLabel, q.1.text)]) q.2)
          ++ totalLines name s.labels sum count := by
  have hquantiles := h.quantiles_eq
  unfold Reading.quantiles? at hquantiles
  unfold sampleLines
  split at hquantiles
  case h_1 reported sum count hreading =>
    rw [hreading]
    exact ⟨reported, sum, count, rfl, Option.some.inj hquantiles, rfl⟩
  case h_2 => cases hquantiles

/-- The first lines of a summary's samples are alike but for the labels. -/
theorem exists_first_line (name : String) (names : List String) (quantiles : List Number) :
    ∃ (lineName : String) (own : List (String × String)), ∀ s : Sample, s.Shows names quantiles →
      ∃ x lines, sampleLines name s = valueLine lineName (s.labels ++ own) x :: lines := by
  cases quantiles with
  | nil =>
    refine ⟨name ++ "_sum", [], fun s hs => ?_⟩
    obtain ⟨reported, sum, count, -, hreported, hlines⟩ := exists_sampleLines name hs
    obtain rfl := List.map_eq_nil_iff.mp hreported
    rw [List.append_nil]
    exact ⟨sum, _, hlines⟩
  | cons quantile quantiles =>
    refine ⟨name, [(quantileLabel, quantile.text)], fun s hs => ?_⟩
    obtain ⟨reported, sum, count, -, hreported, hlines⟩ := exists_sampleLines name hs
    obtain ⟨q, reported, rfl, rfl, -⟩ := List.map_eq_cons_iff.mp hreported
    exact ⟨q.2, _, hlines⟩

/-- The text of samples. -/
def samplesText (name : String) (samples : List Sample) : List Char :=
  (samples.flatMap (sampleLines name)).flatMap String.toList

theorem samplesText_cons (name : String) (s : Sample) (samples : List Sample) :
    samplesText name (s :: samples) =
      (sampleLines name s).flatMap String.toList ++ samplesText name samples := by
  rw [samplesText, List.flatMap_cons, List.flatMap_append]
  rfl

variable {name : String} {names : List String} {quantiles : List Number}

/-- **The text of a summary's samples gives the labels of the first one.** -/
theorem labels_eq_of_samplesText {s s' : Sample} {samples samples' : List Sample}
    (hs : s.Shows names quantiles) (hs' : s'.Shows names quantiles)
    (h : samplesText name (s :: samples) = samplesText name (s' :: samples')) :
    s.labels = s'.labels := by
  obtain ⟨lineName, own, hfirst⟩ := exists_first_line name names quantiles
  obtain ⟨x, lines, hlines⟩ := hfirst s hs
  obtain ⟨x', lines', hlines'⟩ := hfirst s' hs'
  rw [samplesText_cons, samplesText_cons, hlines, hlines', List.flatMap_cons, List.flatMap_cons,
    List.append_assoc, List.append_assoc] at h
  exact valueLine_append_inj (hs.names_eq.trans hs'.names_eq.symm) h

/-- **The samples of a summary in another order have another text**, if no two of them have the same
labels. -/
theorem eq_of_samplesText {samples samples' : List Sample} (hperm : samples'.Perm samples)
    (hshows : ∀ s ∈ samples, s.Shows names quantiles)
    (hlabels : ∀ s ∈ samples, ∀ s' ∈ samples, s.labels = s'.labels → s = s')
    (h : samplesText name samples = samplesText name samples') : samples = samples' := by
  induction samples generalizing samples' with
  | nil => exact hperm.eq_nil.symm
  | cons s samples ih =>
    cases samples' with
    | nil => exact hperm.nil_eq.symm
    | cons s' samples' =>
      have hs' : s' ∈ s :: samples := hperm.subset List.mem_cons_self
      have heq := labels_eq_of_samplesText (hshows s List.mem_cons_self) (hshows s' hs') h
      obtain rfl := hlabels s List.mem_cons_self s' hs' heq
      rw [samplesText_cons, samplesText_cons] at h
      have hshows := (List.forall_mem_cons.mp hshows).2
      have hlabels : ∀ r ∈ samples, ∀ r' ∈ samples, r.labels = r'.labels → r = r' :=
        fun r hr r' hr' => hlabels r (List.mem_cons_of_mem _ hr) r' (List.mem_cons_of_mem _ hr')
      rw [ih hperm.cons_inv hshows hlabels (List.append_cancel_left h)]

end MetricBundle.Exposition
