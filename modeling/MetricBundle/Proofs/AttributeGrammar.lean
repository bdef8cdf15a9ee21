import MetricBundle.Proofs.DerivedSchema

/-!
# The grammar of attributes

Which attributes tag a field, and with what, is said here by a grammar: an item is `skip`, or the
key of a tag, an equals sign and a single string or number (`Gives`), and a list is such items with
commas between them, perhaps with one more comma at its end (`Listed`).  No tag may be given twice.

Reading the attributes succeeds for what the grammar derives, and gives the tags of the items in
their order; and it fails for everything else with what is wrong with the first item that offends
(`Offends`), whatever comes behind it.  Reading goes through fields, attributes and items, and on
each of these levels the first that fails decides.
-/

namespace MetricBundle

namespace Attribute

/-! ## Items -/

/-- The tokens of a string or a number, and what they say. -/
inductive TagValue : List Token → List Char → Prop where
  | text (source value : List Char) : TagValue [.literal source (.text value)] value
  | integer (source digits : List Char) : TagValue [.literal source (.integer digits)] digits
  | float (source digits : List Char) : TagValue [.literal source (.float digits)] digits
  | negativeInteger (joined : Bool) (source digits : List Char) :
      TagValue [.punct '-' joined, .literal source (.integer digits)] ('-' :: digits)
  | negativeFloat (joined : Bool) (source digits : List Char) :
      TagValue [.punct '-' joined, .literal source (.float digits)] ('-' :: digits)

/-- An item, and the tag that it gives with its value. -/
inductive Gives : List Token → Tag × String → Prop where
  | skip {name : List Char} : plainIdent name = skipKey → Gives [.ident name] (.ignore, Tag.ignored)
  | value {name : List Char} {tag : Tag} {tokens : List Token} {value : List Char}
      (joined : Bool) : String.ofList (plainIdent name) = tag.key → TagValue tokens value →
      Gives (.ident name :: .punct '=' joined :: tokens) (tag, String.ofList value)

/-- A list of items, and the tags that they give.  A comma may stand after the last item. -/
inductive Listed : List Token → List (Tag × String) → Prop where
  | nil : Listed [] []
  | last {item : List Token} {entry : Tag × String} : Gives item entry → Listed item [entry]
  | cons {item rest : List Token} {comma : Token} {entry : Tag × String}
      {entries : List (Tag × String)} : Gives item entry → comma.isPunct ',' = true →
      Listed rest entries → Listed (item ++ comma :: rest) (entry :: entries)

/-! ## What is wrong with an item -/

/-- No separator of names comes next. -/
def PathEnds (ts : List Token) : Prop :=
  ∀ joined rest, ts ≠ .punct ':' true :: .punct ':' joined :: rest

/-- No name comes next. -/
def Nameless (ts : List Token) : Prop := ∀ name rest, ts ≠ .ident name :: rest

/-- Names that follow the first one of a path, each after a separator. -/
inductive FurtherNames : List Token → Prop where
  | nil : FurtherNames []
  | cons {names : List Token} (joined : Bool) (name : List Char) : FurtherNames names →
      FurtherNames (.punct ':' true :: .punct ':' joined :: .ident name :: names)

/-- The key of an item and what is behind it.  A path that is not a single name stands for the empty
key. -/
inductive HasKey : List Token → List Char → List Token → Prop where
  | name {rest : List Token} (name : List Char) : PathEnds rest →
      HasKey (.ident name :: rest) (plainIdent name) rest
  | path {names rest : List Token} (name : List Char) : FurtherNames names → names ≠ [] →
      PathEnds rest → HasKey (.ident name :: (names ++ rest)) [] rest
  | rooted {names rest : List Token} (joined : Bool) (name : List Char) : FurtherNames names →
      PathEnds rest →
      HasKey (.punct ':' true :: .punct ':' joined :: .ident name :: (names ++ rest)) [] rest

/-- Why an item has no key: a name is missing at its front or after a separator. -/
inductive KeyFault (last : Bool) : List Token → DeclarationFault → Prop where
  | front {ts : List Token} : Nameless ts → PathEnds ts → KeyFault last ts (nameMissing last ts)
  | root {ts : List Token} (joined : Bool) : Nameless ts →
      KeyFault last (.punct ':' true :: .punct ':' joined :: ts) (nameMissing last ts)
  | path {names ts : List Token} (joined : Bool) (name : List Char) : FurtherNames names →
      Nameless ts → KeyFault last
        (.ident name :: (names ++ .punct ':' true :: .punct ':' joined :: ts))
        (.identMissing (last && ts.isEmpty))
  | rooted {names ts : List Token} (joined joined' : Bool) (name : List Char) :
      FurtherNames names → Nameless ts → KeyFault last
        (.punct ':' true :: .punct ':' joined :: .ident name ::
          (names ++ .punct ':' true :: .punct ':' joined' :: ts))
        (.identMissing (last && ts.isEmpty))

/-- Why no value is behind the key of a tag. -/
inductive ValueFault (last : Bool) : List Token → DeclarationFault → Prop where
  | equals {ts : List Token} : (∀ joined rest, ts ≠ .punct '=' joined :: rest) →
      ValueFault last ts .equalsMissing
  | nothing (joined : Bool) : ValueFault last [.punct '=' joined] (.literalMissing last)
  | other {ts : List Token} (joined : Bool) : ts ≠ [] → Token.startsWithLiteral ts = false →
      (∀ name rest, ts = .ident name :: rest → name ≠ "true".toList ∧ name ≠ "false".toList) →
      ValueFault last (.punct '=' joined :: ts) (.literalMissing false)
  | literal {rest : List Token} (joined : Bool) (source : List Char) :
      ValueFault last (.punct '=' joined :: .literal source .other :: rest) .wrongLiteral
  | truth {name : List Char} {rest : List Token} (joined : Bool) :
      name = "true".toList ∨ name = "false".toList →
      ValueFault last (.punct '=' joined :: .ident name :: rest) .wrongLiteral

/-- An item gives a tag with its value, and then something may be left over. -/
inductive Begins : List Token → Tag × String → List Token → Prop where
  | skip {item rest : List Token} : HasKey item skipKey rest →
      Begins item (.ignore, Tag.ignored) rest
  | value {item tokens rest : List Token} {key value : List Char} {tag : Tag} (joined : Bool) :
      HasKey item key (.punct '=' joined :: (tokens ++ rest)) → String.ofList key = tag.key →
      TagValue tokens value → Begins item (tag, String.ofList value) rest

/-- Why an item gives no tag: it has no key, or one that is unknown, or no value to its key. -/
inductive Unreadable (last : Bool) (item : List Token) : DeclarationFault → Prop where
  | keyless {fault : DeclarationFault} : KeyFault last item fault → Unreadable last item fault
  | unknown {key : List Char} {rest : List Token} : HasKey item key rest → key ≠ skipKey →
      (∀ tag : Tag, String.ofList key ≠ tag.key) →
      Unreadable last item (.unknownKey (String.ofList key))
  | valueless {key : List Char} {rest : List Token} {tag : Tag} {fault : DeclarationFault} :
      HasKey item key rest → String.ofList key = tag.key → ValueFault last rest fault →
      Unreadable last item fault

/-- **What is wrong with an item**, when some tags have been given before it: it gives no tag, or
one that has been given, or else something is left over. -/
inductive Offends (given : List Tag) (last : Bool) (item : List Token) :
    DeclarationFault → Prop where
  | unreadable {fault : DeclarationFault} : Unreadable last item fault →
      Offends given last item fault
  | repeated {entry : Tag × String} {rest : List Token} : Begins item entry rest →
      entry.1 ∈ given → Offends given last item (.repeatedTag entry.1)
  | surplus {entry : Tag × String} {rest : List Token} : Begins item entry rest →
      entry.1 ∉ given → rest ≠ [] → Offends given last item .commaMissing

/-! ## Reading an item -/

section Item

variable {last : Bool} {ts rest : List Token}

theorem skipNames_of_ends {names : List Token} (hnames : FurtherNames names)
    (hends : PathEnds rest) : skipNames last (names ++ rest) = .ok (rest, !names.isEmpty) := by
  induction hnames with
  | nil =>
    rw [List.nil_append]
    unfold skipNames
    split
    case h_1 => exact absurd rfl (hends _ _)
    case h_2 => exact absurd rfl (hends _ _)
    case h_3 => rfl
  | cons joined name _ ih =>
    simp only [List.cons_append, skipNames, ih]
    rfl

theorem skipNames_of_nameless {names : List Token} {joined : Bool} (hnames : FurtherNames names)
    (hnameless : Nameless rest) :
    skipNames last (names ++ .punct ':' true :: .punct ':' joined :: rest) =
      .error (.identMissing (last && rest.isEmpty)) := by
  induction hnames with
  | nil =>
    rw [List.nil_append]
    unfold skipNames
    split
    case h_1 heq =>
      obtain ⟨-, hrest⟩ := List.cons.inj (List.cons.inj heq).2
      exact absurd hrest (hnameless _ _)
    case h_2 heq =>
      obtain ⟨-, rfl⟩ := List.cons.inj (List.cons.inj heq).2
      rfl
    case h_3 hsep => exact absurd rfl (hsep _ _)
  | cons joined' name _ ih =>
    simp only [List.cons_append, skipNames, ih]
    rfl

/-- A path goes on to where it ends, or to a separator without a name. -/
theorem furtherNames_cases (ts : List Token) :
    (∃ names rest, ts = names ++ rest ∧ FurtherNames names ∧ PathEnds rest) ∨
      ∃ names joined rest, ts = names ++ .punct ':' true :: .punct ':' joined :: rest ∧
        FurtherNames names ∧ Nameless rest := by
  fun_induction skipNames true ts with
  | case1 joined name ts ih =>
    rcases ih with ⟨names, rest, rfl, hnames, hends⟩ | ⟨names, joined', rest, rfl, hnames, hrest⟩
    · exact .inl ⟨_ :: _ :: _ :: names, rest, rfl, .cons joined name hnames, hends⟩
    · exact .inr ⟨_ :: _ :: _ :: names, joined', rest, rfl, .cons joined name hnames, hrest⟩
  | case2 joined ts hnameless => exact .inr ⟨[], joined, ts, rfl, .nil, hnameless⟩
  | case3 ts _ hends => exact .inl ⟨[], ts, rfl, .nil, hends⟩

theorem readKey_of_hasKey {item : List Token} {key : List Char} (h : HasKey item key rest) :
    readKey last item = .ok (key, rest) := by
  cases h with
  | name name hends =>
    have hskip : skipNames last rest = .ok (rest, false) := skipNames_of_ends .nil hends
    simp only [readKey, hskip]
    rfl
  | path name hnames hne hends =>
    simp only [readKey, skipNames_of_ends hnames hends, List.isEmpty_eq_false_iff.mpr hne]
    rfl
  | rooted joined name hnames hends =>
    simp only [readKey, skipNames_of_ends hnames hends]
    rfl

theorem readKey_of_keyFault {item : List Token} {fault : DeclarationFault}
    (h : KeyFault last item fault) : readKey last item = .error fault := by
  cases h with
  | front hnameless hends =>
    unfold readKey
    split
    case h_1 => exact absurd rfl (hnameless _ _)
    case h_2 | h_3 => exact absurd rfl (hends _ _)
    case h_4 => rfl
  | root joined hnameless =>
    unfold readKey
    split
    case h_1 heq => cases heq
    case h_2 heq =>
      obtain ⟨-, hrest⟩ := List.cons.inj (List.cons.inj heq).2
      exact absurd hrest (hnameless _ _)
    case h_3 heq =>
      obtain ⟨-, rfl⟩ := List.cons.inj (List.cons.inj heq).2
      rfl
    case h_4 hsep => exact absurd rfl (hsep _ _)
  | path joined name hnames hnameless =>
    simp only [readKey, skipNames_of_nameless hnames hnameless]
    rfl
  | rooted joined joined' name hnames hnameless =>
    simp only [readKey, skipNames_of_nameless hnames hnameless]
    rfl

/-- An item has a key or not. -/
theorem hasKey_or_fault (last : Bool) (item : List Token) :
    (∃ key rest, HasKey item key rest) ∨ ∃ fault, KeyFault last item fault := by
  fun_cases readKey last item with
  | case1 name ts =>
    rcases furtherNames_cases ts with ⟨names, rest, rfl, hnames, hends⟩ |
      ⟨names, joined, rest, rfl, hnames, hnameless⟩
    · cases names with
      | nil => exact .inl ⟨_, rest, .name name hends⟩
      | cons => exact .inl ⟨_, rest, .path name hnames (List.cons_ne_nil _ _) hends⟩
    · exact .inr ⟨_, .path joined name hnames hnameless⟩
  | case2 joined name ts =>
    rcases furtherNames_cases ts with ⟨names, rest, rfl, hnames, hends⟩ |
      ⟨names, joined', rest, rfl, hnames, hnameless⟩
    · exact .inl ⟨_, rest, .rooted joined name hnames hends⟩
    · exact .inr ⟨_, .rooted joined joined' name hnames hnameless⟩
  | case3 joined ts hnameless => exact .inr ⟨_, .root joined hnameless⟩
  | case4 _ hnameless _ hends => exact .inr ⟨_, .front hnameless hends⟩

theorem readValue_of_tagValue {tokens : List Token} {value : List Char} {joined : Bool}
    (h : TagValue tokens value) :
    readValue last (.punct '=' joined :: (tokens ++ rest)) = .ok (value, rest) := by
  cases h <;> rfl

theorem readValue_of_valueFault {fault : DeclarationFault} (h : ValueFault last ts fault) :
    readValue last ts = .error fault := by
  cases h with
  | equals hequals =>
    unfold readValue
    split
    case h_1 => exact absurd rfl (hequals _ _)
    case h_2 => rfl
  | nothing => rfl
  | other joined hne hliteral hname =>
    simp only [readValue]
    split
    case h_1 | h_2 | h_3 => cases hliteral
    case h_4 =>
      obtain ⟨htrue, hfalse⟩ := hname _ _ rfl
      rw [if_neg (not_or.mpr ⟨htrue, hfalse⟩)]
    case h_5 => exact absurd rfl hne
    case h_6 => rfl
  | literal => rfl
  | truth joined hname => simp only [readValue, if_pos hname]

/-- A value is behind the key, or not. -/
theorem tagValue_or_fault (last : Bool) (ts : List Token) :
    (∃ joined tokens rest value, ts = .punct '=' joined :: (tokens ++ rest) ∧
      TagValue tokens value) ∨ ∃ fault, ValueFault last ts fault := by
  fun_cases readValue last ts with
  | case1 joined source literal rest =>
    cases literal with
    | text value => exact .inl ⟨joined, _, rest, value, rfl, .text source value⟩
    | integer digits => exact .inl ⟨joined, _, rest, digits, rfl, .integer source digits⟩
    | float digits => exact .inl ⟨joined, _, rest, digits, rfl, .float source digits⟩
    | other => exact .inr ⟨_, .literal joined source⟩
  | case2 joined joined' source digits rest =>
    exact .inl ⟨joined, _, rest, _, rfl, .negativeInteger joined' source digits⟩
  | case3 joined joined' source digits rest =>
    exact .inl ⟨joined, _, rest, _, rfl, .negativeFloat joined' source digits⟩
  | case4 joined name tail htruth => exact .inr ⟨_, .truth joined htruth⟩
  | case5 joined name tail htruth =>
    refine .inr ⟨_, .other joined (List.cons_ne_nil _ _) rfl ?_⟩
    intro name' rest heq
    obtain ⟨hname, -⟩ := List.cons.inj heq
    rw [← Token.ident.inj hname]
    exact not_or.mp htruth
  | case6 joined => exact .inr ⟨_, .nothing joined⟩
  | case7 joined ts hliteral hinteger hfloat hname hne =>
    refine .inr ⟨_, .other joined hne ?_ fun name rest heq => absurd heq (hname name rest)⟩
    unfold Token.startsWithLiteral
    split
    case h_1 => exact absurd rfl (hliteral _ _ _)
    case h_2 => exact absurd rfl (hinteger _ _ _ _)
    case h_3 => exact absurd rfl (hfloat _ _ _ _)
    case h_4 => rfl
  | case8 _ hequals => exact .inr ⟨_, .equals hequals⟩

theorem ofKey?_eq_some_iff {key : String} {tag : Tag} :
    Tag.ofKey? key = some tag ↔ key = tag.key := by
  constructor
  · intro h
    have hkey : (tag.key == key) = true := List.find?_some (p := fun t : Tag => t.key == key) h
    exact (beq_iff_eq.mp hkey).symm
  · rintro rfl
    exact Tag.ofKey?_key tag

/-- The word that ignores a field is the key of no tag. -/
theorem skipKey_ne_key (tag : Tag) : String.ofList skipKey ≠ tag.key := by
  cases tag <;> decide

theorem nil_ne_key (tag : Tag) : String.ofList [] ≠ tag.key := by
  cases tag <;> decide

variable {item : List Token} {entry : Tag × String}

theorem readItem_of_begins (h : Begins item entry rest) :
    readItem last item = .ok (entry, rest) := by
  cases h with
  | skip hkey => simp only [readItem, readKey_of_hasKey hkey, if_true]
  | @value _ _ key value tag joined hkey htag hvalue =>
    have hskip : key ≠ skipKey := fun heq => skipKey_ne_key tag (heq ▸ htag)
    simp only [readItem, readKey_of_hasKey hkey, if_neg hskip, ofKey?_eq_some_iff.mpr htag,
      readValue_of_tagValue hvalue]

theorem readItem_of_unreadable {fault : DeclarationFault} (h : Unreadable last item fault) :
    readItem last item = .error fault := by
  cases h with
  | keyless hkey => simp only [readItem, readKey_of_keyFault hkey]
  | @unknown key _ hkey hskip htag =>
    have hnone : Tag.ofKey? (String.ofList key) = none :=
      Option.eq_none_iff_forall_ne_some.mpr fun tag hsome => htag tag (ofKey?_eq_some_iff.mp hsome)
    simp only [readItem, readKey_of_hasKey hkey, if_neg hskip, hnone]
  | @valueless key _ tag _ hkey htag hvalue =>
    have hskip : key ≠ skipKey := fun heq => skipKey_ne_key tag (heq ▸ htag)
    simp only [readItem, readKey_of_hasKey hkey, if_neg hskip, ofKey?_eq_some_iff.mpr htag,
      readValue_of_valueFault hvalue]

/-- An item gives a tag or not. -/
theorem begins_or_unreadable (last : Bool) (item : List Token) :
    (∃ entry rest, Begins item entry rest) ∨ ∃ fault, Unreadable last item fault := by
  rcases hasKey_or_fault last item with ⟨key, rest, hkey⟩ | ⟨fault, hkey⟩
  · by_cases hskip : key = skipKey
    · subst hskip
      exact .inl ⟨_, rest, .skip hkey⟩
    · by_cases hknown : ∃ tag : Tag, String.ofList key = tag.key
      · obtain ⟨tag, htag⟩ := hknown
        rcases tagValue_or_fault last rest with ⟨joined, tokens, tail, value, rfl, hvalue⟩ |
          ⟨fault, hvalue⟩
        · exact .inl ⟨_, tail, .value joined hkey htag hvalue⟩
        · exact .inr ⟨fault, .valueless hkey htag hvalue⟩
      · exact .inr ⟨_, .unknown hkey hskip (not_exists.mp hknown)⟩
  · exact .inr ⟨fault, .keyless hkey⟩

/-- An item of the grammar is one of which nothing is left over. -/
theorem gives_iff_begins : Gives item entry ↔ Begins item entry [] := by
  constructor
  · intro h
    cases h with
    | skip hkey =>
      refine .skip ?_
      rw [← hkey]
      exact .name _ fun _ _ heq => by cases heq
    | @value name tag tokens value joined htag hvalue =>
      have hkey : HasKey (.ident name :: .punct '=' joined :: tokens) (plainIdent name)
          (.punct '=' joined :: (tokens ++ [])) := by
        rw [List.append_nil]
        exact .name name fun _ _ heq => by cases heq
      exact .value joined hkey htag hvalue
  · intro h
    cases h with
    | skip hkey =>
      generalize hskip : skipKey = key at hkey
      cases hkey with
      | name name => exact .skip hskip.symm
      | path | rooted => cases hskip
    | value joined hkey htag hvalue =>
      generalize hbehind : Token.punct '=' joined :: (_ ++ []) = behind at hkey
      rw [List.append_nil] at hbehind
      subst hbehind
      cases hkey with
      | name name => exact .value joined htag hvalue
      | path | rooted => exact absurd htag (nil_ne_key _)

end Item

/-! ## Lists of items -/

/-- The token neither separates items nor does it belong to delimiters. -/
def Plain : Token → Prop
  | .ident _ | .literal _ _ => True
  | .punct c _ => c ≠ ','
  | .opening _ | .closing _ => False

theorem plain_of_gives {item : List Token} {entry : Tag × String} (h : Gives item entry) :
    ∀ t ∈ item, Plain t := by
  cases h with
  | skip => simp [Plain]
  | value joined _ hvalue => cases hvalue <;> simp [Plain]

theorem splitCommas_ne_nil (depth : Nat) (ts : List Token) : Token.splitCommas depth ts ≠ [] := by
  cases ts with
  | nil => exact List.cons_ne_nil _ _
  | cons t ts =>
    unfold Token.splitCommas
    split
    · exact List.cons_ne_nil _ _
    · simp only
      split <;> exact List.cons_ne_nil _ _

theorem splitCommas_comma {comma : Token} (hcomma : comma.isPunct ',' = true) (ts : List Token) :
    Token.splitCommas 0 (comma :: ts) = [] :: Token.splitCommas 0 ts := by
  conv_lhs => unfold Token.splitCommas
  exact if_pos ⟨rfl, hcomma⟩

/-- Any other token belongs to the first part. -/
theorem splitCommas_cons {depth : Nat} {t : Token} (h : ¬(depth = 0 ∧ t.isPunct ',' = true))
    (ts : List Token) : ∃ inner,
      Token.splitCommas depth (t :: ts) = (Token.splitCommas inner ts).modifyHead (t :: ·) ∧
        (Plain t → inner = depth) := by
  conv in Token.splitCommas depth (t :: ts) => unfold Token.splitCommas
  simp only [if_neg h]
  split
  case h_1 hnil => exact absurd hnil (splitCommas_ne_nil _ ts)
  case h_2 part parts hparts =>
    refine ⟨_, (congrArg (List.modifyHead (t :: ·)) hparts).symm, fun hplain => ?_⟩
    cases t with
    | ident | literal | punct => rfl
    | opening | closing => exact hplain.elim

theorem not_comma_of_plain {depth : Nat} {t : Token} (h : Plain t) :
    ¬(depth = 0 ∧ t.isPunct ',' = true) := by
  rintro ⟨-, hcomma⟩
  cases t with
  | punct c => exact h (beq_iff_eq.mp hcomma).symm
  | ident | literal | opening | closing => cases hcomma

/-- Plain tokens are put before the first part. -/
theorem splitCommas_plain_append {item : List Token} (h : ∀ t ∈ item, Plain t) (ts : List Token) :
    Token.splitCommas 0 (item ++ ts) = (Token.splitCommas 0 ts).modifyHead (item ++ ·) := by
  induction item with
  | nil =>
    rw [List.nil_append]
    cases Token.splitCommas 0 ts <;> rfl
  | cons t item ih =>
    obtain ⟨ht, hitem⟩ := List.forall_mem_cons.mp h
    obtain ⟨inner, hcons, hinner⟩ := splitCommas_cons (not_comma_of_plain ht) (item ++ ts)
    obtain rfl := hinner ht
    rw [List.cons_append, hcons, ih hitem]
    cases Token.splitCommas 0 ts <;> rfl

/-- An item of the grammar is one part, whatever comes behind it. -/
theorem splitCommas_of_gives {item : List Token} {entry : Tag × String} (h : Gives item entry) :
    Token.splitCommas 0 item = [item] ∧
      ∀ {comma : Token} (rest : List Token), comma.isPunct ',' = true →
        Token.splitCommas 0 (item ++ comma :: rest) = item :: Token.splitCommas 0 rest := by
  have hplain := splitCommas_plain_append (plain_of_gives h)
  refine ⟨?_, fun rest hcomma => ?_⟩
  · have hend := hplain []
    rw [List.append_nil] at hend
    rw [hend, Token.splitCommas, List.modifyHead_cons, List.append_nil]
  · rw [hplain, splitCommas_comma hcomma, List.modifyHead_cons, List.append_nil]

/-- What is cut is a single part, or a part with a comma and more behind it. -/
theorem splitCommas_cases (depth : Nat) (ts : List Token) :
    Token.splitCommas depth ts = [ts] ∨
      ∃ item comma rest, ts = item ++ comma :: rest ∧ comma.isPunct ',' = true ∧
        Token.splitCommas depth ts = item :: Token.splitCommas 0 rest := by
  induction ts generalizing depth with
  | nil => exact .inl rfl
  | cons t ts ih =>
    by_cases hcomma : depth = 0 ∧ t.isPunct ',' = true
    · obtain ⟨rfl, hcomma⟩ := hcomma
      exact .inr ⟨[], t, ts, rfl, hcomma, splitCommas_comma hcomma ts⟩
    · obtain ⟨inner, hcons, -⟩ := splitCommas_cons hcomma ts
      rcases ih inner with hone | ⟨item, comma, rest, rfl, hsep, hcut⟩
      · exact .inl (by rw [hcons, hone]; rfl)
      · exact .inr ⟨t :: item, comma, rest, rfl, hsep, by rw [hcons, hcut]; rfl⟩

/-- What is a single empty part is empty. -/
theorem eq_nil_of_splitCommas {depth : Nat} {ts : List Token}
    (h : Token.splitCommas depth ts = [[]]) : ts = [] := by
  rcases splitCommas_cases depth ts with hone | ⟨item, comma, rest, -, -, hcut⟩
  · exact List.head_eq_of_cons_eq (hone.symm.trans h)
  · rw [h] at hcut
    exact absurd (List.cons.inj hcut).2.symm (splitCommas_ne_nil 0 rest)

/-- **The first item of a list that offends.**  The items before it are in order. -/
inductive ListFault : List Tag → List Token → DeclarationFault → Prop where
  | here {given : List Tag} {ts item : List Token} {others : List (List Token)}
      {fault : DeclarationFault} : ts ≠ [] → Token.splitCommas 0 ts = item :: others →
      Offends given others.isEmpty item fault → ListFault given ts fault
  | later {given : List Tag} {item rest : List Token} {comma : Token} {entry : Tag × String}
      {fault : DeclarationFault} : Gives item entry → entry.1 ∉ given →
      comma.isPunct ',' = true → ListFault (given ++ [entry.1]) rest fault →
      ListFault given (item ++ comma :: rest) fault

section Items

variable {tags entries : List (Tag × String)} {ts : List Token}

theorem gives_ne_nil {item : List Token} {entry : Tag × String} (h : Gives item entry) :
    item ≠ [] := by
  cases h <;> exact List.cons_ne_nil _ _

/-- An item of the grammar with a new tag is read onto the tags. -/
theorem readItems_of_gives {item : List Token} {entry : Tag × String} (h : Gives item entry)
    (hnew : entry.1 ∉ tags.map Prod.fst) (others : List (List Token)) :
    readItems tags (item :: others) = readItems (tags ++ [entry]) others := by
  have hread : readItem others.isEmpty item = .ok (entry, []) :=
    readItem_of_begins (gives_iff_begins.mp h)
  have hitem : ¬(item = [] ∧ others = []) := fun hnone => gives_ne_nil h hnone.1
  have hfresh : ¬tags.any (·.1 == entry.1) = true := fun hany => hnew (any_tag_iff.mp hany)
  conv_lhs => unfold readItems
  rw [if_neg hitem, hread]
  simp only [if_neg hfresh, List.isEmpty_nil, if_true]

theorem readItems_of_offends {item : List Token} {others : List (List Token)}
    {fault : DeclarationFault} (hitem : ¬(item = [] ∧ others = []))
    (h : Offends (tags.map Prod.fst) others.isEmpty item fault) :
    readItems tags (item :: others) = .error fault := by
  unfold readItems
  rw [if_neg hitem]
  cases h with
  | unreadable hitem => rw [readItem_of_unreadable hitem]
  | repeated hbegins hgiven =>
    rw [readItem_of_begins hbegins]
    simp only [if_pos (any_tag_iff.mpr hgiven)]
  | surplus hbegins hnew hrest =>
    rw [readItem_of_begins hbegins]
    simp only [if_neg fun hany => hnew (any_tag_iff.mp hany), List.isEmpty_eq_false_iff.mpr hrest]
    rfl

/-- The tags of a cons are new one after the other. -/
theorem distinct_append_cons {entry : Tag × String} :
    Distinct (tags ++ entry :: entries) ↔
      entry.1 ∉ tags.map Prod.fst ∧ Distinct (tags ++ [entry] ++ entries) := by
  rw [List.append_assoc, List.singleton_append]
  refine ⟨fun h => ⟨?_, h⟩, And.right⟩
  rw [Distinct, List.map_append, List.map_cons, List.nodup_append] at h
  exact fun hmem => h.2.2 _ hmem _ List.mem_cons_self rfl

/-- **A list of the grammar is read**, if no tag is given twice. -/
theorem readItems_of_listed (h : Listed ts entries) (hd : Distinct (tags ++ entries)) :
    readItems tags (Token.splitCommas 0 ts) = .ok (tags ++ entries) := by
  induction h generalizing tags with
  | nil => simp [Token.splitCommas, readItems]
  | last hgives =>
    obtain ⟨hnew, -⟩ := distinct_append_cons.mp hd
    rw [(splitCommas_of_gives hgives).1, readItems_of_gives hgives hnew, readItems]
  | cons hgives hcomma _ ih =>
    obtain ⟨hnew, hd⟩ := distinct_append_cons.mp hd
    rw [(splitCommas_of_gives hgives).2 _ hcomma, readItems_of_gives hgives hnew, ih hd,
      List.append_assoc, List.singleton_append]

/-- **A list is refused for the first item that offends.** -/
theorem readItems_of_listFault {fault : DeclarationFault}
    (h : ListFault (tags.map Prod.fst) ts fault) :
    readItems tags (Token.splitCommas 0 ts) = .error fault := by
  generalize hgiven : tags.map Prod.fst = given at h
  induction h generalizing tags with
  | @here _ ts item others _ hne hcut hoffends =>
    rw [hcut]
    refine readItems_of_offends ?_ (hgiven ▸ hoffends)
    rintro ⟨rfl, rfl⟩
    exact hne (eq_nil_of_splitCommas hcut)
  | later hgives hnew hcomma _ ih =>
    rw [(splitCommas_of_gives hgives).2 _ hcomma, readItems_of_gives hgives (hgiven ▸ hnew)]
    exact ih (by rw [List.map_append, hgiven]; rfl)

/-- An item gives a new tag, or it offends. -/
theorem gives_or_offends (given : List Tag) (last : Bool) (item : List Token) :
    (∃ entry, Gives item entry ∧ entry.1 ∉ given) ∨ ∃ fault, Offends given last item fault := by
  rcases begins_or_unreadable last item with ⟨entry, rest, hbegins⟩ | ⟨fault, hitem⟩
  · by_cases hgiven : entry.1 ∈ given
    · exact .inr ⟨_, .repeated hbegins hgiven⟩
    · by_cases hrest : rest = []
      · subst hrest
        exact .inl ⟨entry, gives_iff_begins.mpr hbegins, hgiven⟩
      · exact .inr ⟨_, .surplus hbegins hgiven hrest⟩
  · exact .inr ⟨fault, .unreadable hitem⟩

/-- A list is one of the grammar, or it has an item that offends. -/
theorem listed_or_fault {tags : List (Tag × String)} (hd : Distinct tags) (ts : List Token) :
    (∃ entries, Listed ts entries ∧ Distinct (tags ++ entries)) ∨
      ∃ fault, ListFault (tags.map Prod.fst) ts fault := by
  by_cases hne : ts = []
  · subst hne
    exact .inl ⟨[], .nil, by rwa [List.append_nil]⟩
  rcases splitCommas_cases 0 ts with hone | ⟨item, comma, rest, hts, hcomma, hcut⟩
  · rcases gives_or_offends (tags.map Prod.fst) true ts with ⟨entry, hgives, hnew⟩ | ⟨fault, h⟩
    · exact .inl ⟨[entry], .last hgives, distinct_concat hd hnew⟩
    · exact .inr ⟨fault, .here hne hone h⟩
  · rcases gives_or_offends (tags.map Prod.fst) (Token.splitCommas 0 rest).isEmpty item with
      ⟨entry, hgives, hnew⟩ | ⟨fault, h⟩
    · have hshorter : rest.length < ts.length := by
        rw [hts, List.length_append, List.length_cons]
        omega
      rw [hts]
      rcases listed_or_fault (distinct_concat hd hnew) rest with ⟨entries, hrest, hd⟩ | ⟨fault, h⟩
      · exact .inl ⟨entry :: entries, .cons hgives hcomma hrest,
          distinct_append_cons.mpr ⟨hnew, hd⟩⟩
      · rw [List.map_append] at h
        exact .inr ⟨fault, .later hgives hnew hcomma h⟩
    · exact .inr ⟨fault, .here hne hcut h⟩
termination_by ts.length
decreasing_by exact hshorter

end Items

/-! ## Attributes -/

/-- The tags that attributes give.  Those with another path give none. -/
inductive Tagged : List Attribute → List (Tag × String) → Prop where
  | nil : Tagged [] []
  | other {a : Attribute} {others : List Attribute} {entries : List (Tag × String)} :
      a.path ≠ metricPath → Tagged others entries → Tagged (a :: others) entries
  | metric {others : List Attribute} {items : List Token} {entries entries' : List (Tag × String)} :
      Listed items entries → Tagged others entries' →
      Tagged (⟨metricPath, .list items⟩ :: others) (entries ++ entries')

/-- **The first attribute that offends**, when some tags have been given before: it has no list of
items, or one of them offends.  The attributes before it are in order. -/
inductive TagFault : List Tag → List Attribute → DeclarationFault → Prop where
  | bare {given : List Tag} {others : List Attribute} :
      TagFault given (⟨metricPath, .none⟩ :: others) .argumentsMissing
  | value {given : List Tag} {others : List Attribute} :
      TagFault given (⟨metricPath, .value⟩ :: others) .listMissing
  | items {given : List Tag} {items : List Token} {others : List Attribute}
      {fault : DeclarationFault} : ListFault given items fault →
      TagFault given (⟨metricPath, .list items⟩ :: others) fault
  | other {given : List Tag} {a : Attribute} {others : List Attribute} {fault : DeclarationFault} :
      a.path ≠ metricPath → TagFault given others fault → TagFault given (a :: others) fault
  | later {given : List Tag} {items : List Token} {others : List Attribute}
      {entries : List (Tag × String)} {fault : DeclarationFault} : Listed items entries →
      (given ++ entries.map Prod.fst).Nodup →
      TagFault (given ++ entries.map Prod.fst) others fault →
      TagFault given (⟨metricPath, .list items⟩ :: others) fault

section Attributes

variable {tags entries : List (Tag × String)} {attributes : List Attribute}

theorem distinct_of_append (h : Distinct (tags ++ entries)) : Distinct tags := by
  rw [Distinct, List.map_append] at h
  exact (List.nodup_append.mp h).1

/-- **Attributes of the grammar are read**, if no tag is given twice. -/
theorem readAll_of_tagged (h : Tagged attributes entries) (hd : Distinct (tags ++ entries)) :
    readAll tags attributes = .ok (tags ++ entries) := by
  induction h generalizing tags with
  | nil => rw [readAll, List.append_nil]
  | other hpath _ ih => rw [readAll, if_neg hpath, ih hd]
  | metric hlisted _ ih =>
    rw [← List.append_assoc] at hd ⊢
    have hitems := readItems_of_listed hlisted (distinct_of_append hd)
    simp only [readAll, if_true, hitems, ih hd]

/-- **Attributes are refused for the first that offends.** -/
theorem readAll_of_tagFault {fault : DeclarationFault}
    (h : TagFault (tags.map Prod.fst) attributes fault) :
    readAll tags attributes = .error fault := by
  generalize hgiven : tags.map Prod.fst = given at h
  induction h generalizing tags with
  | bare | value => rfl
  | items hlist => simp only [readAll, if_true, readItems_of_listFault (hgiven ▸ hlist)]
  | other hpath _ ih => rw [readAll, if_neg hpath, ih hgiven]
  | @later given _ _ entries _ hlisted hd _ ih =>
    have hgiven' : (tags ++ entries).map Prod.fst = given ++ entries.map Prod.fst := by
      rw [List.map_append, hgiven]
    have hd' : Distinct (tags ++ entries) := by rwa [Distinct, hgiven']
    have hitems := readItems_of_listed hlisted hd'
    simp only [readAll, if_true, hitems, ih hgiven']

/-- Attributes give different tags, or one of them offends. -/
theorem tagged_or_fault (hd : Distinct tags) (attributes : List Attribute) :
    (∃ entries, Tagged attributes entries ∧ Distinct (tags ++ entries)) ∨
      ∃ fault, TagFault (tags.map Prod.fst) attributes fault := by
  induction attributes generalizing tags with
  | nil => exact .inl ⟨[], .nil, by rwa [List.append_nil]⟩
  | cons a others ih =>
    by_cases hpath : a.path = metricPath
    · obtain ⟨path, arguments⟩ := a
      obtain rfl : path = metricPath := hpath
      cases arguments with
      | none => exact .inr ⟨_, .bare⟩
      | value => exact .inr ⟨_, .value⟩
      | list items =>
        rcases listed_or_fault hd items with ⟨entries, hlisted, hd⟩ | ⟨fault, hlist⟩
        · rcases ih hd with ⟨entries', htagged, hd'⟩ | ⟨fault, h⟩
          · exact .inl ⟨_, .metric hlisted htagged, by rwa [← List.append_assoc]⟩
          · rw [Distinct, List.map_append] at hd
            rw [List.map_append] at h
            exact .inr ⟨fault, .later hlisted hd h⟩
        · exact .inr ⟨fault, .items hlist⟩
    · rcases ih hd with ⟨entries, htagged, hd'⟩ | ⟨fault, h⟩
      · exact .inl ⟨entries, .other hpath htagged, hd'⟩
      · exact .inr ⟨fault, .other hpath h⟩

end Attributes

end Attribute

/-! ## Fields -/

namespace Derivation

/-- **The field has tags by the grammar.**  None is given twice, and a metric that is ignored is an
option. -/
structure Fits (f : DeclaredField) (tags : List (Tag × String)) : Prop where
  tagged : Attribute.Tagged f.attributes tags
  distinct : Distinct tags
  vacant : f.type.form.kind.1.isMetric = true → (.ignore, Tag.ignored) ∈ tags →
    f.type.form.kind.2 = true

/-- What is wrong with a field: an attribute offends, or else it is an ignored metric and no
option. -/
inductive FieldFault (f : DeclaredField) : DeclarationFault → Prop where
  | attributes {fault : DeclarationFault} : Attribute.TagFault [] f.attributes fault →
      FieldFault f fault
  | skipped {tags : List (Tag × String)} : Attribute.Tagged f.attributes tags → Distinct tags →
      f.type.form.kind.1.isMetric = true → (.ignore, Tag.ignored) ∈ tags →
      f.type.form.kind.2 = false → FieldFault f .skippedNotOptional

/-- The field that is derived from a declared one with the given tags. -/
def derivedOf (f : DeclaredField) (tags : List (Tag × String)) : DerivedField where
  ident := plainName f.ident
  typeName := Token.denseSource f.type.tokens
  kind := f.type.form.kind.1
  optional := f.type.form.kind.2
  tags := tags

variable {f : DeclaredField} {tags : List (Tag × String)} {fault : DeclarationFault}

theorem skipped_derivedOf : (derivedOf f tags).skipped = true ↔ (.ignore, Tag.ignored) ∈ tags := by
  simp [DerivedField.skipped, derivedOf, List.any_eq_true]

theorem readField_of_tagged (h : Attribute.Tagged f.attributes tags) (hd : Distinct tags) :
    readField f =
      if f.type.form.kind.1.isMetric && (derivedOf f tags).skipped && !f.type.form.kind.2 then
        .error .skippedNotOptional
      else .ok (derivedOf f tags) := by
  have hread : Attribute.readAll [] f.attributes = .ok tags := Attribute.readAll_of_tagged h hd
  simp only [readField, hread]
  rfl

theorem readField_of_fits (h : Fits f tags) : readField f = .ok (derivedOf f tags) := by
  rw [readField_of_tagged h.tagged h.distinct, if_neg]
  simp only [Bool.and_eq_true, Bool.not_eq_true', skipped_derivedOf, not_and, Bool.not_eq_false]
  exact fun ⟨hmetric, hskipped⟩ => h.vacant hmetric hskipped

theorem readField_of_fieldFault (h : FieldFault f fault) : readField f = .error fault := by
  cases h with
  | attributes htags =>
    have hread : Attribute.readAll [] f.attributes = .error fault :=
      Attribute.readAll_of_tagFault htags
    simp only [readField, hread]
  | skipped htagged hd hmetric hskipped hoptional =>
    rw [readField_of_tagged htagged hd, if_pos]
    simp only [hmetric, skipped_derivedOf.mpr hskipped, hoptional, Bool.not_false, Bool.and_self]

/-- A field has tags by the grammar, or something is wrong with it. -/
theorem fits_or_fault (f : DeclaredField) :
    (∃ tags, Fits f tags) ∨ ∃ fault, FieldFault f fault := by
  have hempty : Distinct [] := List.nodup_nil
  rcases Attribute.tagged_or_fault hempty f.attributes with ⟨tags, htagged, hd⟩ | ⟨fault, h⟩
  · by_cases hvacant : f.type.form.kind.1.isMetric = true → (.ignore, Tag.ignored) ∈ tags →
        f.type.form.kind.2 = true
    · exact .inl ⟨tags, htagged, hd, hvacant⟩
    · push Not at hvacant
      obtain ⟨hmetric, hskipped, hoptional⟩ := hvacant
      exact .inr ⟨_, .skipped htagged hd hmetric hskipped (Bool.not_eq_true _ ▸ hoptional)⟩
  · exact .inr ⟨fault, .attributes h⟩

/-- **The field is derived from the declared one by the grammar**: its tags are those of the items,
in their order, and the declared name and type give the rest. -/
def Derives (f : DeclaredField) (g : DerivedField) : Prop :=
  Fits f g.tags ∧ g = derivedOf f g.tags

theorem readField_eq_ok_iff {g : DerivedField} : readField f = .ok g ↔ Derives f g := by
  constructor
  · intro h
    rcases fits_or_fault f with ⟨tags, hfits⟩ | ⟨fault, hfault⟩
    · rw [readField_of_fits hfits] at h
      obtain rfl := Except.ok.inj h
      exact ⟨hfits, rfl⟩
    · rw [readField_of_fieldFault hfault] at h
      cases h
  · rintro ⟨hfits, hg⟩
    rw [hg]
    exact readField_of_fits hfits

/-! ## Declarations -/

theorem readFields_eq_ok_iff {fs : List DeclaredField} {gs : List DerivedField} :
    readFields fs = .ok gs ↔ List.Forall₂ Derives fs gs := by
  induction fs generalizing gs with
  | nil => rw [readFields, Except.ok.injEq, List.forall₂_nil_left_iff, eq_comm]
  | cons f fs ih =>
    rw [List.forall₂_cons_left_iff]
    simp only [← readField_eq_ok_iff, ← ih, readFields]
    cases readField f with
    | error => simp
    | ok g =>
      cases readFields fs with
      | error => simp
      | ok others => simp [eq_comm]

theorem readFields_of_fieldFault {before after : List DeclaredField}
    (hbefore : ∀ g ∈ before, ∃ tags, Fits g tags) (h : FieldFault f fault) :
    readFields (before ++ f :: after) = .error fault := by
  induction before with
  | nil => simp only [List.nil_append, readFields, readField_of_fieldFault h]
  | cons g before ih =>
    obtain ⟨⟨tags, hfits⟩, hbefore⟩ := List.forall_mem_cons.mp hbefore
    simp only [List.cons_append, readFields, readField_of_fits hfits, ih hbefore]

/-- Every field has tags by the grammar, or there is a first with something wrong. -/
theorem fits_or_first_fault (fs : List DeclaredField) :
    (∀ f ∈ fs, ∃ tags, Fits f tags) ∨
      ∃ before f after fault, fs = before ++ f :: after ∧ (∀ g ∈ before, ∃ tags, Fits g tags) ∧
        FieldFault f fault := by
  induction fs with
  | nil => exact .inl (List.forall_mem_nil _)
  | cons f fs ih =>
    rcases fits_or_fault f with hfits | ⟨fault, hfault⟩
    · rcases ih with hall | ⟨before, f', after, fault, rfl, hbefore, hfault⟩
      · exact .inl (List.forall_mem_cons.mpr ⟨hfits, hall⟩)
      · exact .inr ⟨f :: before, f', after, fault, rfl, List.forall_mem_cons.mpr ⟨hfits, hbefore⟩,
          hfault⟩
    · exact .inr ⟨[], f, fs, fault, rfl, List.forall_mem_nil _, hfault⟩

theorem exists_derives_iff {fs : List DeclaredField} :
    (∃ gs, List.Forall₂ Derives fs gs) ↔ ∀ f ∈ fs, ∃ tags, Fits f tags := by
  induction fs with
  | nil => exact iff_of_true ⟨[], .nil⟩ (List.forall_mem_nil _)
  | cons f fs ih =>
    rw [List.forall_mem_cons, ← ih]
    constructor
    · rintro ⟨gs, _ | ⟨hg, hgs⟩⟩
      exact ⟨⟨_, hg.1⟩, _, hgs⟩
    · rintro ⟨⟨tags, hfits⟩, gs, hgs⟩
      exact ⟨derivedOf f tags :: gs, .cons ⟨hfits, rfl⟩ hgs⟩

theorem readFields_eq_error_iff {fs : List DeclaredField} :
    readFields fs = .error fault ↔
      ∃ before f after, fs = before ++ f :: after ∧ (∀ g ∈ before, ∃ tags, Fits g tags) ∧
        FieldFault f fault := by
  constructor
  · intro h
    rcases fits_or_first_fault fs with hfits | ⟨before, f, after, fault', rfl, hbefore, hfault⟩
    · obtain ⟨gs, hgs⟩ := exists_derives_iff.mpr hfits
      rw [readFields_eq_ok_iff.mpr hgs] at h
      cases h
    · rw [readFields_of_fieldFault hbefore hfault] at h
      obtain rfl := Except.error.inj h
      exact ⟨before, f, after, rfl, hbefore, hfault⟩
  · rintro ⟨before, f, after, rfl, hbefore, hfault⟩
    exact readFields_of_fieldFault hbefore hfault

theorem ofItem_namedStruct (name : String) (fields : List DeclaredField) :
    ofItem ⟨.namedStruct, name, fields⟩ = (readFields fields).map (⟨plainName name, ·⟩) := by
  simp only [ofItem]
  cases readFields fields <;> rfl

/-- **A struct derives a bundle if and only if the attributes of all its fields are of the
grammar.**  Then each field is derived by the grammar from the declared one.  Otherwise the fault is
that of the first field that has one. -/
theorem ofItem_follows_grammar (name : String) (fields : List DeclaredField) :
    ((∃ d, ofItem ⟨.namedStruct, name, fields⟩ = .ok d) ↔ ∀ f ∈ fields, ∃ tags, Fits f tags) ∧
      (∀ d, ofItem ⟨.namedStruct, name, fields⟩ = .ok d ↔
        d.typeName = plainName name ∧ List.Forall₂ Derives fields d.fields) ∧
      ∀ fault, ofItem ⟨.namedStruct, name, fields⟩ = .error fault ↔
        ∃ before f after, fields = before ++ f :: after ∧ (∀ g ∈ before, ∃ tags, Fits g tags) ∧
          FieldFault f fault := by
  rw [ofItem_namedStruct]
  refine ⟨?accepted, fun d => ?derived, fun fault => ?refused⟩
  case accepted =>
    rw [← exists_derives_iff]
    simp only [← readFields_eq_ok_iff]
    cases readFields fields <;> simp [Except.map]
  case derived =>
    obtain ⟨typeName, gs⟩ := d
    rw [← readFields_eq_ok_iff]
    cases readFields fields <;> simp [Except.map, eq_comm]
  case refused =>
    rw [← readFields_eq_error_iff]
    cases readFields fields <;> simp [Except.map]

end Derivation

end MetricBundle
