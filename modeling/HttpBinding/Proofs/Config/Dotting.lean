import HttpBinding.Proofs.Config.Entries
import Mathlib.Data.List.Forall2

/-!
Nested and dotted keys. An entry whose value is a mapping may be replaced by the entries of
that mapping with its own key and a dot in front of theirs, wherever it stands: the settings
have the same keys in the same order, and a value that is no mapping is only looked at from
outside. Keys that are no scalars are shown as a whole, so what changes inside one of them
changes its name, which is unknown before and after.
-/
namespace HttpBinding.Config

open Yaml (Value)

/-- Whether an entry stands in a value or inside a key of one of its mappings. -/
inductive Place where
  | value
  | key

def dottedEntry (name : String) (entry : Value × Value) : Value × Value :=
  (.text (name ++ "." ++ segment entry.1), entry.2)

/-- The second value is the first with one entry dotted, anywhere in it. -/
inductive Dotted : Place → Value → Value → Prop
  | entry (before inner after : List (Value × Value)) (key : Value) (name : String)
      (named : key.scalarText? = some name) (filled : name ≠ "") :
      Dotted .value (.mapping (before ++ (key, .mapping inner) :: after))
        (.mapping (before ++ (inner.map (dottedEntry name) ++ after)))
  | inValue (place : Place) (before after : List (Value × Value)) (key value other : Value)
      (inside : Dotted place value other) :
      Dotted place (.mapping (before ++ (key, value) :: after))
        (.mapping (before ++ (key, other) :: after))
  | inItem (place : Place) (before after : List Value) (item other : Value)
      (inside : Dotted place item other) :
      Dotted place (.list (before ++ item :: after)) (.list (before ++ other :: after))
  | inTag (place : Place) (tag : String) (value other : Value) (inside : Dotted place value other) :
      Dotted place (.tagged tag value) (.tagged tag other)
  | inKey (place : Place) (before after : List (Value × Value)) (key other value : Value)
      (inside : Dotted place key other) :
      Dotted .key (.mapping (before ++ (key, value) :: after))
        (.mapping (before ++ (other, value) :: after))

/-- Settings that a merge cannot tell apart, but for an unknown name that comes from a key. -/
inductive Akin (place : Place) (setting other : Setting) : Prop
  | same (keys : setting.key = other.key)
      (texts : setting.value.scalarText? = other.value.scalarText?)
      (nulls : isNull setting.value = isNull other.value)
      (kinds : kind setting.value = kind other.value)
  | unknown (inKey : place = .key) (own : isOwn setting.key = isOwn other.key)
      (first : setting.key ∉ knownKeys) (second : other.key ∉ knownKeys)

/-- The same outcome, but for the name of an unknown key. -/
inductive Agree (place : Place) (origin : String) (outcome other : Except Error Assignments) :
    Prop
  | same (equal : outcome = other)
  | renamed (inKey : place = .key) (key name : String)
      (first : outcome = .error (.unknownKey key origin))
      (second : other = .error (.unknownKey name origin))

theorem forall₂_akin_refl (place : Place) (settings : List Setting) :
    List.Forall₂ (Akin place) settings settings :=
  List.forall₂_same.mpr fun _ _ => .same rfl rfl rfl rfl

/-! Merging -/

theorem apply_agree (place : Place) (origin : String) (values : Assignments)
    (setting other : Setting) (akin : Akin place setting other) :
    Agree place origin (setting.apply origin values) (other.apply origin values) := by
  cases akin with
  | same keys texts nulls kinds =>
      refine .same ?_
      simp only [Setting.apply, keys, texts, nulls, kinds]
  | unknown inKey own first second =>
      cases inside : isOwn other.key with
      | false => exact .same (by simp [Setting.apply, own, inside])
      | true =>
          exact .renamed inKey setting.key other.key
            (by simp [Setting.apply, own, inside, first])
            (by simp [Setting.apply, inside, second])

theorem foldlM_agree (place : Place) (origin : String) (values : Assignments)
    (settings others : List Setting) (akin : List.Forall₂ (Akin place) settings others) :
    Agree place origin (settings.foldlM (Setting.apply origin) values)
      (others.foldlM (Setting.apply origin) values) := by
  induction akin generalizing values with
  | nil => exact .same rfl
  | @cons setting other rest more first _ ih =>
      rw [List.foldlM_cons, List.foldlM_cons]
      cases apply_agree place origin values setting other first with
      | same equal =>
          rw [equal]
          cases other.apply origin values with
          | error error => exact .same rfl
          | ok next => exact ih next
      | renamed inKey key name first second =>
          rw [first, second]
          exact .renamed inKey key name rfl rfl

/-! An entry that is dotted in a value -/

theorem below_dotted (path name segment : String) (filled : name ≠ "") :
    below (below path name) segment = below path (name ++ "." ++ segment) := by
  have named : below path name ≠ "" := by
    by_cases empty : path = ""
    · simpa [below, empty] using filled
    · exact below_ne_empty path name empty
  rw [below_of_named _ _ named]
  by_cases empty : path = ""
  · simp [below, empty]
  · rw [below_of_named _ _ empty, below_of_named _ _ empty]
    simp only [String.append_assoc]

theorem entrySettings_dotted (path name : String) (filled : name ≠ "")
    (inner : List (Value × Value)) :
    entrySettings path (inner.map (dottedEntry name)) = entrySettings (below path name) inner := by
  induction inner with
  | nil => rfl
  | cons entry rest ih =>
      obtain ⟨key, value⟩ := entry
      rw [List.map_cons, dottedEntry, entrySettings, entrySettings, ih, below_dotted _ _ _ filled]
      rfl

theorem isNull_dotted (place : Place) (value other : Value) (dotted : Dotted place value other) :
    isNull value = isNull other := by
  induction dotted with
  | inTag _ _ _ _ _ ih => exact ih
  | _ => rfl

/-! An entry that is dotted in a key -/

/-- A capital letter, which no known key has. -/
def Marked (key : String) : Prop := ∃ c ∈ key.toList, c.isUpper = true

/-- A capital letter comes first. -/
def Capital (name : String) : Prop := ∃ c rest, name.toList = c :: rest ∧ c.isUpper = true

theorem not_known_of_marked (key : String) (marked : Marked key) : key ∉ knownKeys := by
  have plain : ∀ known ∈ knownKeys, known.toList.all (!·.isUpper) = true := by decide
  intro known
  obtain ⟨c, member, upper⟩ := marked
  simpa [upper] using List.all_eq_true.mp (plain key known) c member

theorem named_of_marked (key : String) (marked : Marked key) : key ≠ "" := by
  rintro rfl
  obtain ⟨c, member, _⟩ := marked
  cases member

theorem marked_below (path segment : String) (marked : Marked path) :
    Marked (below path segment) := by
  obtain ⟨c, member, upper⟩ := marked
  refine ⟨c, ?_, upper⟩
  rw [below_of_named path segment (named_of_marked path ⟨c, member, upper⟩)]
  simp [member]

theorem marked_below_capital (path name : String) (capital : Capital name) :
    Marked (below path name) := by
  obtain ⟨c, rest, whole, upper⟩ := capital
  refine ⟨c, ?_, upper⟩
  unfold below
  split <;> simp [whole]

theorem isOwn_capital (name : String) (capital : Capital name) : isOwn name = false := by
  obtain ⟨c, rest, whole, upper⟩ := capital
  rw [Bool.eq_false_iff, Ne, isOwn_iff, whole]
  rintro (same | ⟨more, own⟩)
  · rw [same] at whole
    cases whole
    cases upper
  · cases own
    cases upper

theorem isOwn_below_capital (path name other : String) (first : Capital name)
    (second : Capital other) : isOwn (below path name) = isOwn (below path other) := by
  by_cases empty : path = ""
  · simp [below, empty, isOwn_capital name first, isOwn_capital other second]
  · rw [below_of_named _ _ empty, below_of_named _ _ empty, isOwn_dotted, isOwn_dotted]

theorem capital_append (name rest : String) (capital : Capital name) : Capital (name ++ rest) := by
  obtain ⟨c, more, whole, upper⟩ := capital
  exact ⟨c, more ++ rest.toList, by rw [String.toList_append, whole, List.cons_append], upper⟩

theorem capital_list (items : List Value) : Capital (segment (.list items)) :=
  capital_append _ _ (capital_append _ _ ⟨'S', "equence [".toList, by decide, by decide⟩)

theorem capital_mapping (entries : List (Value × Value)) : Capital (segment (.mapping entries)) :=
  capital_append _ _ (capital_append _ _ ⟨'M', "apping \x7b".toList, by decide, by decide⟩)

theorem capital_tagged (tag : String) (value : Value) : Capital (segment (.tagged tag value)) := by
  have start : Capital "TaggedValue \x7b tag: " :=
    ⟨'T', "aggedValue \x7b tag: ".toList, by decide, by decide⟩
  have tagged := capital_append _ ", value: " (capital_append _ (Value.shownTag tag) start)
  exact capital_append _ " \x7d" (capital_append _ value.describe tagged)

theorem capital_of_dotted (place : Place) (value other : Value)
    (dotted : Dotted place value other) : Capital (segment value) ∧ Capital (segment other) := by
  cases dotted with
  | entry | inValue | inKey => exact ⟨capital_mapping _, capital_mapping _⟩
  | inItem => exact ⟨capital_list _, capital_list _⟩
  | inTag => exact ⟨capital_tagged _ _, capital_tagged _ _⟩

-- The same value under two names that are unknown: so is everything below it.
mutual

theorem akin_renamed (path name : String) (own : isOwn path = isOwn name) (first : Marked path)
    (second : Marked name) (value : Value) :
    List.Forall₂ (Akin .key) (settingsBelow path value) (settingsBelow name value) := by
  cases value with
  | mapping entries => exact akin_entries_renamed path name own first second entries
  | _ =>
      simp only [settingsBelow, String.isEmpty_iff, named_of_marked path first,
        named_of_marked name second, if_false]
      exact .cons (.unknown rfl own (not_known_of_marked path first)
        (not_known_of_marked name second)) .nil

theorem akin_entries_renamed (path name : String) (own : isOwn path = isOwn name)
    (first : Marked path) (second : Marked name) (entries : List (Value × Value)) :
    List.Forall₂ (Akin .key) (entrySettings path entries) (entrySettings name entries) := by
  match entries with
  | [] => exact .nil
  | (key, value) :: rest =>
      have ownBelow : isOwn (below path (segment key)) = isOwn (below name (segment key)) := by
        rw [below_of_named _ _ (named_of_marked path first),
          below_of_named _ _ (named_of_marked name second), isOwn_dotted, isOwn_dotted, own]
      rw [entrySettings, entrySettings]
      exact List.rel_append (akin_renamed _ _ ownBelow (marked_below path _ first)
        (marked_below name _ second) value) (akin_entries_renamed path name own first second rest)

end

theorem akin_settingsBelow (place : Place) (value other : Value)
    (dotted : Dotted place value other) (path : String) :
    List.Forall₂ (Akin place) (settingsBelow path value) (settingsBelow path other) := by
  induction dotted generalizing path with
  | entry before inner after key name named filled =>
      have here : segment key = name := by simp [segment, named]
      simp only [settingsBelow, entrySettings_append, entrySettings, here,
        entrySettings_dotted path name filled]
      exact forall₂_akin_refl .value _
  | inValue place before after key value other _ ih =>
      simp only [settingsBelow, entrySettings_append, entrySettings]
      exact List.rel_append (forall₂_akin_refl place _)
        (List.rel_append (ih _) (forall₂_akin_refl place _))
  | inItem place before after item other =>
      simp only [settingsBelow]
      split
      · exact .nil
      · exact .cons (.same rfl rfl rfl rfl) .nil
  | inTag place tag value other inside =>
      simp only [settingsBelow]
      split
      · exact .nil
      · exact .cons (.same rfl rfl (isNull_dotted place value other inside) rfl) .nil
  | inKey place before after key other value inside =>
      obtain ⟨first, second⟩ := capital_of_dotted place key other inside
      simp only [settingsBelow, entrySettings_append, entrySettings]
      refine List.rel_append (forall₂_akin_refl .key _)
        (List.rel_append ?_ (forall₂_akin_refl .key _))
      exact akin_renamed _ _ (isOwn_below_capital path _ _ first second)
        (marked_below_capital path _ first) (marked_below_capital path _ second) value

theorem mergeValue_agree (place : Place) (document other : Value)
    (dotted : Dotted place document other) (origin : String) (values : Assignments) :
    Agree place origin (mergeValue origin values document) (mergeValue origin values other) :=
  foldlM_agree place origin values _ _ (akin_settingsBelow place document other dotted "")

/-- Dotting an entry leaves the outcome as it is. Inside a key it may change the name of an
unknown key, and nothing else. -/
theorem mergeValue_dotted (document other : Value) :
    (Dotted .value document other → ∀ origin values,
      mergeValue origin values document = mergeValue origin values other) ∧
    (Dotted .key document other → ∀ origin values,
      mergeValue origin values document = mergeValue origin values other ∨
        ∃ key name, mergeValue origin values document = .error (.unknownKey key origin) ∧
          mergeValue origin values other = .error (.unknownKey name origin)) := by
  constructor
  · intro dotted origin values
    cases mergeValue_agree .value document other dotted origin values with
    | same equal => exact equal
    | renamed inKey => cases inKey
  · intro dotted origin values
    cases mergeValue_agree .key document other dotted origin values with
    | same equal => exact .inl equal
    | renamed _ key name first second => exact .inr ⟨key, name, first, second⟩

/-- A nested separator with an unknown key behind it, and the same with a dotted key. -/
def nestedDocument : Value :=
  .mapping [(.text "strut", .mapping [(.text "bindings", .mapping [(.text "separator", .null)]),
    (.text "port", .flag true)])]

def dottedDocument : Value :=
  .mapping [(.text "strut", .mapping [(.text "bindings.separator", .null), (.text "port", .flag true)])]

/-- A document under `strut` with a key that is a mapping. -/
def keyedDocument (key : Value) : Value :=
  .mapping [(.text "strut", .mapping [(key, .number (.whole 2))])]

def nestedKey : Value :=
  .mapping [(.text "a", .mapping [(.text "b", .number (.whole 1))])]

def dottedKey : Value := .mapping [(.text "a.b", .number (.whole 1))]

theorem dotted_nestedKey : Dotted .value nestedKey dottedKey :=
  .entry [] [(.text "b", .number (.whole 1))] [] (.text "a") "a" rfl (by decide)

theorem dotted_keyedDocument : Dotted .key (keyedDocument nestedKey) (keyedDocument dottedKey) :=
  .inValue .key [] [] (.text "strut") _ _
    (.inKey .value [] [] nestedKey dottedKey _ dotted_nestedKey)

theorem nestedDocument_dotted :
    Dotted .value nestedDocument dottedDocument ∧
    mergeValue "strut.yaml" .empty nestedDocument = mergeValue "strut.yaml" .empty dottedDocument ∧
    Dotted .key (keyedDocument nestedKey) (keyedDocument dottedKey) ∧
    (mergeValue "strut.yaml" .empty (keyedDocument nestedKey)
        = mergeValue "strut.yaml" .empty (keyedDocument dottedKey) ∨
      ∃ key name, mergeValue "strut.yaml" .empty (keyedDocument nestedKey)
          = .error (.unknownKey key "strut.yaml") ∧
        mergeValue "strut.yaml" .empty (keyedDocument dottedKey)
          = .error (.unknownKey name "strut.yaml")) := by
  have dotted : Dotted .value nestedDocument dottedDocument :=
    .inValue .value [] [] (.text "strut") _ _
      (.entry [] [(.text "separator", .null)] [(.text "port", .flag true)] (.text "bindings")
        "bindings" rfl (by decide))
  exact ⟨dotted, (mergeValue_dotted _ _).1 dotted _ _, dotted_keyedDocument,
    (mergeValue_dotted _ _).2 dotted_keyedDocument _ _⟩

/-- Inside a key, the dotted entry is seen: the error names another key. -/
theorem dottedKey_renames :
    Dotted .value nestedKey dottedKey ∧
    Dotted .key (keyedDocument nestedKey) (keyedDocument dottedKey) ∧
    mergeValue "strut.yaml" .empty (keyedDocument nestedKey)
      = .error (.unknownKey "strut.Mapping \x7b\"a\": Mapping \x7b\"b\": Number(1)\x7d\x7d"
          "strut.yaml") ∧
    mergeValue "strut.yaml" .empty (keyedDocument dottedKey)
      = .error (.unknownKey "strut.Mapping \x7b\"a.b\": Number(1)\x7d" "strut.yaml") ∧
    mergeValue "strut.yaml" .empty (keyedDocument nestedKey)
      ≠ mergeValue "strut.yaml" .empty (keyedDocument dottedKey) := by
  have nested : mergeValue "strut.yaml" .empty (keyedDocument nestedKey)
      = .error (.unknownKey "strut.Mapping \x7b\"a\": Mapping \x7b\"b\": Number(1)\x7d\x7d"
          "strut.yaml") := by decide +kernel
  have dotted : mergeValue "strut.yaml" .empty (keyedDocument dottedKey)
      = .error (.unknownKey "strut.Mapping \x7b\"a.b\": Number(1)\x7d" "strut.yaml") := by
    decide +kernel
  refine ⟨dotted_nestedKey, dotted_keyedDocument, nested, dotted, ?_⟩
  rw [nested, dotted]
  decide

end HttpBinding.Config
