/-
**What a parameter sets, pair by pair.**

A parameter is read pair after pair. The first pair that is no setting decides alone, and otherwise each option has
the value of the last pair that sets it. So a parameter that is put together from two means what the second one
says where it says something, and what the first one says elsewhere. How the pairs are spelt does not matter: a
pair is known by what is left of its key and of its value without the blank characters around them, and its value
by its letters in lower case.

* `Options.keyValue?`, `Options.values` — the pairs of a parameter as a reader sees them;
* `Choice` — one of the options: its key, the meaning of its values, and how settings speak of it;
* `Options.follows_of_parse` — the last setting of each option counts;
* `Options.Respelt` — a parameter in another spelling;
* `Options.parse_composes` — the law for joined parameters, other spellings and repeated settings.
-/

import ProtoSwift.Options
import ProtoSwift.Proofs.Outcome
import ProtoSwift.Proofs.Text.Trimming
import Mathlib

namespace ProtoSwift

open Text

/-- A text with its ASCII letters in lower case. -/
def lowerCase (text : List Char) : String :=
  String.ofList (text.map Char.toLower)

/-! ### Pairs -/

namespace Options

/-- **The key and the value of a pair**, which are on either side of its first equals sign. -/
def keyValue? (pair : List Char) : Option (List Char × List Char) :=
  if '=' ∈ pair then some (trim (pair.takeWhile (· ≠ '=')), trim (pair.dropWhile (· ≠ '=')).tail)
  else none

/-- The value that a pair has for a key, if it has that key. -/
def valueFor? (key : String) (pair : List Char) : Option (List Char) :=
  (keyValue? pair).bind fun (name, value) => if String.ofList name = key then some value else none

/-- **The values that a parameter has for a key**, in the order of its pairs. -/
def values (parameter : String) (key : String) : List (List Char) :=
  (pairs parameter.toList).filterMap (valueFor? key)

end Options

theorem forall_ne_of_not_mem {text : List Char} {mark : Char} (plain : mark ∉ text) :
    ∀ c ∈ text, decide (c ≠ mark) = true := by
  intro c among
  rw [decide_eq_true_eq]
  rintro rfl
  exact plain among

/-- A pair with an equals sign has a key in front of the first one and a value behind it. -/
theorem Setting.parse_of_cons {key : List Char} (plain : '=' ∉ key) (value : List Char) :
    Setting.parse (key ++ '=' :: value) = ofKeyValue (trim key) (trim value) := by
  have before := forall_ne_of_not_mem plain
  have cut : (key ++ '=' :: value).span (fun c => decide (c ≠ '=')) = (key, '=' :: value) := by
    rw [List.span_eq_takeWhile_dropWhile, List.takeWhile_append_of_pos before,
      List.dropWhile_append_of_pos before]
    simp
  unfold parse
  rw [cut]

/-- A pair without an equals sign is reported as a key without a value. -/
theorem Setting.parse_of_not_mem {pair : List Char} (plain : '=' ∉ pair) :
    Setting.parse pair = .error (.invalidOption (String.ofList pair) "") := by
  have all := forall_ne_of_not_mem plain
  have cut : pair.span (fun c => decide (c ≠ '=')) = (pair, []) := by
    rw [List.span_eq_takeWhile_dropWhile, List.takeWhile_eq_self_iff.mpr all, List.dropWhile_eq_nil_iff.mpr all]
  unfold parse
  rw [cut]

theorem Options.keyValue?_of_cons {key : List Char} (plain : '=' ∉ key) (value : List Char) :
    keyValue? (key ++ '=' :: value) = some (trim key, trim value) := by
  have before := forall_ne_of_not_mem plain
  unfold keyValue?
  rw [if_pos (List.mem_append_right _ List.mem_cons_self), List.takeWhile_append_of_pos before,
    List.dropWhile_append_of_pos before]
  simp

/-- **A pair is a setting** exactly if it has a key and a value that are one. -/
theorem Setting.parse_eq_ok_iff {pair : List Char} {setting : Setting} :
    Setting.parse pair = .ok setting
      ↔ ∃ key value, Options.keyValue? pair = some (key, value) ∧ ofKeyValue key value = .ok setting := by
  by_cases marked : '=' ∈ pair
  · obtain ⟨key, value, rfl, plain⟩ := List.eq_append_cons_of_mem marked
    rw [parse_of_cons plain, Options.keyValue?_of_cons plain]
    constructor
    · exact fun accepted => ⟨_, _, rfl, accepted⟩
    · rintro ⟨_, _, same, accepted⟩
      cases same
      exact accepted
  · rw [parse_of_not_mem marked, Options.keyValue?, if_neg marked]
    constructor
    · rintro ⟨⟩
    · rintro ⟨_, _, ⟨⟩, _⟩

/-! ### Options -/

/-- **One of the options**: the key that sets it, what its values mean, what a setting says about it, and where it
is kept. -/
structure Choice (α : Type) where
  key : String
  ofValue? : String → Option α
  ofSetting? : Setting → Option α
  chosen : Options → α
  /-- A setting that says something about the option decides it, and any other leaves it as it is. -/
  chosen_set : ∀ options setting, chosen (options.set setting) = (ofSetting? setting).getD (chosen options)
  /-- A setting says something about the option if it has its key, and then it says what the value means. -/
  ofSetting?_of_ok : ∀ {name value setting}, Setting.ofKeyValue name value = .ok setting →
    ofSetting? setting = if String.ofList name = key then ofValue? (lowerCase value) else none
  isSome_of_ok : ∀ {name value setting}, Setting.ofKeyValue name value = .ok setting →
    String.ofList name = key → (ofValue? (lowerCase value)).isSome

theorem Setting.ofKeyValue_eq_ok_iff {name value : List Char} {setting : Setting} :
    ofKeyValue name value = .ok setting
      ↔ (String.ofList name = "Visibility" ∧ ∃ level, AccessLevel.ofValue? (lowerCase value) = some level
          ∧ setting = .access level)
        ∨ String.ofList name = "FileNaming" ∧ ∃ rule, FileNaming.ofValue? (lowerCase value) = some rule
          ∧ setting = .naming rule := by
  unfold ofKeyValue lowerCase
  by_cases isAccess : String.ofList name = "Visibility"
  · simp only [if_pos isAccess]
    cases AccessLevel.ofValue? (String.ofList (value.map Char.toLower)) <;> simp [isAccess, eq_comm]
  · simp only [if_neg isAccess]
    by_cases isNaming : String.ofList name = "FileNaming"
    · simp only [if_pos isNaming]
      cases FileNaming.ofValue? (String.ofList (value.map Char.toLower)) <;> simp [isNaming, eq_comm]
    · simp [isAccess, isNaming]

/-- The option that says who may use the accessors. -/
def Choice.access : Choice AccessLevel where
  key := "Visibility"
  ofValue? := AccessLevel.ofValue?
  ofSetting?
    | .access level => some level
    | .naming _ => none
  chosen := Options.access
  chosen_set options setting := by cases setting <;> rfl
  ofSetting?_of_ok accepted := by
    rcases Setting.ofKeyValue_eq_ok_iff.mp accepted with ⟨name, level, known, rfl⟩ | ⟨name, rule, known, rfl⟩
    · rw [if_pos name, known]
    · rw [if_neg (by rw [name]; decide)]
  isSome_of_ok accepted isKey := by
    rcases Setting.ofKeyValue_eq_ok_iff.mp accepted with ⟨name, level, known, rfl⟩ | ⟨name, rule, known, rfl⟩
    · rw [known]
      rfl
    · exact absurd (name.symm.trans isKey) (by decide)

/-- The option that says how generated files are named. -/
def Choice.naming : Choice FileNaming where
  key := "FileNaming"
  ofValue? := FileNaming.ofValue?
  ofSetting?
    | .access _ => none
    | .naming rule => some rule
  chosen := Options.naming
  chosen_set options setting := by cases setting <;> rfl
  ofSetting?_of_ok accepted := by
    rcases Setting.ofKeyValue_eq_ok_iff.mp accepted with ⟨name, level, known, rfl⟩ | ⟨name, rule, known, rfl⟩
    · rw [if_neg (by rw [name]; decide)]
    · rw [if_pos name, known]
  isSome_of_ok accepted isKey := by
    rcases Setting.ofKeyValue_eq_ok_iff.mp accepted with ⟨name, level, known, rfl⟩ | ⟨name, rule, known, rfl⟩
    · exact absurd (name.symm.trans isKey) (by decide)
    · rw [known]
      rfl

/-! ### The last setting counts -/

namespace Options

variable {α : Type} (choice : Choice α)

/-- **Options have the last value that a parameter has for the key of an option**, or what they have without any
parameter. -/
def Follows (parameter : String) (options : Options) : Prop :=
  match (values parameter choice.key).getLast? with
  | some value => choice.ofValue? (lowerCase value) = some (choice.chosen options)
  | none => choice.chosen options = choice.chosen {}

/-- The last setting that says something about an option decides it. The induction is on the settings from the
last one on. -/
theorem chosen_foldl (settings : List Setting) (options : Options) :
    choice.chosen (settings.foldl set options)
      = (settings.filterMap choice.ofSetting?).getLast?.getD (choice.chosen options) := by
  induction settings using List.reverseRecOn with
  | nil => rfl
  | append_singleton rest last inRest =>
    rw [List.foldl_append, List.foldl_cons, List.foldl_nil, choice.chosen_set, inRest, List.filterMap_append,
      List.getLast?_append]
    cases said : choice.ofSetting? last with
    | none => simp [said]
    | some value => simp [said]

/-- A list of pairs ends in settings if the first pair does, and then the others. -/
theorem mapM_parse_cons_eq_ok {pair : List Char} {rest : List (List Char)} {settings : List Setting} :
    (pair :: rest).mapM Setting.parse = .ok settings ↔ ∃ first others, Setting.parse pair = .ok first
      ∧ rest.mapM Setting.parse = .ok others ∧ settings = first :: others := by
  rw [List.mapM_cons]
  constructor
  · intro done
    obtain ⟨first, firstDone, done⟩ := bind_eq_ok.mp done
    obtain ⟨others, othersDone, done⟩ := bind_eq_ok.mp done
    cases done
    exact ⟨first, others, firstDone, othersDone, rfl⟩
  · rintro ⟨first, others, firstDone, othersDone, rfl⟩
    exact bind_eq_ok.mpr ⟨first, firstDone, bind_eq_ok.mpr ⟨others, othersDone, rfl⟩⟩

/-- **What settings say about an option is what the values of the pairs mean.** -/
theorem map_values_of_mapM {pairs : List (List Char)} {settings : List Setting}
    (done : pairs.mapM Setting.parse = .ok settings) :
    (pairs.filterMap (valueFor? choice.key)).map (fun value => choice.ofValue? (lowerCase value))
      = (settings.filterMap choice.ofSetting?).map some := by
  induction pairs generalizing settings with
  | nil =>
    cases done
    rfl
  | cons pair rest inRest =>
    obtain ⟨first, others, accepted, othersDone, rfl⟩ := mapM_parse_cons_eq_ok.mp done
    obtain ⟨name, value, read, accepted⟩ := Setting.parse_eq_ok_iff.mp accepted
    have said := choice.ofSetting?_of_ok accepted
    by_cases isKey : String.ofList name = choice.key
    · obtain ⟨meant, known⟩ := Option.isSome_iff_exists.mp (choice.isSome_of_ok accepted isKey)
      have here : valueFor? choice.key pair = some value := by
        unfold valueFor?
        rw [read, Option.bind_some]
        exact if_pos isKey
      rw [if_pos isKey, known] at said
      rw [List.filterMap_cons_some here, List.filterMap_cons_some said, List.map_cons, List.map_cons, known,
        inRest othersDone]
    · have here : valueFor? choice.key pair = none := by
        unfold valueFor?
        rw [read, Option.bind_some]
        exact if_neg isKey
      rw [if_neg isKey] at said
      rw [List.filterMap_cons_none here, List.filterMap_cons_none said, inRest othersDone]

/-- A parameter sets what its pairs do, one after the other. -/
theorem parse_eq (parameter : String) : parse parameter
    = ((pairs parameter.toList).mapM Setting.parse).map fun settings => settings.foldl set {} := by
  unfold parse
  cases (pairs parameter.toList).mapM Setting.parse <;> rfl

/-- **In a parameter that is accepted, the last setting of each option counts.** -/
theorem follows_of_parse {parameter : String} {options : Options} (accepted : parse parameter = .ok options) :
    Follows choice parameter options := by
  rw [parse_eq] at accepted
  obtain ⟨settings, done, rfl⟩ := map_eq_ok.mp accepted
  have last := congrArg List.getLast? (map_values_of_mapM choice done)
  rw [List.getLast?_map, List.getLast?_map] at last
  unfold Follows values
  rw [chosen_foldl]
  cases said : (settings.filterMap choice.ofSetting?).getLast? with
  | none =>
    rw [said, Option.map_none, Option.map_eq_none_iff] at last
    rw [last]
    rfl
  | some meant =>
    rw [said] at last
    obtain ⟨value, isLast, known⟩ := Option.map_eq_some_iff.mp last
    rw [isLast]
    exact known

/-! ### Joined parameters -/

theorem pairs_append (first second : List Char) : pairs (first ++ ',' :: second) = pairs first ++ pairs second := by
  unfold pairs
  rw [List.splitOn_append_cons_self, List.map_append, List.filter_append]

/-- **The options of one parameter, but for those that another parameter has values for.** -/
def overridden (options : Options) (parameter : String) (others : Options) : Options :=
  { access := if values parameter "Visibility" = [] then options.access else others.access
    naming := if values parameter "FileNaming" = [] then options.naming else others.naming }

/-- What settings behind others say about an option counts, if they say anything. -/
theorem chosen_foldl_append (settings : List Setting) {parameter : String} {others : List Setting}
    (done : (pairs parameter.toList).mapM Setting.parse = .ok others) :
    choice.chosen ((settings ++ others).foldl set {})
      = if values parameter choice.key = [] then choice.chosen (settings.foldl set {})
        else choice.chosen (others.foldl set {}) := by
  have same := map_values_of_mapM choice done
  rw [List.foldl_append, chosen_foldl, chosen_foldl choice others {}]
  by_cases silent : values parameter choice.key = []
  · have none : (pairs parameter.toList).filterMap (valueFor? choice.key) = [] := silent
    rw [none, List.map_nil, eq_comm, List.map_eq_nil_iff] at same
    rw [if_pos silent, same]
    rfl
  · have said : others.filterMap choice.ofSetting? ≠ [] := by
      intro empty
      rw [empty, List.map_nil, List.map_eq_nil_iff] at same
      exact silent same
    rw [if_neg silent, List.getLast?_eq_some_getLast said, Option.getD_some, Option.getD_some]

/-- **A parameter joined from two** fails as the first one that fails, and sets what the second one sets and
otherwise what the first one does. -/
theorem parse_append (first second : String) :
    parse (first ++ "," ++ second) = (do
      let options ← parse first
      let others ← parse second
      return options.overridden second others) := by
  have joined : (first ++ "," ++ second).toList = first.toList ++ ',' :: second.toList := by
    rw [String.toList_append, String.toList_append, List.append_assoc]
    rfl
  rw [parse_eq, joined, pairs_append, List.mapM_append, parse_eq first, parse_eq second]
  cases (pairs first.toList).mapM Setting.parse with
  | error cause => rfl
  | ok settings =>
    cases done : (pairs second.toList).mapM Setting.parse with
    | error cause => rfl
    | ok others =>
      have access := chosen_foldl_append Choice.access settings done
      have naming := chosen_foldl_append Choice.naming settings done
      exact congrArg Except.ok (congrArg₂ Options.mk access naming)

/-! ### Other spellings -/

/-- **One pair in another spelling**: with blank characters around it, with blank characters behind its key or in
front of its value, or, if it is accepted, with other cases of the letters of its value. -/
inductive PairRespelt : List Char → List Char → Prop
  | around (left pair right : List Char) (blankLeft : IsBlankText left) (blankRight : IsBlankText right) :
      PairRespelt pair (left ++ pair ++ right)
  | inside (key left right value : List Char) (plain : '=' ∉ key) (blankLeft : IsBlankText left)
      (blankRight : IsBlankText right) :
      PairRespelt (key ++ '=' :: value) (key ++ left ++ '=' :: (right ++ value))
  | letterCase (key value other : List Char) (plain : '=' ∉ key)
      (accepted : ∃ setting, Setting.parse (trim (key ++ '=' :: value)) = .ok setting)
      (same : other.map Char.toLower = value.map Char.toLower) :
      PairRespelt (key ++ '=' :: value) (key ++ '=' :: other)

/-- **What is between the commas of a parameter in another spelling**: with one pair respelt, or with one more pair
that is empty. -/
inductive Respelt : List (List Char) → List (List Char) → Prop
  | pair {pair other : List Char} (before after : List (List Char)) (respelt : PairRespelt pair other) :
      Respelt (before ++ pair :: after) (before ++ other :: after)
  | emptyPair (before after : List (List Char)) : Respelt (before ++ after) (before ++ [] :: after)

/-- A parameter in another spelling, which takes any number of changes. -/
def Respelling (parameter other : String) : Prop :=
  Relation.ReflTransGen Respelt (parameter.toList.splitOn ',') (other.toList.splitOn ',')

/-- What stands between two commas as a setting, or nothing if it is blank. -/
def settingOf? (piece : List Char) : Option (Except Error Setting) :=
  if trim piece = [] then none else some (Setting.parse (trim piece))

theorem mapM_parse_pieces (pieces : List (List Char)) :
    ((pieces.map trim).filter (!·.isEmpty)).mapM Setting.parse = (pieces.filterMap settingOf?).mapM id := by
  induction pieces with
  | nil => rfl
  | cons piece rest inRest =>
    rw [List.map_cons]
    by_cases empty : trim piece = []
    · have none : settingOf? piece = none := if_pos empty
      rw [List.filter_cons_of_neg (by simp [empty]), List.filterMap_cons_none none, inRest]
    · have here : settingOf? piece = some (Setting.parse (trim piece)) := if_neg empty
      rw [List.filter_cons_of_pos (by simp [empty]), List.filterMap_cons_some here, List.mapM_cons, List.mapM_cons,
        inRest]
      rfl

/-- Parameters that have the same settings between their commas set the same options. -/
theorem parse_eq_of_settings {parameter other : String}
    (same : (parameter.toList.splitOn ',').filterMap settingOf? = (other.toList.splitOn ',').filterMap settingOf?) :
    parse parameter = parse other := by
  rw [parse_eq, parse_eq, pairs, pairs, mapM_parse_pieces, mapM_parse_pieces, same]

/-- An equals sign is not blank, so a pair that has one is left by trimming, and its key and value as well. -/
theorem settingOf?_of_cons {key : List Char} (plain : '=' ∉ key) (value : List Char) :
    settingOf? (key ++ '=' :: value) = some (Setting.ofKeyValue (trim key) (trim value)) := by
  have trimmed : trim (key ++ '=' :: value) = trimStart key ++ '=' :: trimEnd value :=
    trim_append_cons (by decide) key value
  have plainStart : '=' ∉ trimStart key := fun among => plain (List.dropWhile_sublist _ |>.mem among)
  unfold settingOf?
  rw [trimmed, if_neg (by simp), Setting.parse_of_cons plainStart, trim_trimStart, trim_trimEnd]

/-- A value that is accepted means the same in other cases of its letters. -/
theorem ofKeyValue_eq_of_ok {key value other : List Char} {setting : Setting}
    (accepted : Setting.ofKeyValue key value = .ok setting)
    (same : other.map Char.toLower = value.map Char.toLower) : Setting.ofKeyValue key other = .ok setting := by
  have lower : lowerCase other = lowerCase value := congrArg String.ofList same
  rw [Setting.ofKeyValue_eq_ok_iff] at accepted ⊢
  rwa [lower]

theorem settingOf?_of_respelt {pair other : List Char} (respelt : PairRespelt pair other) :
    settingOf? other = settingOf? pair := by
  cases respelt with
  | around left _ right blankLeft blankRight =>
    unfold settingOf?
    rw [trim_around blankLeft blankRight]
  | inside key left right value plain blankLeft blankRight =>
    have stillPlain : '=' ∉ key ++ left := by
      intro among
      rcases List.mem_append.mp among with inKey | inBlank
      · exact plain inKey
      · exact absurd (blankLeft _ inBlank) (by decide)
    rw [settingOf?_of_cons stillPlain, settingOf?_of_cons plain, trim_append_of_blank blankLeft,
      trim_of_blank_append blankRight]
  | letterCase key value other plain accepted same =>
    obtain ⟨setting, accepted⟩ := accepted
    have whole : settingOf? (key ++ '=' :: value) = some (.ok setting) := by
      unfold settingOf?
      rw [accepted, trim_append_cons (by decide), if_neg (by simp)]
    rw [settingOf?_of_cons plain] at whole ⊢
    have sameTrimmed : (trim other).map Char.toLower = (trim value).map Char.toLower := by
      rw [← trim_map_toLower, ← trim_map_toLower, same]
    rw [settingOf?_of_cons plain, Option.some.inj whole, ofKeyValue_eq_of_ok (Option.some.inj whole) sameTrimmed]

/-- One change of the spelling leaves the settings between the commas as they are. -/
theorem filterMap_settingOf?_of_respelt {pieces others : List (List Char)} (respelt : Respelt pieces others) :
    others.filterMap settingOf? = pieces.filterMap settingOf? := by
  cases respelt with
  | pair before after respelt =>
    rw [List.filterMap_append, List.filterMap_append, List.filterMap_cons, List.filterMap_cons,
      settingOf?_of_respelt respelt]
  | emptyPair before after =>
    have none : settingOf? [] = none := rfl
    rw [List.filterMap_append, List.filterMap_append, List.filterMap_cons_none none]

/-- **A parameter in another spelling sets the same options, or fails in the same way.** -/
theorem parse_eq_of_respelling {parameter other : String} (respelling : Respelling parameter other) :
    parse other = parse parameter := by
  apply parse_eq_of_settings
  unfold Respelling at respelling
  generalize parameter.toList.splitOn ',' = pieces at respelling ⊢
  generalize other.toList.splitOn ',' = others at respelling ⊢
  induction respelling with
  | refl => rfl
  | tail _ change before => rw [filterMap_settingOf?_of_respelt change, before]

/-- **Parameters compose.** Joined ones fail as the first of them that fails, and otherwise the second one decides
what it sets and the first one the rest. The spelling of a parameter does not matter, and the last setting of each
option counts. -/
theorem parse_composes (first second : String) :
    parse (first ++ "," ++ second) = (do
        let options ← parse first
        let others ← parse second
        return options.overridden second others)
      ∧ (∀ other, Respelling first other → parse other = parse first)
      ∧ ∀ options, parse first = .ok options
        → Follows Choice.access first options ∧ Follows Choice.naming first options := by
  refine ⟨parse_append first second, fun other respelling => parse_eq_of_respelling respelling, ?_⟩
  intro options accepted
  exact ⟨follows_of_parse Choice.access accepted, follows_of_parse Choice.naming accepted⟩

/-- A parameter with an empty pair, and with blank characters and capitals in the other one. -/
theorem respelling_loud : Respelling "Visibility=public" ", Visibility\t= PUBLIC" := by
  have plain : "Visibility=public".toList.splitOn ',' = ["Visibility=public".toList] := by decide
  have loud : ", Visibility\t= PUBLIC".toList.splitOn ',' = [[], " Visibility\t= PUBLIC".toList] := by decide
  have blank : IsBlankText ['\t'] ∧ IsBlankText [' '] := by decide
  have capitals : Respelt ["Visibility=public".toList] ["Visibility=PUBLIC".toList] :=
    .pair [] [] (.letterCase "Visibility".toList "public".toList "PUBLIC".toList (by decide)
      ⟨.access .publicAccess, by decide +kernel⟩ (by decide))
  have inside : Respelt ["Visibility=PUBLIC".toList] ["Visibility\t= PUBLIC".toList] :=
    .pair [] [] (.inside "Visibility".toList ['\t'] [' '] "PUBLIC".toList (by decide) blank.1 blank.2)
  have around : Respelt ["Visibility\t= PUBLIC".toList] [" Visibility\t= PUBLIC".toList] :=
    .pair [] [] (.around [' '] "Visibility\t= PUBLIC".toList [] blank.2 .nil)
  unfold Respelling
  rw [plain, loud]
  exact .tail (.tail (.tail (.single capitals) inside) around) (.emptyPair [] _)

/-- The second parameter sets both options, and one of them twice. The first one can be spelt in another way. -/
theorem parse_composes_bank :
    parse ("Visibility=public" ++ "," ++ "FileNaming=droppath,Visibility=internal,Visibility=private")
        = .ok ⟨.privateAccess, .dropPath⟩
      ∧ parse ", Visibility\t= PUBLIC" = .ok ⟨.publicAccess, .fullPath⟩
      ∧ Follows Choice.access "Visibility=public" ⟨.publicAccess, .fullPath⟩ := by
  have accepted : parse "Visibility=public" = .ok ⟨.publicAccess, .fullPath⟩ := by decide +kernel
  have acceptedSecond : parse "FileNaming=droppath,Visibility=internal,Visibility=private"
      = .ok ⟨.privateAccess, .dropPath⟩ := by decide +kernel
  have settings : values "FileNaming=droppath,Visibility=internal,Visibility=private" "Visibility" ≠ []
      ∧ values "FileNaming=droppath,Visibility=internal,Visibility=private" "FileNaming" ≠ [] := by
    decide +kernel
  obtain ⟨joined, respelt, last⟩ := parse_composes "Visibility=public"
    "FileNaming=droppath,Visibility=internal,Visibility=private"
  refine ⟨?_, (respelt _ respelling_loud).trans accepted, (last _ accepted).1⟩
  rw [joined, accepted, acceptedSecond]
  show Except.ok (overridden _ _ _) = _
  rw [overridden, if_neg settings.1, if_neg settings.2]

end Options

end ProtoSwift
