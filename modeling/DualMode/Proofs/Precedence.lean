import DualMode.Proofs.Layers
import DualMode.Settings.Load
import Mathlib

/-! Which of several sources a setting comes from. A variable of the environment wins over the
file, the file over the default, and this for each key on its own: what is not chosen has no effect
at all, whatever it is. -/

namespace DualMode

namespace Path

theorem readName?_append {word rest : List Char} (inside : word.all isNameChar = true)
    (filled : word ≠ []) (stop : ∀ c ∈ rest.head?, isNameChar c = false) :
    readName? (word ++ rest) = some (String.ofList word, rest) := by
  have each : ∀ c ∈ word, isNameChar c = true := List.all_eq_true.mp inside
  unfold readName?
  rw [List.takeWhile_append_of_pos each, List.dropWhile_append_of_pos each]
  cases rest with
  | nil => simp [filled]
  | cons c rest => simp [filled, stop c rfl]

theorem ofName_dotted {word key : List Char} (inside : word.all isNameChar = true)
    (filled : word ≠ []) (within : key.all isNameChar = true) (full : key ≠ []) :
    ofName (String.ofList (word ++ '.' :: key)) =
      ⟨String.ofList word, [.key (String.ofList key)]⟩ := by
  have first : readName? (word ++ '.' :: key) = some (String.ofList word, '.' :: key) :=
    readName?_append inside filled (by simp [isNameChar])
  have second : readName? (key ++ []) = some (String.ofList key, []) :=
    readName?_append within full (by simp)
  rw [List.append_nil] at second
  unfold ofName ofName?
  simp [first, second, readSteps?]

end Path

namespace Settings

/-! Variables of the environment. -/

/-- The variable names this key of the section, in whatever letter case. -/
def Names (v : String × String) (key : String) : Prop :=
  Text.lower v.1 = "lifeguard__hybrid__" ++ key

instance (v : String × String) : DecidablePred (Names v) := fun key =>
  inferInstanceAs (Decidable (Text.lower v.1 = "lifeguard__hybrid__" ++ key))

/-- Names in lower case that a variable can spell. -/
structure IsKey (key : String) : Prop where
  filled : key.toList ≠ []
  inside : key.toList.all Path.isNameChar = true
  undotted : dotted key.toList = key.toList
  low : Text.lower key = key

theorem isKey_unknown : IsKey "unknown_attribute_key" :=
  ⟨by decide, by decide, by decide, by decide +kernel⟩

theorem isKey_limit : IsKey "max_adapt_depth" :=
  ⟨by decide, by decide, by decide, by decide +kernel⟩

theorem isKey_warn : IsKey "warn_on_unknown_field" :=
  ⟨by decide, by decide, by decide, by decide +kernel⟩

variable {v : String × String} {key : String} {environment : List (String × String)}

theorem ofVariable?_of_names (isKey : IsKey key) (names : Names v key) :
    ofVariable? v = some (String.ofList ("hybrid".toList ++ '.' :: key.toList),
      .text .environment v.2) := by
  have chars : (Text.lower v.1).toList = variableStart ++ ("hybrid__".toList ++ key.toList) := by
    rw [names, String.toList_append]
    rfl
  have parts : dotted ("hybrid__".toList ++ key.toList) = "hybrid".toList ++ '.' :: key.toList := by
    show "hybrid".toList ++ '.' :: dotted key.toList = _
    rw [isKey.undotted]
  unfold ofVariable?
  dsimp only
  rw [chars, List.drop_left, parts]
  simp

theorem ofName_of_isKey (isKey : IsKey key) :
    Path.ofName (String.ofList ("hybrid".toList ++ '.' :: key.toList)) = ⟨"hybrid", [.key key]⟩ := by
  rw [Path.ofName_dotted (by decide) (by decide) isKey.inside isKey.filled, String.ofList_toList,
    String.ofList_toList]

theorem lower_hybrid : Text.lower "hybrid" = "hybrid" := by decide

/-- Variables that name a key of the section, or have nothing to do with it. -/
inductive Orderly (v : String × String) : Prop
  | key {key : String} (isKey : IsKey key) (names : Names v key)
  | apart (elsewhere : ∀ e, ofVariable? v = some e →
      Text.lower (Path.ofName e.1).first ≠ "hybrid")

theorem Orderly.sets (orderly : Orderly v) {e : String × Tree} (is : ofVariable? v = some e) :
    Tree.Sets "hybrid" (.ofName e.1) e.2 := by
  cases orderly with
  | key isKey names =>
    rw [ofVariable?_of_names isKey names] at is
    obtain rfl := Option.some.inj is
    rw [ofName_of_isKey isKey]
    exact .one lower_hybrid rfl (by rintro ⟨o, es, same⟩; cases same)
  | apart elsewhere => exact .elsewhere (elsewhere e is)

/-- The variable itself tells what it sets. -/
theorem Orderly.given (orderly : Orderly v) (isKey : IsKey key) :
    ((ofVariable? v).bind fun e => Tree.given? "hybrid" (.ofName e.1) e.2 key) =
      if Names v key then some (.text .environment v.2) else none := by
  cases orderly with
  | @key k isKey' names' =>
    -- the variable may name another key of the section
    have same : Names v key ↔ k = key := by
      unfold Names at *
      rw [names', String.append_right_inj]
    rw [ofVariable?_of_names isKey' names', Option.bind_some, ofName_of_isKey isKey']
    simp [Tree.given?, lower_hybrid, isKey'.low, same]
  | apart elsewhere =>
    have others : ¬Names v key := by
      intro names
      refine elsewhere _ (ofVariable?_of_names isKey names) ?_
      rw [ofName_of_isKey isKey, lower_hybrid]
    rw [if_neg others]
    cases is : ofVariable? v with
    | none => rfl
    | some e => rw [Option.bind_some, Tree.given?, if_neg (elsewhere e is)]

/-! Both builds as one tree. -/

def fileEntries (file : Option String) : List (String × Tree) := (file.bind readFile?).getD []

def loadTree (file : Option String) (environment : List (String × String)) : Tree :=
  (Tree.empty.merge (fileEntries file)).merge (environment.filterMap ofVariable?)

/-- Building once more without a broken file is building from a file without entries. -/
theorem load_eq (file : Option String) (environment : List (String × String)) :
    load file environment = ofTree (loadTree file environment) := by
  cases file with
  | none => rfl
  | some text =>
    have tree : loadTree (some text) environment = (Tree.empty.merge
        ((readFile? text).getD [])).merge (environment.filterMap ofVariable?) := rfl
    rw [tree]
    cases read : readFile? text with
    | none =>
      have broken : build? (some text) environment = none := by simp [build?, read]
      rw [load, broken]
      rfl
    | some entries =>
      have built : build? (some text) environment =
          some ((Tree.empty.merge entries).merge (environment.filterMap ofVariable?)) := by
        simp [build?, read]
      rw [load, built]
      rfl

/-! What is chosen for a key. -/

/-- The value of the variable that names the key; the last one if there are more. -/
def environmentValue? (environment : List (String × String)) (key : String) : Option Tree :=
  environment.reverse.findSome? fun v =>
    if Names v key then some (.text .environment v.2) else none

def fileValue? (file : Option String) (key : String) : Option Tree :=
  (fileEntries file).reverse.findSome? fun e => Tree.given? "hybrid" (.ofName e.1) e.2 key

def chosen? (file : Option String) (environment : List (String × String)) (key : String) :
    Option Tree := (environmentValue? environment key).or (fileValue? file key)

section Loaded

variable {file : Option String} (orderly : ∀ v ∈ environment, Orderly v)
include orderly

theorem sets_variables :
    ∀ e ∈ environment.filterMap ofVariable?, Tree.Sets "hybrid" (.ofName e.1) e.2 := by
  intro e there
  obtain ⟨v, there, is⟩ := List.mem_filterMap.mp there
  exact (orderly v there).sets is

theorem environmentValue?_eq (isKey : IsKey key) :
    ((environment.filterMap ofVariable?).reverse.findSome? fun e =>
      Tree.given? "hybrid" (.ofName e.1) e.2 key) = environmentValue? environment key := by
  unfold environmentValue?
  rw [← List.filterMap_reverse, ← List.head?_filterMap, ← List.head?_filterMap,
    List.filterMap_filterMap]
  refine congrArg List.head? (List.filterMap_congr fun v there => ?_)
  exact (orderly v (List.mem_reverse.mp there)).given isKey

variable (plain : ∀ e ∈ fileEntries file, Tree.Sets "hybrid" (.ofName e.1) e.2)
include plain

/-- The tree holds what is chosen for a key, and nothing else. -/
theorem within?_loadTree (isKey : IsKey key) :
    (loadTree file environment).within? "hybrid" key = chosen? file environment key := by
  have nothing : Tree.empty.within? "hybrid" key = none := rfl
  unfold loadTree chosen? fileValue?
  rw [Tree.within?_merge (sets_variables orderly), Tree.within?_merge plain, nothing, Option.or_none,
    environmentValue?_eq orderly isKey]

theorem sectioned_loadTree : (loadTree file environment).Sectioned "hybrid" :=
  Tree.sectioned_merge (sets_variables orderly)
    (Tree.sectioned_merge plain (Tree.sectioned_empty "hybrid"))

end Loaded

/-! From the tree to the settings. -/

theorem ofTree_eq {root : Tree} (sectioned : root.Sectioned "hybrid") :
    ofTree root =
      (ofValues (root.within? "hybrid" "unknown_attribute_key")
        (root.within? "hybrid" "max_adapt_depth")
        (root.within? "hybrid" "warn_on_unknown_field")).mapError fun m => notLoaded m.message := by
  unfold ofTree Tree.within?
  cases held : root.get? "hybrid" with
  | none => rfl
  | some t =>
    obtain ⟨o, es, rfl⟩ := sectioned t held
    rfl

theorem ofValues_eq_ok_iff {key limit warn : Option Tree} {s : Settings} :
    ofValues key limit warn = .ok s ↔
      orDefault Tree.toText ({} : Settings).unknownKey key = .ok s.unknownKey ∧
      orDefault Tree.toCount ({} : Settings).adaptLimit limit = .ok s.adaptLimit ∧
      orDefault Tree.toTruth ({} : Settings).warnUnknownField warn = .ok s.warnUnknownField := by
  obtain ⟨unknownKey, adaptLimit, warnUnknownField⟩ := s
  unfold ofValues
  cases orDefault Tree.toText ({} : Settings).unknownKey key with
  | error m => simp [bind, Except.bind]
  | ok a =>
    cases orDefault Tree.toCount ({} : Settings).adaptLimit limit with
    | error m => simp [bind, Except.bind]
    | ok b =>
      cases orDefault Tree.toTruth ({} : Settings).warnUnknownField warn with
      | error m => simp [bind, Except.bind]
      | ok c => simp [bind, Except.bind, pure, Except.pure]

/-- Settings are loaded exactly if they are what the three chosen values come to. -/
theorem load_eq_ok_iff {file : Option String}
    (plain : ∀ e ∈ fileEntries file, Tree.Sets "hybrid" (.ofName e.1) e.2)
    (orderly : ∀ v ∈ environment, Orderly v) {s : Settings} :
    load file environment = .ok s ↔
      orDefault Tree.toText ({} : Settings).unknownKey
          (chosen? file environment "unknown_attribute_key") = .ok s.unknownKey ∧
        orDefault Tree.toCount ({} : Settings).adaptLimit
          (chosen? file environment "max_adapt_depth") = .ok s.adaptLimit ∧
        orDefault Tree.toTruth ({} : Settings).warnUnknownField
          (chosen? file environment "warn_on_unknown_field") = .ok s.warnUnknownField := by
  rw [load_eq, ofTree_eq (sectioned_loadTree orderly plain),
    within?_loadTree orderly plain isKey_unknown, within?_loadTree orderly plain isKey_limit,
    within?_loadTree orderly plain isKey_warn, ← ofValues_eq_ok_iff]
  generalize ofValues _ _ _ = r
  cases r with
  | ok s => simp [Except.mapError]
  | error m => simp [Except.mapError]

theorem fails_iff {ε α : Type} {r : Except ε α} : (∃ e, r = .error e) ↔ ¬∃ a, r = .ok a := by
  cases r with
  | ok a => simp
  | error e => simp

/-- A default always fits. -/
theorem orDefault_fails_iff {α : Type} {convert : Tree → Except Mismatch α} (fallback : α)
    {chosen : Option Tree} :
    (∃ t m, chosen = some t ∧ convert t = .error m) ↔
      ¬∃ a, orDefault convert fallback chosen = .ok a := by
  rw [← fails_iff]
  cases chosen with
  | none => simp [orDefault]
  | some t => simp [orDefault]

end Settings
end DualMode
