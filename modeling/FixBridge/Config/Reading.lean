import FixBridge.Config.Sections

/-! What the parsers leave behind when they succeed: the value that the document describes. -/

namespace FixBridge

namespace Config

open Document

/-- A computation succeeds when its first part does and the rest does with what that returned. -/
theorem bind_eq_ok {α β : Type} {first : Except Failure α} {rest : α → Except Failure β}
    {result : β} : (first >>= rest) = .ok result ↔
      ∃ value, first = .ok value ∧ rest value = .ok result := by
  cases first <;> simp [Bind.bind, Except.bind]

/-- Returning a value succeeds with that value. -/
theorem pure_eq_ok {α : Type} {value result : α} :
    (pure value : Except Failure α) = .ok result ↔ value = result := by
  simp [Pure.pure, Except.pure]

/-- A validation succeeds when what it refuses is not the case. -/
theorem refuse_eq_ok {invalid : Prop} [Decidable invalid] {text : String} {result : Unit} :
    refuse invalid text = .ok result ↔ ¬ invalid := by
  -- The condition is decided, and each decision has one outcome.
  unfold refuse
  split
  · next holds => simp [holds]
  · next fails => simp [fails]

/-- Erasing a key that is missing changes nothing. -/
theorem remove_of_lookup_none {key : String} {entries : Entries}
    (missing : entries.lookup key = none) : remove key entries = entries := by
  -- A key that is not found differs from all keys, so the filter keeps every entry.
  rw [lookup_eq_none] at missing
  simpa [remove, List.filter_eq_self] using missing

/-- Finding and removing a key of a table, whether or not it is there. -/
@[simp] theorem findAndRemove_table (key : String) (entries : Entries) :
    findAndRemove key (.table entries) = (entries.lookup key, .table (remove key entries)) := by
  -- Without the key there is nothing to remove, so that both outcomes have the same rest.
  cases found : entries.lookup key with
  | none => simp only [findAndRemove, found, remove_of_lookup_none found]
  | some node => simp only [findAndRemove, found]

/-- A required key is there and has the required type. -/
theorem get_ok {α : Type} {value : Node → Option α} {key : String} {entries : Entries}
    {result : α} (done : get value key (.table entries) = .ok result) :
    (entries.lookup key).bind value = some result := by
  -- Only a key that is found and whose node can be read leads to a result.
  unfold get at done
  cases found : entries.lookup key with
  | none => simp [found] at done
  | some node =>
    cases read : value node with
    | none => simp [found, read] at done
    | some present =>
      simp only [found, read, Except.ok.injEq] at done
      exact done ▸ read

/-- A required key is there, has the required type, and is erased. -/
theorem getAndRemove_ok {α : Type} {value : Node → Option α} {key : String} {entries : Entries}
    {result : α} {rest : Node}
    (done : getAndRemove value key (.table entries) = .ok (result, rest)) :
    (entries.lookup key).bind value = some result ∧ rest = .table (remove key entries) := by
  -- A missing key and a node of another type throw, which leaves the third case.
  unfold getAndRemove at done
  cases found : entries.lookup key with
  | none => simp [found] at done
  | some node =>
    cases read : value node with
    | none => simp [found, read] at done
    | some present =>
      simp only [found, read, Except.ok.injEq, Prod.mk.injEq] at done
      obtain ⟨rfl, rfl⟩ := done
      exact ⟨read, rfl⟩

/-- An optional key has the required type if it is there, and is gone afterwards. -/
theorem maybeGetAndRemove_ok {α : Type} {missing : α} {value : Node → Option α} {key : String}
    {entries : Entries} {result : α} {rest : Node}
    (done : maybeGetAndRemove missing value key (.table entries) = .ok (result, rest)) :
    result = ((entries.lookup key).bind value).getD missing ∧
      (∀ node, entries.lookup key = some node → (value node).isSome) ∧
      rest = .table (remove key entries) := by
  -- A missing key gives the default, and a node of another type throws.
  unfold maybeGetAndRemove at done
  cases found : entries.lookup key with
  | none =>
    simp only [found, Except.ok.injEq, Prod.mk.injEq] at done
    obtain ⟨rfl, rfl⟩ := done
    simp [remove_of_lookup_none found]
  | some node =>
    cases read : value node with
    | none => simp [found, read] at done
    | some present =>
      simp only [found, read, Except.ok.injEq, Prod.mk.injEq] at done
      obtain ⟨rfl, rfl⟩ := done
      simp [read]

/-- A node from which everything has been consumed had nothing else to begin with. -/
theorem checkEmpty_ok {entries : Entries} (done : checkEmpty (.table entries) = .ok ()) :
    entries = [] := by
  -- A table with an entry is refused, whatever the entry is.
  cases entries with
  | nil => rfl
  | cons entry rest => cases done

/-- The strings that a node lists. -/
def listed : Node → List String
  | .string value => [value]
  | .array elements => elements.filterMap Node.string?
  | _ => []

/-- The strings of a node are those it lists. -/
theorem mem_listed {node : Node} {value : String} : value ∈ listed node ↔ node.Lists value := by
  -- Only a string and an array list anything.
  cases node with
  | table entries => simp [listed, Node.Lists]
  | array elements =>
    simp only [listed, List.mem_filterMap, Node.Lists, reduceCtorEq, false_or, Node.array.injEq]
    constructor
    · intro read
      obtain ⟨element, member, same⟩ := read
      cases element with
      | string found =>
        cases same
        exact ⟨elements, rfl, member⟩
      | _ => cases same
    · intro member
      obtain ⟨others, rfl, member⟩ := member
      exact ⟨_, member, rfl⟩
  | string found => simp [listed, Node.Lists, eq_comm]
  | scalar value => simp [listed, Node.Lists]

/-- An array that is accepted holds nothing but the strings that are read. -/
theorem stringElements_ok {elements : List Node} {values : List String}
    (done : stringElements elements = .ok values) :
    values = elements.filterMap Node.string? ∧
      ∀ element ∈ elements, ∃ value, element = .string value := by
  -- The loop ends with an error at the first element that is not a string.
  induction elements generalizing values with
  | nil =>
    cases done
    simp
  | cons element rest ih =>
    cases element with
    | string value =>
      simp only [stringElements, bind_eq_ok, pure_eq_ok] at done
      obtain ⟨others, looped, rfl⟩ := done
      obtain ⟨rfl, each⟩ := ih looped
      exact ⟨by simp [Node.string?], by simpa using each⟩
    | _ => simp [stringElements] at done

/-- Strings are read from a node that is nothing else, unless another node is passed over. -/
theorem strings_ok {otherwise : Except Failure (List String)} {node : Node}
    {values : List String} (done : strings otherwise node = .ok values) :
    (node.IsStrings ∧ values = listed node) ∨ (otherwise = .ok values ∧ listed node = []) := by
  -- A string and an array are read; any other node is left to what is said to happen otherwise.
  cases node with
  | string value =>
    cases done
    exact Or.inl ⟨Or.inl ⟨value, rfl⟩, rfl⟩
  | array elements =>
    obtain ⟨same, each⟩ := stringElements_ok done
    exact Or.inl ⟨Or.inr ⟨elements, rfl, each⟩, same⟩
  | _ => exact Or.inr ⟨done, rfl⟩

/-- Strings are read from nothing else where another node is refused. -/
theorem strings_ok_of_error {failure : Failure} {node : Node} {values : List String}
    (done : strings (.error failure) node = .ok values) :
    node.IsStrings ∧ values = listed node := by
  -- What happens otherwise is a failure here, which is no result.
  rcases strings_ok done with read | ⟨refused, -⟩
  · exact read
  · cases refused

/-- The strings that a key of a table lists. -/
def readStrings (key : String) (entries : Entries) : List String :=
  ((entries.lookup key).map listed).getD []

/-- The string at a key of a table, which is empty for a missing key. -/
def readString (key : String) (entries : Entries) : String :=
  ((entries.lookup key).bind Node.string?).getD ""

/-- The user that a table describes. -/
def readUser (libraries : Libraries) (userId : UInt16) (entries : Entries) : User where
  userId
  component := readString "component" entries
  username := readString "username" entries
  password := readString "password" entries
  strategyId := ((entries.lookup "strategy_id").bind libraries.uint32?).getD 0
  account := readString "account" entries
  accountsRegex := readStrings "accounts" entries
  symbolsRegex := readStrings "symbols" entries

/-- Strings that may be missing are read from the node of their key, if there is one. -/
theorem readStrings_ok {key : String} {entries : Entries} {values : List String} {rest : Node}
    {shaped : Node → Prop}
    (missing : entries.lookup key = none → values = [] ∧ rest = .table (remove key entries))
    (present : ∀ node, entries.lookup key = some node →
      shaped node ∧ values = listed node ∧ rest = .table (remove key entries)) :
    values = readStrings key entries ∧ rest = .table (remove key entries) ∧
      ∀ node, entries.lookup key = some node → shaped node := by
  -- The two hypotheses cover a missing key and a present one.
  cases found : entries.lookup key with
  | none =>
    obtain ⟨rfl, rfl⟩ := missing found
    exact ⟨by simp [readStrings, found], rfl, fun node same => by cases same⟩
  | some node =>
    obtain ⟨holds, rfl, rfl⟩ := present node found
    refine ⟨by simp [readStrings, found], rfl, fun other same => ?_⟩
    cases same
    exact holds

/-- The accounts of a user are what its table lists, and other values are refused or ignored. -/
theorem parseAccounts2_ok {settings : Settings} {key : String} {entries : Entries}
    {values : List String} {rest : Node}
    (done : parseAccounts2 settings key (.table entries) = .ok (values, rest)) :
    values = readStrings key entries ∧ rest = .table (remove key entries) ∧
      ∀ node, entries.lookup key = some node →
        node.IsStrings ∨ settings.omsRouteByStrategy = false := by
  rw [parseAccounts2, findAndRemove_table] at done
  apply readStrings_ok
  · intro missing
    simp only [missing, Except.ok.injEq, Prod.mk.injEq] at done
    exact ⟨done.1.symm, done.2.symm⟩
  · intro node found
    simp only [found, bind_eq_ok, pure_eq_ok, Prod.mk.injEq] at done
    obtain ⟨accounts, read, rfl, rfl⟩ := done
    -- A value that is neither a string nor an array lists nothing, which is what is read from it.
    rcases strings_ok read with ⟨shaped, same⟩ | ⟨passed, nothing⟩
    · exact ⟨Or.inl shaped, same, rfl⟩
    · cases routed : settings.omsRouteByStrategy with
      | true => simp [routed] at passed
      | false =>
        simp only [routed, Bool.false_eq_true, if_false, Except.ok.injEq] at passed
        exact ⟨Or.inr rfl, by rw [nothing, passed], rfl⟩

/-- The symbols of a user are what its table lists, and are only allowed by strategy. -/
theorem parseSymbols2_ok {settings : Settings} {key : String} {entries : Entries}
    {values : List String} {rest : Node}
    (done : parseSymbols2 settings key (.table entries) = .ok (values, rest)) :
    values = readStrings key entries ∧ rest = .table (remove key entries) ∧
      ∀ node, entries.lookup key = some node → node.IsStrings := by
  -- The settings are asked only when the key is present.
  rw [parseSymbols2, findAndRemove_table] at done
  apply readStrings_ok
  · intro missing
    simp only [missing, Except.ok.injEq, Prod.mk.injEq] at done
    exact ⟨done.1.symm, done.2.symm⟩
  · intro node found
    simp only [found] at done
    -- Without routing by strategy the key is not allowed at all.
    cases routed : settings.omsRouteByStrategy with
    | false => simp [routed] at done
    | true =>
      simp only [routed, Bool.not_true, Bool.false_eq_true, if_false, if_true,
        bind_eq_ok, pure_eq_ok, Prod.mk.injEq] at done
      obtain ⟨symbols, read, rfl, rfl⟩ := done
      obtain ⟨shaped, same⟩ := strings_ok_of_error read
      exact ⟨shaped, same, rfl⟩

/-- The targets of a broadcast are what its table lists. -/
theorem parseSymbols3_ok {key : String} {entries : Entries} {values : List String} {rest : Node}
    (done : parseSymbols3 key (.table entries) = .ok (values, rest)) :
    values = readStrings key entries ∧ rest = .table (remove key entries) ∧
      ∀ node, entries.lookup key = some node → node.IsStrings := by
  -- There is no setting to ask, so a node that is present has to be strings.
  rw [parseSymbols3, findAndRemove_table] at done
  apply readStrings_ok
  · intro missing
    simp only [missing, Except.ok.injEq, Prod.mk.injEq] at done
    exact ⟨done.1.symm, done.2.symm⟩
  · intro node found
    simp only [found, bind_eq_ok, pure_eq_ok, Prod.mk.injEq] at done
    obtain ⟨targets, read, rfl, rfl⟩ := done
    obtain ⟨shaped, same⟩ := strings_ok_of_error read
    exact ⟨shaped, same, rfl⟩

end Config

end FixBridge
