import FixBridge.Config.Strictness

/-! Where a configuration dereferences what is not there instead of refusing the document. -/

namespace FixBridge

namespace Config

open Document

/-- A construction that ends with a value, in `log::fatal`, or with an exception. -/
def Defined {α : Type} (result : Except Failure α) : Prop :=
  (∃ value, result = .ok value) ∨ Refused result

/-- A computation whose end is undefined has none of the ends that are defined. -/
theorem not_defined_undefined {α : Type} : ¬ Defined (.error .undefined : Except Failure α) := by
  -- A value and the two kinds of refusal are all different from undefined behaviour.
  intro defined
  rcases defined with ⟨value, same⟩ | ⟨text, same⟩ | ⟨text, same⟩
  · cases same
  · cases same
  · cases same

/-- A computation of known ends is defined exactly where it does not go astray. -/
theorem defined_iff_of_ends {α : Type} {result : Except Failure α} {passes astray : Prop}
    (ends : Ends result passes astray) : Defined result ↔ ¬ astray := by
  -- A result that strays is undefined; any other one passes or is refused.
  constructor
  · intro defined goes
    rw [ends.astray_iff.mpr goes] at defined
    exact not_defined_undefined defined
  · intro stays
    by_cases holds : passes
    · exact Or.inl (ends.passes_iff.mpr holds)
    · exact Or.inr (refused_of_ends ends holds stays)

/-- A node of a document that a parser takes for what it is not. -/
inductive Misread (settings : Settings) (libraries : Libraries) (document : Root) : Prop where
  /-- A section that is no table. -/
  | section_ {key : String} {node : Node}
      (known : key ∈ ["users", "statistics", "broadcast", "errors"])
      (found : document.entries.lookup key = some node) (other : ∀ entries, node ≠ .table entries)
  /-- An entry of a section that is no table. -/
  | entry {key : String} {entries : Entries} {entry : String × Node}
      (known : key ∈ ["users", "statistics", "errors"])
      (found : document.entries.lookup key = some (.table entries)) (member : entry ∈ entries)
      (other : ∀ fields, entry.2 ≠ .table fields)
  /-- A default value that is no number, where default values are allowed. -/
  | defaultValue {entries fields : Entries} {type : String} {node : Node}
      (allowed : settings.initMissingMdEntryTypeToZero = true)
      (found : document.entries.lookup "statistics" = some (.table entries))
      (member : (type, .table fields) ∈ entries)
      (located : fields.lookup "default_value" = some node)
      (other : libraries.double? node = none)

/-- An entry that strays is a misread one, or it has a misread default value. -/
theorem StraysEntry.misread {settings : Settings} {libraries : Libraries} {document : Root}
    {key : String} {entries : Entries} {entry : String × Node}
    (strays : StraysEntry settings libraries key entry)
    (found : document.entries.lookup key = some (.table entries)) (member : entry ∈ entries) :
    Misread settings libraries document := by
  unfold StraysEntry at strays
  split at strays
  · exact .entry (by simp) found member strays
  · obtain ⟨-, dereferenced⟩ := strays
    obtain ⟨type, node⟩ := entry
    -- A table is only left to its default value.
    by_cases table : ∃ fields, node = .table fields
    · obtain ⟨fields, rfl⟩ := table
      obtain ⟨-, allowed, value, located, other⟩ := dereferenced fields rfl
      exact .defaultValue allowed found member located other
    · exact .entry (by simp) found member fun fields same => table ⟨fields, same⟩
  · exact .entry (by simp) found member strays.2
  · exact strays.elim

/-- Whatever strays, there is a node that is misread. -/
theorem Strays.misread {settings : Settings} {libraries : Libraries} {document : Root}
    (strays : Strays settings libraries document) : Misread settings libraries document := by
  obtain ⟨before, key, after, split, -, section_⟩ := strays
  have known : key ∈ sectionKeys := by simp [split]
  cases found : document.entries.lookup key with
  | none =>
    rw [found] at section_
    exact section_.elim
  | some node =>
    rw [found] at section_
    by_cases table : ∃ entries, node = .table entries
    · obtain ⟨entries, rfl⟩ := table
      obtain ⟨_, entry, _, inside, -, goesAstray⟩ := section_
      exact goesAstray.misread found (by simp [inside])
    · have other : ∀ entries, node ≠ .table entries :=
        fun entries same => table ⟨entries, same⟩
      -- The section of symbols is the one that is checked.
      have unlike : key ≠ "symbols" := by
        unfold StraysSection at section_
        split at section_
        · exact section_.elim
        · next same => exact absurd (Option.some.inj same) (other _)
        · exact section_
      refine .section_ ?_ found other
      simp only [sectionKeys, List.mem_cons] at known ⊢
      exact known.resolve_left unlike

/--
The constructor ends with a configuration, in `log::fatal` or with an exception exactly if it does
not stray from a document.
-/
theorem create_defined_iff (settings : Settings) (libraries : Libraries) (order : List String)
    (document : Root) :
    Defined (create settings libraries order document) ↔ ¬ Strays settings libraries document :=
  defined_iff_of_ends (create_ends settings libraries order document)

/-- It always does so when no node of the document can be misread. -/
theorem create_defined {settings : Settings} {libraries : Libraries} {document : Root}
    (sound : ¬ Misread settings libraries document) (order : List String) :
    Defined (create settings libraries order document) :=
  (defined_iff_of_ends (create_ends settings libraries order document)).mpr fun strays =>
    sound strays.misread

/-- A document whose users are not a table. -/
def untabled : Root where
  entries := [
    ("symbols", .table [("deribit", .table [("regex", .string "BTC-.*")])]),
    ("users", .string "alice")]
  keyed := Node.keyed_sound (by decide)

/-- The users are dereferenced as if they were a table. -/
theorem create_untabled : ¬ Defined (create byAccount plainLibraries [] untabled) :=
  not_defined_undefined

end Config

end FixBridge
