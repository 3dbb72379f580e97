import TcpJournal.Flow
import TcpJournal.Proofs.TimePattern.Writing

/-!
# Fields that can be rendered

A record has a text exactly if each of its fields has one.  Whether a field has
a text is a matter of the pattern of its column: neither the events it has
observed nor the time of writing can take it away, since a pattern that can
write one instant can write every instant (`Program.renders_iff`).
-/

namespace TcpJournal

/-- The pattern under which a column writes a time. -/
def Column.pattern? : Column → Option TimePattern
  | .payloadTime _ pattern | .writtenTime pattern => some pattern
  | _ => none

namespace Field

/-- A field lacks a text exactly if the pattern of its column cannot be written. -/
theorem render_eq_none_iff {f : Field} {written : Instant} :
    f.render written = none ↔
      ∃ pattern, f.column.pattern? = some pattern ∧
        (pattern.isValid = false ∨ pattern.HoldsPermissiveOffset) := by
  cases f <;> simp [render, column, Column.pattern?, TimePattern.render_eq_none_iff]

/-- What a field has observed does not matter for its having a text. -/
theorem render_observeAll_eq_none_iff
    {c : Column} {events : List Event} {written : Instant} :
    ((start c).observeAll events).render written = none ↔
      ∃ pattern, c.pattern? = some pattern ∧
        (pattern.isValid = false ∨ pattern.HoldsPermissiveOffset) := by
  rw [render_eq_none_iff, column_observeAll, column_start]

/-- A list of fields lacks a text if one of them does. -/
theorem renderAll_eq_none_iff {fields : List Field} {written : Instant} :
    renderAll fields written = none ↔ ∃ f ∈ fields, f.render written = none := by
  rw [renderAll, Option.map_eq_none_iff, mapM_eq_none_iff]

end Field

namespace Program

/-- Every field of the program has a text, whatever it has observed and
whenever it is written. -/
def Renders (program : Program) : Prop :=
  ∀ c ∈ program.columns, ∀ (events : List Event) (written : Instant),
    ((Field.start c.column).observeAll events).render written ≠ none

/-- A program renders exactly if the pattern of each of its columns can be
written. -/
theorem renders_iff {program : Program} :
    program.Renders ↔
      ∀ c ∈ program.columns, ∀ pattern, c.column.pattern? = some pattern →
        pattern.isValid = true ∧ ¬pattern.HoldsPermissiveOffset := by
  constructor
  · intro h c hc pattern hpattern
    have hfield := h c hc [] .epoch
    rw [Ne, Field.render_observeAll_eq_none_iff] at hfield
    simp only [not_exists, not_and, not_or, Bool.not_eq_false] at hfield
    exact hfield pattern hpattern
  · intro h c hc events written hnone
    obtain ⟨pattern, hpattern, hbad⟩ := Field.render_observeAll_eq_none_iff.mp hnone
    obtain ⟨hvalid, hholds⟩ := h c hc pattern hpattern
    rcases hbad with hinvalid | hoffset
    · rw [hvalid] at hinvalid
      cases hinvalid
    · exact hholds hoffset

end Program

namespace Flow

/-- A flow lacks a text if a field of its program does. -/
theorem render_observeAll_eq_none_iff
    {program : Program} {id : Connection} {events : List Event} {written : Instant} :
    ((start id program).observeAll events).render written = none ↔
      ∃ c ∈ program.columns,
        ((Field.start c.column).observeAll events).render written = none := by
  rw [render, fields_observeAll_start, Field.renderAll_eq_none_iff]
  constructor
  · rintro ⟨f, hf, hnone⟩
    obtain ⟨c, hc, rfl⟩ := List.mem_map.mp hf
    exact ⟨c, hc, hnone⟩
  · rintro ⟨c, hc, hnone⟩
    exact ⟨_, List.mem_map_of_mem hc, hnone⟩

theorem render_ne_none_of_renders {program : Program} (h : program.Renders)
    (id : Connection) (events : List Event) (written : Instant) :
    ((start id program).observeAll events).render written ≠ none := by
  intro hnone
  obtain ⟨c, hc, hfield⟩ := render_observeAll_eq_none_iff.mp hnone
  exact h c hc events written hfield

/-- The text of a flow's column in a record written at a time. -/
def text? (flow : Flow) (i : Nat) (written : Instant) : Option Bytes :=
  flow.fields[i]?.bind fun f => f.render written

theorem text?_observeAll_start {program : Program} {i : Nat} {c : ProgramColumn}
    (h : program.columns[i]? = some c) (id : Connection) (events : List Event)
    (written : Instant) :
    ((start id program).observeAll events).text? i written =
      ((Field.start c.column).observeAll events).render written := by
  rw [text?, fields_observeAll_start, List.getElem?_map, h]
  rfl

end Flow

end TcpJournal
