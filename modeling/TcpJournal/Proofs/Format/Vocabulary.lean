import Mathlib.Data.String.Basic
import TcpJournal.Proofs.Format.Validation

/-!
# Vocabularies in order

Insertion keeps the keywords of a vocabulary in the order of their names, so no
name stands for two keywords: a keyword is found under a name exactly if it is
a member of that name (`Vocabulary.Sorted.find?_eq_some_iff`).

A vocabulary is regular if in addition each of its keywords can be written
down: the name is a name, it is not the one under which literal text stands,
and a default parameter could also be written in brackets.  The standard
vocabulary is regular.
-/

namespace TcpJournal

namespace Vocabulary

/-- The keywords stand in the order of their names, each name once. -/
def Sorted (v : Vocabulary) : Prop :=
  v.keywords.Pairwise fun a b => a.name < b.name

theorem pairwise_insertSorted {k : Keyword} {keywords : List Keyword}
    (h : keywords.Pairwise fun a b => a.name < b.name) :
    (insertSorted k keywords).Pairwise fun a b => a.name < b.name := by
  induction keywords with
  | nil => exact List.pairwise_singleton _ _
  | cons first rest ih =>
    obtain ⟨hfirst, hrest⟩ := List.pairwise_cons.mp h
    rw [insertSorted]
    split
    · next heq =>
      refine List.pairwise_cons.mpr ⟨fun other hother => ?_, hrest⟩
      rw [heq]
      exact hfirst other hother
    · next hne =>
      split
      · next hlt =>
        refine List.pairwise_cons.mpr ⟨fun other hother => ?_, h⟩
        rcases List.mem_cons.mp hother with rfl | hmem
        · exact hlt
        · exact hlt.trans (hfirst other hmem)
      · next hle =>
        refine List.pairwise_cons.mpr ⟨fun other hother => ?_, ih hrest⟩
        rcases mem_insertSorted hother with rfl | hmem
        · exact lt_of_le_of_ne (not_lt.mp hle) (Ne.symm hne)
        · exact hfirst other hmem

theorem sorted_ofList (keywords : List Keyword) : (ofList keywords).Sorted := by
  induction keywords using List.reverseRecOn with
  | nil => exact List.Pairwise.nil
  | append_singleton keywords last ih =>
    rw [ofList, List.foldl_append]
    exact pairwise_insertSorted ih

/-- A keyword is found under a name exactly if it is a member of that name. -/
theorem Sorted.find?_eq_some_iff {v : Vocabulary} (h : v.Sorted) {name : String} {k : Keyword} :
    v.find? name = some k ↔ k ∈ v.keywords ∧ k.name = name := by
  constructor
  · intro hfind
    exact ⟨List.mem_of_find?_eq_some hfind, by simpa using List.find?_some hfind⟩
  · rintro ⟨hmem, rfl⟩
    obtain ⟨before, after, hkeywords⟩ := List.append_of_mem hmem
    refine List.find?_eq_some_iff_append.mpr ⟨by simp, before, after, hkeywords, ?_⟩
    -- The members in front of it have smaller names.
    intro other hother
    unfold Sorted at h
    rw [hkeywords, List.pairwise_append] at h
    have hlt := h.2.2 other hother k List.mem_cons_self
    simpa using hlt.ne

/-- A member is told by its name. -/
theorem Sorted.eq_of_name_eq {v : Vocabulary} (h : v.Sorted) {k other : Keyword}
    (hk : k ∈ v.keywords) (hother : other ∈ v.keywords) (hname : k.name = other.name) :
    k = other := by
  have hfind := h.find?_eq_some_iff.mpr ⟨hk, hname⟩
  rw [h.find?_eq_some_iff.mpr ⟨hother, rfl⟩] at hfind
  exact (Option.some.inj hfind).symm

end Vocabulary

instance (name : List Char) : Decidable (Format.IsName name) :=
  decidable_of_iff (name ≠ [] ∧ name.all Format.isNameChar = true)
    ⟨fun h => ⟨h.1, List.all_eq_true.mp h.2⟩, fun h => ⟨h.ne_nil, List.all_eq_true.mpr h.all⟩⟩

/-- The keyword can be written down, and so can what it stands for without a
parameter. -/
structure Keyword.IsRegular (k : Keyword) : Prop where
  isName : Format.IsName k.name.toList
  ne_literal : k.name ≠ ProgramColumn.literalKeyword
  default : ∀ kind parameter rule, k.usage = .optional kind parameter rule →
    ']' ∉ parameter.toList ∧ kind.accepts parameter = true

namespace Vocabulary

/-- A vocabulary in order, of keywords that can be written down. -/
structure Regular (v : Vocabulary) : Prop where
  sorted : v.Sorted
  keywords : ∀ k ∈ v.keywords, k.IsRegular

/-- A keyword without a default parameter only has to have a good name. -/
theorem isRegular_of_kind_ne {k : Keyword} (hkind : k.usage.kind ≠ .optional)
    (hname : Format.IsName k.name.toList) (hne : k.name ≠ ProgramColumn.literalKeyword) :
    k.IsRegular := by
  refine ⟨hname, hne, fun kind parameter rule husage => ?_⟩
  rw [husage] at hkind
  exact absurd rfl hkind

theorem isRegular_timeKeyword {name description : String} {rule : ColumnRule}
    (hname : Format.IsName name.toList) (hne : name ≠ ProgramColumn.literalKeyword) :
    (timeKeyword name description rule).IsRegular := by
  refine ⟨hname, hne, fun _ _ _ husage => ?_⟩
  cases husage
  exact ⟨by decide, isValid_defaultTimePattern⟩

theorem isRegular_of_mem_standardKeywords : ∀ k ∈ standardKeywords, k.IsRegular := by
  simp only [standardKeywords, List.forall_mem_cons]
  and_intros
  all_goals first
    | exact isRegular_of_kind_ne (by decide) (by decide) (by decide)
    | exact isRegular_timeKeyword (by decide) (by decide)
    | exact List.forall_mem_nil _

theorem regular_standard : standard.Regular where
  sorted := sorted_ofList _
  keywords k hk := isRegular_of_mem_standardKeywords k (mem_of_mem_ofList hk)

end Vocabulary

end TcpJournal
