import Mathlib.Data.List.Forall2
import TcpJournal.Proofs.Json.Documents

/-!
# Looking up members of objects

An object may hold its members in any order, and each key and value in any spelling.  The
value of a key is found by the text of the key alone (`JsonValue.Lists.exists_unique?`), and
a member more changes the answer for its own key only (`JsonValue.unique?_insert`).
-/

namespace TcpJournal

namespace JsonValue

/-- A member with this key says this. -/
def MemberHolds (member : Bytes × JsonValue) (said : List Char × Content) : Prop :=
  rawText? member.1 = some said.1 ∧ said.2.Holds member.2

/-- A document is an object with exactly these members, in any order and spelling. -/
def IsObject (document : Bytes) (said : List (List Char × Content)) : Prop :=
  ∃ members ordered, parse? document = some (.object members) ∧ ordered.Perm said ∧
    List.Forall₂ MemberHolds members ordered

theorem IsObject.perm {document : Bytes} {said other : List (List Char × Content)}
    (h : IsObject document said) (hperm : said.Perm other) : IsObject document other := by
  obtain ⟨members, ordered, hparse, hordered, hholds⟩ := h
  exact ⟨members, ordered, hparse, hordered.trans hperm, hholds⟩

/-- The text of an object is one spelling of it. -/
theorem isObject_objectText (said : List (List Char × Content)) :
    IsObject (Bytes.ofText (objectText said)) said := by
  refine ⟨said.map ofMember, said, parse?_objectText said, .refl said, ?_⟩
  rw [List.forall₂_map_left_iff, List.forall₂_same]
  exact fun member _ => ⟨rawText?_escaped member.1, member.2.holds_value⟩

/-- An object has the members of another one and one more, which says this under a key that
the other one lacks. -/
inductive AddsMember (key : String) (content : Content) :
    List (Bytes × JsonValue) → List (Bytes × JsonValue) → Prop where
  | intro {before after : List (Bytes × JsonValue)} {member : Bytes × JsonValue}
    (hmember : MemberHolds member (key.toList, content))
    (habsent : ∀ other ∈ before ++ after, rawText? other.1 ≠ some key.toList) :
    AddsMember key content (before ++ after) (before ++ member :: after)

theorem addsMember_ofMember {key : String} {before after : List (List Char × Content)}
    (content : Content) (h : ∀ member ∈ before ++ after, member.1 ≠ key.toList) :
    AddsMember key content ((before ++ after).map ofMember)
      ((before ++ (key.toList, content) :: after).map ofMember) := by
  rw [List.map_append, List.map_append, List.map_cons]
  refine .intro ⟨rawText?_escaped _, content.holds_value⟩ ?_
  rw [← List.map_append, List.forall_mem_map]
  intro member hmember hkey
  rw [ofMember, rawText?_escaped] at hkey
  exact h member hmember (Option.some.inj hkey)

/-! ## Keys as texts -/

/-- Members whose keys are texts say this, in some order. -/
def Lists (keyed : List (List Char × JsonValue)) (said : List (List Char × Content)) : Prop :=
  ∃ ordered, ordered.Perm said ∧
    List.Forall₂ (fun member said => member.1 = said.1 ∧ said.2.Holds member.2) keyed ordered

theorem keyed?_cons (key : Bytes) (value : JsonValue) (members : List (Bytes × JsonValue)) :
    keyed? ((key, value) :: members) =
      (rawText? key).bind fun name => (keyed? members).map ((name, value) :: ·) := by
  rw [keyed?, List.mapM_cons, ← keyed?]
  dsimp only
  cases rawText? key with
  | none => rfl
  | some name => cases keyed? members <;> rfl

theorem keyed?_append (before after : List (Bytes × JsonValue)) :
    keyed? (before ++ after) =
      (keyed? before).bind fun front => (keyed? after).map (front ++ ·) := by
  rw [keyed?, List.mapM_append, ← keyed?, ← keyed?]
  cases keyed? before with
  | none => rfl
  | some front => cases keyed? after <;> rfl

/-- A key that is a text is the text of a key. -/
theorem exists_of_mem_keyed? {members : List (Bytes × JsonValue)}
    {keyed : List (List Char × JsonValue)} (h : keyed? members = some keyed)
    {member : List Char × JsonValue} (hmember : member ∈ keyed) :
    ∃ raw ∈ members, rawText? raw.1 = some member.1 := by
  induction members generalizing keyed with
  | nil =>
    cases h
    exact absurd hmember List.not_mem_nil
  | cons raw members ih =>
    rw [keyed?_cons] at h
    obtain ⟨name, hname, hrest⟩ := Option.bind_eq_some_iff.mp h
    obtain ⟨later, hlater, rfl⟩ := Option.map_eq_some_iff.mp hrest
    rcases List.mem_cons.mp hmember with rfl | hmember
    · exact ⟨raw, List.mem_cons_self, hname⟩
    · obtain ⟨found, hfound, hsame⟩ := ih hlater hmember
      exact ⟨found, List.mem_cons_of_mem _ hfound, hsame⟩

/-- The keys of an object with these members are texts. -/
theorem IsObject.exists_keyed? {document : Bytes} {said : List (List Char × Content)}
    (h : IsObject document said) :
    ∃ members keyed, parse? document = some (.object members) ∧ keyed? members = some keyed ∧
      Lists keyed said := by
  obtain ⟨members, ordered, hparse, hperm, hholds⟩ := h
  have hkeyed : ∃ keyed, keyed? members = some keyed ∧ List.Forall₂
      (fun member said => member.1 = said.1 ∧ said.2.Holds member.2) keyed ordered := by
    clear hparse hperm
    induction hholds with
    | nil => exact ⟨[], rfl, .nil⟩
    | @cons member said members ordered hmember _ ih =>
      obtain ⟨keyed, hkeyed, hlists⟩ := ih
      refine ⟨(said.1, member.2) :: keyed, ?_, .cons ⟨rfl, hmember.2⟩ hlists⟩
      rw [keyed?_cons, hmember.1, hkeyed]
      rfl
  obtain ⟨keyed, hkeyed, hlists⟩ := hkeyed
  exact ⟨members, keyed, hparse, hkeyed, ordered, hperm, hlists⟩

/-! ## The value of a key -/

section

variable {keyed : List (List Char × JsonValue)} {said : List (List Char × Content)}
  (h : Lists keyed said) (key : String)

include h

theorem Lists.filter :
    Lists (keyed.filter fun member => member.1 = key.toList)
      (said.filter fun member => member.1 = key.toList) := by
  obtain ⟨ordered, hperm, hlists⟩ := h
  refine ⟨_, hperm.filter _, List.rel_filter ?_ hlists⟩
  rintro member said ⟨hkey, -⟩
  simp [hkey]

/-- A key that no member has is not found. -/
theorem Lists.unique?_eq_none (hnone : (said.filter fun member => member.1 = key.toList) = []) :
    unique? keyed key = some none := by
  obtain ⟨ordered, hperm, hlists⟩ := h.filter key
  rw [hnone, List.perm_nil] at hperm
  subst hperm
  rw [unique?, List.forall₂_nil_right_iff.mp hlists]

/-- A key that one member has is found, with a value that says what the member says. -/
theorem Lists.exists_unique? {content : Content}
    (hone : (said.filter fun member => member.1 = key.toList) = [(key.toList, content)]) :
    ∃ value, unique? keyed key = some (some value) ∧ content.Holds value := by
  obtain ⟨ordered, hperm, hlists⟩ := h.filter key
  rw [hone, List.perm_singleton] at hperm
  subst hperm
  obtain ⟨member, rest, ⟨-, hholds⟩, hrest, hfilter⟩ := List.forall₂_cons_right_iff.mp hlists
  rw [List.forall₂_nil_right_iff.mp hrest] at hfilter
  exact ⟨member.2, by rw [unique?, hfilter], hholds⟩

end

/-- A key with one value has this value wherever it stands. -/
theorem eq_of_unique? {keyed : List (List Char × JsonValue)} {key : String} {value : JsonValue}
    (h : unique? keyed key = some (some value)) {member : List Char × JsonValue}
    (hmember : member ∈ keyed) (hkey : member.1 = key.toList) : member.2 = value := by
  have hfilter : member ∈ keyed.filter fun member => member.1 = key.toList :=
    List.mem_filter.mpr ⟨hmember, decide_eq_true hkey⟩
  rw [unique?] at h
  split at h
  · cases h
  · next only hone =>
    rw [hone, List.mem_singleton] at hfilter
    rw [hfilter, Option.some.inj (Option.some.inj h)]
  · cases h

section

variable {before after : List (List Char × JsonValue)} {name : List Char} (value : JsonValue)

/-- A member more changes nothing for another key. -/
theorem unique?_insert {key : String} (h : name ≠ key.toList) :
    unique? (before ++ (name, value) :: after) key = unique? (before ++ after) key := by
  rw [unique?, unique?, List.filter_append, List.filter_append, List.filter_cons_of_neg (by simpa)]

theorem unique?_insert_self {key : String}
    (h : ∀ member ∈ before ++ after, member.1 ≠ key.toList) :
    unique? (before ++ after) key = some none ∧
      unique? (before ++ (key.toList, value) :: after) key = some (some value) := by
  have hfilter : ((before ++ after).filter fun member => member.1 = key.toList) = [] :=
    List.filter_eq_nil_iff.mpr fun member hmember => by simpa using h member hmember
  rw [List.filter_append, List.append_eq_nil_iff] at hfilter
  constructor
  · rw [unique?, List.filter_append, hfilter.1, hfilter.2]
    rfl
  · rw [unique?, List.filter_append, List.filter_cons_of_pos (by simp), hfilter.1, hfilter.2]
    rfl

end

end JsonValue

end TcpJournal
