import TcpJournal.Proofs.Format.Segments
import TcpJournal.Proofs.Format.Vocabulary

/-!
# Format strings under a larger vocabulary

One vocabulary extends another if it finds every keyword of the other under the
same name (`Vocabulary.Extends`).  Keywords with new names can be inserted in
any number; the result extends the vocabulary they came to.

A name in a format string is as long as it can be, whichever names are known.
So a sentence keeps its pieces in a larger vocabulary, and a fault stays the
same fault, unless it was a name that has become known.  Compilation follows
(`Format.compile_of_extends`).
-/

namespace TcpJournal

namespace Vocabulary

/-- Every keyword of `v` is found under its name in `wider`. -/
def Extends (wider v : Vocabulary) : Prop :=
  ∀ name k, v.find? name = some k → wider.find? name = some k

theorem Extends.refl (v : Vocabulary) : v.Extends v :=
  fun _ _ h => h

theorem find?_insertSorted (k : Keyword) (keywords : List Keyword) (name : String) :
    ((insertSorted k keywords).find? fun other => other.name = name) =
      if k.name = name then some k else keywords.find? fun other => other.name = name := by
  induction keywords with
  | nil => by_cases hname : k.name = name <;> simp [insertSorted, hname]
  | cons first rest ih =>
    rw [insertSorted]
    split
    · next hfirst => by_cases hname : k.name = name <;> simp [hname, ← hfirst]
    · next hfirst =>
      split
      · by_cases hname : k.name = name <;> simp [hname]
      · rw [List.find?_cons, List.find?_cons, ih]
        by_cases hname : k.name = name
        · have hother : first.name ≠ name := fun h => hfirst (hname.trans h.symm)
          simp [hname, hother]
        · simp [hname]

/-- An inserted keyword is found under its own name, and the others as before. -/
theorem find?_insert (v : Vocabulary) (k : Keyword) (name : String) :
    (v.insert k).find? name = if k.name = name then some k else v.find? name :=
  find?_insertSorted k v.keywords name

theorem Extends.insert {wider v : Vocabulary} (h : wider.Extends v) {k : Keyword}
    (hk : v.find? k.name = none) : (wider.insert k).Extends v := by
  intro name other hother
  have hname : k.name ≠ name := by
    rintro rfl
    rw [hk] at hother
    cases hother
  rw [find?_insert, if_neg hname]
  exact h name other hother

/-- Keywords with new names extend a vocabulary, in whatever order they come. -/
theorem Extends.foldl_insert {wider v : Vocabulary} (h : wider.Extends v) {new : List Keyword}
    (hnew : ∀ k ∈ new, v.find? k.name = none) : (new.foldl Vocabulary.insert wider).Extends v := by
  induction new generalizing wider with
  | nil => exact h
  | cons k new ih =>
    obtain ⟨hk, hrest⟩ := List.forall_mem_cons.mp hnew
    exact ih (h.insert hk) hrest

end Vocabulary

namespace Format

section

variable {wider v : Vocabulary} (h : wider.Extends v)

include h

/-- A sentence is one in a larger vocabulary, with the same pieces. -/
theorem Sentence.of_extends {text : List Char} {ps : List Piece} (hs : Sentence v text ps) :
    Sentence wider text ps := by
  induction hs with
  | nil => exact .nil
  | character hc _ ih => exact .character hc ih
  | percent _ ih => exact .percent ih
  | keyword hname hend hk hargument _ ih =>
    exact .keyword hname hend (h _ _ hk) hargument ih

/-- A fault is one in a larger vocabulary, unless an unknown name is known there. -/
theorem Fault.of_extends {offset : Nat} {rest : List Char} {e : CompileError}
    (hfault : Fault v offset rest e)
    (hunknown : ∀ name, e = .unknownName name → wider.find? name = none) :
    Fault wider offset rest e := by
  cases hfault with
  | nameless hmarker hend => exact .nameless hmarker hend
  | unknown hname hend _ => exact .unknown hname hend (hunknown _ rfl)
  | argument hname hend hk hargument => exact .argument hname hend (h _ _ hk) hargument

/-- A format string with a program has the same program under every vocabulary that
extends the one it was written for; in particular keywords with new names may be
inserted.  An error stays the same error, unless it is an unknown name that the larger
vocabulary knows. -/
theorem compile_of_extends (format : String) :
    (∀ program, compile v format = .ok program → compile wider format = .ok program) ∧
    (∀ e, compile v format = .error e →
      (∀ name, e = .unknownName name → wider.find? name = none) →
        compile wider format = .error e) ∧
    ∀ new : List Keyword, (∀ k ∈ new, v.find? k.name = none) →
      ∀ program, compile v format = .ok program →
        compile (new.foldl Vocabulary.insert v) format = .ok program := by
  have hprogram {larger : Vocabulary} (hlarger : larger.Extends v) {program : Program}
      (hcompile : compile v format = .ok program) : compile larger format = .ok program := by
    obtain ⟨ps, segments, hsentence, hsegments⟩ := compile_eq_ok_iff.mp hcompile
    exact compile_eq_ok_iff.mpr ⟨ps, segments, hsentence.of_extends hlarger, hsegments⟩
  refine ⟨fun _ => hprogram h, ?_, fun new hnew _ =>
    hprogram ((Vocabulary.Extends.refl v).foldl_insert hnew)⟩
  intro e hcompile hunknown
  obtain ⟨before, after, ps, htext, hbefore, hfault⟩ := compile_eq_error_iff.mp hcompile
  exact compile_eq_error_iff.mpr
    ⟨before, after, ps, htext, hbefore.of_extends h, hfault.of_extends h hunknown⟩

end

/-- A keyword `times` next to `time`: the format `%time[%H]` and the errors of `%time[%H`
and of `%timex` stay, while `%times` was unknown and is known now. -/
theorem compile_of_longer_name :
    let wider := Vocabulary.standard.insert ⟨"times", .plain .status, "custom"⟩
    compile wider "%time[%H]" = .ok ⟨[⟨"time", some "%H", .writtenTime (.ofString "%H")⟩]⟩ ∧
      compile wider "%time[%H" = .error (.parameterUnclosed "time" ']') ∧
      compile wider "%timex" = .error (.unknownName "timex") ∧
      compile .standard "%times" = .error (.unknownName "times") ∧
      compile wider "%times" = .ok ⟨[⟨"times", none, .status⟩]⟩ := by
  intro wider
  have hwider : wider.Extends .standard :=
    (Vocabulary.Extends.refl _).insert (by decide +kernel)
  refine ⟨?_, ?_, ?_, by decide +kernel, by decide +kernel⟩
  · exact (compile_of_extends hwider "%time[%H]").1 _ (by decide +kernel)
  · exact (compile_of_extends hwider "%time[%H").2.1 _ (by decide +kernel) nofun
  · refine (compile_of_extends hwider "%timex").2.1 _ (by decide +kernel) ?_
    rintro name ⟨⟩
    decide +kernel

end Format

end TcpJournal
