import Templating.Proofs.CompiledTemplates
import Templating.Proofs.CoreVocabulary
import Templating.Proofs.LocalNumbers
import Mathlib

/-! # The locals of compiled modules

The text of a nested template stands behind that of the template around it, and the templates of a module share one
numbering of their locals. Every local is declared once in the text of the module, and it is used behind its declaration,
in the block in which it was declared or in a block inside that one.
-/

namespace Templating

namespace Code

/-- A word that begins like the names of the types of templates do. -/
def IsTypeName (name : String) : Prop :=
  ∃ rest, name.toList = 'T' :: rest ∧ ∀ c ∈ rest, isWordChar c = true

theorem IsTypeName.sees {name : String} (named : IsTypeName name) (s : Scopes) : Sees name s s := by
  obtain ⟨rest, chars, word⟩ := named
  refine ⟨[.word name.toList], lexes_word ?_ ?_, ?_⟩
  · rw [chars]
    exact List.forall_mem_cons.mpr ⟨rfl, word⟩
  · rintro rfl
    cases chars
  · simp [Scopes.check, Scopes.step, Scopes.word, chars, isTemporary]

section

variable {edits : List Edit} {s s' : Scopes}

theorem Passes.raw (passes : Passes edits s s') (level : Nat) :
    Passes [.raw (Buffer.applyAll { level := level } edits).text] s s' := by
  obtain ⟨found, closes, checked⟩ := passes
  exact ⟨found, .raw (closes { level := level } [] .empty), checked⟩

theorem Passes.check (passes : Passes edits s s') : s.check (lexemes (Buffer.applyAll {} edits).text) = some s' := by
  obtain ⟨found, closes, checked⟩ := passes
  rw [lexemes_eq (closes {} [] .empty)]
  exact checked

end

end Code

namespace Compile

open Code (Scopes Passes Sees Reads Quiet Sealed)

end Compile

namespace Compiler

variable {c : Compiler}

end Compiler

end Templating
