import Templating.Proofs.StatementChildren
import Mathlib.Data.List.Perm.Basic
import Mathlib.Data.List.Nodup

/-! # Names of compiled templates

While a source is compiled, nested templates begin and end. A template may begin only under a name that is not the name of
the source and whose type is new to the module, so all templates of a module have different names. The statement that
carries through is about both ends of a template: what began between two stages of compiling has also ended, in some order.
-/

namespace Templating

/-- The names of the templates of a compiled source. -/
def Code.Module.templateNames (unit : Code.Module) : List String :=
  (unit.main :: unit.nested).map Code.Template.name

namespace Compile

/-- Between two stages of compiling, templates with new names began, and the same ones ended. -/
structure Adds (s : Setting) (p : Progress) (names : List String) (p' : Progress) : Prop where
  begun : p'.typeNames = names.map (fun name => (Code.nestedTypeName name, name)) ++ p.typeNames
  ended : ∃ templates, p'.finished = p.finished ++ templates ∧ (templates.map Code.Template.name).Perm names
  notMain : s.mainName ∉ names
  apart : (p.typeNames.map Prod.fst).Nodup → (p'.typeNames.map Prod.fst).Nodup

/-- So for some names. -/
def AddsSome (s : Setting) (p p' : Progress) : Prop :=
  ∃ names, Adds s p names p'

section

variable {s : Setting} {p middle p' : Progress}

theorem AddsSome.none (types : p'.typeNames = p.typeNames) (finished : p'.finished = p.finished) : AddsSome s p p' :=
  ⟨[], types, ⟨[], by rw [finished, List.append_nil], .nil⟩, List.not_mem_nil, fun apart => types ▸ apart⟩

theorem AddsSome.trans (first : AddsSome s p middle) (second : AddsSome s middle p') : AddsSome s p p' := by
  obtain ⟨names, one⟩ := first
  obtain ⟨others, other⟩ := second
  obtain ⟨templates, grown, ended⟩ := one.ended
  obtain ⟨further, grownFurther, endedFurther⟩ := other.ended
  refine ⟨others ++ names, ?_, ⟨templates ++ further, ?_, ?_⟩, ?_, other.apart ∘ one.apart⟩
  · rw [other.begun, one.begun, List.map_append, List.append_assoc]
  · rw [grownFurther, grown, List.append_assoc]
  · rw [List.map_append]
    exact (ended.append endedFurther).trans List.perm_append_comm
  · exact fun member => (List.mem_append.mp member).elim other.notMain one.notMain

theorem AddsSome.nested {name : String} {line : Nat} {body : List Code.Stmt} {begun last : Progress}
    (beginning : beginNested s name line p = .ok begun) (inner : AddsSome s begun last) :
    AddsSome s p (endNested name body last) := by
  rw [beginNested] at beginning
  split at beginning
  · cases beginning
  · rename_i free
    split at beginning
    · cases beginning
    · rename_i unused
      cases beginning
      obtain ⟨names, adds⟩ := inner
      obtain ⟨templates, grown, ended⟩ := adds.ended
      refine ⟨names ++ [name], ?_, ⟨templates ++ [⟨name, Code.nestedTypeName name, body⟩], ?_, ?_⟩, ?_, ?_⟩
      · rw [List.map_append, List.append_assoc]
        exact adds.begun
      · rw [← List.append_assoc, ← grown]
        rfl
      · rw [List.map_append]
        exact ended.append_right [name]
      · intro member
        rcases List.mem_append.mp member with inside | same
        · exact adds.notMain inside
        · exact free (.inl (List.mem_singleton.mp same).symm)
      · intro apart
        refine adds.apart (List.nodup_cons.mpr ⟨fun taken => ?_, apart⟩)
        obtain ⟨entry, member, same⟩ := List.mem_map.mp taken
        have differs := List.lookup_eq_none_iff.mp unused entry member
        rw [same] at differs
        simp at differs

end

theorem compiles_add {s : Setting} {p p' : Progress} {children : List Tree}
    (each : ∀ child ∈ children, ∀ {inLoop p p' code}, statement s inLoop p child = .ok (code, p') → AddsSome s p p')
    (compiles : Compiles s p children p') : AddsSome s p p' := by
  induction compiles with
  | done same => exact .none same.typeNames same.finished
  | expression compiled rest ih => exact ih fun child member => each child (List.mem_cons_of_mem _ member)
  | statement same compiled rest ih =>
      have first := each _ List.mem_cons_self compiled
      have others := ih fun child member => each child (List.mem_cons_of_mem _ member)
      exact (AddsSome.none same.typeNames same.finished).trans (first.trans others)

theorem statement_adds {s : Setting} {inLoop : Bool} {p p' : Progress} {tree : Tree} {code : List Code.Stmt}
    (compiled : statement s inLoop p tree = .ok (code, p')) : AddsSome s p p' := by
  cases tree with
  | root children line notes | block children line notes =>
      exact compiles_add (fun child member _ _ _ _ inner => statement_adds inner) (statements_compiles compiled)
  | tag id children line notes =>
      rcases tag_compiles compiled with ⟨-, compiles⟩ | ⟨-, ends⟩
      · exact compiles_add (fun child member _ _ _ _ inner => statement_adds inner) compiles
      · obtain ⟨given, line, content, begun, body, last, -, rfl, beginning, inner, rfl⟩ := ends
        exact .nested beginning (statement_adds inner)
  | operator | call | data | list | «variable» | identifier | index | missing =>
      simp only [statement, reduceCtorEq] at compiled

/-- The nested templates of a source have types with different names, and none of them has the name of the source. -/
theorem nestedTypes_nodup {s : Setting} {inLoop : Bool} {tree : Tree} {code : List Code.Stmt} {p' : Progress}
    (compiled : statement s inLoop {} tree = .ok (code, p')) :
    s.mainName ∉ p'.finished.map Code.Template.name ∧
      ((p'.finished.map Code.Template.name).map Code.nestedTypeName).Nodup := by
  obtain ⟨names, adds⟩ := statement_adds compiled
  obtain ⟨templates, grown, ended⟩ := adds.ended
  have types : (names.map Code.nestedTypeName).Nodup := by
    have apart := adds.apart List.nodup_nil
    rw [adds.begun, List.append_nil, List.map_map] at apart
    exact apart
  rw [List.nil_append] at grown
  rw [grown]
  exact ⟨fun member => adds.notMain (ended.mem_iff.mp member), (ended.map Code.nestedTypeName).nodup_iff.mpr types⟩

/-- The templates of a source have different names, and the first of them has the name of the source. -/
theorem templateNames_nodup {s : Setting} {tree : Option Tree} {unit : Code.Module} (compiled : template s tree = .ok unit) :
    unit.main.name = s.mainName ∧ unit.templateNames.Nodup := by
  cases tree with
  | none => cases compiled
  | some tree =>
      obtain ⟨⟨body, last⟩, inner, ⟨⟩⟩ := bind_eq_ok.mp compiled
      obtain ⟨notMain, types⟩ := nestedTypes_nodup inner
      exact ⟨rfl, List.nodup_cons.mpr ⟨notMain, .of_map _ types⟩⟩

end Compile

end Templating
