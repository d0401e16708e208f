import TopicPlan.Proofs.GrammarSoundness
import TopicPlan.Proofs.TopicCriterion

/-! Fields and columns of one name. The columns of a declared source have distinct names, whatever
their types are; the fields of a struct have them only where the statement gives them such names. -/
namespace TopicPlan
namespace Schema
open Sql (DataType Fields)
open Sql.DataType

def StructsDistinct (type : DataType) : Prop :=
  ∀ fields, .struct fields ∈ type.parts → (fields.map (·.1)).Nodup

theorem fieldParts_eq_flatMap (fields : Fields) : fieldParts fields = fields.flatMap (·.2.parts) := by
  induction fields with
  | nil => rfl
  | cons field rest ih => rw [fieldParts, ih, List.flatMap_cons]

theorem structsDistinct_array {item : DataType} :
    StructsDistinct (.array item) ↔ StructsDistinct item := by
  simp [StructsDistinct, parts]

theorem structsDistinct_map {key value : DataType} :
    StructsDistinct (.map key value) ↔ StructsDistinct key ∧ StructsDistinct value := by
  simp [StructsDistinct, parts, or_imp, forall_and]

theorem structsDistinct_struct {fields : Fields} :
    StructsDistinct (.struct fields) ↔
      (fields.map (·.1)).Nodup ∧ ∀ field ∈ fields, StructsDistinct field.2 := by
  unfold StructsDistinct
  rw [parts, fieldParts_eq_flatMap]
  constructor
  · intro h
    refine ⟨h fields List.mem_cons_self, fun field hfield inner hinner => ?_⟩
    exact h inner (List.mem_cons_of_mem _ (List.mem_flatMap.mpr ⟨field, hfield, hinner⟩))
  · rintro ⟨hnames, hinner⟩ found hfound
    rcases List.mem_cons.mp hfound with hself | hpart
    · cases hself
      exact hnames
    · obtain ⟨field, hfield, hmem⟩ := List.mem_flatMap.mp hpart
      exact hinner field hfield found hmem

end Schema

open Sql Sql.DataType Schema

theorem columns_nodup_of_statement {tokens : List Token} {source : Source}
    (h : statement tokens = .ok (some (.create source))) : (source.columns.map (·.name)).Nodup := by
  obtain ⟨opened, -, htold⟩ := says_of_allFit (allFit_lax tokens) h
  generalize StatementKind.ofTokens tokens = kind at htold
  cases htold with
  | create _ hcolumns _ _ _ => exact hcolumns

/-- The columns of a part of a source that is declared have distinct names, also where their types are
expanded. -/
theorem fields_nodup {source : Source} (h : (source.columns.map (·.name)).Nodup)
    (definition? : String → Option DataType) (part : RecordPart) :
    (((source.expand definition?).fields part).map (·.1)).Nodup := by
  rw [fields_expand, List.map_map]
  have hnames : (source.fields part).map (·.1) =
      (source.columns.filter fun column => column.part = part).map (·.name) := by
    rw [Source.fields, List.map_map]
    rfl
  have hsublist := (List.filter_sublist (p := fun column => column.part = part)
    (l := source.columns)).map (·.name)
  exact (hnames ▸ hsublist).nodup h

end TopicPlan
