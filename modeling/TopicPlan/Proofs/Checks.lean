import TopicPlan.Proofs.Results
import TopicPlan.Suite.File

/-! What checks guarantee. A guarantee about the parts that a check looks at is one about the whole;
so whatever a test file holds, the topics that it declares have partitions and replicas. -/
namespace TopicPlan
namespace Data

variable {α β : Type} {P : α → Prop}

namespace Checked

def Ensures (x : Checked α) (P : α → Prop) : Prop := ∀ a, x = .valid a → P a

theorem ensures_valid {a : α} (h : P a) : (Checked.valid a).Ensures P := by
  intro found hfound
  cases hfound
  exact h

theorem ensures_faulty (faults : List Fault) : (Checked.faulty faults).Ensures P := by
  intro found hfound
  cases hfound

theorem ensures_true (x : Checked α) : x.Ensures fun _ => True := fun _ _ => trivial

theorem Ensures.map {x : Checked β} {Q : β → Prop} {f : β → α} (hx : x.Ensures Q)
    (h : ∀ b, Q b → P (f b)) : (f <$> x).Ensures P := by
  cases x with
  | valid b => exact ensures_valid (h b (hx b rfl))
  | faulty faults => exact ensures_faulty faults

theorem Ensures.seq {f : Checked (β → α)} {x : Checked β} {Q : β → Prop}
    (hf : f.Ensures fun g => ∀ b, Q b → P (g b)) (hx : x.Ensures Q) : (f <*> x).Ensures P := by
  cases f with
  | valid g =>
    cases x with
    | valid b => exact ensures_valid (hf g rfl b (hx b rfl))
    | faulty faults => exact ensures_faulty faults
  | faulty faults => cases x <;> exact ensures_faulty _

theorem Ensures.under {x : Checked α} (h : x.Ensures P) (step : Step) :
    (x.under step).Ensures P := by
  cases x with
  | valid a => exact ensures_valid (h a rfl)
  | faulty faults => exact ensures_faulty _

theorem ensures_require (x : Checked α) (holds : α → Bool) (reason : String) :
    (x.require holds reason).Ensures fun a => holds a = true := by
  cases x with
  | valid a =>
    rw [require]
    split
    · next h => exact ensures_valid h
    · exact ensures_faulty _
  | faulty faults => exact ensures_faulty faults

end Checked
open Checked

def Check.Ensures (check : Check α) (P : α → Prop) : Prop := ∀ value, (check value).Ensures P

theorem Check.ensures_true (check : Check α) : check.Ensures fun _ => True :=
  fun value => (check value).ensures_true

theorem Check.Ensures.itemsFrom {check : Check α} (h : check.Ensures P) (position : Nat)
    (items : List Value) : (itemsFrom check position items).Ensures fun found => ∀ a ∈ found, P a := by
  induction items generalizing position with
  | nil => exact ensures_valid (List.forall_mem_nil _)
  | cons item items ih =>
    have hitem := (h item).under (.index position)
    refine (hitem.map ?_).seq (ih (position + 1))
    intro a ha found hfound
    exact List.forall_mem_cons.mpr ⟨ha, hfound⟩

theorem Check.Ensures.list {check : Check α} (h : check.Ensures P) :
    (list check).Ensures fun found => ∀ a ∈ found, P a := by
  intro value
  rw [Check.list]
  split
  · exact h.itemsFrom 0 _
  · exact ensures_faulty _

theorem Check.ensures_fields {kind : String} {read : OrderedMap String Value → Checked α}
    (h : ∀ map, (read map).Ensures P) : (fields kind read).Ensures P := by
  intro value
  rw [fields]
  split
  · exact h _
  · exact ensures_faulty _

theorem Check.Ensures.required {check : Check α} (h : check.Ensures P) (name : String)
    (others : List String) (map : OrderedMap String Value) :
    (required name others check map).Ensures P := by
  rw [Data.required]
  split
  · exact (h _).under _
  · exact ensures_faulty _

theorem Check.Ensures.optional {check : Check α} (h : check.Ensures P) (name : String)
    (others : List String) {standard : α} (hstandard : P standard)
    (map : OrderedMap String Value) : (optional name others standard check map).Ensures P := by
  rw [Data.optional]
  split
  · exact (h _).under _
  · exact ensures_valid hstandard

end Data

namespace Suite
open Data Checked

/-- A declared topic whose numbers of partitions and replicas are positive where they are given. -/
structure TopicDeclaration.Positive (declaration : TopicDeclaration) : Prop where
  partitions : ∀ n ∈ declaration.partitions, 1 ≤ n
  replicas : ∀ n ∈ declaration.replicas, 1 ≤ n

theorem TopicDeclaration.count_ensures : count.Ensures fun n? => ∀ n ∈ n?, 1 ≤ n := by
  intro value n? h n hn
  have hall := ensures_require _ _ _ n? h
  rw [Option.mem_def.mp hn] at hall
  simpa using hall

theorem TopicDeclaration.check_ensures : check.Ensures Positive := by
  apply Check.ensures_fields
  intro map
  have hcount (name : String) : (optional name [] none count map).Ensures fun n? => ∀ n ∈ n?, 1 ≤ n :=
    count_ensures.optional name [] (by simp) map
  have hname := (required "name" [] Check.text map).ensures_true
  refine (((((hname.map ?_).seq (hcount "partitions")).seq (hcount "replicas")).seq
    (ensures_true _)).seq (ensures_true _)).seq (ensures_true _)
  intro name _ partitions hpartitions replicas hreplicas keyFormat _ valueFormat _ valueSchema _
  exact ⟨hpartitions, hreplicas⟩

theorem TestCase.check_ensures :
    check.Ensures fun test => ∀ declaration ∈ test.topics, declaration.Positive := by
  apply Check.ensures_fields
  intro map
  have htopics := TopicDeclaration.check_ensures.list.optional "topics" []
    (List.forall_mem_nil _) map
  have hname := (required "name" [] nameCheck map).ensures_true
  refine ((((((((hname.map ?_).seq (ensures_true _)).seq (ensures_true _)).seq htopics).seq
    (ensures_true _)).seq (ensures_true _)).seq (ensures_true _)).seq (ensures_true _)).seq
    (ensures_true _)
  intro name _ formats _ statements _ topics hpositive inputs _ outputs _ properties _
    expectedException _ enabled _
  exact hpositive

theorem Definition.check_ensures :
    check.Ensures fun definition =>
      ∀ test ∈ definition.tests, ∀ declaration ∈ test.topics, declaration.Positive := by
  apply Check.ensures_fields
  intro map
  have htests := TestCase.check_ensures.list.required "tests" [] map
  refine (htests.map ?_).seq (ensures_true _)
  intro tests hpositive comments _
  exact hpositive

theorem File.positive_of_define {value : Value} {definition : Definition}
    (h : define value = .ok definition) :
    ∀ test ∈ definition.tests, ∀ declaration ∈ test.topics, declaration.Positive := by
  unfold File.define at h
  split at h
  · split at h
    · cases h
    · split at h
      · next found hfound =>
        cases h
        exact Definition.check_ensures _ _ hfound
      · cases h
  · cases h

theorem File.positive_of_read {file : File} {definition : Definition}
    (h : file.read = .ok definition) :
    ∀ test ∈ definition.tests, ∀ declaration ∈ test.topics, declaration.Positive := by
  unfold File.read at h
  split at h
  · cases h
  · split at h
    · cases h
    · obtain ⟨value, -, hdefine⟩ := bind_eq_ok.mp h
      exact positive_of_define hdefine

end Suite
end TopicPlan
