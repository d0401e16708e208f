import TopicPlan.Proofs.OrderedMaps
import TopicPlan.Proofs.TopicCriterion
import Mathlib.Data.List.Nodup
import Mathlib.Tactic.NormNum

/-! What the values of a `WITH` clause mean. A property takes the values of one sort, and what is kept of
a value is the value itself, or the number or truth value that it denotes. With this it is said what a
clause has to be, what its errors tell, and which clause the properties give that are kept. -/
namespace TopicPlan

/-- A finite number is equal to an integer. The power of two stands on the side where it is whole. -/
def Binary64.Equals : Binary64 → Int → Prop
  | .finite negative m e, n =>
    (if negative then -(m : Int) else m) * twoPow e.toNat = n * twoPow (-e).toNat
  | .nan, _ | .infinity _, _ => False

theorem div_eq_iff_of_mod {m k : Nat} (hk : 0 < k) {n : Int} :
    m % k = 0 ∧ ((m / k : Nat) : Int) = n ↔ (m : Int) = n * k := by
  constructor
  · rintro ⟨hmod, rfl⟩
    have hm : m / k * k = m := Nat.div_mul_cancel (Nat.dvd_of_mod_eq_zero hmod)
    exact_mod_cast hm.symm
  · intro h
    have hn : 0 ≤ n := by
      by_contra hneg
      have : n * (k : Int) < 0 := Int.mul_neg_of_neg_of_pos (by omega) (by omega)
      omega
    obtain ⟨a, rfl⟩ := Int.eq_ofNat_of_zero_le hn
    obtain rfl : m = a * k := by exact_mod_cast h
    exact ⟨Nat.mul_mod_left a k, by rw [Nat.mul_div_cancel a hk]⟩

theorem Binary64.toInt?_eq_some_iff {x : Binary64} {n : Int} :
    x.toInt? = some n ↔ x.Equals n := by
  cases x with
  | nan | infinity _ => simp [toInt?, Equals]
  | finite negative m e =>
    unfold toInt? Equals
    by_cases he : 0 ≤ e
    · have hone : twoPow (-e).toNat = 1 := by
        rw [Int.toNat_of_nonpos (by omega)]
        rfl
      simp only [he, if_true, hone, Option.some.injEq]
      cases negative <;> simp
    · have hone : twoPow e.toNat = 1 := by
        rw [Int.toNat_of_nonpos (by omega)]
        rfl
      have hexact {value : Int} := @div_eq_iff_of_mod m _ (twoPow_pos (-e).toNat) value
      simp only [he, if_false, hone]
      cases negative with
      | false => simpa using hexact
      | true =>
        have hflip : -(m : Int) = n * twoPow (-e).toNat ↔ (m : Int) = -n * twoPow (-e).toNat := by
          rw [neg_mul, neg_eq_iff_eq_neg]
        simpa [neg_eq_iff_eq_neg] using hexact.trans hflip.symm

namespace Sql

namespace Literal

/-- The integer that a value denotes: itself, a real number that is equal to it, or a numeral for it. -/
inductive Denotes : Literal → Int → Prop
  | int (n : Int) : Denotes (.int n) n
  | real {x : Binary64} {n : Int} (h : x.Equals n) : Denotes (.real x) n
  | text {s : String} {n : Int} (h : Text.readInt s.toList = .ok n) : Denotes (.text s) n

/-- The truth value that a value denotes: itself, or its name in any case. -/
inductive IsTruth : Literal → Bool → Prop
  | bool (b : Bool) : IsTruth (.bool b) b
  | true {s : String} (h : Text.lower s = "true") : IsTruth (.text s) Bool.true
  | false {s : String} (h : Text.lower s = "false") : IsTruth (.text s) Bool.false

theorem toInt?_eq_some_iff {value : Literal} {n : Int} : value.toInt? = some n ↔ value.Denotes n := by
  cases value with
  | null | bool _ =>
    refine iff_of_false nofun ?_
    rintro ⟨⟩
  | int m =>
    constructor
    · intro h
      cases h
      exact .int n
    · rintro ⟨⟩
      rfl
  | real x =>
    rw [toInt?, Binary64.toInt?_eq_some_iff]
    exact ⟨.real, fun | .real h => h⟩
  | text s =>
    rw [toInt?, toOption_eq_some]
    exact ⟨.text, fun | .text h => h⟩

theorem toCount_eq_ok_iff {property : Property} {value : Literal} {n : Nat} :
    value.toCount property = .ok n ↔ 1 ≤ n ∧ value.Denotes n := by
  rw [← toInt?_eq_some_iff, toCount]
  cases value.toInt? with
  | none => simp
  | some m =>
    simp only [Option.some.injEq]
    split
    · simp only [reduceCtorEq, false_iff]
      omega
    · rw [Except.ok.injEq]
      omega

theorem toBool_eq_ok_iff {property : Property} {value : Literal} {b : Bool} :
    value.toBool property = .ok b ↔ value.IsTruth b := by
  cases value with
  | null | int _ | real _ =>
    refine iff_of_false nofun ?_
    rintro ⟨⟩
  | bool c =>
    constructor
    · intro h
      cases h
      exact .bool b
    · rintro ⟨⟩
      rfl
  | text s =>
    simp only [toBool]
    constructor
    · intro h
      split at h
      · next htrue =>
        cases h
        exact .true htrue
      split at h
      · next hfalse =>
        cases h
        exact .false hfalse
      · cases h
    · rintro (_ | htrue | hfalse)
      · rw [if_pos htrue]
      · have hne : Text.lower s ≠ "true" := by
          rw [hfalse]
          decide
        rw [if_neg hne, if_pos hfalse]

theorem toText_eq_ok_iff {property : Property} {value : Literal} {s : String} :
    value.toText property = .ok s ↔ value = .text s := by
  cases value <;> simp [toText]

end Literal

def Property.Keeps : Property → Literal → Literal → Prop
  | .kafkaTopic, given, kept | .format, given, kept | .keyFormat, given, kept
  | .valueFormat, given, kept => kept = given ∧ ∃ text, given = .text text
  | .partitions, given, kept | .replicas, given, kept =>
    ∃ n : Nat, 1 ≤ n ∧ given.Denotes n ∧ kept = .int n
  | .wrapSingleValue, given, kept => ∃ b, given.IsTruth b ∧ kept = .bool b
  | .free _, given, kept => kept = given

theorem Property.name_injective {property other : Property} (h : property.name = other.name) :
    property = other := by
  have hfound := ofName?_name other
  rw [← h, ofName?_name] at hfound
  exact Option.some.inj hfound

/-- What makes a clause acceptable, told by which value it gives to which name. -/
structure Properties.Accepted (gives : String → Literal → Prop) : Prop where
  known : ∀ name value, gives name value →
    ∃ property : Property, property.name = name ∧ ∃ kept, property.Keeps value kept
  topic : ∃ value, gives Property.kafkaTopic.name value
  formats : ∀ shared, gives Property.format.name shared →
    ∀ value, ¬gives Property.keyFormat.name value ∧ ¬gives Property.valueFormat.name value

namespace PropertyError

inductive Blames (property : Property) (value : Literal) : PropertyError → Prop
  | notText : Blames property value (.notText property value)
  | notCount : Blames property value (.notCount property value)
  | notPositive : Blames property value (.notPositive property value)
  | notBoolean : Blames property value (.notBoolean property value)

inductive Tells (gives : String → Literal → Prop) : PropertyError → Prop
  | unknown {names : List String} (hsome : names ≠ [])
      (hnames : ∀ name, name ∈ names ↔
        (∃ value, gives name value) ∧ ∀ property : Property, property.name ≠ name) :
      Tells gives (.unknown names)
  | topicMissing (h : ∀ text, ¬gives Property.kafkaTopic.name (.text text)) :
      Tells gives .topicMissing
  | formatsConflict {shared value : Literal} (hshared : gives Property.format.name shared)
      (hother : gives Property.keyFormat.name value ∨ gives Property.valueFormat.name value) :
      Tells gives .formatsConflict
  | value {e : PropertyError} {property : Property} {value : Literal} (hblames : e.Blames property value)
      (hgiven : gives property.name value) (hrefused : ∀ kept, ¬property.Keeps value kept) :
      Tells gives e

/-- What an error tells stands against acceptance. -/
theorem Tells.not_accepted {gives : String → Literal → Prop} {e : PropertyError} (h : e.Tells gives) :
    ¬Properties.Accepted gives := by
  intro haccepted
  cases h with
  | @unknown names hsome hnames =>
    obtain ⟨name, hname⟩ := List.exists_mem_of_ne_nil names hsome
    obtain ⟨⟨value, hvalue⟩, hunknown⟩ := (hnames name).mp hname
    obtain ⟨property, hproperty, -⟩ := haccepted.known name value hvalue
    exact hunknown property hproperty
  | topicMissing h =>
    obtain ⟨value, hvalue⟩ := haccepted.topic
    obtain ⟨property, hproperty, kept, hkept⟩ := haccepted.known _ value hvalue
    obtain rfl := Property.name_injective hproperty
    obtain ⟨-, text, rfl⟩ := hkept
    exact h text hvalue
  | formatsConflict hshared hother =>
    obtain ⟨hnokey, hnovalue⟩ := haccepted.formats _ hshared _
    exact hother.elim hnokey hnovalue
  | value _ hgiven hrefused =>
    obtain ⟨property, hproperty, kept, hkept⟩ := haccepted.known _ _ hgiven
    obtain rfl := Property.name_injective hproperty
    exact hrefused kept hkept

end PropertyError

namespace Properties
open OrderedMap

/-! ### Properties as literals by name -/

def values (p : Properties) : List (String × Literal) :=
  p.entries.map fun entry => (entry.1.name, entry.2)

def value? (p : Properties) : Property → Option Literal
  | .kafkaTopic => some (.text p.topic)
  | .format => (p.formatText? .format).map .text
  | .keyFormat => (p.formatText? .keyFormat).map .text
  | .valueFormat => (p.formatText? .valueFormat).map .text
  | .partitions => p.partitions.map fun n : Nat => .int n
  | .replicas => p.replicas.map fun n : Nat => .int n
  | .wrapSingleValue => p.wrapSingleValue.map .bool
  | .free property => get? property p.free

theorem get?_entries (p : Properties) (property : Property) :
    get? property p.entries = p.value? property := by
  have hfree (property : FreeProperty) :=
    get?_map_of_injective (fun h => Property.free.inj h) p.free property
  have hnone (property : Property) (hne : ∀ q, Property.free q ≠ property) :=
    get?_map_of_ne hne p.free
  unfold entries value? formatText?
  cases property <;> cases p.formats <;> simp [get?, get?_append, get?_toList_map, hfree, hnone]

theorem get?_values (p : Properties) (property : Property) :
    get? property.name p.values = p.value? property := by
  rw [values, get?_map_of_injective Property.name_injective, get?_entries]

theorem name_of_mem_values {p : Properties} {entry : String × Literal} (h : entry ∈ p.values) :
    ∃ property : Property, property.name = entry.1 := by
  obtain ⟨⟨property, value⟩, -, rfl⟩ := List.mem_map.mp h
  exact ⟨property, rfl⟩

theorem toList_map_sublist {κ α β : Type} (k : κ) (a? : Option α) (f : α → β) :
    ((a?.toList.map fun a => (k, f a)).map (·.1)).Sublist [k] := by
  cases a? <;> simp

theorem keys_entries_sublist (p : Properties) :
    (p.entries.map (·.1)).Sublist
      ([.kafkaTopic, .format, .keyFormat, .valueFormat, .partitions, .replicas, .wrapSingleValue] ++
        p.free.map fun entry => Property.free entry.1) := by
  have htail := (((toList_map_sublist Property.partitions p.partitions fun n => Literal.int n).append
    (toList_map_sublist .replicas p.replicas fun n => Literal.int n)).append
    (toList_map_sublist .wrapSingleValue p.wrapSingleValue Literal.bool)).append
    (List.Sublist.refl (p.free.map fun entry => Property.free entry.1))
  unfold entries
  cases p.formats with
  | shared name =>
    have hformat : [Property.format].Sublist [.format, .keyFormat, .valueFormat] := by simp
    simpa [Function.comp_def] using hformat.append htail
  | separate key value =>
    have hformats := (toList_map_sublist Property.keyFormat key Literal.text).append
      (toList_map_sublist .valueFormat value Literal.text)
    simpa [Function.comp_def] using (hformats.cons .format).append htail

theorem nodup_values {p : Properties} (h : (p.free.map (·.1)).Nodup) :
    (p.values.map (·.1)).Nodup := by
  have hfree : (p.free.map fun entry => Property.free entry.1).Nodup := by
    have hmap := h.map fun _ _ he => Property.free.inj he
    rwa [List.map_map] at hmap
  have hentries : (p.entries.map (·.1)).Nodup := by
    refine p.keys_entries_sublist.nodup (List.nodup_append.mpr ⟨by decide, hfree, ?_⟩)
    intro property hproperty other hother
    obtain ⟨entry, -, rfl⟩ := List.mem_map.mp hother
    rintro rfl
    simp at hproperty
  have hnames := hentries.map fun _ _ he => Property.name_injective he
  rw [List.map_map] at hnames
  rwa [values, List.map_map]

end Properties
end Sql
end TopicPlan
