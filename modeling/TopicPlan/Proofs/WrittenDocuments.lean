import TopicPlan.Proofs.WrittenTexts
import Mathlib

/-! Documents as they are written. Two documents that are written alike, each with something after it
that cannot go on a number, are the same once the pairs of halves in their texts are joined, and what
comes after them is the same as well. The first character of a document tells its kind, and from there
on both are taken apart in step. -/
namespace TopicPlan
namespace Json
open Text

mutual

/-- The document with the pairs of halves joined in all its texts and names. -/
def joined : Json → Json
  | .null => .null
  | .bool value => .bool value
  | .int value => .int value
  | .real value => .real value
  | .text value => .text (Text.joined value)
  | .array items => .array (joinedItems items)
  | .object members => .object (joinedMembers members)

def joinedItems : List Json → List Json
  | [] => []
  | item :: rest => item.joined :: joinedItems rest

def joinedMembers : List (String × Json) → List (String × Json)
  | [] => []
  | (name, value) :: rest => (Text.joined name, value.joined) :: joinedMembers rest

end

mutual

def integral : Json → Bool
  | .null | .bool _ | .int _ | .text _ => true
  | .real _ => false
  | .array items => itemsIntegral items
  | .object members => membersIntegral members

def itemsIntegral : List Json → Bool
  | [] => true
  | item :: rest => item.integral && itemsIntegral rest

def membersIntegral : List (String × Json) → Bool
  | [] => true
  | (_, value) :: rest => value.integral && membersIntegral rest

end

def isNumeral (c : Char) : Bool := c.isDigit || c == '-'

/-- A text that does not go on the number before it. -/
def Delimited (rest : List Char) : Prop := ∀ c ∈ rest.head?, isNumeral c = false

theorem delimited_nil : Delimited [] := by simp [Delimited]

theorem delimited_cons {c : Char} (h : isNumeral c = false) (rest : List Char) :
    Delimited (c :: rest) := by simpa [Delimited] using h

theorem repr_isNumeral (n : Int) :
    n.repr.toList ≠ [] ∧ ∀ c ∈ n.repr.toList, isNumeral c = true := by
  have hdigits : ∀ m : Nat, ∀ c ∈ m.repr.toList, isNumeral c = true := by
    intro m c hc
    rw [Nat.toList_repr] at hc
    rw [isNumeral, Nat.isDigit_of_mem_toDigits (by decide) (by decide) hc, Bool.true_or]
  have hsome : ∀ m : Nat, m.repr.toList ≠ [] := by
    intro m
    rw [Nat.toList_repr]
    exact Nat.toDigits_ne_nil
  rw [Int.repr_eq_if]
  split
  · exact ⟨hsome _, hdigits _⟩
  · rw [String.toList_append, show "-".toList = ['-'] from rfl, List.singleton_append]
    exact ⟨List.cons_ne_nil _ _, List.forall_mem_cons.mpr ⟨by decide, hdigits _⟩⟩

theorem int_of_write_eq {n m : Int} {rest others : List Char} (hrest : Delimited rest)
    (hothers : Delimited others) (h : n.repr.toList ++ rest = m.repr.toList ++ others) :
    n = m ∧ rest = others := by
  obtain ⟨hrepr, hafter⟩ := append_inj_of_run (repr_isNumeral n).2 (repr_isNumeral m).2 hrest hothers h
  exact ⟨Int.repr_injective (String.ext hrepr), hafter⟩

inductive Kind where
  | null
  | bool
  | number
  | text
  | array
  | object

def kind : Json → Kind
  | .null => .null
  | .bool _ => .bool
  | .int _ | .real _ => .number
  | .text _ => .text
  | .array _ => .array
  | .object _ => .object

def kindOf? (c : Char) : Option Kind :=
  if isNumeral c then some .number
  else if c = 'n' then some .null
  else if c = 't' ∨ c = 'f' then some .bool
  else if c = '"' then some .text
  else if c = '[' then some .array
  else if c = '\x7b' then some .object
  else none

/-- A document tells its kind by its first character. -/
theorem kindOf?_head_write {document : Json} (h : document.integral = true) (rest : List Char) :
    ∃ c more, document.write rest = c :: more ∧ kindOf? c = some document.kind := by
  cases document with
  | null => exact ⟨_, _, rfl, rfl⟩
  | bool value => cases value with
    | true => exact ⟨_, _, rfl, rfl⟩
    | false => exact ⟨_, _, rfl, rfl⟩
  | int value =>
    obtain ⟨hsome, hmade⟩ := repr_isNumeral value
    obtain ⟨c, more, hvalue⟩ := List.exists_cons_of_ne_nil hsome
    refine ⟨c, more ++ rest, ?_, ?_⟩
    · rw [write, Int.toString_eq_repr, hvalue, List.cons_append]
    · rw [kindOf?, hmade c (by simp [hvalue]), if_pos rfl, kind]
  | real value => simp [integral] at h
  | text value => exact ⟨_, _, writeText_eq value rest, rfl⟩
  | array items => exact ⟨_, _, rfl, rfl⟩
  | object members => exact ⟨_, _, rfl, rfl⟩

theorem kind_eq_of_write_eq {j k : Json} (hj : j.integral = true) (hk : k.integral = true)
    {rest others : List Char} (h : j.write rest = k.write others) : j.kind = k.kind := by
  obtain ⟨c, more, hwritten, hkind⟩ := kindOf?_head_write hj rest
  obtain ⟨d, after, hwrittenOther, hkindOther⟩ := kindOf?_head_write hk others
  rw [hwritten, hwrittenOther] at h
  rw [(List.cons.inj h).1, hkindOther] at hkind
  exact (Option.some.inj hkind).symm

theorem write_ne_cons {j : Json} (hj : j.integral = true) {c : Char} (hc : kindOf? c = none)
    (rest others : List Char) : j.write rest ≠ c :: others := by
  intro h
  obtain ⟨d, more, hwritten, hkind⟩ := kindOf?_head_write hj rest
  rw [hwritten] at h
  rw [(List.cons.inj h).1, hc] at hkind
  cases hkind

/-- Items that are written alike up to their bracket are written alike after an item as well. -/
theorem writeMoreItems_eq_of_writeItems_eq {items others : List Json}
    (hitems : itemsIntegral items = true) (hothers : itemsIntegral others = true)
    {r s : List Char} (h : writeItems items (']' :: r) = writeItems others (']' :: s)) :
    writeMoreItems items (']' :: r) = writeMoreItems others (']' :: s) := by
  cases items with
  | nil => cases others with
    | nil => exact h
    | cons other others =>
      rw [itemsIntegral, Bool.and_eq_true] at hothers
      exact absurd h.symm (write_ne_cons hothers.1 rfl _ _)
  | cons item items => cases others with
    | nil =>
      rw [itemsIntegral, Bool.and_eq_true] at hitems
      exact absurd h (write_ne_cons hitems.1 rfl _ _)
    | cons other others => exact congrArg (fun text => ',' :: ' ' :: text) h

theorem writeMoreMembers_eq_of_writeMembers_eq {members others : List (String × Json)}
    {r s : List Char} (h : writeMembers members ('\x7d' :: r) = writeMembers others ('\x7d' :: s)) :
    writeMoreMembers members ('\x7d' :: r) = writeMoreMembers others ('\x7d' :: s) := by
  cases members with
  | nil => cases others with
    | nil => exact h
    | cons other others =>
      rw [writeMembers, writeMembers, writeText_eq] at h
      cases h
  | cons member members => cases others with
    | nil =>
      rw [writeMembers, writeMembers, writeText_eq] at h
      cases h
    | cons other others => exact congrArg (fun text => ',' :: ' ' :: text) h

theorem delimited_writeMoreItems (items : List Json) (rest : List Char) :
    Delimited (writeMoreItems items (']' :: rest)) := by
  cases items with
  | nil => exact delimited_cons rfl _
  | cons item items => exact delimited_cons rfl _

theorem delimited_writeMoreMembers (members : List (String × Json)) (rest : List Char) :
    Delimited (writeMoreMembers members ('\x7d' :: rest)) := by
  cases members with
  | nil => exact delimited_cons rfl _
  | cons member members => exact delimited_cons rfl _

mutual

/-- Documents that are written alike are the same once their pairs of halves are joined. -/
theorem joined_of_write_eq : (j k : Json) → j.integral = true → k.integral = true →
    ∀ {rest others : List Char}, Delimited rest → Delimited others →
      j.write rest = k.write others → j.joined = k.joined ∧ rest = others
  | .null, k, hj, hk, rest, others, _, _, h => by
    have hkind := kind_eq_of_write_eq hj hk h
    cases k with
    | null => exact ⟨rfl, List.append_cancel_left h⟩
    | _ => cases hkind
  | .bool value, k, hj, hk, rest, others, _, _, h => by
    have hkind := kind_eq_of_write_eq hj hk h
    cases k with
    | bool other =>
      cases value with
      | false => cases other with
        | false => exact ⟨rfl, List.append_cancel_left h⟩
        | true => cases h
      | true => cases other with
        | false => cases h
        | true => exact ⟨rfl, List.append_cancel_left h⟩
    | _ => cases hkind
  | .int value, k, hj, hk, rest, others, hrest, hothers, h => by
    have hkind := kind_eq_of_write_eq hj hk h
    cases k with
    | int other =>
      rw [write, write, Int.toString_eq_repr, Int.toString_eq_repr] at h
      obtain ⟨hvalue, hafter⟩ := int_of_write_eq hrest hothers h
      exact ⟨by rw [hvalue], hafter⟩
    | real other => cases hk
    | _ => cases hkind
  | .real _, _, hj, _, _, _, _, _, _ => by cases hj
  | .text value, k, hj, hk, rest, others, _, _, h => by
    have hkind := kind_eq_of_write_eq hj hk h
    cases k with
    | text other =>
      obtain ⟨hvalue, hafter⟩ := joined_of_writeText_eq h
      exact ⟨by rw [joined, joined, hvalue], hafter⟩
    | _ => cases hkind
  | .array items, k, hj, hk, rest, others, _, _, h => by
    have hkind := kind_eq_of_write_eq hj hk h
    cases k with
    | array otherItems =>
      have hmore := writeMoreItems_eq_of_writeItems_eq hj hk (List.cons.inj h).2
      obtain ⟨hitems, hafter⟩ := joinedItems_of_write_eq items otherItems hj hk hmore
      exact ⟨by rw [joined, joined, hitems], hafter⟩
    | _ => cases hkind
  | .object members, k, hj, hk, rest, others, _, _, h => by
    have hkind := kind_eq_of_write_eq hj hk h
    cases k with
    | object otherMembers =>
      have hmore := writeMoreMembers_eq_of_writeMembers_eq (List.cons.inj h).2
      obtain ⟨hmembers, hafter⟩ := joinedMembers_of_write_eq members otherMembers hj hk hmore
      exact ⟨by rw [joined, joined, hmembers], hafter⟩
    | _ => cases hkind

theorem joinedItems_of_write_eq : (items others : List Json) → itemsIntegral items = true →
    itemsIntegral others = true → ∀ {r s : List Char},
      writeMoreItems items (']' :: r) = writeMoreItems others (']' :: s) →
        joinedItems items = joinedItems others ∧ r = s
  | [], [], _, _, _, _, h => ⟨rfl, (List.cons.inj h).2⟩
  | [], _ :: _, _, _, _, _, h => by cases h
  | _ :: _, [], _, _, _, _, h => by cases h
  | item :: items, other :: others, hitems, hothers, r, s, h => by
    rw [itemsIntegral, Bool.and_eq_true] at hitems hothers
    have hwritten := (List.cons.inj (List.cons.inj h).2).2
    obtain ⟨hitem, hmore⟩ := joined_of_write_eq item other hitems.1 hothers.1
      (delimited_writeMoreItems items r) (delimited_writeMoreItems others s) hwritten
    obtain ⟨hrest, hafter⟩ := joinedItems_of_write_eq items others hitems.2 hothers.2 hmore
    exact ⟨by rw [joinedItems, joinedItems, hitem, hrest], hafter⟩

theorem joinedMembers_of_write_eq : (members others : List (String × Json)) →
    membersIntegral members = true → membersIntegral others = true → ∀ {r s : List Char},
      writeMoreMembers members ('\x7d' :: r) = writeMoreMembers others ('\x7d' :: s) →
        joinedMembers members = joinedMembers others ∧ r = s
  | [], [], _, _, _, _, h => ⟨rfl, (List.cons.inj h).2⟩
  | [], _ :: _, _, _, _, _, h => by cases h
  | _ :: _, [], _, _, _, _, h => by cases h
  | (name, value) :: members, (otherName, other) :: others, hmembers, hothers, r, s, h => by
    rw [membersIntegral, Bool.and_eq_true] at hmembers hothers
    obtain ⟨hname, hafterName⟩ := joined_of_writeText_eq (List.cons.inj (List.cons.inj h).2).2
    have hwritten := (List.cons.inj (List.cons.inj hafterName).2).2
    obtain ⟨hvalue, hmore⟩ := joined_of_write_eq value other hmembers.1 hothers.1
      (delimited_writeMoreMembers members r) (delimited_writeMoreMembers others s) hwritten
    obtain ⟨hrest, hafter⟩ := joinedMembers_of_write_eq members others hmembers.2 hothers.2 hmore
    exact ⟨by rw [joinedMembers, joinedMembers, hname, hvalue, hrest], hafter⟩

end

theorem joined_of_print_eq {j k : Json} (hj : j.integral = true) (hk : k.integral = true)
    (h : j.print = k.print) : j.joined = k.joined := by
  have hwritten : j.write [] = k.write [] := String.ofList_injective h
  exact (joined_of_write_eq j k hj hk delimited_nil delimited_nil hwritten).1

end Json
end TopicPlan
