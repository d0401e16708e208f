/-!
Maps that remember the order in which their keys came. `put` lets the last value of a key win and
`putNew` the first; both leave a known key in its place. The laws say what a lookup finds and
which keys there are after either.
-/

namespace TopicPlan

/-- Keys with their values, in the order of the keys' first appearance. -/
abbrev OrderedMap (κ α : Type) := List (κ × α)

namespace OrderedMap

variable {κ α : Type}

def keys (map : OrderedMap κ α) : List κ := map.map (·.1)

def values (map : OrderedMap κ α) : List α := map.map (·.2)

variable [DecidableEq κ]

def get? (key : κ) : OrderedMap κ α → Option α
  | [] => none
  | (k, v) :: rest => if k = key then some v else get? key rest

/-- Binds a key: a new key goes to the end, a known one keeps its place and changes its value. -/
def put (key : κ) (value : α) : OrderedMap κ α → OrderedMap κ α
  | [] => [(key, value)]
  | (k, v) :: rest => if k = key then (k, value) :: rest else (k, v) :: put key value rest

/-- Binds a key that has no value yet, and leaves the map alone otherwise. -/
def putNew (key : κ) (value : α) (map : OrderedMap κ α) : OrderedMap κ α :=
  match get? key map with
  | some _ => map
  | none => map ++ [(key, value)]

/-- The map in which the last value of each key wins. -/
def lastWins (entries : List (κ × α)) : OrderedMap κ α :=
  entries.foldl (fun map (key, value) => put key value map) []

/-- The map in which the first value of each key wins. -/
def firstWins (entries : List (κ × α)) : OrderedMap κ α :=
  entries.foldl (fun map (key, value) => putNew key value map) []

theorem get?_put (key : κ) (value : α) (map : OrderedMap κ α) (k : κ) :
    get? k (put key value map) = if k = key then some value else get? k map := by
  induction map with
  | nil => simp only [put, get?, eq_comm]
  | cons entry rest ih =>
    obtain ⟨k', v⟩ := entry
    by_cases hk : k' = key
    · subst hk
      by_cases h : k' = k
      · simp [put, get?, h]
      · simp [put, get?, h, Ne.symm h]
    · by_cases h : k' = k
      · subst h
        simp [put, get?, hk]
      · simp [put, get?, hk, h, ih]

theorem keys_put (key : κ) (value : α) (map : OrderedMap κ α) :
    keys (put key value map) = if key ∈ keys map then keys map else keys map ++ [key] := by
  induction map with
  | nil => simp [put, keys]
  | cons entry rest ih =>
    obtain ⟨k', v⟩ := entry
    unfold keys at ih ⊢
    by_cases hk : k' = key
    · simp [put, hk]
    · have hk' : ¬ key = k' := fun h => hk h.symm
      by_cases hm : key ∈ List.map (·.1) rest <;> simp_all [put]

theorem get?_eq_none_iff (map : OrderedMap κ α) (key : κ) :
    get? key map = none ↔ key ∉ keys map := by
  induction map with
  | nil => simp [get?, keys]
  | cons entry rest ih =>
    obtain ⟨k', v⟩ := entry
    unfold keys at ih ⊢
    by_cases h : k' = key
    · simp [get?, h]
    · have h' : ¬ key = k' := fun e => h e.symm
      simp only [get?, h, if_false, ih, List.map_cons, List.mem_cons, h', false_or]

theorem get?_append (map more : OrderedMap κ α) (key : κ) :
    get? key (map ++ more) = (get? key map).or (get? key more) := by
  induction map with
  | nil => simp [get?]
  | cons entry rest ih =>
    obtain ⟨k', v⟩ := entry
    by_cases h : k' = key <;> simp [get?, h, ih]

theorem keys_putNew (key : κ) (value : α) (map : OrderedMap κ α) :
    keys (putNew key value map) = if key ∈ keys map then keys map else keys map ++ [key] := by
  unfold putNew
  split
  · next h =>
    have hm : key ∈ keys map := by
      apply Decidable.byContradiction
      intro hm
      rw [(get?_eq_none_iff map key).2 hm] at h
      cases h
    rw [if_pos hm]
  · next h =>
    rw [if_neg ((get?_eq_none_iff map key).1 h)]
    simp [keys]

theorem get?_putNew (key : κ) (value : α) (map : OrderedMap κ α) (k : κ) :
    get? k (putNew key value map) = (get? k map).or (if k = key then some value else none) := by
  unfold putNew
  split
  · next v h =>
    by_cases hk : k = key
    · subst hk
      simp [h]
    · simp [hk]
  · simp [get?_append, get?, eq_comm]

end OrderedMap

end TopicPlan
