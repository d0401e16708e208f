import TopicPlan.OrderedMap

/-! Maps built entry by entry. The keys of such a map are the keys of its entries in the order of
their first appearance; what a key is bound to is said by a lookup among the entries. -/
namespace TopicPlan
namespace OrderedMap

variable {κ α : Type} [DecidableEq κ]

theorem eraseDups_concat (ks : List κ) (k : κ) :
    (ks ++ [k]).eraseDups = if k ∈ ks then ks.eraseDups else ks.eraseDups ++ [k] := by
  rw [List.eraseDups_append]
  by_cases h : k ∈ ks <;> simp [h, List.removeAll, List.eraseDups_cons]

theorem nodup_eraseDups (ks : List κ) : ks.eraseDups.Nodup := by
  rw [← List.reverse_reverse ks]
  induction ks.reverse with
  | nil => simp
  | cons k ks ih =>
    rw [List.reverse_cons, eraseDups_concat]
    split
    · exact ih
    · next h =>
      refine List.nodup_append.mpr ⟨ih, by simp, ?_⟩
      intro a ha b hb hab
      rw [List.mem_singleton.mp hb] at hab
      exact h (List.mem_eraseDups.mp (hab ▸ ha))

/-- Both ways to bind a key leave a known key in its place and put a new one at the end. -/
theorem keys_foldl {bind : κ → α → OrderedMap κ α → OrderedMap κ α}
    (hbind : ∀ k v map, keys (bind k v map) = if k ∈ keys map then keys map else keys map ++ [k])
    (entries : List (κ × α)) (map : OrderedMap κ α) (ks : List κ) (hmap : keys map = ks.eraseDups) :
    keys (entries.foldl (fun map entry => bind entry.1 entry.2 map) map) =
      (ks ++ entries.map (·.1)).eraseDups := by
  induction entries generalizing map ks with
  | nil => simpa using hmap
  | cons entry entries ih =>
    have hstep : keys (bind entry.1 entry.2 map) = (ks ++ [entry.1]).eraseDups := by
      rw [hbind, eraseDups_concat, hmap]
      simp only [List.mem_eraseDups]
    have h := ih (bind entry.1 entry.2 map) (ks ++ [entry.1]) hstep
    simpa using h

theorem keys_lastWins (entries : List (κ × α)) :
    keys (lastWins entries) = (entries.map (·.1)).eraseDups := by
  have h := keys_foldl (keys_put (α := α)) entries [] [] rfl
  simpa [lastWins] using h

/-- Of entries with one key the last one counts, before what the key was bound to. -/
theorem get?_foldl_put (entries : List (κ × α)) (map : OrderedMap κ α) (k : κ) :
    get? k (entries.foldl (fun map entry => put entry.1 entry.2 map) map) =
      (get? k entries.reverse).or (get? k map) := by
  induction entries generalizing map with
  | nil => simp [get?]
  | cons entry entries ih =>
    rw [List.foldl_cons, ih, get?_put, List.reverse_cons, get?_append, Option.or_assoc]
    congr 1
    by_cases h : k = entry.1
    · simp [get?, h]
    · simp [get?, h, Ne.symm h]

theorem get?_lastWins (entries : List (κ × α)) (k : κ) :
    get? k (lastWins entries) = get? k entries.reverse := by
  have h := get?_foldl_put entries [] k
  simpa [lastWins, get?] using h

theorem mem_of_get? {map : OrderedMap κ α} {k : κ} {v : α} (h : get? k map = some v) :
    (k, v) ∈ map := by
  induction map with
  | nil => cases h
  | cons entry map ih =>
    rw [get?] at h
    split at h
    · next hk =>
      cases h
      exact List.mem_cons.mpr (Or.inl (Prod.ext hk.symm rfl))
    · exact List.mem_cons_of_mem _ (ih h)

theorem mem_of_get?_lastWins {entries : List (κ × α)} {k : κ} {v : α}
    (h : get? k (lastWins entries) = some v) : (k, v) ∈ entries := by
  rw [get?_lastWins] at h
  exact List.mem_reverse.mp (mem_of_get? h)

/-- Among entries that are added only where their key is new, the first one with a key counts, unless
the key was bound before. -/
theorem get?_foldl_putNew (entries : List (κ × α)) (map : OrderedMap κ α) (k : κ) :
    get? k (entries.foldl (fun map entry => putNew entry.1 entry.2 map) map) =
      (get? k map).or (get? k entries) := by
  induction entries generalizing map with
  | nil => simp [get?]
  | cons entry entries ih =>
    rw [List.foldl_cons, ih, get?_putNew, Option.or_assoc]
    congr 1
    by_cases h : k = entry.1
    · simp [get?, h]
    · simp [get?, h, Ne.symm h]

theorem keys_firstWins (entries : List (κ × α)) :
    keys (firstWins entries) = (entries.map (·.1)).eraseDups := by
  have h := keys_foldl (keys_putNew (α := α)) entries [] [] rfl
  simpa [firstWins] using h

theorem get?_firstWins (entries : List (κ × α)) (k : κ) :
    get? k (firstWins entries) = get? k entries := by
  have h := get?_foldl_putNew entries [] k
  simpa [firstWins, get?] using h

theorem get?_eq_some_of_mem {map : OrderedMap κ α} (hnodup : (keys map).Nodup) {k : κ} {v : α}
    (h : (k, v) ∈ map) : get? k map = some v := by
  induction map with
  | nil => cases h
  | cons entry map ih =>
    have hcons := List.nodup_cons.mp hnodup
    rcases List.mem_cons.mp h with he | hm
    · simp [get?, ← he]
    · have hne : entry.1 ≠ k := by
        intro he
        exact hcons.1 (List.mem_map.mpr ⟨(k, v), hm, he.symm⟩)
      simp only [get?, hne, if_false]
      exact ih hcons.2 hm

theorem get?_map_of_injective {κ' : Type} [DecidableEq κ'] {f : κ → κ'}
    (hf : ∀ {a b}, f a = f b → a = b) (entries : List (κ × α)) (k : κ) :
    get? (f k) (entries.map fun entry => (f entry.1, entry.2)) = get? k entries := by
  induction entries with
  | nil => rfl
  | cons entry entries ih =>
    rw [List.map_cons, get?, get?, ih]
    by_cases h : entry.1 = k
    · rw [if_pos (congrArg f h), if_pos h]
    · rw [if_neg fun he => h (hf he), if_neg h]

omit [DecidableEq κ] in
theorem get?_map_of_ne {κ' : Type} [DecidableEq κ'] {f : κ → κ'} {k : κ'} (hk : ∀ a, f a ≠ k)
    (entries : List (κ × α)) : get? k (entries.map fun entry => (f entry.1, entry.2)) = none := by
  induction entries with
  | nil => rfl
  | cons entry entries ih => rw [List.map_cons, get?, if_neg (hk entry.1), ih]

theorem get?_toList_map {β : Type} (k key : κ) (a? : Option α) (f : α → β) :
    get? k (a?.toList.map fun a => (key, f a)) = if key = k then a?.map f else none := by
  cases a? with
  | none => simp [get?]
  | some a => simp [get?]

theorem put_of_not_mem {k : κ} {map : OrderedMap κ α} (h : k ∉ keys map) (v : α) :
    put k v map = map ++ [(k, v)] := by
  induction map with
  | nil => rfl
  | cons entry map ih =>
    have hne : entry.1 ≠ k := fun he => h (List.mem_cons.mpr (Or.inl he.symm))
    have hrest : k ∉ keys map := fun hm => h (List.mem_cons_of_mem _ hm)
    simp [put, hne, ih hrest]

theorem foldl_put_of_nodup {later map : OrderedMap κ α}
    (h : (keys map ++ later.map (·.1)).Nodup) :
    later.foldl (fun map entry => put entry.1 entry.2 map) map = map ++ later := by
  induction later generalizing map with
  | nil => simp
  | cons entry later ih =>
    have hnew : entry.1 ∉ keys map := by
      intro hm
      have hapart := (List.nodup_append.mp h).2.2
      exact hapart _ hm _ (by simp) rfl
    have hnext : (keys (map ++ [entry]) ++ later.map (·.1)).Nodup := by
      simpa [keys] using h
    rw [List.foldl_cons, put_of_not_mem hnew, ih hnext]
    simp

theorem lastWins_of_nodup {entries : List (κ × α)} (h : (entries.map (·.1)).Nodup) :
    lastWins entries = entries := by
  have hfresh : (keys ([] : OrderedMap κ α) ++ entries.map (·.1)).Nodup := h
  exact foldl_put_of_nodup hfresh

end OrderedMap
end TopicPlan
