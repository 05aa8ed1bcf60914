/-!
# Ordered maps

Pairs of a key and a value in the order in which the keys came first. Writing to a key that is
there keeps its place; a key that is removed and written again goes to the end.

* `get?_set`: what a key holds after a write.
* `keys_set`: a write adds its key at the end, or leaves the keys as they are.
* `get?_erase`, `keys_erase`: what is left after a removal.
* `put_cases`, `entries_set_perm`: the pairs after a write.
* `get?_map`: what a key holds after all values were replaced.
* `ofList_entries`: a map is what its own pairs make, written one after the other.
* `mem_entries_iff`: the pairs are the keys with what they hold.
* `entries_split`: the pairs before and after one that is written to or removed.
* `keys_ofList`: the keys are in the order of the first writes to them.
* `get?_ofList_eq_lookup`, `get?_ofList`: a key holds what was written to it last.
-/

namespace SlashLine

/-- Pairs of distinct keys and their values, in order of insertion. -/
structure Slots (κ υ : Type) where
  entries : List (κ × υ)
  nodup : (entries.map Prod.fst).Nodup

namespace Slots

variable {κ υ : Type}

instance [DecidableEq κ] [DecidableEq υ] : DecidableEq (Slots κ υ) := fun a b =>
  decidable_of_iff (a.entries = b.entries)
    ⟨fun h => by cases a; cases b; simpa using h, fun h => h ▸ rfl⟩

/-- No pairs. -/
def empty : Slots κ υ := ⟨[], by simp⟩

instance : EmptyCollection (Slots κ υ) := ⟨empty⟩
instance : Inhabited (Slots κ υ) := ⟨empty⟩

/-- The keys, in order. -/
def keys (s : Slots κ υ) : List κ := s.entries.map Prod.fst

/-- The values, in the order of their keys. -/
def values (s : Slots κ υ) : List υ := s.entries.map Prod.snd

/-- The number of keys. -/
def size (s : Slots κ υ) : Nat := s.entries.length

variable [DecidableEq κ]

/-- The value of the first pair with a key. -/
def find? (k : κ) : List (κ × υ) → Option υ
  | [] => none
  | (k', v) :: rest => if k' = k then some v else find? k rest

/-- Pairs with a value written to a key: in its place if it is there, at the end if not. -/
def put (k : κ) (v : υ) : List (κ × υ) → List (κ × υ)
  | [] => [(k, v)]
  | (k', v') :: rest => if k' = k then (k, v) :: rest else (k', v') :: put k v rest

theorem map_fst_put (k : κ) (v : υ) (l : List (κ × υ)) :
    (put k v l).map Prod.fst =
      if k ∈ l.map Prod.fst then l.map Prod.fst else l.map Prod.fst ++ [k] := by
  induction l with
  | nil => simp [put]
  | cons p rest ih =>
    obtain ⟨k', v'⟩ := p
    by_cases h : k' = k
    · simp [put, h]
    · have h' : ¬ k = k' := fun e => h e.symm
      simp only [put, h, if_false, List.map_cons, ih, List.mem_cons, h', false_or]
      split <;> simp

/-- The value a key holds. -/
def get? (s : Slots κ υ) (k : κ) : Option υ := find? k s.entries

/-- The key is there. -/
def contains (s : Slots κ υ) (k : κ) : Bool := (s.get? k).isSome

/-- Writes a value to a key. -/
def set (s : Slots κ υ) (k : κ) (v : υ) : Slots κ υ where
  entries := put k v s.entries
  nodup := by
    rw [map_fst_put]
    split
    · exact s.nodup
    · next h => exact List.nodup_append.2 ⟨s.nodup, by simp, by
        intro a ha b hb
        rw [List.mem_singleton.1 hb]
        exact fun e => h (e ▸ ha)⟩

/-- Removes a key. -/
def erase (s : Slots κ υ) (k : κ) : Slots κ υ where
  entries := s.entries.filter fun p => p.1 ≠ k
  nodup := s.nodup.sublist (List.filter_sublist.map _)

/-- Pairs written one after the other. -/
def ofList (ps : List (κ × υ)) : Slots κ υ := ps.foldl (fun s p => s.set p.1 p.2) empty

/-- The same keys, with values made from the old ones. -/
def map {υ' : Type} (f : υ → υ') (s : Slots κ υ) : Slots κ υ' where
  entries := s.entries.map fun p => (p.1, f p.2)
  nodup := by simpa [Function.comp_def] using s.nodup

/-! ## Reading after writing -/

theorem find?_put (k k' : κ) (v : υ) (l : List (κ × υ)) :
    find? k' (put k v l) = if k = k' then some v else find? k' l := by
  induction l with
  | nil => simp [put, find?]
  | cons p rest ih => grind [put, find?]

@[simp] theorem get?_empty (k : κ) : (empty : Slots κ υ).get? k = none := rfl

theorem get?_set (s : Slots κ υ) (k k' : κ) (v : υ) :
    (s.set k v).get? k' = if k = k' then some v else s.get? k' :=
  find?_put k k' v s.entries

theorem keys_set (s : Slots κ υ) (k : κ) (v : υ) :
    (s.set k v).keys = if k ∈ s.keys then s.keys else s.keys ++ [k] :=
  map_fst_put k v s.entries

theorem put_append_of_not_mem {k : κ} {l : List (κ × υ)} (h : k ∉ l.map Prod.fst) (v : υ)
    (after : List (κ × υ)) : put k v (l ++ after) = l ++ put k v after := by
  induction l with
  | nil => rfl
  | cons p rest ih =>
    obtain ⟨hne, hrest⟩ : k ≠ p.1 ∧ k ∉ rest.map Prod.fst := by
      simpa only [List.map_cons, List.mem_cons, not_or] using h
    rw [List.cons_append, put, if_neg fun e => hne e.symm, ih hrest, List.cons_append]

theorem put_of_not_mem {k : κ} {l : List (κ × υ)} (h : k ∉ l.map Prod.fst) (v : υ) :
    put k v l = l ++ [(k, v)] := by
  have hput := put_append_of_not_mem h v []
  rwa [List.append_nil] at hput

/-- A write puts a pair at the end, or in the place of the pair that has its key. -/
theorem put_cases (k : κ) (v : υ) (l : List (κ × υ)) :
    (k ∉ l.map Prod.fst ∧ put k v l = l ++ [(k, v)]) ∨
      ∃ before old after, l = before ++ (k, old) :: after ∧
        put k v l = before ++ (k, v) :: after := by
  by_cases hk : k ∈ l.map Prod.fst
  · right
    induction l with
    | nil => cases hk
    | cons p rest ih =>
      obtain ⟨k', old⟩ := p
      by_cases heq : k' = k
      · subst heq
        exact ⟨[], old, rest, rfl, by rw [put, if_pos rfl]; rfl⟩
      · have hrest : k ∈ rest.map Prod.fst :=
          (List.mem_cons.mp hk).resolve_left fun e => heq e.symm
        obtain ⟨before, older, after, hl, hput⟩ := ih hrest
        refine ⟨(k', old) :: before, older, after, by rw [hl]; rfl, ?_⟩
        rw [put, if_neg heq, hput, List.cons_append]
  · exact Or.inl ⟨hk, put_of_not_mem hk v⟩

theorem entries_foldl_set {ps : List (κ × υ)} (s : Slots κ υ)
    (h : ((s.entries ++ ps).map Prod.fst).Nodup) :
    (ps.foldl (fun s p => s.set p.1 p.2) s).entries = s.entries ++ ps := by
  induction ps generalizing s with
  | nil => exact (List.append_nil s.entries).symm
  | cons p ps ih =>
    have hp : p.1 ∉ s.entries.map Prod.fst := by
      rw [List.map_append, List.map_cons] at h
      exact fun hmem => (List.nodup_append.mp h).2.2 p.1 hmem p.1 List.mem_cons_self rfl
    have hset : (s.set p.1 p.2).entries = s.entries ++ [p] := put_of_not_mem hp p.2
    rw [List.append_cons, ← hset] at h
    rw [List.foldl_cons, ih (s.set p.1 p.2) h, hset, List.append_assoc, List.singleton_append]

theorem ofList_entries (s : Slots κ υ) : ofList s.entries = s := by
  have hentries : (ofList s.entries).entries = s.entries :=
    entries_foldl_set empty s.nodup
  cases hs : ofList s.entries
  cases s
  simpa only [hs, mk.injEq] using hentries

theorem find?_filter_ne (k k' : κ) (l : List (κ × υ)) :
    find? k' (l.filter fun p => p.1 ≠ k) = if k = k' then none else find? k' l := by
  induction l with
  | nil => simp [find?]
  | cons p rest ih => grind [find?]

theorem get?_erase (s : Slots κ υ) (k k' : κ) :
    (s.erase k).get? k' = if k = k' then none else s.get? k' :=
  find?_filter_ne k k' s.entries

theorem keys_erase (s : Slots κ υ) (k : κ) : (s.erase k).keys = s.keys.filter (· ≠ k) := by
  simp [keys, erase, List.filter_map, Function.comp_def]

theorem filter_ne_eq_self {k : κ} {l : List (κ × υ)} (h : k ∉ l.map Prod.fst) :
    (l.filter fun p => p.1 ≠ k) = l := by
  apply List.filter_eq_self.mpr
  intro p hp
  exact decide_eq_true fun e => h (e ▸ List.mem_map_of_mem hp)

omit [DecidableEq κ] in
theorem not_mem_of_nodup {k : κ} {v : υ} {before after : List (κ × υ)}
    (h : ((before ++ (k, v) :: after).map Prod.fst).Nodup) :
    k ∉ (before ++ after).map Prod.fst :=
  (List.nodup_cons.mp ((List.perm_middle.map Prod.fst).nodup_iff.mp h)).1

theorem filter_ne_split {k : κ} {v : υ} {before after : List (κ × υ)}
    (h : k ∉ (before ++ after).map Prod.fst) :
    ((before ++ (k, v) :: after).filter fun p => p.1 ≠ k) = before ++ after := by
  rw [List.filter_append, List.filter_cons_of_neg (by simp), ← List.filter_append]
  exact filter_ne_eq_self h

theorem entries_set_perm (s : Slots κ υ) (k : κ) (v : υ) :
    (s.set k v).entries.Perm ((k, v) :: s.entries.filter fun p => p.1 ≠ k) := by
  have hset : (s.set k v).entries = put k v s.entries := rfl
  rw [hset]
  rcases put_cases k v s.entries with ⟨hk, hput⟩ | ⟨before, old, after, hentries, hput⟩
  · rw [hput, filter_ne_eq_self hk]
    exact List.perm_append_singleton _ _
  · have hnodup := s.nodup
    rw [hentries] at hnodup
    rw [hput, hentries, filter_ne_split (not_mem_of_nodup hnodup)]
    exact List.perm_middle

theorem find?_map {υ' : Type} (f : υ → υ') (k : κ) (l : List (κ × υ)) :
    find? k (l.map fun p => (p.1, f p.2)) = (find? k l).map f := by
  induction l with
  | nil => rfl
  | cons p rest ih =>
    simp only [List.map_cons, find?, ih]
    split <;> rfl

omit [DecidableEq κ] in
theorem keys_map {υ' : Type} (f : υ → υ') (s : Slots κ υ) : (s.map f).keys = s.keys := by
  simp [keys, map, Function.comp_def]

theorem get?_map {υ' : Type} (f : υ → υ') (s : Slots κ υ) (k : κ) :
    (s.map f).get? k = (s.get? k).map f :=
  find?_map f k s.entries

omit [DecidableEq κ] in
theorem map_map {υ' υ'' : Type} (f : υ → υ') (g : υ' → υ'') (s : Slots κ υ) :
    (s.map f).map g = s.map (g ∘ f) := by
  simp only [map, Slots.mk.injEq, List.map_map]
  rfl

theorem find?_isSome_iff (k : κ) (l : List (κ × υ)) :
    (find? k l).isSome ↔ k ∈ l.map Prod.fst := by
  induction l with
  | nil => simp [find?]
  | cons p rest ih =>
    obtain ⟨a, b⟩ := p
    by_cases h : a = k
    · simp [find?, h]
    · have h' : ¬ k = a := fun e => h e.symm
      simp [find?, h, h', ih]

theorem contains_iff (s : Slots κ υ) (k : κ) : s.contains k ↔ k ∈ s.keys :=
  find?_isSome_iff k s.entries

theorem get?_eq_none_iff {s : Slots κ υ} {k : κ} : s.get? k = none ↔ k ∉ s.keys := by
  rw [← Option.not_isSome_iff_eq_none]
  exact not_congr (s.contains_iff k)

theorem get?_of_not_mem {s : Slots κ υ} {k : κ} (h : k ∉ s.keys) : s.get? k = none :=
  get?_eq_none_iff.mpr h

/-- A key that is among the pairs after the first so many is not among those. -/
theorem find?_drop {l : List (κ × υ)} (hnodup : (l.map Prod.fst).Nodup) {n : Nat} {k : κ}
    (h : k ∈ (l.drop n).map Prod.fst) : find? k (l.drop n) = find? k l := by
  induction l generalizing n with
  | nil => rw [List.drop_nil]
  | cons p rest ih =>
    obtain ⟨hp, hrest⟩ := List.nodup_cons.mp hnodup
    cases n with
    | zero => rw [List.drop_zero]
    | succ n =>
      rw [List.drop_succ_cons] at h ⊢
      have hk : k ∈ rest.map Prod.fst := by
        rw [List.map_drop] at h
        exact List.mem_of_mem_drop h
      have hne : p.1 ≠ k := fun e => hp (e ▸ hk)
      rw [ih hrest h, find?, if_neg hne]

theorem mem_of_find? {k : κ} {v : υ} {l : List (κ × υ)} (h : find? k l = some v) : (k, v) ∈ l := by
  induction l with
  | nil => cases h
  | cons p rest ih =>
    rw [find?] at h
    split at h
    · next hk =>
      cases h
      rw [← hk]
      exact List.mem_cons_self
    · exact List.mem_cons_of_mem p (ih h)

theorem find?_of_mem {k : κ} {v : υ} {l : List (κ × υ)} (hnodup : (l.map Prod.fst).Nodup)
    (h : (k, v) ∈ l) : find? k l = some v := by
  induction l with
  | nil => cases h
  | cons p rest ih =>
    obtain ⟨hp, hrest⟩ := List.nodup_cons.mp hnodup
    rcases List.mem_cons.mp h with rfl | hlater
    · exact if_pos rfl
    · have hk : k ∈ rest.map Prod.fst := List.mem_map_of_mem hlater
      have hne : p.1 ≠ k := fun e => hp (e ▸ hk)
      rw [find?, if_neg hne, ih hrest hlater]

theorem mem_entries_iff (s : Slots κ υ) (k : κ) (v : υ) :
    (k, v) ∈ s.entries ↔ s.get? k = some v :=
  ⟨find?_of_mem s.nodup, mem_of_find?⟩

/-- Around a key that is there, writing and removing leave the pairs as they are. -/
theorem entries_split {s : Slots κ υ} {k : κ} {old : υ} (h : s.get? k = some old) :
    ∃ before after, s.entries = before ++ (k, old) :: after ∧
      (∀ v, (s.set k v).entries = before ++ (k, v) :: after) ∧
      (s.erase k).entries = before ++ after := by
  obtain ⟨before, after, hentries⟩ := List.append_of_mem (mem_of_find? h)
  have hnodup := s.nodup
  rw [hentries] at hnodup
  have hk := not_mem_of_nodup hnodup
  refine ⟨before, after, hentries, fun v => ?_, ?_⟩
  · have hbefore : k ∉ before.map Prod.fst := by
      rw [List.map_append, List.mem_append, not_or] at hk
      exact hk.1
    show put k v s.entries = before ++ (k, v) :: after
    rw [hentries, put_append_of_not_mem hbefore, put, if_pos rfl]
  · show s.entries.filter (fun p => p.1 ≠ k) = before ++ after
    rw [hentries, filter_ne_split hk]

theorem keys_foldl_set (s : Slots κ υ) (ps : List (κ × υ)) :
    (ps.foldl (fun s p => s.set p.1 p.2) s).keys =
      s.keys ++ ((ps.map Prod.fst).removeAll s.keys).eraseDups := by
  induction ps generalizing s with
  | nil => simp
  | cons p ps ih =>
    rw [List.foldl_cons, ih, keys_set, List.map_cons, List.cons_removeAll]
    by_cases hp : p.1 ∈ s.keys
    · simp [hp]
    · have hlater : (ps.map Prod.fst).removeAll (s.keys ++ [p.1]) =
          ((ps.map Prod.fst).removeAll s.keys).filter fun k => !k == p.1 := by
        rw [List.removeAll, List.removeAll, List.filter_filter]
        refine List.filter_congr fun k _ => ?_
        by_cases hk : k = p.1 <;> simp [hk]
      simp [hp, hlater, List.eraseDups_cons]

/-- The keys, in the order in which they were first written. -/
theorem keys_ofList (ps : List (κ × υ)) : (ofList ps).keys = (ps.map Prod.fst).eraseDups := by
  have hkeys := keys_foldl_set empty ps
  have hempty : (empty : Slots κ υ).keys = [] := rfl
  rwa [hempty, List.nil_append, List.removeAll_nil] at hkeys

theorem get?_foldl_set (s : Slots κ υ) (ps : List (κ × υ)) (k : κ) :
    (ps.foldl (fun s p => s.set p.1 p.2) s).get? k = (ps.reverse.lookup k).or (s.get? k) := by
  induction ps generalizing s with
  | nil => simp
  | cons p ps ih =>
    obtain ⟨k', v⟩ := p
    rw [List.foldl_cons, ih, List.reverse_cons, List.lookup_append, Option.or_assoc, get?_set]
    by_cases hk : k' = k
    · simp [hk]
    · have hk' : (k == k') = false := beq_false_of_ne fun e => hk e.symm
      simp [List.lookup_cons, hk, hk']

/-- A key holds what was written to it last. -/
theorem get?_ofList_eq_lookup (ps : List (κ × υ)) (k : κ) :
    (ofList ps).get? k = ps.reverse.lookup k := by
  rw [ofList, get?_foldl_set, get?_empty, Option.or_none]

/-- A key holds one of the values that were written to it, if there are any. -/
theorem get?_ofList (ps : List (κ × υ)) (k : κ) :
    (k ∉ ps.map Prod.fst ∧ (ofList ps).get? k = none) ∨
      ∃ v, (k, v) ∈ ps ∧ (ofList ps).get? k = some v := by
  rw [get?_ofList_eq_lookup]
  cases h : ps.reverse.lookup k with
  | none =>
    refine Or.inl ⟨fun hk => ?_, rfl⟩
    obtain ⟨p, hp, rfl⟩ := List.mem_map.mp hk
    have hne := List.lookup_eq_none_iff.mp h p (List.mem_reverse.mpr hp)
    simp at hne
  | some v =>
    obtain ⟨later, earlier, hps, -⟩ := List.lookup_eq_some_iff.mp h
    refine Or.inr ⟨v, List.mem_reverse.mp ?_, rfl⟩
    rw [hps]
    exact List.mem_append_right later List.mem_cons_self

theorem mem_of_mem_ofList {ps : List (κ × υ)} {k : κ} {v : υ} (h : (k, v) ∈ (ofList ps).entries) :
    (k, v) ∈ ps := by
  have hget := (mem_entries_iff _ k v).mp h
  rcases get?_ofList ps k with ⟨-, hnone⟩ | ⟨v', hmem, hsome⟩
  · rw [hnone] at hget
    cases hget
  · rw [hsome] at hget
    cases hget
    exact hmem

end Slots

end SlashLine
