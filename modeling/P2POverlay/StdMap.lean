/-
**Ordered maps and sets** (`std::map`, `std::set`).

Every table of the program is a `std::map` or a `std::set`, and several algorithms depend on
the order in which a range-`for` visits one: the ring repair joins the registered nodes in key
order, the peer suggestions are the first registered IDs, reassembly reads `begin()`.  A map is
therefore modelled by its entries in strictly increasing key order; the order is a field of the
structure, so a map with two entries for one key cannot be built.

Main definitions:

* `P2POverlay.StdMap` — the entries and the proof that their keys increase;
* `P2POverlay.StdMap.find?`, `insert`, `erase`, `map`, `filter`, `alter` — `find`,
  `operator[]` assignment, `erase`, an in-place update of every value, erasure while
  iterating, and `operator[]` followed by an update of the value;
* `P2POverlay.StdSet` — a set is a map to `Unit`.

Main results:

* `P2POverlay.StdMap.find?_insert`, `find?_erase`, `find?_map`, `find?_filter`,
  `find?_alter` — each operation read back through `find?`;
* `P2POverlay.StdMap.keys_nodup`, `size_insert` — a key occurs once, and `size` counts keys.
-/

import P2POverlay.Common

set_option relaxedAutoImplicit false
set_option autoImplicit false

namespace P2POverlay

/-! ### Sorted entry lists -/

namespace Entries

variable {κ ν : Type} [LinearOrder κ]

/-- The value of the first entry with key `k`. -/
def find? (k : κ) : List (κ × ν) → Option ν
  | [] => none
  | e :: es => if k = e.1 then some e.2 else find? k es

/-- Insertion at the place of `k` in key order, replacing an entry with key `k`. -/
def insert (k : κ) (v : ν) : List (κ × ν) → List (κ × ν)
  | [] => [(k, v)]
  | e :: es =>
      if k < e.1 then (k, v) :: e :: es
      else if k = e.1 then (k, v) :: es
      else e :: insert k v es

/-- Keys increase strictly along the list. -/
def Sorted (es : List (κ × ν)) : Prop := es.Pairwise (fun a b => a.1 < b.1)

theorem find?_insert (k k' : κ) (v : ν) (es : List (κ × ν)) :
    find? k' (insert k v es) = if k' = k then some v else find? k' es := by
  induction es with
  | nil => by_cases h : k' = k <;> simp [insert, find?, h]
  | cons e es ih =>
      by_cases h₁ : k < e.1
      · by_cases h : k' = k <;> simp [insert, find?, h₁, h]
      · by_cases h₂ : k = e.1
        · subst h₂; by_cases h : k' = e.1 <;> simp [insert, find?, h]
        · by_cases h : k' = e.1
          · subst h; simp [insert, find?, h₁, h₂, Ne.symm h₂]
          · simp [insert, find?, h₁, h₂, h, ih]

theorem mem_insert {k : κ} {v : ν} {e : κ × ν} {es : List (κ × ν)}
    (h : e ∈ insert k v es) : e = (k, v) ∨ e ∈ es := by
  induction es with
  | nil => simpa [insert] using h
  | cons e' es ih =>
      simp only [insert] at h
      split_ifs at h
      · simpa using h
      · rcases List.mem_cons.1 h with rfl | h
        · exact .inl rfl
        · exact .inr (List.mem_cons_of_mem _ h)
      · rcases List.mem_cons.1 h with rfl | h
        · exact .inr (List.mem_cons_self _ _)
        · exact (ih h).imp_right (List.mem_cons_of_mem _)

theorem Sorted.insert {es : List (κ × ν)} (h : Sorted es) (k : κ) (v : ν) :
    Sorted (insert k v es) := by
  induction es with
  | nil => simp [Sorted, Entries.insert]
  | cons e es ih =>
      rw [Sorted, List.pairwise_cons] at h
      simp only [Sorted, Entries.insert]
      split_ifs with h₁ h₂
      · refine List.Pairwise.cons (fun a ha => ?_) (List.Pairwise.cons h.1 h.2)
        rcases List.mem_cons.1 ha with rfl | ha
        · exact h₁
        · exact h₁.trans (h.1 a ha)
      · subst h₂; exact List.Pairwise.cons h.1 h.2
      · refine List.Pairwise.cons (fun a ha => ?_) (ih h.2)
        rcases mem_insert ha with rfl | ha
        · exact lt_of_le_of_ne (not_lt.1 h₁) (Ne.symm h₂)
        · exact h.1 a ha

theorem find?_eq_none_of_forall_ne {k : κ} {es : List (κ × ν)}
    (h : ∀ e ∈ es, e.1 ≠ k) : find? k es = none := by
  induction es with
  | nil => rfl
  | cons e es ih =>
      simp only [find?, if_neg (Ne.symm (h e (List.mem_cons_self _ _)))]
      exact ih fun e' he' => h e' (List.mem_cons_of_mem _ he')

theorem find?_isSome_iff {k : κ} {es : List (κ × ν)} :
    (find? k es).isSome ↔ k ∈ es.map Prod.fst := by
  induction es with
  | nil => exact iff_of_false Bool.false_ne_true (List.not_mem_nil _)
  | cons e es ih =>
      rw [List.map_cons, List.mem_cons, find?]
      by_cases h : k = e.1
      · exact iff_of_true (by rw [if_pos h]; rfl) (.inl h)
      · rw [if_neg h, ih, or_iff_right h]

theorem mem_of_find? {k : κ} {v : ν} {es : List (κ × ν)} (h : find? k es = some v) : (k, v) ∈ es := by
  induction es with
  | nil => cases h
  | cons e es ih =>
      by_cases hk : k = e.1
      · simp only [find?, hk, if_true, Option.some.injEq] at h; subst h; simp [hk]
      · simp only [find?, hk, if_false] at h; exact List.mem_cons_of_mem _ (ih h)

theorem find?_filter {es : List (κ × ν)} (h : Sorted es) (p : κ → ν → Bool) (k : κ) :
    find? k (es.filter fun e => p e.1 e.2) = (find? k es).filter (p k) := by
  induction es with
  | nil => rfl
  | cons e es ih =>
      rw [Sorted, List.pairwise_cons] at h
      by_cases hk : k = e.1
      · subst hk
        have hnone : find? e.1 (es.filter fun e => p e.1 e.2) = none :=
          find?_eq_none_of_forall_ne fun e' he' =>
            ne_of_gt (h.1 e' (List.mem_filter.1 he').1)
        by_cases hp : p e.1 e.2 = true <;> simp [List.filter_cons, find?, Option.filter, hp, hnone]
      · by_cases hp : p e.1 e.2 = true <;> simp [List.filter_cons, find?, hp, hk, ih h.2]

theorem length_insert {es : List (κ × ν)} (h : Sorted es) (k : κ) (v : ν) :
    (insert k v es).length = if k ∈ es.map Prod.fst then es.length else es.length + 1 := by
  induction es with
  | nil => simp [insert]
  | cons e es ih =>
      rw [Sorted, List.pairwise_cons] at h
      by_cases h₁ : k < e.1
      · have hk : k ∉ es.map Prod.fst := fun hk => by
          obtain ⟨e', he', rfl⟩ := List.mem_map.1 hk
          exact lt_asymm h₁ (h.1 e' he')
        rw [insert, if_pos h₁, List.map_cons, if_neg (by simp [ne_of_lt h₁, hk])]
        rfl
      · by_cases h₂ : k = e.1
        · rw [insert, if_neg h₁, if_pos h₂, List.map_cons, if_pos (List.mem_cons.2 (.inl h₂))]
          rfl
        · rw [insert, if_neg h₁, if_neg h₂, List.length_cons, ih h.2, List.map_cons]
          by_cases hk : k ∈ es.map Prod.fst <;> simp [hk, h₂]

theorem Sorted.map {μ : Type} {es : List (κ × ν)} (h : Sorted es) (f : κ → ν → μ) :
    Sorted (es.map fun e => (e.1, f e.1 e.2)) :=
  List.pairwise_map.2 h

/-- Below the first key of a sorted list, nothing is found. -/
theorem find?_of_lt_head {k : κ} {e : κ × ν} {es : List (κ × ν)} (h : Sorted (e :: es))
    (hk : k < e.1) : find? k (e :: es) = none :=
  find?_eq_none_of_forall_ne fun e' he' => by
    rcases List.mem_cons.1 he' with rfl | he'
    · exact ne_of_gt hk
    · exact ne_of_gt (hk.trans ((List.pairwise_cons.1 h).1 e' he'))

/-- **Sorted lists with the same lookups are equal.** -/
theorem Sorted.eq_of_find? : ∀ {es es' : List (κ × ν)}, Sorted es → Sorted es' →
    (∀ k, find? k es = find? k es') → es = es'
  | [], [], _, _, _ => rfl
  | [], e' :: _, _, _, h => by simpa [find?] using (h e'.1).symm
  | e :: _, [], _, _, h => by simpa [find?] using h e.1
  | e :: es, e' :: es', hs, hs', h => by
      have hkey : e.1 = e'.1 := by
        rcases lt_trichotomy e.1 e'.1 with hlt | heq | hgt
        · have h₁ := h e.1
          rw [find?_of_lt_head hs' hlt] at h₁
          simp [find?] at h₁
        · exact heq
        · have h₁ := h e'.1
          rw [find?_of_lt_head hs hgt] at h₁
          simp [find?] at h₁
      have hval : e.2 = e'.2 := by simpa [find?, hkey] using h e'.1
      have htail : ∀ k, find? k es = find? k es' := fun k => by
        by_cases hk : k = e.1
        · rw [find?_eq_none_of_forall_ne fun x hx => ne_of_gt (hk ▸ (List.pairwise_cons.1 hs).1 x hx),
            find?_eq_none_of_forall_ne fun x hx => ne_of_gt (hk ▸ hkey ▸ (List.pairwise_cons.1 hs').1 x hx)]
        · simpa [find?, hk, hkey ▸ hk] using h k
      rw [Prod.ext hkey hval, Sorted.eq_of_find? (List.pairwise_cons.1 hs).2 (List.pairwise_cons.1 hs').2 htail]

end Entries

/-! ### Maps -/

/-- `std::map κ ν`: its entries, visited by a range-`for` in increasing key order. -/
structure StdMap (κ ν : Type) [LinearOrder κ] where
  entries : List (κ × ν)
  sorted : Entries.Sorted entries

namespace StdMap

variable {κ ν μ : Type} [LinearOrder κ]

/-- The empty map. -/
def empty : StdMap κ ν := ⟨[], List.Pairwise.nil⟩

/-- `find`: the value stored under `k`, if any. -/
def find? (m : StdMap κ ν) (k : κ) : Option ν := Entries.find? k m.entries

/-- `find(k) != end()`. -/
def contains (m : StdMap κ ν) (k : κ) : Bool := (m.find? k).isSome

/-- The keys in iteration order. -/
def keys (m : StdMap κ ν) : List κ := m.entries.map Prod.fst

/-- `size()`. -/
def size (m : StdMap κ ν) : Nat := m.entries.length

/-- `m[k] = v`. -/
def insert (m : StdMap κ ν) (k : κ) (v : ν) : StdMap κ ν :=
  ⟨Entries.insert k v m.entries, m.sorted.insert k v⟩

/-- `erase(k)`. -/
def erase (m : StdMap κ ν) (k : κ) : StdMap κ ν :=
  ⟨m.entries.filter (fun e => e.1 ≠ k), m.sorted.filter _⟩

/-- A loop over all entries that updates each value in place. -/
def map (m : StdMap κ ν) (f : κ → ν → μ) : StdMap κ μ :=
  ⟨m.entries.map (fun e => (e.1, f e.1 e.2)), m.sorted.map f⟩

/-- A loop over all entries that erases those failing `p`. -/
def filter (m : StdMap κ ν) (p : κ → ν → Bool) : StdMap κ ν :=
  ⟨m.entries.filter (fun e => p e.1 e.2), m.sorted.filter _⟩

/-- The value under `k`, or `d` when there is none. -/
def findD (m : StdMap κ ν) (k : κ) (d : ν) : ν := (m.find? k).getD d

/-- `m[k]` followed by an update of the value: the entry is created with `d` if absent. -/
def alter (m : StdMap κ ν) (k : κ) (d : ν) (f : ν → ν) : StdMap κ ν :=
  m.insert k (f (m.findD k d))

/-- `auto it = find(k); if (it != end()) it->second = f(it->second);`: updates the value under
`k` in place, if there is one. -/
def modify (m : StdMap κ ν) (k : κ) (f : ν → ν) : StdMap κ ν :=
  match m.find? k with
  | some v => m.insert k (f v)
  | none => m

/-- `k` is a key of `m`. -/
instance instMembership : Membership κ (StdMap κ ν) := ⟨fun m k => m.contains k = true⟩

instance instDecidableMem (k : κ) (m : StdMap κ ν) : Decidable (k ∈ m) :=
  inferInstanceAs (Decidable (m.contains k = true))

theorem mem_iff_find? {m : StdMap κ ν} {k : κ} : k ∈ m ↔ (m.find? k).isSome := Iff.rfl

theorem mem_iff_mem_keys {m : StdMap κ ν} {k : κ} : k ∈ m ↔ k ∈ m.keys :=
  Entries.find?_isSome_iff

theorem not_mem_iff_find? {m : StdMap κ ν} {k : κ} : k ∉ m ↔ m.find? k = none := by
  simp [mem_iff_find?]

theorem mem_of_find? {m : StdMap κ ν} {k : κ} {v : ν} (h : m.find? k = some v) : k ∈ m := by
  simp [mem_iff_find?, h]

@[simp] theorem find?_empty (k : κ) : (empty : StdMap κ ν).find? k = none := rfl

@[simp] theorem not_mem_empty (k : κ) : k ∉ (empty : StdMap κ ν) := by
  simp [not_mem_iff_find?]

@[simp] theorem find?_insert (m : StdMap κ ν) (k k' : κ) (v : ν) :
    (m.insert k v).find? k' = if k' = k then some v else m.find? k' :=
  Entries.find?_insert k k' v m.entries

@[simp] theorem find?_erase (m : StdMap κ ν) (k k' : κ) :
    (m.erase k).find? k' = if k' = k then none else m.find? k' := by
  simp only [find?, erase]
  induction m.entries with
  | nil => simp [Entries.find?]
  | cons e es ih =>
      by_cases he : e.1 = k
      · by_cases h : k' = k <;> simp_all [Entries.find?, eq_comm]
      · by_cases h : k' = e.1 <;> simp_all [Entries.find?]

@[simp] theorem find?_map (m : StdMap κ ν) (f : κ → ν → μ) (k : κ) :
    (m.map f).find? k = (m.find? k).map (f k) := by
  simp only [find?, map]
  induction m.entries with
  | nil => rfl
  | cons e es ih => by_cases h : k = e.1 <;> simp_all [Entries.find?]

@[simp] theorem find?_filter (m : StdMap κ ν) (p : κ → ν → Bool) (k : κ) :
    (m.filter p).find? k = (m.find? k).filter (p k) :=
  Entries.find?_filter m.sorted p k

@[simp] theorem find?_alter (m : StdMap κ ν) (k k' : κ) (d : ν) (f : ν → ν) :
    (m.alter k d f).find? k' = if k' = k then some (f (m.findD k d)) else m.find? k' :=
  find?_insert _ _ _ _

@[simp] theorem find?_modify (m : StdMap κ ν) (k k' : κ) (f : ν → ν) :
    (m.modify k f).find? k' = if k' = k then (m.find? k).map f else m.find? k' := by
  unfold modify
  cases h : m.find? k <;> by_cases hk : k' = k <;> simp_all

@[simp] theorem modify_empty (k : κ) (f : ν → ν) : (empty : StdMap κ ν).modify k f = empty := rfl

@[simp] theorem mem_insert {m : StdMap κ ν} {k k' : κ} {v : ν} :
    k' ∈ m.insert k v ↔ k' = k ∨ k' ∈ m := by
  by_cases h : k' = k <;> simp [mem_iff_find?, h]

@[simp] theorem mem_erase {m : StdMap κ ν} {k k' : κ} : k' ∈ m.erase k ↔ k' ≠ k ∧ k' ∈ m := by
  by_cases h : k' = k <;> simp [mem_iff_find?, h]

@[simp] theorem mem_map {m : StdMap κ ν} {f : κ → ν → μ} {k : κ} : k ∈ m.map f ↔ k ∈ m := by
  simp [mem_iff_find?]

@[simp] theorem mem_alter {m : StdMap κ ν} {k k' : κ} {d : ν} {f : ν → ν} :
    k' ∈ m.alter k d f ↔ k' = k ∨ k' ∈ m := mem_insert

@[simp] theorem mem_modify {m : StdMap κ ν} {k k' : κ} {f : ν → ν} : k' ∈ m.modify k f ↔ k' ∈ m := by
  by_cases h : k' = k <;> simp [mem_iff_find?, h]

/-- A value found under `k` is an entry. -/
theorem mem_entries_of_find? {m : StdMap κ ν} {k : κ} {v : ν} (h : m.find? k = some v) :
    (k, v) ∈ m.entries :=
  Entries.mem_of_find? h

theorem mem_of_mem_entries {m : StdMap κ ν} {e : κ × ν} (h : e ∈ m.entries) : e.1 ∈ m :=
  mem_iff_mem_keys.2 (List.mem_map_of_mem Prod.fst h)

/-- Filtering with a predicate that holds on every key changes nothing. -/
theorem filter_eq_self {m : StdMap κ ν} {p : κ → ν → Bool} (h : ∀ k ∈ m, ∀ v, p k v = true) :
    m.filter p = m := by
  cases m with
  | mk es hs =>
      simp only [filter, mk.injEq]
      exact List.filter_eq_self.2 fun e he => h e.1 (mem_of_mem_entries (m := ⟨es, hs⟩) he) e.2

/-- A key occurs once among the entries. -/
theorem keys_nodup (m : StdMap κ ν) : m.keys.Nodup :=
  (List.pairwise_map.2 m.sorted).imp ne_of_lt

theorem size_insert (m : StdMap κ ν) (k : κ) (v : ν) :
    (m.insert k v).size = if k ∈ m then m.size else m.size + 1 := by
  simp only [size, insert, mem_iff_mem_keys, keys]
  exact Entries.length_insert m.sorted k v

/-- **Maps with the same lookups are equal**: a map is determined by `find?`. -/
theorem ext_find? {m m' : StdMap κ ν} (h : ∀ k, m.find? k = m'.find? k) : m = m' := by
  obtain ⟨es, hs⟩ := m
  obtain ⟨es', hs'⟩ := m'
  obtain rfl := Entries.Sorted.eq_of_find? hs hs' h
  rfl

theorem erase_of_not_mem {m : StdMap κ ν} {k : κ} (h : k ∉ m) : m.erase k = m :=
  ext_find? fun k' => by
    by_cases hk : k' = k
    · rw [find?_erase, if_pos hk, hk, not_mem_iff_find?.1 h]
    · rw [find?_erase, if_neg hk]

/-- Erasing a key just inserted where there was none gives the map back. -/
theorem erase_insert_of_not_mem {m : StdMap κ ν} {k : κ} (h : k ∉ m) (v : ν) :
    (m.insert k v).erase k = m :=
  ext_find? fun k' => by
    by_cases hk : k' = k
    · rw [find?_erase, if_pos hk, hk, not_mem_iff_find?.1 h]
    · rw [find?_erase, if_neg hk, find?_insert, if_neg hk]

/-- Updating every value by a function that fixes it changes nothing. -/
theorem map_eq_self {m : StdMap κ ν} {f : κ → ν → ν} (h : ∀ k v, m.find? k = some v → f k v = v) :
    m.map f = m :=
  ext_find? fun k => by
    rw [find?_map]
    cases hk : m.find? k with
    | none => rfl
    | some v => exact congrArg some (h k v hk)

end StdMap

/-- `std::set κ`: a map to `Unit`. -/
def StdSet (κ : Type) [LinearOrder κ] := StdMap κ Unit

namespace StdSet

variable {κ : Type} [LinearOrder κ]

/-- The empty set. -/
def empty : StdSet κ := StdMap.empty

/-- `insert(k)`. -/
def insert (s : StdSet κ) (k : κ) : StdSet κ := StdMap.insert s k ()

/-- `erase(k)`. -/
def erase (s : StdSet κ) (k : κ) : StdSet κ := StdMap.erase s k

/-- The elements in iteration order. -/
def elems (s : StdSet κ) : List κ := StdMap.keys s

/-- `size()`. -/
def size (s : StdSet κ) : Nat := StdMap.size s

instance instMembership : Membership κ (StdSet κ) := ⟨fun s k => StdMap.contains s k = true⟩

instance instDecidableMem (k : κ) (s : StdSet κ) : Decidable (k ∈ s) :=
  inferInstanceAs (Decidable (StdMap.contains s k = true))

@[simp] theorem not_mem_empty (k : κ) : k ∉ (empty : StdSet κ) := StdMap.not_mem_empty k

@[simp] theorem mem_insert {s : StdSet κ} {k k' : κ} : k' ∈ s.insert k ↔ k' = k ∨ k' ∈ s :=
  StdMap.mem_insert

@[simp] theorem mem_erase {s : StdSet κ} {k k' : κ} : k' ∈ s.erase k ↔ k' ≠ k ∧ k' ∈ s :=
  StdMap.mem_erase

theorem mem_elems {s : StdSet κ} {k : κ} : k ∈ s.elems ↔ k ∈ s :=
  StdMap.mem_iff_mem_keys.symm

theorem size_insert (s : StdSet κ) (k : κ) :
    (s.insert k).size = if k ∈ s then s.size else s.size + 1 :=
  StdMap.size_insert s k ()

theorem erase_of_not_mem {s : StdSet κ} {k : κ} (h : k ∉ s) : s.erase k = s :=
  StdMap.erase_of_not_mem h

end StdSet

end P2POverlay
