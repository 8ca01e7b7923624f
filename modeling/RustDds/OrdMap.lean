import Mathlib.Data.List.Sort

/-!
# Ordered maps

The Reader keeps its writer proxies, its fragment assemblers, the assembly buffers of one
writer and the changes of a topic in Rust `BTreeMap`s. Two properties of a `BTreeMap`
matter to the Reader: iteration visits the keys in increasing order (the order in which
`send_preemptive_acknacks` sends and the deadline check counts), and the map is determined
by what it stores, so that taking an entry out and putting the same entry back gives the
map one started with (`with_mutable_writer_proxy`).

`OrdMap κ ν` is an association list whose keys strictly increase, the invariant carried as a
field. Every operation is defined on the underlying list and keeps the invariant; lookups
are described by one `simp` lemma per operation, and `OrdMap.ext` says that two maps with the
same lookups are equal.

A `BTreeMap` that has never held an entry has no root node, and `BTreeMap::range` checks its
bounds only on a map with one. The root is not part of `OrdMap`: `OrdMap.range` takes it as an
argument, and the one map the source ranges over, a topic's changes, carries it beside its
entries (`DDSHistoryCache.hasRoot`).
-/

namespace RustDds

/-- **An ordered map**, the model of a `BTreeMap`: an association list whose keys strictly
increase, so that each key occurs once and iteration is in key order. -/
structure OrdMap (κ ν : Type) [LinearOrder κ] where
  toList : List (κ × ν)
  sorted : toList.Pairwise (fun a b => a.1 < b.1)

namespace OrdMap

variable {κ ν ν' : Type} [LinearOrder κ]

/-! ### The underlying lists -/

/-- The value stored under `k` in an association list. -/
def lookup (k : κ) : List (κ × ν) → Option ν
  | [] => none
  | (k', v) :: t => if k' = k then some v else lookup k t

/-- Insert `(k, v)` at its place in key order, replacing the value of an equal key. -/
def insertList (k : κ) (v : ν) : List (κ × ν) → List (κ × ν)
  | [] => [(k, v)]
  | (k', v') :: t =>
    if k < k' then (k, v) :: (k', v') :: t
    else if k = k' then (k, v) :: t
    else (k', v') :: insertList k v t

/-- Drop the entry of key `k`. -/
def eraseList (k : κ) (l : List (κ × ν)) : List (κ × ν) :=
  l.filter fun p => p.1 ≠ k

theorem mem_insertList {k : κ} {v : ν} {x : κ × ν} :
    ∀ {l : List (κ × ν)}, x ∈ insertList k v l → x = (k, v) ∨ x ∈ l
  | [], h => by simpa [insertList] using h
  | (k', v') :: t, h => by
    unfold insertList at h
    split_ifs at h with h₁ h₂
    · simpa using h
    · simp only [List.mem_cons] at h ⊢; tauto
    · simp only [List.mem_cons] at h ⊢
      rcases h with h | h
      · exact .inr (.inl h)
      · rcases mem_insertList h with h | h <;> simp [h]

theorem insertList_sorted {k : κ} {v : ν} :
    ∀ {l : List (κ × ν)}, l.Pairwise (fun a b => a.1 < b.1) →
      (insertList k v l).Pairwise (fun a b => a.1 < b.1)
  | [], _ => by simp [insertList]
  | (k', v') :: t, h => by
    rw [List.pairwise_cons] at h
    unfold insertList
    split_ifs with h₁ h₂
    · refine List.Pairwise.cons (fun y hy => ?_) (List.Pairwise.cons h.1 h.2)
      rcases List.mem_cons.mp hy with rfl | hy
      · exact h₁
      · exact h₁.trans (h.1 y hy)
    · subst h₂; exact List.Pairwise.cons h.1 h.2
    · refine List.Pairwise.cons (fun y hy => ?_) (insertList_sorted h.2)
      rcases mem_insertList hy with rfl | hy
      · exact lt_of_le_of_ne (not_lt.mp h₁) (Ne.symm h₂)
      · exact h.1 y hy

@[simp] theorem eraseList_cons (k k' : κ) (v' : ν) (t : List (κ × ν)) :
    eraseList k ((k', v') :: t) = if k' = k then eraseList k t else (k', v') :: eraseList k t := by
  by_cases h : k' = k <;> simp [eraseList, List.filter_cons, h]

@[simp] theorem lookup_insertList (k k' : κ) (v : ν) :
    ∀ l : List (κ × ν), lookup k' (insertList k v l) = if k = k' then some v else lookup k' l
  | [] => by simp [insertList, lookup]
  | (k'', v'') :: t => by
    unfold insertList
    by_cases h₁ : k < k''
    · simp [h₁, lookup]
    · by_cases h₂ : k = k''
      · subst h₂; by_cases h : k = k' <;> simp [lookup, h]
      · simp only [h₁, h₂, if_false, lookup, lookup_insertList k k' v t]
        by_cases h₃ : k'' = k' <;> by_cases h₄ : k = k' <;> simp_all

@[simp] theorem lookup_eraseList (k k' : κ) :
    ∀ l : List (κ × ν), lookup k' (eraseList k l) = if k = k' then none else lookup k' l
  | [] => by simp [eraseList, lookup]
  | (k'', v'') :: t => by
    rw [eraseList_cons]
    by_cases h : k'' = k
    · subst h
      by_cases h' : k'' = k'
      · subst h'; simp [lookup, lookup_eraseList k'' k'' t]
      · simp [lookup, h', lookup_eraseList k'' k' t]
    · by_cases h' : k'' = k'
      · subst h'; simp [lookup, h, Ne.symm h]
      · simp [lookup, h, h', lookup_eraseList k k' t]

theorem lookup_eq_none_of_lt {k : κ} :
    ∀ {l : List (κ × ν)}, (∀ y ∈ l, k < y.1) → lookup k l = none
  | [], _ => rfl
  | (k', v') :: t, h => by
    have hk : k' ≠ k := (h (k', v') (List.mem_cons_self _ _)).ne'
    simp only [lookup, hk, if_false]
    exact lookup_eq_none_of_lt fun y hy => h y (List.mem_cons_of_mem _ hy)

/-- Two key-sorted association lists with the same lookups are equal. -/
theorem eq_of_lookup :
    ∀ {l₁ l₂ : List (κ × ν)}, l₁.Pairwise (fun a b => a.1 < b.1) →
      l₂.Pairwise (fun a b => a.1 < b.1) → (∀ k, lookup k l₁ = lookup k l₂) → l₁ = l₂
  | [], [], _, _, _ => rfl
  | [], (k, v) :: _, _, _, h => by simpa [lookup] using h k
  | (k, v) :: _, [], _, _, h => by simpa [lookup] using h k
  | (k₁, v₁) :: t₁, (k₂, v₂) :: t₂, h₁, h₂, h => by
    rw [List.pairwise_cons] at h₁ h₂
    rcases lt_trichotomy k₁ k₂ with hlt | rfl | hgt
    · have := h k₁
      simp only [lookup, if_pos rfl, hlt.ne', if_false,
        lookup_eq_none_of_lt fun y hy => hlt.trans (h₂.1 y hy)] at this
      cases this
    · have hv : v₁ = v₂ := by simpa [lookup] using h k₁
      have ht : ∀ k, lookup k t₁ = lookup k t₂ := fun k => by
        by_cases hk : k₁ = k
        · subst hk
          rw [lookup_eq_none_of_lt h₁.1, lookup_eq_none_of_lt h₂.1]
        · simpa [lookup, hk] using h k
      rw [hv, eq_of_lookup h₁.2 h₂.2 ht]
    · have := h k₂
      simp only [lookup, if_pos rfl, hgt.ne', if_false,
        lookup_eq_none_of_lt fun y hy => hgt.trans (h₁.1 y hy)] at this
      cases this

/-- In a key-sorted association list, an entry is its key's lookup. -/
theorem lookup_of_mem {k : κ} {v : ν} :
    ∀ {l : List (κ × ν)}, l.Pairwise (fun a b => a.1 < b.1) → (k, v) ∈ l → lookup k l = some v
  | [], _, h => by cases h
  | (k', v') :: t, hs, h => by
    rw [List.pairwise_cons] at hs
    rcases List.mem_cons.mp h with h | h
    · obtain ⟨rfl, rfl⟩ := Prod.mk.inj h; simp [lookup]
    · simp [lookup, (hs.1 _ h).ne, lookup_of_mem hs.2 h]

/-- What only the entry of `k` contributes, gathered over a key-sorted association list. -/
theorem flatMap_of_lookup {α : Type} {k : κ} {f : κ × ν → List α} :
    ∀ {l : List (κ × ν)}, l.Pairwise (fun a b => a.1 < b.1) →
      (∀ k' v, (k', v) ∈ l → k' ≠ k → f (k', v) = []) →
      l.flatMap f = ((lookup k l).map fun v => f (k, v)).getD []
  | [], _, _ => rfl
  | (k', v') :: t, hs, hf => by
    rw [List.pairwise_cons] at hs
    have ht : ∀ k'' v, (k'', v) ∈ t → k'' ≠ k → f (k'', v) = [] := fun k'' v h =>
      hf k'' v (List.mem_cons_of_mem _ h)
    by_cases hk : k' = k
    · subst hk
      have hnil : t.flatMap f = [] := List.flatMap_eq_nil_iff.mpr fun ⟨k'', v⟩ h =>
        ht k'' v h (hs.1 _ h).ne'
      simp [lookup, hnil]
    · rw [List.flatMap_cons, hf k' v' (List.mem_cons_self _ _) hk, flatMap_of_lookup hs.2 ht]
      simp [lookup, hk]

theorem length_insertList_of_lookup_eq_none {k : κ} {v : ν} :
    ∀ {l : List (κ × ν)}, lookup k l = none → (insertList k v l).length = l.length + 1
  | [], _ => rfl
  | (k', v') :: t, h => by
    unfold insertList
    by_cases hk : k' = k
    · simp [lookup, hk] at h
    · simp only [lookup, hk, if_false] at h
      split_ifs with h₁ h₂
      · rfl
      · exact absurd h₂.symm hk
      · simp [length_insertList_of_lookup_eq_none h]

theorem length_eraseList_of_lookup_eq_some {k : κ} {v : ν} :
    ∀ {l : List (κ × ν)}, l.Pairwise (fun a b => a.1 < b.1) → lookup k l = some v →
      (eraseList k l).length + 1 = l.length
  | [], _, h => by simp [lookup] at h
  | (k', v') :: t, hs, h => by
    rw [List.pairwise_cons] at hs
    by_cases hk : k' = k
    · subst hk
      have : eraseList k' t = t :=
        List.filter_eq_self.mpr fun y hy => by simpa using (hs.1 y hy).ne'
      rw [eraseList_cons, if_pos rfl, this, List.length_cons]
    · simp only [lookup, hk, if_false] at h
      have := length_eraseList_of_lookup_eq_some hs.2 h
      rw [eraseList_cons, if_neg hk, List.length_cons, List.length_cons]
      omega

/-! ### The map -/

instance : EmptyCollection (OrdMap κ ν) := ⟨⟨[], List.Pairwise.nil⟩⟩

/-- `BTreeMap::get`. -/
def find? (m : OrdMap κ ν) (k : κ) : Option ν := lookup k m.toList

/-- `BTreeMap::insert`: the new value replaces an old one of the same key. -/
def insert (m : OrdMap κ ν) (k : κ) (v : ν) : OrdMap κ ν :=
  ⟨insertList k v m.toList, insertList_sorted m.sorted⟩

/-- `BTreeMap::remove`. -/
def erase (m : OrdMap κ ν) (k : κ) : OrdMap κ ν :=
  ⟨eraseList k m.toList, m.sorted.filter _⟩

/-- Apply `f` to every value, keys unchanged (`iter_mut` over a whole map). -/
def mapVal (f : κ → ν → ν') (m : OrdMap κ ν) : OrdMap κ ν' :=
  ⟨m.toList.map fun p => (p.1, f p.1 p.2), by
    rw [List.pairwise_map]; exact m.sorted⟩

/-- `BTreeMap::retain`: keep the entries that satisfy `p`. -/
def filter (p : κ → ν → Bool) (m : OrdMap κ ν) : OrdMap κ ν :=
  ⟨m.toList.filter fun e => p e.1 e.2, m.sorted.filter _⟩

/-- `BTreeMap::split_off`, the part kept: the entries whose key is at least `k`. -/
def splitOff (m : OrdMap κ ν) (k : κ) : OrdMap κ ν :=
  ⟨m.toList.filter fun p => k ≤ p.1, m.sorted.filter _⟩

/-- `BTreeMap::len`. -/
def size (m : OrdMap κ ν) : Nat := m.toList.length

/-- The keys, in increasing order. -/
def keys (m : OrdMap κ ν) : List κ := m.toList.map Prod.fst

instance : Membership κ (OrdMap κ ν) := ⟨fun m k => (m.find? k).isSome⟩

instance (k : κ) (m : OrdMap κ ν) : Decidable (k ∈ m) :=
  inferInstanceAs (Decidable ((m.find? k).isSome = true))

theorem mem_iff {k : κ} {m : OrdMap κ ν} : k ∈ m ↔ ∃ v, m.find? k = some v :=
  Option.isSome_iff_exists

theorem not_mem_iff {k : κ} {m : OrdMap κ ν} : k ∉ m ↔ m.find? k = none := by
  simp [mem_iff, Option.eq_none_iff_forall_not_mem]

@[simp] theorem toList_empty : (∅ : OrdMap κ ν).toList = [] := rfl

@[simp] theorem find?_empty (k : κ) : (∅ : OrdMap κ ν).find? k = none := rfl

@[simp] theorem find?_insert (m : OrdMap κ ν) (k k' : κ) (v : ν) :
    (m.insert k v).find? k' = if k = k' then some v else m.find? k' :=
  lookup_insertList k k' v m.toList

theorem find?_insert_self (m : OrdMap κ ν) (k : κ) (v : ν) : (m.insert k v).find? k = some v := by
  simp

@[simp] theorem find?_erase (m : OrdMap κ ν) (k k' : κ) :
    (m.erase k).find? k' = if k = k' then none else m.find? k' :=
  lookup_eraseList k k' m.toList

@[simp] theorem find?_mapVal (f : κ → ν → ν') (m : OrdMap κ ν) (k : κ) :
    (m.mapVal f).find? k = (m.find? k).map (f k) := by
  simp only [find?, mapVal]
  induction m.toList with
  | nil => rfl
  | cons p t ih => by_cases h : p.1 = k <;> simp_all [lookup]

@[simp] theorem find?_filter (p : κ → ν → Bool) (m : OrdMap κ ν) (k : κ) :
    (m.filter p).find? k = (m.find? k).filter (p k) := by
  obtain ⟨l, hl⟩ := m
  simp only [find?, filter]
  induction l with
  | nil => rfl
  | cons e t ih =>
    obtain ⟨k', v'⟩ := e
    rw [List.pairwise_cons] at hl
    have ih := ih hl.2
    by_cases hk : k' = k
    · subst hk
      rw [lookup_eq_none_of_lt hl.1] at ih
      by_cases hp : p k' v'
      · simp [lookup, List.filter_cons, hp, Option.filter]
      · simpa [lookup, List.filter_cons, hp, Option.filter] using ih
    · by_cases hp : p k' v' <;> simp [lookup, List.filter_cons, hp, hk, ih]

/-- **Extensionality.** A map is determined by its lookups. -/
theorem ext {m₁ m₂ : OrdMap κ ν} (h : ∀ k, m₁.find? k = m₂.find? k) : m₁ = m₂ := by
  obtain ⟨l₁, s₁⟩ := m₁
  obtain ⟨l₂, s₂⟩ := m₂
  obtain rfl := eq_of_lookup s₁ s₂ h
  rfl

/-- Taking an entry out and putting it back leaves the map as it was. -/
theorem insert_erase_of_find? {m : OrdMap κ ν} {k : κ} {v : ν} (h : m.find? k = some v) :
    (m.erase k).insert k v = m :=
  ext fun k' => by by_cases hk : k = k' <;> simp [hk, ← h]

/-- Erasing a key the map does not hold changes nothing. -/
theorem erase_of_not_mem {m : OrdMap κ ν} {k : κ} (h : k ∉ m) : m.erase k = m :=
  ext fun k' => by
    by_cases hk : k = k'
    · subst hk; simp [not_mem_iff.mp h]
    · simp [hk]

/-- Inserting overwrites what erasing removed. -/
@[simp] theorem insert_erase (m : OrdMap κ ν) (k : κ) (v : ν) :
    (m.erase k).insert k v = m.insert k v :=
  ext fun k' => by by_cases hk : k = k' <;> simp [hk]

@[simp] theorem mem_insert {m : OrdMap κ ν} {k k' : κ} {v : ν} :
    k' ∈ m.insert k v ↔ k = k' ∨ k' ∈ m := by
  by_cases hk : k = k' <;> simp [mem_iff, hk]

@[simp] theorem mem_erase {m : OrdMap κ ν} {k k' : κ} : k' ∈ m.erase k ↔ k ≠ k' ∧ k' ∈ m := by
  by_cases hk : k = k' <;> simp [mem_iff, hk]

@[simp] theorem mem_mapVal {f : κ → ν → ν'} {m : OrdMap κ ν} {k : κ} :
    k ∈ m.mapVal f ↔ k ∈ m := by
  show ((m.mapVal f).find? k).isSome ↔ (m.find? k).isSome
  rw [find?_mapVal, Option.isSome_map']

@[simp] theorem not_mem_empty (k : κ) : k ∉ (∅ : OrdMap κ ν) := by simp [mem_iff]

/-- A map that holds no key is the empty one. -/
theorem eq_empty_of_forall_not_mem {m : OrdMap κ ν} (h : ∀ k, k ∉ m) : m = ∅ :=
  ext fun k => by rw [not_mem_iff.mp (h k), find?_empty]

/-- Erasing a list of keys, one after another. -/
theorem find?_foldl_erase (ks : List κ) (m : OrdMap κ ν) (k : κ) :
    (ks.foldl erase m).find? k = if k ∈ ks then none else m.find? k := by
  induction ks generalizing m with
  | nil => simp
  | cons k' ks ih =>
    rw [List.foldl_cons, ih]
    by_cases h : k ∈ ks
    · simp [h]
    · by_cases hk : k' = k
      · simp [h, hk]
      · simp [h, hk, Ne.symm hk]

theorem size_insert_of_not_mem {m : OrdMap κ ν} {k : κ} (v : ν) (h : k ∉ m) :
    (m.insert k v).size = m.size + 1 :=
  length_insertList_of_lookup_eq_none (not_mem_iff.mp h)

theorem size_erase_of_mem {m : OrdMap κ ν} {k : κ} (h : k ∈ m) :
    (m.erase k).size + 1 = m.size := by
  obtain ⟨v, hv⟩ := mem_iff.mp h
  exact length_eraseList_of_lookup_eq_some m.sorted hv

/-- An entry of the map, in iteration order, is its key's lookup. -/
theorem find?_of_mem_toList {m : OrdMap κ ν} {k : κ} {v : ν} (h : (k, v) ∈ m.toList) :
    m.find? k = some v :=
  lookup_of_mem m.sorted h

/-- Gathering over the entries, in key order, what only the entry of `k` contributes. -/
theorem flatMap_toList {α : Type} (m : OrdMap κ ν) (k : κ) {f : κ × ν → List α}
    (hf : ∀ k' v, m.find? k' = some v → k' ≠ k → f (k', v) = []) :
    m.toList.flatMap f = ((m.find? k).map fun v => f (k, v)).getD [] :=
  flatMap_of_lookup m.sorted fun k' v h => hf k' v (find?_of_mem_toList h)

theorem mem_keys {m : OrdMap κ ν} {k : κ} : k ∈ m.keys ↔ k ∈ m := by
  rw [mem_iff]
  simp only [keys, find?, List.mem_map]
  induction m.toList with
  | nil => simp [lookup]
  | cons p t ih => by_cases h : p.1 = k <;> simp_all [lookup]

theorem keys_nodup (m : OrdMap κ ν) : m.keys.Nodup :=
  (List.pairwise_map.mpr m.sorted).imp ne_of_lt

/-! ### Ranges -/

/-- On a key-sorted list, skipping the entries below an upward-closed bound keeps the entries
within it. -/
theorem dropWhile_eq_filter {P : κ → Bool} (hP : ∀ a b, a < b → P a → P b) :
    ∀ {l : List (κ × ν)}, l.Pairwise (fun a b => a.1 < b.1) →
      l.dropWhile (fun p => !P p.1) = l.filter (fun p => P p.1)
  | [], _ => rfl
  | (k, v) :: t, hs => by
    rw [List.pairwise_cons] at hs
    by_cases hk : P k
    · have ht : t.filter (fun p => P p.1) = t :=
        List.filter_eq_self.mpr fun p hp => hP k p.1 (hs.1 p hp) hk
      simp [List.dropWhile_cons, List.filter_cons, hk, ht]
    · simp [List.dropWhile_cons, List.filter_cons, hk, dropWhile_eq_filter hP hs.2]

/-- On a key-sorted list, taking the entries while within a downward-closed bound keeps the
entries within it. -/
theorem takeWhile_eq_filter {Q : κ → Bool} (hQ : ∀ a b, a < b → Q b → Q a) :
    ∀ {l : List (κ × ν)}, l.Pairwise (fun a b => a.1 < b.1) →
      l.takeWhile (fun p => Q p.1) = l.filter (fun p => Q p.1)
  | [], _ => rfl
  | (k, v) :: t, hs => by
    rw [List.pairwise_cons] at hs
    by_cases hk : Q k
    · simp [List.takeWhile_cons, List.filter_cons, hk, takeWhile_eq_filter hQ hs.2]
    · have ht : t.filter (fun p => Q p.1) = [] :=
        List.filter_eq_nil_iff.mpr fun p hp hq => hk (hQ k p.1 (hs.1 p hp) (by simpa using hq))
      simp [List.takeWhile_cons, List.filter_cons, hk, ht]

end OrdMap

/-- `std::ops::Bound`, an end of a `BTreeMap::range`. The source never passes `Unbounded`. -/
inductive Bound (κ : Type) where
  | included (k : κ)
  | excluded (k : κ)
  deriving DecidableEq, Repr

namespace Bound

variable {κ : Type} [LinearOrder κ]

/-- The key of the bound. -/
def key : Bound κ → κ
  | included k | excluded k => k

/-- The bound is `Excluded`. -/
def isExcluded : Bound κ → Bool
  | included _ => false
  | excluded _ => true

/-- `k` is at or past the bound, read as a range's start. -/
def startsBy : Bound κ → κ → Bool
  | included s, k => s ≤ k
  | excluded s, k => s < k

/-- `k` is at or before the bound, read as a range's end. -/
def endsBy : Bound κ → κ → Bool
  | included e, k => k ≤ e
  | excluded e, k => k < e

theorem startsBy_mono (b : Bound κ) (x y : κ) (h : x < y) (hx : b.startsBy x) : b.startsBy y := by
  cases b <;> simp only [startsBy, decide_eq_true_eq] at hx ⊢
  · exact hx.trans h.le
  · exact hx.trans h

theorem endsBy_anti (b : Bound κ) (x y : κ) (h : x < y) (hy : b.endsBy y) : b.endsBy x := by
  cases b <;> simp only [endsBy, decide_eq_true_eq] at hy ⊢
  · exact h.le.trans hy
  · exact h.trans hy

end Bound

/-- The panics of `BTreeMap::range`. -/
inductive RangePanic where
  /-- "range start is greater than range end in BTreeMap" -/
  | startGreaterThanEnd
  /-- "range start and end are equal and excluded in BTreeMap" -/
  | startEqualsEndExcluded
  deriving DecidableEq, Repr

namespace OrdMap

variable {κ ν ν' : Type} [LinearOrder κ]

/-- The entries a `BTreeMap::range` iterator yields: the descent skips the keys before the
start, and the iteration stops at the first key past the end. -/
def rangeWalk (m : OrdMap κ ν) (start finish : Bound κ) : List (κ × ν) :=
  (m.toList.dropWhile fun p => !start.startsBy p.1).takeWhile fun p => finish.endsBy p.1

/-- `BTreeMap::range`, on the map with entries `m` that has a root node exactly when
`hasRoot`. A map with no root yields nothing, whatever the bounds. In one with a root, the
search for the bounds panics on bounds that are equal and both excluded, and on a start past
the end; otherwise the iteration yields the entries between the bounds, in key order. -/
def range (m : OrdMap κ ν) (hasRoot : Bool) (start finish : Bound κ) :
    Except RangePanic (List (κ × ν)) :=
  if !hasRoot then .ok []
  else if start.isExcluded && finish.isExcluded && start.key = finish.key then
    .error .startEqualsEndExcluded
  else if finish.key < start.key then .error .startGreaterThanEnd
  else .ok (m.rangeWalk start finish)

/-- **The walk agrees with the contents**: a range yields the entries between its bounds, in
key order. -/
theorem rangeWalk_eq_filter (m : OrdMap κ ν) (start finish : Bound κ) :
    m.rangeWalk start finish =
      m.toList.filter fun p => start.startsBy p.1 && finish.endsBy p.1 := by
  rw [rangeWalk, dropWhile_eq_filter start.startsBy_mono m.sorted,
    takeWhile_eq_filter finish.endsBy_anti (m.sorted.filter _), List.filter_filter]
  simp only [Bool.and_comm]

/-! ### Sizes -/

@[simp] theorem size_empty : (∅ : OrdMap κ ν).size = 0 := rfl

/-- A map whose keys all lie in a list has at most as many entries as the list. -/
theorem size_le_of_forall_mem {m : OrdMap κ ν} {l : List κ} (h : ∀ k ∈ m, k ∈ l) :
    m.size ≤ l.length := by
  rw [size, ← List.length_map m.toList Prod.fst]
  exact (List.subperm_of_subset m.keys_nodup fun k hk => h k (mem_keys.mp hk)).length_le

end OrdMap

end RustDds
