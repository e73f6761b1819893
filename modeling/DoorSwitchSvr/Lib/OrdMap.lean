import Mathlib.Order.Lattice
import Mathlib.Data.List.Basic

/-!
# Ordered maps

`OrdMap κ α` is a finite map from the keys `κ` to `α` whose entries are kept in ascending
order of their keys, as in an ordered associative container.

* `find k` is the value under `k`.
* `insert k a` adds the entry `(k, a)`, unless there is one under `k` already.
* `modify k f` replaces the value under `k` by its image under `f`.
* `crbegin` is the last entry, that of the greatest key, and `modifyLast f` replaces the
  value of that entry.

`All P m` says that each value has the property `P` with its key.

The last entry after `insert k a` is `(k, a)` exactly when `k` is above all the old keys
(`crbegin_insert_of_above`, `crbegin_insert_of_not_above`).
-/

universe u v

/-- A finite map whose entries are in strictly ascending order of their keys. -/
structure OrdMap (κ : Type u) [LinearOrder κ] (α : Type v) where
  entries : List (κ × α)
  sorted : (entries.map Prod.fst).Pairwise (· < ·)

namespace OrdMap

variable {κ : Type u} [LinearOrder κ] {α : Type v}

/-- The map without entries. -/
def empty : OrdMap κ α := ⟨[], List.Pairwise.nil⟩

/-- The keys, in ascending order. -/
def keys (m : OrdMap κ α) : List κ := m.entries.map Prod.fst

/-- The value under a key. -/
def find (m : OrdMap κ α) (k : κ) : Option α := m.entries.lookup k

/-! ### Entries -/

/-- The entry `(k, a)` put in its place among entries in ascending order, unless there is
an entry under `k`. -/
def insertEntry (k : κ) (a : α) : List (κ × α) → List (κ × α)
  | [] => [(k, a)]
  | e :: es =>
      if k < e.1 then (k, a) :: e :: es
      else if e.1 < k then e :: insertEntry k a es
      else e :: es

/-- The entries with the value under `k` replaced by its image under `f`. -/
def modifyEntry (k : κ) (f : α → α) (es : List (κ × α)) : List (κ × α) :=
  es.map (fun e => if e.1 = k then (e.1, f e.2) else e)

theorem lookup_cons_fst (e : κ × α) (es : List (κ × α)) :
  (e :: es).lookup e.1 = some e.2
  := List.lookup_cons_self

theorem lookup_cons_of_ne {k : κ} {e : κ × α} (es : List (κ × α)) (h : k ≠ e.1) :
  (e :: es).lookup k = es.lookup k
  := by
  rw [List.lookup_cons, beq_eq_false_iff_ne.mpr h]

theorem mem_keys_insertEntry {k k' : κ} {a : α} :
    ∀ {es : List (κ × α)},
      k' ∈ (insertEntry k a es).map Prod.fst → k' = k ∨ k' ∈ es.map Prod.fst
  | [], h => by
      simpa [insertEntry] using h
  | e :: es, h => by
      rw [insertEntry] at h
      split_ifs at h
      · simpa using h
      · rcases List.mem_cons.mp h with rfl | h
        · simp
        · rcases mem_keys_insertEntry h with rfl | h
          · simp
          · right
            apply List.mem_cons_of_mem _ h
      · right
        apply h

theorem sorted_insertEntry (k : κ) (a : α) :
    ∀ {es : List (κ × α)}, (es.map Prod.fst).Pairwise (· < ·) →
      ((insertEntry k a es).map Prod.fst).Pairwise (· < ·)
  | [], _ => by
      simp [insertEntry]
  | e :: es, h => by
      obtain ⟨hlt, hes⟩ := List.pairwise_cons.mp h
      rw [insertEntry]
      split_ifs with hk hk'
      · apply List.Pairwise.cons _ h
        intro k' hk''
        rcases List.mem_cons.mp hk'' with rfl | hk''
        · apply hk
        · apply lt_trans hk (hlt k' hk'')
      · apply List.Pairwise.cons _ (sorted_insertEntry k a hes)
        intro k' hk''
        rcases mem_keys_insertEntry hk'' with rfl | hk''
        · apply hk'
        · apply hlt k' hk''
      · apply h

theorem keys_modifyEntry (k : κ) (f : α → α) (es : List (κ × α)) :
  (modifyEntry k f es).map Prod.fst = es.map Prod.fst
  := by
  rw [modifyEntry, List.map_map]
  apply List.map_congr_left
  intro e _
  simp only [Function.comp]
  split_ifs <;> rfl

theorem lookup_insertEntry_of_ne {k k' : κ} (a : α) (h : k' ≠ k) :
    ∀ es : List (κ × α), (insertEntry k a es).lookup k' = es.lookup k'
  | [] => lookup_cons_of_ne [] h
  | e :: es => by
      rw [insertEntry]
      split_ifs
      · apply lookup_cons_of_ne _ h
      · rw [List.lookup_cons, List.lookup_cons, lookup_insertEntry_of_ne a h es]
      · rfl

theorem lookup_insertEntry_self {k : κ} (a : α) :
    ∀ {es : List (κ × α)}, es.lookup k = none → (insertEntry k a es).lookup k = some a
  | [], _ => lookup_cons_fst (k, a) []
  | e :: es, h => by
      have hne : k ≠ e.1 := by
        rintro rfl
        rw [lookup_cons_fst] at h
        cases h
      rw [lookup_cons_of_ne es hne] at h
      rw [insertEntry]
      split_ifs with hk hk'
      · apply lookup_cons_fst (k, a)
      · rw [lookup_cons_of_ne _ hne]
        apply lookup_insertEntry_self a h
      · apply absurd (le_antisymm (not_lt.mp hk') (not_lt.mp hk)) hne

/-- An entry is not replaced. -/
theorem lookup_insertEntry_of_some {k : κ} {b : α} (a : α) :
    ∀ {es : List (κ × α)}, (es.map Prod.fst).Pairwise (· < ·) → es.lookup k = some b →
      (insertEntry k a es).lookup k = some b
  | e :: es, hs, h => by
      obtain ⟨hlt, hes⟩ := List.pairwise_cons.mp hs
      rw [insertEntry]
      split_ifs with hk hk'
      · -- `k` is below all the keys
        rw [List.lookup_eq_some_iff] at h
        obtain ⟨l, l', heq, -⟩ := h
        have hmem : (k, b) ∈ e :: es := by
          rw [heq]
          simp
        rcases List.mem_cons.mp hmem with heq | hmem
        · apply absurd hk
          rw [← heq]
          apply lt_irrefl
        · apply absurd (hlt k (List.mem_map_of_mem hmem)) (lt_asymm hk)
      · rw [lookup_cons_of_ne _ (ne_of_gt hk')] at h ⊢
        apply lookup_insertEntry_of_some a hes h
      · apply h

theorem lookup_modifyEntry (k k' : κ) (f : α → α) :
    ∀ es : List (κ × α),
      (modifyEntry k f es).lookup k' = if k' = k then (es.lookup k).map f else es.lookup k'
  | [] => by
      simp [modifyEntry]
  | e :: es => by
      have ih := lookup_modifyEntry k k' f es
      rw [modifyEntry] at ih ⊢
      rw [List.map_cons]
      rcases eq_or_ne k' e.1 with rfl | hne
      · split_ifs with hk
        · subst hk
          rw [lookup_cons_fst, lookup_cons_fst (e.1, f e.2)]
          rfl
        · rw [lookup_cons_fst, lookup_cons_fst]
      · have hskip : ((if e.1 = k then (e.1, f e.2) else e) ::
            es.map (fun e => if e.1 = k then (e.1, f e.2) else e)).lookup k'
              = (es.map (fun e => if e.1 = k then (e.1, f e.2) else e)).lookup k' := by
          apply lookup_cons_of_ne
          split_ifs <;> exact hne
        rw [hskip, ih, lookup_cons_of_ne es hne]
        split_ifs with hk
        · rw [lookup_cons_of_ne es (hk ▸ hne)]
        · rfl

/-! ### Operations -/

/-- The map with `(k, a)` added, unless there is an entry under `k`. -/
def insert (m : OrdMap κ α) (k : κ) (a : α) : OrdMap κ α :=
  ⟨insertEntry k a m.entries, sorted_insertEntry k a m.sorted⟩

/-- The map with the value under `k` replaced by its image under `f`. -/
def modify (m : OrdMap κ α) (k : κ) (f : α → α) : OrdMap κ α :=
  ⟨modifyEntry k f m.entries, by rw [keys_modifyEntry]; exact m.sorted⟩

/-- The last entry, that of the greatest key. -/
def crbegin (m : OrdMap κ α) : Option (κ × α) := m.entries.getLast?

/-- The map with the value of the last entry replaced by its image under `f`. -/
def modifyLast (m : OrdMap κ α) (f : α → α) : OrdMap κ α :=
  match m.crbegin with
  | none => m
  | some e => m.modify e.1 f

theorem mem_keys (m : OrdMap κ α) (k : κ) :
  k ∈ m.keys ↔ (m.find k).isSome
  := by
  rw [find, List.lookup_isSome_iff, keys, List.mem_map]
  constructor
  · rintro ⟨e, he, rfl⟩
    use e, he
    simp
  · rintro ⟨e, he, hk⟩
    use e, he
    symm
    simpa using hk

theorem mem_entries_of_find {m : OrdMap κ α} {k : κ} {a : α} (h : m.find k = some a) :
  (k, a) ∈ m.entries
  := by
  obtain ⟨es, es', heq, -⟩ := List.lookup_eq_some_iff.mp h
  rw [heq]
  apply List.mem_append_right _ List.mem_cons_self

theorem find_insert_self {m : OrdMap κ α} {k : κ} (a : α) (h : m.find k = none) :
  (m.insert k a).find k = some a
  := lookup_insertEntry_self a h

theorem find_insert_of_some {m : OrdMap κ α} {k : κ} {b : α} (a : α) (h : m.find k = some b) :
  (m.insert k a).find k = some b
  := lookup_insertEntry_of_some a m.sorted h

theorem find_insert_of_ne (m : OrdMap κ α) {k k' : κ} (a : α) (h : k' ≠ k) :
  (m.insert k a).find k' = m.find k'
  := lookup_insertEntry_of_ne a h m.entries

theorem mem_keys_insert (m : OrdMap κ α) (k k' : κ) (a : α) :
  k' ∈ (m.insert k a).keys ↔ k' ∈ m.keys ∨ k' = k
  := by
  rw [mem_keys, mem_keys]
  rcases eq_or_ne k' k with rfl | hne
  · apply iff_of_true _ (Or.inr rfl)
    cases hfind : m.find k' with
    | none =>
        rw [find_insert_self a hfind]
        rfl
    | some b =>
        rw [find_insert_of_some a hfind]
        rfl
  · rw [find_insert_of_ne m a hne]
    simp [hne]

@[simp]
theorem keys_modify (m : OrdMap κ α) (k : κ) (f : α → α) :
  (m.modify k f).keys = m.keys
  := keys_modifyEntry k f m.entries

@[simp]
theorem keys_modifyLast (m : OrdMap κ α) (f : α → α) :
  (m.modifyLast f).keys = m.keys
  := by
  rw [modifyLast]
  split
  · rfl
  · apply keys_modify

theorem find_modify (m : OrdMap κ α) (k k' : κ) (f : α → α) :
  (m.modify k f).find k' = if k' = k then (m.find k).map f else m.find k'
  := lookup_modifyEntry k k' f m.entries

@[simp]
theorem find_modify_self (m : OrdMap κ α) (k : κ) (f : α → α) :
  (m.modify k f).find k = (m.find k).map f
  := by
  rw [find_modify, if_pos rfl]

theorem find_modify_of_ne (m : OrdMap κ α) {k k' : κ} (f : α → α) (h : k' ≠ k) :
  (m.modify k f).find k' = m.find k'
  := by
  rw [find_modify, if_neg h]

/-! ### Inserting a list of entries -/

/-- The map with the entries added one after another; the first one under a key stays. -/
def insertAll (m : OrdMap κ α) : List (κ × α) → OrdMap κ α
  | [] => m
  | e :: es => (m.insert e.1 e.2).insertAll es

theorem find_insertAll (k : κ) :
    ∀ (es : List (κ × α)) (m : OrdMap κ α),
      (m.insertAll es).find k = (m.find k).or (es.lookup k)
  | [], m => by
      rw [insertAll, List.lookup_nil, Option.or_none]
  | e :: es, m => by
      rw [insertAll, find_insertAll k es]
      rcases eq_or_ne k e.1 with rfl | hne
      · rw [lookup_cons_fst]
        cases hfind : m.find e.1 with
        | none => rw [find_insert_self e.2 hfind, Option.some_or, Option.none_or]
        | some b => rw [find_insert_of_some e.2 hfind, Option.some_or, Option.some_or]
      · rw [find_insert_of_ne m e.2 hne, lookup_cons_of_ne es hne]

theorem insertAll_append (m : OrdMap κ α) (es es' : List (κ × α)) :
  m.insertAll (es ++ es') = (m.insertAll es).insertAll es'
  := by
  induction es generalizing m with
  | nil => rfl
  | cons e es ih => apply ih

theorem mem_keys_insertAll (m : OrdMap κ α) (es : List (κ × α)) (k : κ) :
  k ∈ (m.insertAll es).keys ↔ k ∈ m.keys ∨ k ∈ es.map Prod.fst
  := by
  induction es generalizing m with
  | nil => simp [insertAll]
  | cons e es ih => rw [insertAll, ih, mem_keys_insert, List.map_cons, List.mem_cons, or_assoc]

/-- No key occurs twice. -/
theorem nodup_keys (m : OrdMap κ α) :
  m.keys.Nodup
  := m.sorted.imp ne_of_lt

/-! ### Properties of all values -/

/-- Every value has the property, with its key. -/
def All (P : κ → α → Prop) (m : OrdMap κ α) : Prop := ∀ k a, m.find k = some a → P k a

theorem All.empty (P : κ → α → Prop) :
  (empty : OrdMap κ α).All P
  := by
  intro k a hfind
  cases hfind

theorem All.insert {P : κ → α → Prop} {m : OrdMap κ α} (h : m.All P) {k : κ} {a : α}
    (ha : P k a) :
  (m.insert k a).All P
  := by
  intro k' a' hfind
  rcases eq_or_ne k' k with rfl | hne
  · cases hold : m.find k' with
    | none =>
        rw [find_insert_self a hold] at hfind
        obtain rfl := Option.some.inj hfind
        apply ha
    | some b =>
        rw [find_insert_of_some a hold] at hfind
        apply h k' a'
        rw [hold, hfind]
  · rw [find_insert_of_ne m a hne] at hfind
    apply h k' a' hfind

theorem All.modify {P : κ → α → Prop} {m : OrdMap κ α} (h : m.All P) {k : κ} {f : α → α}
    (hf : ∀ a, m.find k = some a → P k (f a)) :
  (m.modify k f).All P
  := by
  intro k' a' hfind
  rw [find_modify] at hfind
  split_ifs at hfind with hk
  · subst hk
    obtain ⟨a, ha, rfl⟩ := Option.map_eq_some_iff.mp hfind
    apply hf a ha
  · apply h k' a' hfind

/-! ### The last entry -/

/-- The last entry is the value under its key, and its key is the greatest. -/
theorem crbegin_spec {m : OrdMap κ α} {e : κ × α} (h : m.crbegin = some e) :
  m.find e.1 = some e.2 ∧ ∀ k ∈ m.keys, k ≤ e.1
  := by
  obtain ⟨es, hes⟩ := List.getLast?_eq_some_iff.mp h
  have hs := m.sorted
  rw [hes, List.map_append, List.pairwise_append] at hs
  obtain ⟨-, -, hlt⟩ := hs
  constructor
  · rw [find, List.lookup_eq_some_iff]
    use es, []
    constructor
    · rw [hes]
    · intro p hp
      have hp' : p.1 < e.1 := hlt p.1 (List.mem_map_of_mem hp) e.1 (by simp)
      simpa using ne_of_gt hp'
  · intro k hk
    rw [keys, hes, List.map_append, List.mem_append] at hk
    rcases hk with hk | hk
    · apply le_of_lt (hlt k hk e.1 (by simp))
    · simp only [List.map_cons, List.map_nil, List.mem_singleton] at hk
      rw [hk]

theorem exists_crbegin {m : OrdMap κ α} {k : κ} (h : k ∈ m.keys) :
  ∃ e, m.crbegin = some e
  := by
  rw [← Option.ne_none_iff_exists']
  intro hnone
  rw [keys, List.getLast?_eq_none_iff.mp hnone] at h
  cases h

theorem getLast?_insertEntry_of_above {k : κ} (a : α) :
    ∀ {es : List (κ × α)}, (∀ k' ∈ es.map Prod.fst, k' < k) →
      (insertEntry k a es).getLast? = some (k, a)
  | [], _ => rfl
  | e :: es, h => by
      have he : e.1 < k := h e.1 (by simp)
      have ih : (insertEntry k a es).getLast? = some (k, a) :=
        getLast?_insertEntry_of_above a (fun k' hk' => h k' (List.mem_cons_of_mem _ hk'))
      rw [insertEntry, if_neg (not_lt_of_gt he), if_pos he, List.getLast?_cons, ih]
      rfl

theorem getLast?_insertEntry_of_below {k k' : κ} (a : α) (hk : k < k') :
    ∀ {es : List (κ × α)}, k' ∈ es.map Prod.fst →
      (insertEntry k a es).getLast? = es.getLast?
  | e :: es, h => by
      rw [insertEntry]
      split_ifs with hlt hgt
      · simp
      · have hmem : k' ∈ es.map Prod.fst := by
          rcases List.mem_cons.mp h with rfl | h
          · apply absurd (lt_trans hk hgt) (lt_irrefl _)
          · apply h
        rw [List.getLast?_cons, List.getLast?_cons, getLast?_insertEntry_of_below a hk hmem]
      · rfl

/-- An entry whose key is above all the others is the last one. -/
theorem crbegin_insert_of_above {m : OrdMap κ α} {k : κ} (a : α)
    (h : ∀ k' ∈ m.keys, k' < k) :
  (m.insert k a).crbegin = some (k, a)
  := getLast?_insertEntry_of_above a h

/-- When an entry is added whose key is new and not above all the others, the last entry is
an old one. -/
theorem crbegin_insert_of_not_above {m : OrdMap κ α} {k : κ} (a : α) (hk : m.find k = none)
    (h : ¬ ∀ k' ∈ m.keys, k' < k) :
  ∃ e, (m.insert k a).crbegin = some e ∧ m.find e.1 = some e.2 ∧ k < e.1
  := by
  simp only [not_forall, exists_prop, not_lt] at h
  obtain ⟨k', hk', hle⟩ := h
  have hlt : k < k' := by
    apply lt_of_le_of_ne hle
    rintro rfl
    rw [mem_keys, hk] at hk'
    cases hk'
  have hlast : (m.insert k a).crbegin = m.crbegin := getLast?_insertEntry_of_below a hlt hk'
  obtain ⟨e, he⟩ := exists_crbegin hk'
  obtain ⟨hfind, hmax⟩ := crbegin_spec he
  use e, hlast.trans he, hfind
  apply lt_of_lt_of_le hlt (hmax k' hk')

theorem crbegin_modify (m : OrdMap κ α) (k : κ) (f : α → α) :
  (m.modify k f).crbegin
    = m.crbegin.map (fun e => if e.1 = k then (e.1, f e.2) else e)
  := List.getLast?_map

theorem modify_modify (m : OrdMap κ α) (k : κ) (f g : α → α) :
  (m.modify k f).modify k g = m.modify k (fun a => g (f a))
  := by
  simp only [modify, modifyEntry, List.map_map, OrdMap.mk.injEq]
  apply List.map_congr_left
  intro e _
  simp only [Function.comp]
  split_ifs <;> rfl

theorem modifyLast_of_crbegin {m : OrdMap κ α} {e : κ × α} (f : α → α)
    (h : m.crbegin = some e) :
  m.modifyLast f = m.modify e.1 f
  := by
  rw [modifyLast, h]

/-- Two changes of the last entry, one after the other. -/
theorem modifyLast_modifyLast (m : OrdMap κ α) (f g : α → α) :
  (m.modifyLast f).modifyLast g = m.modifyLast (fun a => g (f a))
  := by
  cases h : m.crbegin with
  | none => simp [modifyLast, h]
  | some e =>
      rw [modifyLast_of_crbegin f h, modifyLast_of_crbegin _ h]
      have hlast : (m.modify e.1 f).crbegin = some (e.1, f e.2) := by
        rw [crbegin_modify, h, Option.map_some, if_pos rfl]
      rw [modifyLast_of_crbegin g hlast, modify_modify]

end OrdMap
