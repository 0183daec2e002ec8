import Mathlib.Data.List.Pairwise
import Mathlib.Data.String.Basic

/-! # Go maps with string keys

A `map[string]T` is kept as its list of entries in increasing order of the keys. The order is a
field, so equal maps are equal values and `reflect.DeepEqual` is `=`. A nil map and an empty map are
the same value here; where the difference matters (a missing JSON object), the field is an
`Option`.

* `get?` reads an entry, `insert` writes one, `union` adds the entries of a second map.
* `Agree m n`: no key has different values in `m` and `n`. `exists_satisfies_iff`: a set of labels
  satisfying two selectors exists exactly when the selectors agree. `eq_of_agree`: maps with the same
  keys that agree are equal. -/

namespace OpenchamiOperator.Lib

/-- A Go map from strings to `β`. -/
structure GoMap (β : Type) where
  entries : List (String × β)
  sorted : entries.Pairwise fun a b => a.1 < b.1
deriving DecidableEq

namespace GoMap

variable {β : Type}

/-- The empty map. -/
def empty : GoMap β := ⟨[], List.Pairwise.nil⟩

instance : Inhabited (GoMap β) := ⟨empty⟩

/-- `len(m)`. -/
def len (m : GoMap β) : ℕ := m.entries.length

/-- The first entry of a list with key `k`. -/
def find (k : String) : List (String × β) → Option β
  | [] => none
  | e :: l => if e.1 = k then some e.2 else find k l

/-- `v, ok := m[k]`. -/
def get? (m : GoMap β) (k : String) : Option β := find k m.entries

/-- `m[k]`, with the zero value of `β` for a missing key. -/
def getD (m : GoMap β) (k : String) (zero : β) : β := (m.get? k).getD zero

/-- The sorted list with the entry `(k, v)` put in its place. -/
def insertEntry (k : String) (v : β) : List (String × β) → List (String × β)
  | [] => [(k, v)]
  | e :: l =>
    if k < e.1 then (k, v) :: e :: l
    else if e.1 = k then (k, v) :: l
    else e :: insertEntry k v l

theorem mem_insertEntry {k : String} {v : β} : ∀ {l : List (String × β)} {e : String × β},
    e ∈ insertEntry k v l → e = (k, v) ∨ e ∈ l
  | [], e, h => by simpa [insertEntry] using h
  | a :: l, e, h => by
    unfold insertEntry at h
    split_ifs at h
    · simpa using h
    · rcases List.mem_cons.mp h with h | h
      · exact Or.inl h
      · exact Or.inr (List.mem_cons_of_mem _ h)
    · rcases List.mem_cons.mp h with rfl | h
      · exact Or.inr (by simp)
      · rcases mem_insertEntry h with h | h
        · exact Or.inl h
        · exact Or.inr (List.mem_cons_of_mem _ h)

theorem insertEntry_sorted (k : String) (v : β) : ∀ {l : List (String × β)},
    l.Pairwise (fun a b => a.1 < b.1) → (insertEntry k v l).Pairwise fun a b => a.1 < b.1
  | [], _ => by simp [insertEntry]
  | a :: l, h => by
    obtain ⟨ha, hl⟩ := List.pairwise_cons.mp h
    unfold insertEntry
    split_ifs with hlt heq
    · refine List.pairwise_cons.mpr ⟨fun b hb => ?_, h⟩
      rcases List.mem_cons.mp hb with rfl | hb
      · exact hlt
      · exact lt_trans hlt (ha b hb)
    · subst heq
      exact List.pairwise_cons.mpr ⟨ha, hl⟩
    · refine List.pairwise_cons.mpr ⟨fun b hb => ?_, insertEntry_sorted k v hl⟩
      rcases mem_insertEntry hb with rfl | hb
      · exact lt_of_le_of_ne (not_lt.mp hlt) heq
      · exact ha b hb

theorem find_insertEntry (k j : String) (v : β) : ∀ l : List (String × β),
    find j (insertEntry k v l) = if k = j then some v else find j l
  | [] => by simp [insertEntry, find]
  | a :: l => by
    have ih := find_insertEntry k j v l
    by_cases hkj : k = j
    · subst hkj
      rw [if_pos rfl] at ih ⊢
      unfold insertEntry
      split_ifs with hlt heq
      · simp [find]
      · simp [find]
      · simp [find, heq, ih]
    · rw [if_neg hkj] at ih ⊢
      unfold insertEntry
      split_ifs with hlt heq
      · simp [find, hkj]
      · subst heq; simp [find, hkj]
      · simp [find, ih]

/-- `m[k] = v`. -/
def insert (m : GoMap β) (k : String) (v : β) : GoMap β :=
  ⟨insertEntry k v m.entries, insertEntry_sorted k v m.sorted⟩

theorem get?_insert (m : GoMap β) (k j : String) (v : β) :
    (m.insert k v).get? j = if k = j then some v else m.get? j :=
  find_insertEntry k j v m.entries

/-- The map holding `l`; the first of several entries with one key counts. -/
def ofList (l : List (String × β)) : GoMap β := l.foldr (fun e m => m.insert e.1 e.2) empty

theorem get?_ofList (k : String) : ∀ l : List (String × β), (ofList l).get? k = find k l
  | [] => rfl
  | e :: l => by
    have ih := get?_ofList k l
    have hcons : ofList (e :: l) = (ofList l).insert e.1 e.2 := rfl
    rw [hcons, get?_insert, ih]
    rfl

theorem insertEntry_of_lt {k : String} {v : β} {l : List (String × β)} (h : ∀ e ∈ l, k < e.1) :
    insertEntry k v l = (k, v) :: l := by
  cases l with
  | nil => rfl
  | cons e l => simp [insertEntry, h e (by simp)]

theorem entries_ofList : ∀ {l : List (String × β)}, l.Pairwise (fun a b => a.1 < b.1) →
    (ofList l).entries = l
  | [], _ => rfl
  | e :: l, h => by
    obtain ⟨he, hl⟩ := List.pairwise_cons.mp h
    have ih := entries_ofList hl
    have hcons : (ofList (e :: l)).entries = insertEntry e.1 e.2 (ofList l).entries := rfl
    rw [hcons, ih, insertEntry_of_lt he]

@[simp] theorem ofList_entries (m : GoMap β) : ofList m.entries = m := by
  have h := entries_ofList m.sorted
  cases hm : ofList m.entries
  rw [hm] at h
  cases m
  cases h
  rfl

theorem find_append (k : String) : ∀ l l' : List (String × β),
    find k (l ++ l') = (find k l).or (find k l')
  | [], l' => by simp [find]
  | e :: l, l' => by
    have ih := find_append k l l'
    simp only [List.cons_append, find]
    split_ifs
    · rfl
    · exact ih

/-- The entries of `m`, and those of `n` whose keys `m` does not have. -/
def union (m n : GoMap β) : GoMap β := ofList (m.entries ++ n.entries)

theorem get?_union (m n : GoMap β) (k : String) :
    (m.union n).get? k = (m.get? k).or (n.get? k) := by
  rw [union, get?_ofList, find_append]; rfl

/-! ### Extensionality -/

theorem find_eq_some_mem {k : String} {v : β} : ∀ {l : List (String × β)}, find k l = some v →
    (k, v) ∈ l
  | [], h => by cases h
  | e :: l, h => by
    unfold find at h
    split_ifs at h with hk
    · cases h
      rw [← hk]
      simp
    · exact List.mem_cons_of_mem e (find_eq_some_mem h)

theorem mem_find_eq_some {k : String} {v : β} : ∀ {l : List (String × β)},
    l.Pairwise (fun a b => a.1 < b.1) → (k, v) ∈ l → find k l = some v
  | [], _, h => by cases h
  | e :: l, hl, h => by
    obtain ⟨he, hl⟩ := List.pairwise_cons.mp hl
    unfold find
    rcases List.mem_cons.mp h with rfl | h
    · rw [if_pos rfl]
    · rw [if_neg (fun hk => absurd (he _ h) (by rw [hk]; exact lt_irrefl _))]
      exact mem_find_eq_some hl h

theorem ext {m n : GoMap β} (h : ∀ k, m.get? k = n.get? k) : m = n := by
  have hmem : ∀ e, e ∈ m.entries ↔ e ∈ n.entries := by
    rintro ⟨k, v⟩
    constructor
    · intro he
      exact find_eq_some_mem ((h k).symm.trans (mem_find_eq_some m.sorted he))
    · intro he
      exact find_eq_some_mem ((h k).trans (mem_find_eq_some n.sorted he))
  have hnodup : ∀ p : GoMap β, p.entries.Nodup := fun p =>
    p.sorted.imp fun hab hne => absurd hab (by rw [hne]; exact lt_irrefl _)
  have hperm : m.entries.Perm n.entries :=
    (List.perm_ext_iff_of_nodup (hnodup m) (hnodup n)).mpr hmem
  have heq : m.entries = n.entries :=
    hperm.eq_of_pairwise (fun a b _ _ hab hba => absurd (lt_trans hab hba) (lt_irrefl _))
      m.sorted n.sorted
  cases m
  cases n
  cases heq
  rfl

/-! ### Label selectors -/

/-- The labels carry every key of the selector with the given value. -/
def Satisfies (labels selector : GoMap β) : Prop :=
  ∀ k v, selector.get? k = some v → labels.get? k = some v

theorem satisfies_refl (m : GoMap β) : m.Satisfies m := fun _ _ h => h

theorem Satisfies.trans {l m n : GoMap β} (hl : l.Satisfies m) (hm : m.Satisfies n) :
    l.Satisfies n :=
  fun k v h => hl k v (hm k v h)

@[simp] theorem satisfies_empty (labels : GoMap β) : labels.Satisfies .empty := by
  intro k v h
  cases h

@[simp] theorem satisfies_singleton {labels : GoMap β} {k : String} {v : β} :
    labels.Satisfies (ofList [(k, v)]) ↔ labels.get? k = some v := by
  constructor
  · intro h
    exact h k v (by simp [get?_ofList, find])
  · intro h k' v' hsel
    rw [get?_ofList] at hsel
    by_cases hk : k = k'
    · subst hk
      simp only [find, if_true, Option.some.injEq] at hsel
      rw [h, hsel]
    · simp [find, hk] at hsel

/-- The maps have no key with different values. -/
def Agree (m n : GoMap β) : Prop := ∀ k v w, m.get? k = some v → n.get? k = some w → v = w

/-- **Two selectors can be satisfied together exactly when they agree.** -/
theorem exists_satisfies_iff (m n : GoMap β) :
    (∃ labels : GoMap β, Satisfies labels m ∧ Satisfies labels n) ↔ Agree m n := by
  constructor
  · rintro ⟨labels, hm, hn⟩ k v w hv hw
    exact Option.some.inj ((hm k v hv).symm.trans (hn k w hw))
  · intro h
    refine ⟨m.union n, fun k v hv => ?_, fun k w hw => ?_⟩
    · rw [get?_union, hv]; rfl
    · rw [get?_union]
      rcases hmk : m.get? k with _ | v
      · simpa using hw
      · rw [h k v w hmk hw]; rfl

theorem eq_of_agree {m n : GoMap β} (hkeys : ∀ k, (m.get? k).isSome = (n.get? k).isSome)
    (h : Agree m n) : m = n := by
  refine ext fun k => ?_
  have hk := hkeys k
  rcases hm : m.get? k with _ | v
  · rw [hm] at hk
    exact (Option.not_isSome_iff_eq_none.mp (by simp [← hk])).symm
  · rw [hm] at hk
    obtain ⟨w, hw⟩ := Option.isSome_iff_exists.mp hk.symm
    rw [hw, h k v w hm hw]

end GoMap

end OpenchamiOperator.Lib
