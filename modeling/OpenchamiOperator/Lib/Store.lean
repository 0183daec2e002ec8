import Mathlib.Data.List.Nodup

/-! # A store of named objects

The objects of an API server, at most one for each key, in the order in which they were created.
`apply` creates an object or replaces the one with its key; `delete` removes the object with a given
key. `mem_apply`, `mem_delete` and `mem_applyAll` say what is stored afterwards. -/

namespace OpenchamiOperator.Lib

variable {α κ : Type}

/-- Objects with distinct keys. -/
structure Store (key : α → κ) where
  objects : List α
  nodup : (objects.map key).Nodup

namespace Store

variable {key : α → κ}

/-- The store without objects. -/
def empty : Store key := ⟨[], by simp⟩

instance : Membership α (Store key) := ⟨fun s a => a ∈ s.objects⟩

theorem mem_def {s : Store key} {a : α} : a ∈ s ↔ a ∈ s.objects := Iff.rfl

@[simp] theorem not_mem_empty (a : α) : ¬ a ∈ (empty : Store key) := by simp [mem_def, empty]

theorem eq_of_key_eq {s : Store key} {a b : α} (ha : a ∈ s) (hb : b ∈ s) (h : key a = key b) :
    a = b :=
  List.inj_on_of_nodup_map s.nodup ha hb h

variable [DecidableEq κ]

/-- The object with key `k`. -/
def get? (s : Store key) (k : κ) : Option α := s.objects.find? fun a => key a = k

/-- Some object has key `k`. -/
def has (s : Store key) (k : κ) : Bool := s.objects.any fun a => key a = k

theorem has_iff {s : Store key} {k : κ} : s.has k = true ↔ ∃ a ∈ s, key a = k := by
  simp [has, mem_def]

theorem get?_eq_some_iff {s : Store key} {k : κ} {a : α} :
    s.get? k = some a ↔ a ∈ s ∧ key a = k := by
  constructor
  · intro h
    exact ⟨List.mem_of_find?_eq_some h, by simpa using List.find?_some h⟩
  · rintro ⟨ha, rfl⟩
    rcases hf : s.get? (key a) with _ | b
    · have := List.find?_eq_none.mp hf a ha
      simp at this
    · have hb : b ∈ s := List.mem_of_find?_eq_some hf
      have hk : key b = key a := by simpa using List.find?_some hf
      rw [eq_of_key_eq hb ha hk]

/-- Replace `a` for every object with its key. -/
def replace (key : α → κ) (a : α) (l : List α) : List α :=
  l.map fun b => if key b = key a then a else b

theorem map_key_replace (a : α) (l : List α) : (replace key a l).map key = l.map key := by
  rw [replace, List.map_map]
  refine List.map_congr_left fun b _ => ?_
  simp only [Function.comp]
  split_ifs with h
  · exact h.symm
  · rfl

/-- Create the object `a`, or replace the object with its key by it. -/
def apply (s : Store key) (a : α) : Store key :=
  if h : key a ∈ s.objects.map key then
    ⟨replace key a s.objects, by rw [map_key_replace]; exact s.nodup⟩
  else
    ⟨s.objects ++ [a], by
      rw [List.map_append]
      exact List.Nodup.append s.nodup (by simp) (by simpa using h)⟩

/-- Remove the object with key `k`. -/
def delete (s : Store key) (k : κ) : Store key :=
  ⟨s.objects.filter fun a => key a ≠ k, s.nodup.sublist (List.filter_sublist.map key)⟩

theorem mem_apply {s : Store key} {a b : α} :
    b ∈ s.apply a ↔ b = a ∨ b ∈ s ∧ key b ≠ key a := by
  unfold apply
  split_ifs with h
  · simp only [mem_def, replace, List.mem_map]
    obtain ⟨c, hc, hck⟩ := List.mem_map.mp h
    constructor
    · rintro ⟨d, hd, rfl⟩
      split_ifs with hk
      · exact Or.inl rfl
      · exact Or.inr ⟨hd, hk⟩
    · rintro (rfl | ⟨hb, hk⟩)
      · exact ⟨c, hc, by rw [if_pos hck]⟩
      · exact ⟨b, hb, by rw [if_neg hk]⟩
  · simp only [mem_def, List.mem_append, List.mem_singleton]
    constructor
    · rintro (hb | rfl)
      · exact Or.inr ⟨hb, fun hk => h (List.mem_map.mpr ⟨b, hb, hk⟩)⟩
      · exact Or.inl rfl
    · rintro (rfl | ⟨hb, -⟩)
      · exact Or.inr rfl
      · exact Or.inl hb

theorem mem_delete {s : Store key} {k : κ} {b : α} : b ∈ s.delete k ↔ b ∈ s ∧ key b ≠ k := by
  simp [mem_def, delete]

theorem delete_of_not_has {s : Store key} {k : κ} (h : s.has k = false) : s.delete k = s := by
  have hne : ∀ a ∈ s.objects, key a ≠ k := by
    intro a ha hk
    have := has_iff.mpr ⟨a, ha, hk⟩
    simp [h] at this
  obtain ⟨l, hl⟩ := s
  simp only [delete, mk.injEq]
  exact List.filter_eq_self.mpr fun a ha => by simpa using hne a ha

theorem has_apply {s : Store key} {a : α} {k : κ} :
    (s.apply a).has k = true ↔ key a = k ∨ s.has k = true := by
  simp only [has_iff, mem_apply]
  constructor
  · rintro ⟨b, rfl | ⟨hb, -⟩, rfl⟩
    · exact Or.inl rfl
    · exact Or.inr ⟨b, hb, rfl⟩
  · rintro (rfl | ⟨b, hb, rfl⟩)
    · exact ⟨a, Or.inl rfl, rfl⟩
    · by_cases h : key b = key a
      · exact ⟨a, Or.inl rfl, h.symm⟩
      · exact ⟨b, Or.inr ⟨hb, h⟩, rfl⟩

/-! ### Applying and deleting several objects -/

theorem get?_eq_none_iff {s : Store key} {k : κ} : s.get? k = none ↔ ∀ a ∈ s, key a ≠ k := by
  unfold get?
  rw [List.find?_eq_none]
  simp [mem_def]

theorem get?_apply {s : Store key} {a : α} {k : κ} :
    (s.apply a).get? k = if key a = k then some a else s.get? k := by
  split_ifs with h
  · exact get?_eq_some_iff.mpr ⟨mem_apply.mpr (Or.inl rfl), h⟩
  · refine Option.ext fun b => ?_
    rw [get?_eq_some_iff, get?_eq_some_iff, mem_apply]
    constructor
    · rintro ⟨rfl | ⟨hb, -⟩, hk⟩
      · exact absurd hk h
      · exact ⟨hb, hk⟩
    · rintro ⟨hb, hk⟩
      exact ⟨Or.inr ⟨hb, fun hba => h (hba ▸ hk)⟩, hk⟩

theorem get?_delete {s : Store key} {j k : κ} :
    (s.delete j).get? k = if j = k then none else s.get? k := by
  split_ifs with h
  · rw [get?_eq_none_iff]
    exact fun b hb => h ▸ (mem_delete.mp hb).2
  · refine Option.ext fun b => ?_
    rw [get?_eq_some_iff, get?_eq_some_iff, mem_delete]
    constructor
    · exact fun hb => ⟨hb.1.1, hb.2⟩
    · exact fun hb => ⟨⟨hb.1, fun hbj => h (hbj.symm.trans hb.2)⟩, hb.2⟩

/-- Apply the objects of a list one after the other. -/
def applyAll (s : Store key) (l : List α) : Store key := l.foldl apply s

/-- Delete the objects with the keys of a list. -/
def deleteAll (s : Store key) (ks : List κ) : Store key := ks.foldl delete s

/-- After a list of objects with distinct keys: these, and the old objects with other keys. -/
theorem mem_applyAll : ∀ {l : List α} {s : Store key} {b : α}, (l.map key).Nodup →
    (b ∈ s.applyAll l ↔ b ∈ l ∨ b ∈ s ∧ ∀ a ∈ l, key b ≠ key a)
  | [], s, b, _ => by simp [applyAll]
  | a :: l, s, b, h => by
    obtain ⟨ha, hl⟩ := List.nodup_cons.mp h
    have ih := mem_applyAll (s := s.apply a) (b := b) hl
    have hcons : s.applyAll (a :: l) = (s.apply a).applyAll l := rfl
    rw [hcons, ih, mem_apply]
    rw [List.mem_cons, List.forall_mem_cons]
    constructor
    · rintro (hb | ⟨rfl | ⟨hb, hk⟩, hn⟩)
      · exact Or.inl (Or.inr hb)
      · exact Or.inl (Or.inl rfl)
      · exact Or.inr ⟨hb, hk, hn⟩
    · rintro ((rfl | hb) | ⟨hb, hk, hn⟩)
      · exact Or.inr ⟨Or.inl rfl, fun c hc hk => ha (List.mem_map.mpr ⟨c, hc, hk.symm⟩)⟩
      · exact Or.inl hb
      · exact Or.inr ⟨Or.inr ⟨hb, hk⟩, hn⟩

theorem has_applyAll {k : κ} : ∀ {l : List α} {s : Store key},
    (s.applyAll l).has k = true ↔ (∃ a ∈ l, key a = k) ∨ s.has k = true
  | [], s => by simp [applyAll]
  | a :: l, s => by
    have ih := has_applyAll (k := k) (l := l) (s := s.apply a)
    have hcons : s.applyAll (a :: l) = (s.apply a).applyAll l := rfl
    rw [hcons, ih, has_apply]
    simp only [List.mem_cons, exists_eq_or_imp]
    rw [or_left_comm, or_assoc]

theorem mem_deleteAll : ∀ {ks : List κ} {s : Store key} {b : α},
    b ∈ s.deleteAll ks ↔ b ∈ s ∧ key b ∉ ks
  | [], s, b => by simp [deleteAll]
  | k :: ks, s, b => by
    have ih : b ∈ (s.delete k).deleteAll ks ↔ b ∈ s.delete k ∧ key b ∉ ks := mem_deleteAll
    have hcons : s.deleteAll (k :: ks) = (s.delete k).deleteAll ks := rfl
    rw [hcons, ih, mem_delete, List.mem_cons, not_or]
    tauto

/-! ### Properties of all objects and of all pairs -/

/-- Two objects with different keys are always related by `R`. -/
def Pairs (R : α → α → Prop) (s : Store key) : Prop :=
  ∀ a ∈ s, ∀ b ∈ s, key a ≠ key b → R a b

omit [DecidableEq κ] in
theorem Pairs.empty (R : α → α → Prop) : Pairs R (Store.empty : Store key) :=
  fun a ha => absurd ha (not_mem_empty a)

theorem Pairs.apply {R : α → α → Prop} {s : Store key} {a : α} (h : Pairs R s)
    (ha : ∀ b ∈ s, key b ≠ key a → R a b ∧ R b a) : Pairs R (s.apply a) := by
  intro b hb c hc hne
  rcases mem_apply.mp hb with hba | ⟨hbs, hba⟩
  · rcases mem_apply.mp hc with hca | ⟨hcs, hca⟩
    · exact absurd (by rw [hba, hca]) hne
    · rw [hba]
      exact (ha c hcs hca).1
  · rcases mem_apply.mp hc with hca | ⟨hcs, hca⟩
    · rw [hca]
      exact (ha b hbs hba).2
    · exact h b hbs c hcs hne

theorem Pairs.delete {R : α → α → Prop} {s : Store key} (h : Pairs R s) (k : κ) :
    Pairs R (s.delete k) :=
  fun a ha b hb => h a (mem_delete.mp ha).1 b (mem_delete.mp hb).1

end Store

end OpenchamiOperator.Lib
