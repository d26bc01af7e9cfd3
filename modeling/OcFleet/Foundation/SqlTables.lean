import Mathlib

/-!
Tables of a relational store with text key columns. A table carries the proof
that each of its unique columns has no repeated value, so an insert or an update
that would break a constraint has no result. Rows are kept in insertion order.
-/

namespace OcFleet.Foundation

/-- The columns of `keys` are the primary key and the unique columns. -/
structure Table (R : Type) (keys : List (R → String)) where
  rows : List R
  unique : ∀ key ∈ keys, (rows.map key).Nodup

namespace Table

variable {R : Type} {keys : List (R → String)}
variable {t t' : Table R keys} {selects : R → Bool} {f : R → R} {n : Nat} {r : R}

def empty : Table R keys where
  rows := []
  unique := by simp

/-- The row with a given value in a column; the column is one of the keys. -/
def find? (t : Table R keys) (key : R → String) (value : String) : Option R :=
  t.rows.find? (fun r => key r == value)

def Clashes (t : Table R keys) (r : R) : Prop :=
  ∃ key ∈ keys, ∃ x ∈ t.rows, key x = key r

instance (t : Table R keys) (r : R) : Decidable (t.Clashes r) :=
  inferInstanceAs (Decidable (∃ key ∈ keys, ∃ x ∈ t.rows, key x = key r))

/-- The insert statement; no result when it violates a unique column. -/
def insert (t : Table R keys) (r : R) : Option (Table R keys) :=
  if h : t.Clashes r then none
  else some
    { rows := t.rows ++ [r]
      unique := by
        intro key hKey
        rw [List.map_append, List.map_singleton, List.nodup_append]
        refine ⟨t.unique key hKey, List.nodup_singleton _, ?_⟩
        intro a ha b hb hab
        obtain ⟨x, hx, rfl⟩ := List.mem_map.mp ha
        exact h ⟨key, hKey, x, hx, hab.trans (List.mem_singleton.mp hb)⟩ }

def change (selects : R → Bool) (f : R → R) (r : R) : R :=
  if selects r then f r else r

/-- The update statement with the number of rows it affects; no result when it
violates a unique column. -/
def update (t : Table R keys) (selects : R → Bool) (f : R → R) :
    Option (Table R keys × Nat) :=
  if h : ∀ key ∈ keys, ((t.rows.map (change selects f)).map key).Nodup then
    some ({ rows := t.rows.map (change selects f), unique := h }, t.rows.countP selects)
  else none

def delete (t : Table R keys) (selects : R → Bool) : Table R keys × Nat :=
  ({ rows := t.rows.filter (fun r => !selects r)
     unique := fun key hKey =>
      (t.unique key hKey).sublist (List.filter_sublist.map key) },
    t.rows.countP selects)

variable {key : R → String} {x : R} {value : String}

/-- A value of a unique column determines the row. -/
theorem eq_of_key_eq (t : Table R keys) (hKey : key ∈ keys)
    {y : R} (hx : x ∈ t.rows) (hy : y ∈ t.rows) (hxy : key x = key y) : x = y :=
  List.inj_on_of_nodup_map (t.unique key hKey) hx hy hxy

theorem find?_some (h : t.find? key value = some r) :
    r ∈ t.rows ∧ key r = value := by
  refine ⟨List.mem_of_find?_eq_some h, ?_⟩
  have hFound := List.find?_some h
  simpa using hFound

theorem find?_none (h : t.find? key value = none) :
    ∀ x ∈ t.rows, key x ≠ value := by
  intro x hx
  have hMiss := List.find?_eq_none.mp h x hx
  simpa using hMiss

theorem find?_eq_some_iff (t : Table R keys) (hKey : key ∈ keys) (value : String) (r : R) :
    t.find? key value = some r ↔ r ∈ t.rows ∧ key r = value := by
  constructor
  · exact find?_some
  · rintro ⟨hr, hValue⟩
    cases hFind : t.find? key value with
    | none => exact absurd hValue (find?_none hFind r hr)
    | some x =>
      obtain ⟨hx, hxValue⟩ := find?_some hFind
      rw [t.eq_of_key_eq hKey hx hr (hxValue.trans hValue.symm)]

theorem rows_insert (h : t.insert r = some t') :
    t'.rows = t.rows ++ [r] := by
  unfold insert at h
  split at h
  · cases h
  · cases h
    rfl

theorem mem_insert (h : t.insert r = some t') (x : R) :
    x ∈ t'.rows ↔ x ∈ t.rows ∨ x = r := by
  rw [rows_insert h]
  simp

theorem insert_fresh (h : t.insert r = some t') (hKey : key ∈ keys)
    (hx : x ∈ t.rows) : key x ≠ key r := by
  unfold insert at h
  split at h
  · cases h
  · rename_i hClash
    intro hEq
    exact hClash ⟨key, hKey, x, hx, hEq⟩

section

variable (h : t.update selects f = some (t', n))

include h

theorem rows_update : t'.rows = t.rows.map (change selects f) := by
  unfold update at h
  split at h
  · cases h
    rfl
  · cases h

theorem mem_update (x : R) : x ∈ t'.rows ↔ ∃ y ∈ t.rows, change selects f y = x := by
  rw [rows_update h]
  exact List.mem_map

/-- A row after an update is an old row the update left alone, or the image of one
it selected. -/
theorem mem_update_cases (hx : x ∈ t'.rows) :
    (x ∈ t.rows ∧ selects x = false) ∨ ∃ y ∈ t.rows, selects y = true ∧ f y = x := by
  obtain ⟨y, hy, rfl⟩ := (mem_update h x).mp hx
  cases hSel : selects y with
  | false =>
    rw [change, hSel]
    exact .inl ⟨hy, hSel⟩
  | true =>
    rw [change, hSel]
    exact .inr ⟨y, hy, hSel, rfl⟩

theorem mem_of_not_selected (hx : x ∈ t.rows)
    (hSel : selects x = false) : x ∈ t'.rows :=
  (mem_update h x).mpr ⟨x, hx, by rw [change, hSel]; rfl⟩

theorem mem_of_selected (hx : x ∈ t.rows)
    (hSel : selects x = true) : f x ∈ t'.rows :=
  (mem_update h (f x)).mpr ⟨x, hx, by rw [change, hSel]; rfl⟩

theorem update_affected : n = t.rows.countP selects := by
  unfold update at h
  split at h
  · cases h
    rfl
  · cases h

/-- An update that keeps a key column changes what a lookup in it finds, not
whether it finds something. -/
theorem find?_update (hKeeps : ∀ x ∈ t.rows, selects x = true → key (f x) = key x)
    (value : String) :
    t'.find? key value = (t.find? key value).map (change selects f) := by
  have hRows : t'.rows = t.rows.map (change selects f) := rows_update h
  have hKey : ∀ x ∈ t.rows, key (change selects f x) = key x := by
    intro x hx
    cases hSel : selects x with
    | false => rw [change, hSel]; rfl
    | true => rw [change, hSel]; exact hKeeps x hx hSel
  unfold find?
  rw [hRows]
  clear hRows h hKeeps
  generalize t.rows = rows at hKey ⊢
  induction rows with
  | nil => rfl
  | cons x rows ih =>
    have hHead := hKey x (List.mem_cons_self ..)
    have hTail := ih (fun y hy => hKey y (List.mem_cons_of_mem _ hy))
    rw [List.map_cons, List.find?_cons, List.find?_cons, hHead]
    cases key x == value with
    | true => rfl
    | false => exact hTail

end

theorem find?_insert (h : t.insert r = some t') (hKey : key ∈ keys) (value : String) :
    t'.find? key value = if key r = value then some r else t.find? key value := by
  by_cases hValue : key r = value
  · rw [if_pos hValue]
    exact (t'.find?_eq_some_iff hKey value r).mpr ⟨(mem_insert h r).mpr (.inr rfl), hValue⟩
  · rw [if_neg hValue]
    cases hFind : t.find? key value with
    | some x =>
      obtain ⟨hx, hxValue⟩ := find?_some hFind
      exact (t'.find?_eq_some_iff hKey value x).mpr ⟨(mem_insert h x).mpr (.inl hx), hxValue⟩
    | none =>
      refine List.find?_eq_none.mpr ?_
      intro x hx
      rcases (mem_insert h x).mp hx with hOld | rfl
      · simpa using find?_none hFind x hOld
      · simpa using hValue

theorem find?_fresh (h : t.insert r = some t') (hKey : key ∈ keys) :
    t.find? key (key r) = none := by
  refine List.find?_eq_none.mpr ?_
  intro x hx
  simpa using insert_fresh h hKey hx

/-- An update that keeps a property of rows keeps the number of rows with it. -/
theorem countP_update (h : t.update selects f = some (t', n)) {p : R → Bool}
    (hKeeps : ∀ x, p (f x) = p x) :
    t'.rows.countP p = t.rows.countP p := by
  rw [rows_update h, List.countP_map]
  refine List.countP_congr ?_
  intro x _
  cases hSel : selects x with
  | false => simp [change, hSel]
  | true => simp [change, hSel, hKeeps]

theorem countP_insert (h : t.insert r = some t') (p : R → Bool) :
    t'.rows.countP p = t.rows.countP p + (if p r then 1 else 0) := by
  rw [rows_insert h, List.countP_append, List.countP_singleton]

/-- An update that affected some row selected one. -/
theorem exists_of_affected (h : t.update selects f = some (t', n)) (hPos : 0 < n) :
    ∃ x ∈ t.rows, selects x = true := by
  rw [update_affected h] at hPos
  exact List.countP_pos_iff.mp hPos

/-- An update of one row of a key changes that row and no other. -/
theorem update_one (hKey : key ∈ keys)
    (hSelects : ∀ x, selects x = true → key x = value) (hKeeps : ∀ x, key (f x) = key x)
    (h : t.update selects f = some (t', 1)) :
    ∃ x, t.find? key value = some x ∧ selects x = true ∧ t'.find? key value = some (f x) ∧
      ∀ other, other ≠ value → t'.find? key other = t.find? key other := by
  obtain ⟨x, hx, hSel⟩ := exists_of_affected h Nat.one_pos
  have hFound : t.find? key value = some x :=
    (t.find?_eq_some_iff hKey value x).mpr ⟨hx, hSelects x hSel⟩
  have hAfter := find?_update h (fun y _ _ => hKeeps y)
  refine ⟨x, hFound, hSel, ?_, ?_⟩
  · rw [hAfter, hFound, Option.map_some, change, hSel, if_pos rfl]
  · intro other hOther
    rw [hAfter]
    cases hFind : t.find? key other with
    | none => rfl
    | some y =>
      have hMiss : selects y ≠ true := fun hSelY =>
        hOther ((find?_some hFind).2.symm.trans (hSelects y hSelY))
      rw [Option.map_some, change, if_neg hMiss]

/-- A row whose key columns are all new is inserted. -/
theorem insert_accepts (t : Table R keys) (h : ¬ t.Clashes r) :
    ∃ t', t.insert r = some t' ∧ t'.rows = t.rows ++ [r] := by
  unfold insert
  rw [dif_neg h]
  exact ⟨_, rfl, rfl⟩

/-- An update that keeps the key columns and selects one row is carried out. -/
theorem update_accepts (t : Table R keys) (hKey : key ∈ keys)
    (hKeeps : ∀ key ∈ keys, ∀ x ∈ t.rows, selects x = true → key (f x) = key x)
    (hx : x ∈ t.rows) (hSel : selects x = true) (hOnly : ∀ y, selects y = true → key y = key x) :
    ∃ t', t.update selects f = some (t', 1) ∧ t'.rows = t.rows.map (change selects f) := by
  have hMap : ∀ column ∈ keys,
      (t.rows.map (change selects f)).map column = t.rows.map column := by
    intro column hColumn
    rw [List.map_map]
    refine List.map_congr_left fun y hy => ?_
    cases hSelY : selects y with
    | false => simp [change, hSelY]
    | true => simpa [change, hSelY] using hKeeps column hColumn y hy hSelY
  have hUnique : ∀ column ∈ keys, ((t.rows.map (change selects f)).map column).Nodup := by
    intro column hColumn
    rw [hMap column hColumn]
    exact t.unique column hColumn
  have hCount : t.rows.countP selects = 1 := by
    have hFilter : t.rows.filter selects = [x] := by
      have hNodup : (t.rows.filter selects).Nodup :=
        (List.Nodup.of_map key (t.unique key hKey)).filter _
      by_contra hOther
      obtain hNone | ⟨y, hy, hyx⟩ := (hNodup.ne_singleton_iff x).mp hOther
      · have hMem : x ∈ t.rows.filter selects := List.mem_filter.mpr ⟨hx, hSel⟩
        rw [hNone] at hMem
        cases hMem
      · obtain ⟨hMem, hSelY⟩ := List.mem_filter.mp hy
        exact hyx (t.eq_of_key_eq hKey hMem hx (hOnly y hSelY))
    rw [List.countP_eq_length_filter, hFilter]
    rfl
  refine ⟨⟨_, hUnique⟩, ?_, rfl⟩
  rw [update, dif_pos hUnique, hCount]

theorem mem_delete (t : Table R keys) (selects : R → Bool) (x : R) :
    x ∈ (t.delete selects).1.rows ↔ x ∈ t.rows ∧ selects x = false := by
  simp [delete, List.mem_filter]

/-- Every row has a successor in the later table. -/
def Carried (Rel : R → R → Prop) (t t' : Table R keys) : Prop :=
  ∀ x ∈ t.rows, ∃ y ∈ t'.rows, Rel x y

section

variable {Rel : R → R → Prop} {t t' t'' : Table R keys}

theorem Carried.refl (hRefl : ∀ x, Rel x x) (t : Table R keys) : Carried Rel t t :=
  fun x hx => ⟨x, hx, hRefl x⟩

theorem Carried.trans (hTrans : ∀ x y z, Rel x y → Rel y z → Rel x z) (h : Carried Rel t t')
    (h' : Carried Rel t' t'') : Carried Rel t t'' := by
  intro x hx
  obtain ⟨y, hy, hxy⟩ := h x hx
  obtain ⟨z, hz, hyz⟩ := h' y hy
  exact ⟨z, hz, hTrans x y z hxy hyz⟩

theorem Carried.mono {Rel' : R → R → Prop} (hRel : ∀ x y, Rel x y → Rel' x y)
    (h : Carried Rel t t') : Carried Rel' t t' := by
  intro x hx
  obtain ⟨y, hy, hxy⟩ := h x hx
  exact ⟨y, hy, hRel x y hxy⟩

theorem Carried.insert {r : R} (h : Carried Rel t t') (hInsert : t'.insert r = some t'') :
    Carried Rel t t'' := by
  intro x hx
  obtain ⟨y, hy, hxy⟩ := h x hx
  exact ⟨y, (mem_insert hInsert y).mpr (.inl hy), hxy⟩

theorem Carried.update {selects : R → Bool} {f : R → R} {n : Nat}
    (hUpdate : t.update selects f = some (t', n)) (hRefl : ∀ x, Rel x x)
    (hSelected : ∀ x ∈ t.rows, selects x = true → Rel x (f x)) : Carried Rel t t' := by
  intro x hx
  cases hSel : selects x with
  | false => exact ⟨x, mem_of_not_selected hUpdate hx hSel, hRefl x⟩
  | true => exact ⟨f x, mem_of_selected hUpdate hx hSel, hSelected x hx hSel⟩

end

end Table

end OcFleet.Foundation
