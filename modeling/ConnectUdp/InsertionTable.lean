import Mathlib.Data.List.AList

/-!
# Tables in the order of insertion

Association lists in which a new key goes to the back and a known one keeps its place.  A visit
goes through the keys and replaces what is found under each of them.
-/

namespace InsertionTable

variable {κ υ ω : Type*} [DecidableEq κ]

abbrev Table (κ υ : Type*) :=
  AList fun _ : κ => υ

def put (k : κ) (v : υ) (t : Table κ υ) : Table κ υ :=
  t.replace k v ∪ AList.singleton k v

variable {k k' : κ} {v : υ} {t : Table κ υ}

/-! ## Replacing and putting -/

theorem dlookup_kreplace_self {β : κ → Type*} {b : β k} {l : List (Sigma β)} (h : k ∈ l.keys) :
    (l.kreplace k b).dlookup k = some b := by
  induction l with
  | nil => cases h
  | cons e l ih =>
    unfold List.kreplace
    by_cases hk : k = e.1
    · rw [List.lookmap_cons_some _ _ (dif_pos hk), List.dlookup_cons_eq]
    · rw [List.lookmap_cons_none _ _ (dif_neg hk), List.dlookup_cons_ne _ e hk]
      rw [List.keys_cons] at h
      exact ih ((List.mem_cons.mp h).resolve_left hk)

theorem dlookup_kreplace_of_ne {β : κ → Type*} {b : β k} (h : k' ≠ k) (l : List (Sigma β)) :
    (l.kreplace k b).dlookup k' = l.dlookup k' := by
  induction l with
  | nil => rfl
  | cons e l ih =>
    obtain ⟨j, c⟩ := e
    unfold List.kreplace
    by_cases hk : k = j
    · rw [List.lookmap_cons_some _ _ (dif_pos hk), List.dlookup_cons_ne _ ⟨k, b⟩ h,
        List.dlookup_cons_ne l ⟨j, c⟩ (hk ▸ h)]
    · rw [List.lookmap_cons_none _ _ (dif_neg hk)]
      by_cases hk' : k' = j
      · subst hk'
        rw [List.dlookup_cons_eq, List.dlookup_cons_eq]
      · rw [List.dlookup_cons_ne _ ⟨j, c⟩ hk', List.dlookup_cons_ne l ⟨j, c⟩ hk']
        exact ih

@[simp] theorem lookup_replace_self (h : k ∈ t) : (t.replace k v).lookup k = some v :=
  dlookup_kreplace_self h

@[simp] theorem lookup_replace_of_ne (h : k' ≠ k) : (t.replace k v).lookup k' = t.lookup k' :=
  dlookup_kreplace_of_ne h t.entries

@[simp] theorem lookup_put_self (k : κ) (v : υ) (t : Table κ υ) :
    (put k v t).lookup k = some v := by
  unfold put
  by_cases hk : k ∈ t
  · rw [AList.lookup_union_left (AList.mem_replace.mpr hk), lookup_replace_self hk]
  · rw [AList.lookup_union_right fun hk' => hk (AList.mem_replace.mp hk')]
    exact List.dlookup_cons_eq (β := fun _ => υ) [] k v

@[simp] theorem lookup_put_of_ne (h : k' ≠ k) : (put k v t).lookup k' = t.lookup k' := by
  unfold put
  by_cases hk : k' ∈ t
  · rw [AList.lookup_union_left (AList.mem_replace.mpr hk), lookup_replace_of_ne h]
  · rw [AList.lookup_union_right fun hk' => hk (AList.mem_replace.mp hk'),
      AList.lookup_eq_none.mpr hk]
    exact List.dlookup_cons_ne (β := fun _ => υ) [] ⟨k, v⟩ h

/-! ## Visiting every key -/

-- What the visits give, and the table afterwards.
def visit (f : υ → List ω × υ) : List κ → Table κ υ → List ω × Table κ υ
  | [], t => ([], t)
  | k :: ks, t =>
    match t.lookup k with
    | none => visit f ks t
    | some v =>
      let rest := visit f ks (t.replace k (f v).2)
      ((f v).1 ++ rest.1, rest.2)

def visitAll (f : υ → List ω × υ) (t : Table κ υ) : List ω × Table κ υ :=
  visit f t.keys t

-- What a visit to this key gives.
def found (f : υ → List ω × υ) (t : Table κ υ) (k : κ) : List ω :=
  (t.lookup k).elim [] fun v => (f v).1

section visit

variable {f : υ → List ω × υ} {ks : List κ}

theorem mem_found {o : ω} (h : o ∈ found f t k) : ∃ v, t.lookup k = some v ∧ o ∈ (f v).1 := by
  rw [found] at h
  cases hk : t.lookup k with
  | none =>
    rw [hk] at h
    cases h
  | some v =>
    rw [hk] at h
    exact ⟨v, rfl, h⟩

-- A visit to `k` is one to the others with the replaced value.
theorem visit_cons (k : κ) (ks : List κ) (t : Table κ υ) : ∃ t' : Table κ υ,
    visit f (k :: ks) t = (found f t k ++ (visit f ks t').1, (visit f ks t').2) ∧
    t'.lookup k = (t.lookup k).map (fun v => (f v).2) ∧
    ∀ k', k' ≠ k → t'.lookup k' = t.lookup k' := by
  rw [visit, found]
  cases hk : t.lookup k with
  | none => exact ⟨t, rfl, hk, fun _ _ => rfl⟩
  | some v =>
    have hmem : k ∈ t := AList.lookup_isSome.mp (hk ▸ rfl)
    exact ⟨t.replace k (f v).2, rfl, lookup_replace_self hmem, fun _ h => lookup_replace_of_ne h⟩

theorem lookup_visit (h : ks.Nodup) (t : Table κ υ) (k' : κ) : (visit f ks t).2.lookup k' =
    if k' ∈ ks then (t.lookup k').map (fun v => (f v).2) else t.lookup k' := by
  induction ks generalizing t with
  | nil => rfl
  | cons k ks ih =>
    obtain ⟨hk, hks⟩ := List.nodup_cons.mp h
    obtain ⟨t', heq, hself, hother⟩ := visit_cons (f := f) k ks t
    rw [heq]
    dsimp only
    rw [ih hks t']
    by_cases hkk : k' = k
    · rw [hkk, if_neg hk, if_pos List.mem_cons_self, hself]
    · rw [hother k' hkk]
      by_cases hk' : k' ∈ ks
      · rw [if_pos hk', if_pos (List.mem_cons_of_mem k hk')]
      · rw [if_neg hk', if_neg (List.not_mem_cons_of_ne_of_not_mem hkk hk')]

theorem visit_fst (h : ks.Nodup) (t : Table κ υ) : (visit f ks t).1 = ks.flatMap (found f t) := by
  induction ks generalizing t with
  | nil => rfl
  | cons k ks ih =>
    obtain ⟨hk, hks⟩ := List.nodup_cons.mp h
    obtain ⟨t', heq, -, hother⟩ := visit_cons (f := f) k ks t
    rw [heq, List.flatMap_cons]
    dsimp only
    rw [ih hks t']
    congr 1
    apply List.flatMap_congr
    intro k' hk'
    unfold found
    rw [hother k' fun hkk => hk (hkk ▸ hk')]

@[simp] theorem lookup_visitAll (f : υ → List ω × υ) (t : Table κ υ) (k : κ) :
    (visitAll f t).2.lookup k = (t.lookup k).map fun v => (f v).2 := by
  rw [visitAll, lookup_visit t.keys_nodup]
  by_cases hk : k ∈ t.keys
  · rw [if_pos hk]
  · rw [if_neg hk, AList.lookup_eq_none.mpr fun hmem => hk (AList.mem_keys.mp hmem)]
    rfl

theorem mem_visitAll {o : ω} (h : o ∈ (visitAll f t).1) :
    ∃ k v, t.lookup k = some v ∧ o ∈ (f v).1 := by
  rw [visitAll, visit_fst t.keys_nodup] at h
  obtain ⟨k, -, ho⟩ := List.mem_flatMap.mp h
  exact ⟨k, mem_found ho⟩

theorem filter_flatMap_of_nodup {key : ω → κ} {g : κ → List ω} (h : ks.Nodup)
    (hkey : ∀ k ∈ ks, ∀ o ∈ g k, key o = k) (k : κ) :
    (ks.flatMap g).filter (fun o => key o = k) = if k ∈ ks then g k else [] := by
  induction ks with
  | nil => rfl
  | cons k' ks ih =>
    obtain ⟨hk', hks⟩ := List.nodup_cons.mp h
    have hfirst := hkey k' List.mem_cons_self
    rw [List.flatMap_cons, List.filter_append,
      ih hks fun j hj => hkey j (List.mem_cons_of_mem k' hj)]
    by_cases hkk : k = k'
    · subst hkk
      rw [if_neg hk', if_pos List.mem_cons_self, List.append_nil]
      exact List.filter_eq_self.mpr fun o ho => decide_eq_true (hfirst o ho)
    · have hnone : (g k').filter (fun o => key o = k) = [] := by
        apply List.filter_eq_nil_iff.mpr
        intro o ho heq
        exact hkk ((of_decide_eq_true heq).symm.trans (hfirst o ho))
      rw [hnone, List.nil_append]
      by_cases hk : k ∈ ks
      · rw [if_pos hk, if_pos (List.mem_cons_of_mem k' hk)]
      · rw [if_neg hk, if_neg (List.not_mem_cons_of_ne_of_not_mem hkk hk)]

/-- When everything shows its key, what one key has given can be told from the rest. -/
theorem filter_visitAll {key : ω → κ}
    (hkey : ∀ k v, t.lookup k = some v → ∀ o ∈ (f v).1, key o = k) (k : κ) :
    (visitAll f t).1.filter (fun o => key o = k) = found f t k := by
  rw [visitAll, visit_fst t.keys_nodup, filter_flatMap_of_nodup t.keys_nodup]
  · by_cases hk : k ∈ t.keys
    · rw [if_pos hk]
    · rw [if_neg hk, found, AList.lookup_eq_none.mpr fun hmem => hk (AList.mem_keys.mp hmem)]
      rfl
  · intro k' _ o ho
    obtain ⟨v, hk', ho⟩ := mem_found ho
    exact hkey k' v hk' o ho

end visit

end InsertionTable
