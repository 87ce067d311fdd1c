import SolverInput.Text

namespace SolverInput

universe u

/-- A finite map from texts: pairs with strictly increasing keys, in code-point order. Two tables
with the same look-ups are equal. -/
structure Table (α : Type u) where
  entries : List (Text × α)
  sorted : entries.Pairwise (·.1 < ·.1)

namespace Table

variable {α : Type u}

instance : EmptyCollection (Table α) :=
  ⟨⟨[], .nil⟩⟩

instance : Inhabited (Table α) :=
  ⟨∅⟩

instance [DecidableEq α] : DecidableEq (Table α) := fun a b =>
  decidable_of_iff (a.entries = b.entries) ⟨fun h => by cases a; cases b; cases h; rfl, congrArg _⟩

def keys (t : Table α) : List Text :=
  t.entries.map (·.1)

def size (t : Table α) : Nat :=
  t.entries.length

def isEmpty (t : Table α) : Bool :=
  t.entries.isEmpty

def find (k : Text) : List (Text × α) → Option α
  | [] => none
  | (k', v) :: rest => if k' = k then some v else find k rest

def get? (t : Table α) (k : Text) : Option α :=
  find k t.entries

def contains (t : Table α) (k : Text) : Bool :=
  (t.get? k).isSome

/-- Gives the key the value that `f` makes of its old one, at its place in the order. -/
def place (k : Text) (f : Option α → α) : List (Text × α) → List (Text × α)
  | [] => [(k, f none)]
  | (k', v) :: rest =>
    if k < k' then (k, f none) :: (k', v) :: rest
    else if k = k' then (k, f (some v)) :: rest
    else (k', v) :: place k f rest

theorem fst_of_mem_place {k : Text} {f : Option α → α} {es : List (Text × α)} {e : Text × α}
    (h : e ∈ place k f es) : e.1 = k ∨ e ∈ es := by
  induction es with
  | nil =>
    simp only [place, List.mem_singleton] at h
    exact .inl (h ▸ rfl)
  | cons head rest ih =>
    simp only [place] at h
    split at h
    · rcases List.mem_cons.1 h with rfl | h
      · exact .inl rfl
      · exact .inr h
    · split at h
      · rcases List.mem_cons.1 h with rfl | h
        · exact .inl rfl
        · exact .inr (List.mem_cons_of_mem _ h)
      · rcases List.mem_cons.1 h with rfl | h
        · exact .inr List.mem_cons_self
        · exact (ih h).imp_right (List.mem_cons_of_mem _)

theorem place_sorted (k : Text) (f : Option α → α) {es : List (Text × α)}
    (h : es.Pairwise (·.1 < ·.1)) : (place k f es).Pairwise (·.1 < ·.1) := by
  induction es with
  | nil => exact List.pairwise_singleton _ _
  | cons head rest ih =>
    obtain ⟨below, tail⟩ := List.pairwise_cons.1 h
    simp only [place]
    split
    · rename_i lt
      refine List.pairwise_cons.2 ⟨fun e he => ?_, h⟩
      rcases List.mem_cons.1 he with rfl | he
      · exact lt
      · exact List.lt_trans lt (below e he)
    · split
      · rename_i eq
        exact List.pairwise_cons.2 ⟨fun e he => eq ▸ below e he, tail⟩
      · rename_i not_lt ne
        refine List.pairwise_cons.2 ⟨fun e he => ?_, ih tail⟩
        rcases fst_of_mem_place he with eq | he
        · rw [eq]
          exact ((Std.lt_trichotomy k head.1).resolve_left not_lt).resolve_left ne
        · exact below e he

def alter (t : Table α) (k : Text) (f : Option α → α) : Table α :=
  ⟨place k f t.entries, place_sorted k f t.sorted⟩

def insert (t : Table α) (k : Text) (v : α) : Table α :=
  t.alter k fun _ => v

def erase (t : Table α) (k : Text) : Table α :=
  ⟨t.entries.filter (·.1 ≠ k), t.sorted.filter _⟩

/-- What a key holds after `w` has come to `v`, if there was one. -/
def join (f : α → α → α) (w : α) : Option α → α
  | none => w
  | some v => f v w

/-- The entries of both; where both have a key, `f` joins the two values. -/
def merge (f : α → α → α) (a b : Table α) : Table α :=
  b.entries.foldl (fun t e => t.alter e.1 (join f e.2)) a

/-- Of several pairs with one key the last counts. -/
def ofList (es : List (Text × α)) : Table α :=
  es.foldl (fun t e => t.insert e.1 e.2) ∅

theorem find_eq_none {k : Text} {es : List (Text × α)} (h : ∀ e ∈ es, k < e.1) :
    find k es = none := by
  induction es with
  | nil => rfl
  | cons e rest ih =>
    have ne : e.1 ≠ k := fun eq => List.lt_irrefl k (eq ▸ h e List.mem_cons_self)
    simp only [find, if_neg ne]
    exact ih fun e he => h e (List.mem_cons_of_mem _ he)

theorem find_place (k k' : Text) (f : Option α → α) {es : List (Text × α)}
    (h : es.Pairwise (·.1 < ·.1)) :
    find k' (place k f es) = if k' = k then some (f (find k es)) else find k' es := by
  induction es with
  | nil => simp [place, find, eq_comm]
  | cons head rest ih =>
    obtain ⟨below, tail⟩ := List.pairwise_cons.1 h
    simp only [place]
    split
    · rename_i lt
      have ne : head.1 ≠ k := fun eq => List.lt_irrefl k (by rw [eq] at lt; exact lt)
      have none_k : find k rest = none := find_eq_none fun e he => List.lt_trans lt (below e he)
      by_cases hk : k' = k
      · subst hk
        simp [find, ne, none_k]
      · simp [find, hk, Ne.symm hk]
    · split
      · rename_i eq
        subst eq
        by_cases hk : k' = head.1
        · subst hk
          simp [find]
        · simp [find, hk, Ne.symm hk]
      · rename_i ne
        have ne' : head.1 ≠ k := Ne.symm ne
        by_cases hk : k' = k
        · subst hk
          simp [find, ne', ih tail]
        · by_cases hh : head.1 = k'
          · simp [find, hh, hk]
          · simp [find, hh, ih tail, hk]

@[simp] theorem get?_alter (t : Table α) (k k' : Text) (f : Option α → α) :
    (t.alter k f).get? k' = if k' = k then some (f (t.get? k)) else t.get? k' :=
  find_place k k' f t.sorted

@[simp] theorem get?_insert (t : Table α) (k k' : Text) (v : α) :
    (t.insert k v).get? k' = if k' = k then some v else t.get? k' :=
  get?_alter t k k' _

theorem isSome_get?_ofList {k : Text} {es : List (Text × α)} (h : k ∈ es.map (·.1)) :
    ((ofList es).get? k).isSome := by
  have hfold : ∀ (es : List (Text × α)) (t : Table α), (t.get? k).isSome ∨ k ∈ es.map (·.1) →
      ((es.foldl (fun t e => t.insert e.1 e.2) t).get? k).isSome := by
    intro es
    induction es with
    | nil =>
      intro t ht
      simpa using ht
    | cons e es ih =>
      intro t ht
      apply ih
      rw [get?_insert]
      split
      · exact .inl rfl
      · rename_i ne
        simpa [ne] using ht
  exact hfold es ∅ (.inr h)

theorem entries_ext {es fs : List (Text × α)} (hes : es.Pairwise (·.1 < ·.1))
    (hfs : fs.Pairwise (·.1 < ·.1)) (h : ∀ k, find k es = find k fs) : es = fs := by
  induction es generalizing fs with
  | nil =>
    cases fs with
    | nil => rfl
    | cons f fs => simpa [find] using h f.1
  | cons e es ih =>
    obtain ⟨below_e, tail_e⟩ := List.pairwise_cons.1 hes
    cases fs with
    | nil => simpa [find] using h e.1
    | cons f fs =>
      obtain ⟨below_f, tail_f⟩ := List.pairwise_cons.1 hfs
      have key : e.1 = f.1 := by
        rcases Std.lt_trichotomy e.1 f.1 with lt | eq | lt
        · have absent : find e.1 (f :: fs) = none := find_eq_none fun g hg =>
            (List.mem_cons.1 hg).elim (fun eq => eq ▸ lt) fun hg => List.lt_trans lt (below_f g hg)
          simpa [find] using (h e.1).trans absent
        · exact eq
        · have absent : find f.1 (e :: es) = none := find_eq_none fun g hg =>
            (List.mem_cons.1 hg).elim (fun eq => eq ▸ lt) fun hg => List.lt_trans lt (below_e g hg)
          simpa [find] using (h f.1).symm.trans absent
      have value : e.2 = f.2 := by
        simpa [find, key] using h e.1
      have rest : es = fs := ih tail_e tail_f fun k => by
        by_cases hk : e.1 = k
        · rw [find_eq_none fun g hg => hk ▸ below_e g hg,
            find_eq_none fun g hg => hk ▸ key ▸ below_f g hg]
        · simpa [find, hk, key ▸ hk] using h k
      rw [rest, Prod.ext key value]

theorem ext_get? {a b : Table α} (h : ∀ k, a.get? k = b.get? k) : a = b := by
  obtain ⟨es, hes⟩ := a
  obtain ⟨fs, hfs⟩ := b
  cases entries_ext hes hfs h
  rfl

@[simp] theorem get?_erase (t : Table α) (k k' : Text) :
    (t.erase k).get? k' = if k' = k then none else t.get? k' := by
  obtain ⟨es, h⟩ := t
  simp only [erase, get?]
  clear h
  induction es with
  | nil => simp [find]
  | cons e rest ih =>
    by_cases hk : e.1 = k
    · simp only [List.filter_cons, hk, ne_eq, not_true_eq_false, decide_false, Bool.false_eq_true,
        if_false, ih, find]
      by_cases hk' : k' = k
      · simp [hk']
      · simp [hk', Ne.symm hk']
    · simp only [List.filter_cons, ne_eq, hk, not_false_eq_true, decide_true, if_true, find, ih]
      by_cases hk' : k' = k
      · simp [hk', hk]
      · simp [hk']

@[simp] theorem get?_merge (f : α → α → α) (a b : Table α) (k : Text) :
    (merge f a b).get? k = Option.merge f (a.get? k) (b.get? k) := by
  obtain ⟨es, hes⟩ := b
  simp only [merge, get?]
  induction es generalizing a with
  | nil => simp [find]
  | cons e rest ih =>
    obtain ⟨below, tail⟩ := List.pairwise_cons.1 hes
    rw [List.foldl_cons, ih _ tail]
    simp only [find]
    by_cases hk : e.1 = k
    · have altered : (a.alter e.1 (join f e.2)).get? k = some (join f e.2 (a.get? k)) := by
        rw [get?_alter, if_pos hk.symm, hk]
      have absent : find k rest = none := find_eq_none fun g hg => hk ▸ below g hg
      simp only [get?] at altered
      rw [altered, absent, if_pos hk]
      cases find k a.entries <;> rfl
    · have unchanged : (a.alter e.1 (join f e.2)).get? k = a.get? k := by
        rw [get?_alter, if_neg (Ne.symm hk)]
      simp only [get?] at unchanged
      simp [hk, unchanged]

theorem find_eq_some_iff {k : Text} {v : α} {es : List (Text × α)}
    (h : es.Pairwise (·.1 < ·.1)) : find k es = some v ↔ (k, v) ∈ es := by
  induction es with
  | nil => simp [find]
  | cons e rest ih =>
    obtain ⟨below, tail⟩ := List.pairwise_cons.1 h
    simp only [find, List.mem_cons]
    split
    · rename_i hk
      subst hk
      have absent : (e.1, v) ∉ rest := fun hm => List.lt_irrefl e.1 (below (e.1, v) hm)
      simp [absent, Prod.ext_iff, eq_comm]
    · rename_i hk
      have other : (k, v) ≠ e := fun he => hk (congrArg Prod.fst he).symm
      simp [ih tail, other]

theorem mem_entries_iff {t : Table α} {k : Text} {v : α} :
    (k, v) ∈ t.entries ↔ t.get? k = some v :=
  (find_eq_some_iff t.sorted).symm

@[simp] theorem mem_keys_iff {t : Table α} {k : Text} : k ∈ t.keys ↔ (t.get? k).isSome := by
  simp [keys, mem_entries_iff, Option.isSome_iff_exists]

theorem keys_sorted (t : Table α) : t.keys.Pairwise (· < ·) :=
  List.pairwise_map.2 t.sorted

theorem keys_nodup (t : Table α) : t.keys.Nodup := by
  refine t.keys_sorted.imp ?_
  rintro k _ lt rfl
  exact List.lt_irrefl k lt

end Table

end SolverInput
