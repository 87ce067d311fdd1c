import SolverInput.Proofs.Merge

namespace SolverInput
set_option autoImplicit true

variable {l m : Listing} {id id' keyword name : Text} {a b : SectionListing}

/-- Some section of the listing whose name has this normal form has a keyword present that has this
normal form. -/
def Listing.Says (l : Listing) (id keyword : Text) : Prop :=
  ∃ name list, l.sections.get? name = some list ∧ normalize name = id ∧
    ∃ k ∈ list.present, normalize k = keyword

theorem Listing.Says.mono
    (h : ∀ name list, l.sections.get? name = some list →
      ∃ list', m.sections.get? name = some list' ∧ list.present ⊆ list'.present)
    (hs : l.Says id keyword) : m.Says id keyword := by
  obtain ⟨name, list, hget, hid, k, hk, hn⟩ := hs
  obtain ⟨list', hget', hsub⟩ := h name list hget
  exact ⟨name, list', hget', hid, k, hsub hk, hn⟩

theorem SectionListing.mem_present_marked {markers : Table Json} :
    k ∈ (marked markers).present ↔ ∃ v, markers.get? k = some v ∧ marksPresent v := by
  simp only [present, List.mem_map, List.mem_filter, Prod.exists, exists_and_right,
    exists_eq_right, Table.mem_entries_iff]

namespace Dictionary

theorem keywords?_insert_of_ne (d : Dictionary) (h : id' ≠ normalize id) (keyword : Text) :
    (d.insert id keyword).keywords? id' = d.keywords? id' := by
  by_cases hk : normalize keyword = []
  · rw [insert_of_blank d id hk]
  · rw [keywords?_insert d id id' hk, if_neg h]

theorem keywords?_foldl_insert_of_ne (d : Dictionary) (h : id' ≠ normalize id) (ks : List Text) :
    (ks.foldl (·.insert id ·) d).keywords? id' = d.keywords? id' := by
  induction ks generalizing d with
  | nil => rfl
  | cons k ks ih => rw [List.foldl_cons, ih, keywords?_insert_of_ne d h]

theorem lists_insert_iff (d : Dictionary) (id keyword id' k : Text) :
    (d.insert id keyword).lists id' k ↔
      d.lists id' k ∨ id' = normalize id ∧ k ≠ [] ∧ normalize keyword = k := by
  by_cases hk : normalize keyword = []
  · rw [insert_of_blank d id hk, hk]
    constructor
    · exact .inl
    · rintro (h | ⟨_, hne, rfl⟩)
      · exact h
      · exact (hne rfl).elim
  · rw [lists_insert d id id' k hk, Bool.or_eq_true, decide_eq_true_eq, or_comm]
    apply or_congr_right
    constructor
    · rintro ⟨hid, rfl⟩
      exact ⟨hid, hk, rfl⟩
    · rintro ⟨hid, _, rfl⟩
      exact ⟨hid, rfl⟩

theorem lists_foldl_insert_iff (d : Dictionary) (id : Text) (ks : List Text) (id' k : Text) :
    (ks.foldl (·.insert id ·) d).lists id' k ↔
      d.lists id' k ∨ id' = normalize id ∧ k ≠ [] ∧ ∃ x ∈ ks, normalize x = k := by
  induction ks generalizing d with
  | nil => simp
  | cons x ks ih =>
    rw [List.foldl_cons, ih, lists_insert_iff, or_assoc, ← and_or_left, ← and_or_left,
      List.exists_mem_cons_iff]

theorem isSome_keywords?_addSection_iff (d : Dictionary) (id : Text) (l : SectionListing)
    (id' : Text) :
    ((d.addSection id l).keywords? id').isSome ↔ (d.keywords? id').isSome ∨ normalize id = id' := by
  constructor
  · intro h
    by_cases hid : normalize id = id'
    · exact .inr hid
    · have hne : id' ≠ normalize id := Ne.symm hid
      rw [addSection, keywords?_declare, if_neg hne, keywords?_foldl_insert_of_ne] at h
      · exact .inl h
      · rw [normalize_normalize]
        exact hne
  · intro h
    exact isSome_keywords?_addSection (h.symm.imp_left Eq.symm) l

theorem lists_addSection_iff (d : Dictionary) (id : Text) (l : SectionListing) (id' k : Text) :
    (d.addSection id l).lists id' k ↔
      d.lists id' k ∨ id' = normalize id ∧ k ≠ [] ∧ ∃ x ∈ l.present, normalize x = k := by
  rw [addSection, lists_declare, lists_foldl_insert_iff, normalize_normalize]

theorem isSome_keywords?_foldl_addSection_iff (d : Dictionary) (es : List (Text × SectionListing))
    (id : Text) :
    ((es.foldl (fun d e => d.addSection e.1 e.2) d).keywords? id).isSome ↔
      (d.keywords? id).isSome ∨ ∃ e ∈ es, normalize e.1 = id := by
  induction es generalizing d with
  | nil => simp
  | cons e es ih =>
    rw [List.foldl_cons, ih, isSome_keywords?_addSection_iff, or_assoc, List.exists_mem_cons_iff]

theorem lists_foldl_addSection_iff (d : Dictionary) (es : List (Text × SectionListing))
    (id k : Text) :
    (es.foldl (fun d e => d.addSection e.1 e.2) d).lists id k ↔
      d.lists id k ∨ ∃ e ∈ es, id = normalize e.1 ∧ k ≠ [] ∧ ∃ x ∈ e.2.present, normalize x = k := by
  induction es generalizing d with
  | nil => simp
  | cons e es ih =>
    rw [List.foldl_cons, ih, lists_addSection_iff, or_assoc, List.exists_mem_cons_iff]

theorem isSome_keywords?_ofListing_iff (l : Listing) (id : Text) :
    ((ofListing l).keywords? id).isSome ↔ ∃ name ∈ l.sections.keys, normalize name = id := by
  have hnone : ¬((empty.keywords? id).isSome : Prop) := Bool.false_ne_true
  rw [ofListing, isSome_keywords?_foldl_addSection_iff, or_iff_right hnone]
  simp only [Table.keys, List.mem_map, exists_exists_and_eq_and]

theorem lists_ofListing_iff (l : Listing) (id k : Text) :
    (ofListing l).lists id k ↔ k ≠ [] ∧ l.Says id k := by
  have hnone : ¬(empty.lists id k : Prop) := Bool.false_ne_true
  rw [ofListing, lists_foldl_addSection_iff, or_iff_right hnone]
  constructor
  · rintro ⟨⟨name, list⟩, he, rfl, hk, hx⟩
    exact ⟨hk, name, list, Table.mem_entries_iff.1 he, rfl, hx⟩
  · rintro ⟨hk, name, list, he, rfl, hx⟩
    exact ⟨(name, list), Table.mem_entries_iff.2 he, rfl, hk, hx⟩

theorem ofListing_congr (hnames : ∀ name, name ∈ l.sections.keys ↔ name ∈ m.sections.keys)
    (htold : ∀ id k, l.Says id k ↔ m.Says id k) : ofListing l = ofListing m := by
  apply (wellFormed_ofListing l).ext (wellFormed_ofListing m)
  · intro id
    rw [Bool.eq_iff_iff, isSome_keywords?_ofListing_iff, isSome_keywords?_ofListing_iff]
    simp only [hnames]
  · intro id k
    rw [Bool.eq_iff_iff, lists_ofListing_iff, lists_ofListing_iff, htold]

/-- Which keywords of a section are present counts, but not how the file tells them. -/
theorem ofListing_insert (h : l.sections.get? name = some a)
    (hp : ∀ k, k ∈ b.present ↔ k ∈ a.present) :
    ofListing ⟨l.sections.insert name b⟩ = ofListing l := by
  apply ofListing_congr
  · intro n
    rw [Table.mem_keys_iff, Table.mem_keys_iff, Table.get?_insert]
    split
    · rename_i hn
      rw [hn, h]
      exact Iff.rfl
    · exact Iff.rfl
  · intro id k
    constructor
    · apply Listing.Says.mono
      intro n list hn
      rw [Table.get?_insert] at hn
      split at hn
      · rename_i he
        cases hn
        exact ⟨a, he ▸ h, fun x hx => (hp x).1 hx⟩
      · exact ⟨list, hn, List.Subset.refl _⟩
    · apply Listing.Says.mono
      intro n list hn
      rw [Table.get?_insert]
      split
      · rename_i he
        rw [he, h] at hn
        cases hn
        exact ⟨b, rfl, fun x hx => (hp x).2 hx⟩
      · exact ⟨list, hn, List.Subset.refl _⟩

end Dictionary

/-- The listing has the sections of the dictionary, each with its keywords in some order. -/
structure Listing.Records (l : Listing) (d : Dictionary) : Prop where
  names : ∀ id, id ∈ l.sections.keys ↔ id ∈ d.ids
  keywords : ∀ id ks, d.keywords? id = some ks →
    ∃ list, l.sections.get? id = some (.listed list) ∧ ∀ k, k ∈ list ↔ ks.contains k

namespace Dictionary

theorem records_toListing (d : Dictionary) : d.toListing.Records d := by
  refine ⟨?_, ?_⟩
  · intro id
    simp [toListing, ids, Table.keys]
  · intro id ks h
    refine ⟨ks.keys, ?_, fun k => Table.mem_keys_iff⟩
    exact Table.mem_entries_iff.1 (List.mem_map.2 ⟨(id, ks), Table.mem_entries_iff.2 h, rfl⟩)

theorem WellFormed.says_iff (hd : WellFormed d) (h : l.Records d) (id k : Text) :
    k ≠ [] ∧ l.Says id k ↔ d.lists id k := by
  constructor
  · rintro ⟨_, name, list, hget, rfl, x, hx, rfl⟩
    have hname : name ∈ d.ids := (h.names name).1 (Table.mem_keys_iff.2 (by rw [hget]; rfl))
    obtain ⟨ks, hks⟩ : ∃ ks, d.keywords? name = some ks :=
      Option.isSome_iff_exists.1 (Table.mem_keys_iff.1 hname)
    obtain ⟨list', hget', hmem⟩ := h.keywords name ks hks
    obtain rfl : list = .listed list' := Option.some.inj (hget.symm.trans hget')
    have hlists : d.lists name x := by
      rw [lists, hks]
      exact (hmem x).1 hx
    have hname := hd.id_normal name (by rw [hks]; rfl)
    have hx := hd.keyword_normal x ((hd.listsAnywhere_iff x).2 ⟨name, hlists⟩)
    rw [hname, hx.1]
    exact hlists
  · intro hlists
    obtain ⟨ks, hks, hcontains⟩ := (Option.any_eq_true _ _).1 hlists
    have hid := hd.id_normal id (by rw [hks]; rfl)
    have hk := hd.keyword_normal k ((hd.listsAnywhere_iff k).2 ⟨id, hlists⟩)
    obtain ⟨list, hget, hmem⟩ := h.keywords id ks hks
    exact ⟨hk.2, id, .listed list, hget, hid, k, (hmem k).2 hcontains, hk.1⟩

/-- A dictionary is read back from a listing of it. -/
theorem WellFormed.ofListing_eq (hd : WellFormed d) (h : l.Records d) :
    ofListing l = d := by
  apply (wellFormed_ofListing l).ext hd
  · intro id
    rw [Bool.eq_iff_iff, isSome_keywords?_ofListing_iff]
    constructor
    · rintro ⟨name, hname, rfl⟩
      have hs := Table.mem_keys_iff.1 ((h.names name).1 hname)
      rw [hd.id_normal name hs]
      exact hs
    · intro hs
      exact ⟨id, (h.names id).2 (Table.mem_keys_iff.2 hs), hd.id_normal id hs⟩
  · intro id k
    rw [Bool.eq_iff_iff, lists_ofListing_iff, hd.says_iff h]

end Dictionary

/-- A listing becomes the sets that it describes: names and keywords with one normal form are one,
and what is present in one place stays whatever is absent in another. A listing of a dictionary
that was made becomes this dictionary again. -/
theorem ofListing_exact (l : Listing) :
    let d := Dictionary.ofListing l
    (∀ id, (d.keywords? id).isSome ↔ ∃ name ∈ l.sections.keys, normalize name = id) ∧
      (∀ id k, d.lists id k ↔ k ≠ [] ∧ ∃ name list, l.sections.get? name = some list ∧
        normalize name = id ∧ ∃ x ∈ list.present, normalize x = k) ∧
      (∀ name markers k v, l.sections.get? name = some (.marked markers) →
        markers.get? k = none → marksPresent v = false →
        Dictionary.ofListing ⟨l.sections.insert name (.marked (markers.insert k v))⟩ = d) ∧
      (∀ name list markers, l.sections.get? name = some (.listed list) →
        (∀ k, k ∈ markers.keys ↔ k ∈ list) →
        (∀ k v, markers.get? k = some v → marksPresent v) →
        Dictionary.ofListing ⟨l.sections.insert name (.marked markers)⟩ = d) ∧
      ∀ e : Dictionary, e.Built → e.toListing.Records e ∧
        ∀ m : Listing, m.Records e → Dictionary.ofListing m = e := by
  intro d
  refine ⟨Dictionary.isSome_keywords?_ofListing_iff l, Dictionary.lists_ofListing_iff l, ?_, ?_, ?_⟩
  · intro name markers k v hget hnew habsent
    apply Dictionary.ofListing_insert hget
    intro x
    rw [SectionListing.mem_present_marked, SectionListing.mem_present_marked, Table.get?_insert]
    split
    · rename_i hx
      rw [hx, hnew]
      simp [habsent]
    · exact Iff.rfl
  · intro name list markers hget hkeys hmarked
    apply Dictionary.ofListing_insert hget
    intro x
    rw [SectionListing.mem_present_marked, show SectionListing.present (.listed list) = list from rfl,
      ← hkeys, Table.mem_keys_iff, Option.isSome_iff_exists]
    exact exists_congr fun v => and_iff_left_of_imp (hmarked x v)
  · intro e he
    exact ⟨e.records_toListing, fun m hm => he.wellFormed.ofListing_eq hm⟩

/-- Two spellings of one section, a keyword that is absent under one of them and present under the
other, a blank keyword, and an array that becomes an object. -/
theorem ofListing_exact_respelled :
    let markers : Table Json := .ofList [("Glow\tRate".toList, .bool true), ("fade".toList, .null)]
    let id := "body force".toList
    let l : Listing := ⟨.ofList [("BODY  force".toList, .marked markers),
      (id, .listed [" Fade".toList, " ".toList])]⟩
    let ones : Table Json := .ofList [(" Fade".toList, .ofNat 1), (" ".toList, .ofNat 1)]
    let d := Dictionary.ofListing l
    d.lists id "glow rate".toList ∧ d.lists id "fade".toList ∧ ¬d.lists id [] ∧
      Dictionary.ofListing ⟨l.sections.insert id (.marked ones)⟩ = d ∧
      Dictionary.ofListing d.toListing = d := by
  intro markers id l ones d
  obtain ⟨_, hlists, _, harray, hback⟩ := ofListing_exact l
  have hkeys : ones.keys = [" ".toList, " Fade".toList] := by decide +kernel
  have hmarked : ∀ e ∈ ones.entries, marksPresent e.2 := List.all_eq_true.1 (by decide +kernel)
  obtain ⟨hrecords, hsame⟩ := hback d (.ofListing l)
  refine ⟨by decide +kernel, by decide +kernel, fun h => ((hlists id []).1 h).1 rfl, ?_,
    hsame d.toListing hrecords⟩
  apply harray id [" Fade".toList, " ".toList] ones rfl
  · intro k
    rw [hkeys, List.mem_pair, List.mem_pair, or_comm]
  · intro k v h
    exact hmarked (k, v) (Table.mem_entries_iff.2 h)

end SolverInput
