import Mathlib.Data.Set.Card
import SolverInput.Loading
import SolverInput.Proofs.NormalForm

namespace SolverInput
set_option autoImplicit true

namespace Dictionary

/-- The dictionaries that the operations make: from nothing or from what a file says, by adding
keywords and by merging. -/
inductive Built : Dictionary → Prop
  | empty : Built .empty
  | ofListing (l : Listing) : Built (.ofListing l)
  | insert (h : Built d) (id keyword : Text) : Built (d.insert id keyword)
  | merge (ha : Built a) (hb : Built b) : Built (a.merge b)

theorem Built.of_read? (h : DictionaryFormat.read? f text = some d) : d.Built := by
  obtain ⟨l, _, rfl⟩ := Option.map_eq_some_iff.1 h
  exact .ofListing l

/-- The set of all keywords is that of the sections, and every name and keyword is normal. -/
structure WellFormed (d : Dictionary) : Prop where
  listsAnywhere_iff : ∀ k, d.listsAnywhere k ↔ ∃ id, d.lists id k
  id_normal : ∀ id, (d.keywords? id).isSome → normalize id = id
  keyword_normal : ∀ k, d.listsAnywhere k → normalize k = k ∧ k ≠ []

theorem wellFormed_empty : WellFormed .empty := by
  refine ⟨?_, ?_, ?_⟩
  · intro k
    constructor
    · intro h
      cases h
    · rintro ⟨id, h⟩
      cases h
  · intro id h
    cases h
  · intro k h
    cases h

theorem WellFormed.declare {id : Text} (h : WellFormed d) (hid : normalize id = id) :
    (d.declare id).WellFormed := by
  refine ⟨?_, ?_, h.keyword_normal⟩
  · intro k
    simpa using h.listsAnywhere_iff k
  · intro id' hs
    rw [keywords?_declare] at hs
    split at hs
    · rename_i he
      rw [he]
      exact hid
    · exact h.id_normal id' hs

theorem WellFormed.insert (h : WellFormed d) (id keyword : Text) :
    (d.insert id keyword).WellFormed := by
  by_cases hk : normalize keyword = []
  · rw [insert_of_blank d id hk]
    exact h
  · refine ⟨?_, ?_, ?_⟩
    · intro k
      simp only [listsAnywhere_insert d id k hk, lists_insert d id _ k hk, Bool.or_eq_true,
        decide_eq_true_eq, h.listsAnywhere_iff k, exists_or, exists_eq_left]
    · intro id' hs
      rw [keywords?_insert d id id' hk] at hs
      split at hs
      · rename_i he
        rw [he]
        exact normalize_normalize id
      · exact h.id_normal id' hs
    · intro k hs
      rw [listsAnywhere_insert d id k hk, Bool.or_eq_true, decide_eq_true_eq] at hs
      rcases hs with rfl | hs
      · exact ⟨normalize_normalize keyword, hk⟩
      · exact h.keyword_normal k hs

theorem WellFormed.listsAnywhere_merge (hb : WellFormed b) (a : Dictionary) (k : Text) :
    (a.merge b).listsAnywhere k = (a.listsAnywhere k || b.listsAnywhere k) := by
  have h : b.sections.entries.any (·.2.contains k) = b.listsAnywhere k :=
    Bool.eq_iff_iff.2 ((any_contains_iff b k).trans (hb.listsAnywhere_iff k).symm)
  rw [Dictionary.listsAnywhere_merge, h]

theorem isSome_keywords?_merge (a b : Dictionary) (id : Text) :
    ((a.merge b).keywords? id).isSome = ((a.keywords? id).isSome || (b.keywords? id).isSome) := by
  rw [keywords?_merge, Option.isSome_merge]

theorem WellFormed.merge (ha : WellFormed a) (hb : WellFormed b) : (a.merge b).WellFormed := by
  refine ⟨?_, ?_, ?_⟩
  · intro k
    simp only [hb.listsAnywhere_merge, lists_merge, Bool.or_eq_true, ha.listsAnywhere_iff,
      hb.listsAnywhere_iff, exists_or]
  · intro id hs
    rw [isSome_keywords?_merge, Bool.or_eq_true] at hs
    rcases hs with hs | hs
    · exact ha.id_normal id hs
    · exact hb.id_normal id hs
  · intro k hs
    rw [hb.listsAnywhere_merge, Bool.or_eq_true] at hs
    rcases hs with hs | hs
    · exact ha.keyword_normal k hs
    · exact hb.keyword_normal k hs

theorem WellFormed.foldl_insert (h : WellFormed d) (id : Text) (keywords : List Text) :
    (keywords.foldl (·.insert id ·) d).WellFormed := by
  induction keywords generalizing d with
  | nil => exact h
  | cons k keywords ih => exact ih (h.insert id k)

theorem WellFormed.addSection (h : WellFormed d) (id : Text) (l : SectionListing) :
    (d.addSection id l).WellFormed :=
  (h.foldl_insert _ _).declare (normalize_normalize id)

theorem WellFormed.foldl_addSection (h : WellFormed d) (es : List (Text × SectionListing)) :
    (es.foldl (fun d e => d.addSection e.1 e.2) d).WellFormed := by
  induction es generalizing d with
  | nil => exact h
  | cons e es ih => exact ih (h.addSection e.1 e.2)

theorem wellFormed_ofListing (l : Listing) : (ofListing l).WellFormed :=
  wellFormed_empty.foldl_addSection _

theorem Built.wellFormed (h : Built d) : d.WellFormed := by
  induction h with
  | empty => exact wellFormed_empty
  | ofListing l => exact wellFormed_ofListing l
  | insert _ id keyword ih => exact ih.insert id keyword
  | merge _ _ iha ihb => exact iha.merge ihb

/-- What a dictionary knows of a keyword, wherever it stands. -/
def recognizes (d : Dictionary) (keyword : Text) : Bool :=
  d.listsAnywhere keyword || d.listsAnywhere (numberedBase keyword)

/-- The look-up in the own section finds nothing that the last two steps do not find. -/
theorem WellFormed.knows_eq (h : WellFormed d) (s : Section) (k : Text) :
    d.knows s k = d.recognizes k := by
  have hown : ∀ k, d.lists s.id k → d.listsAnywhere k := fun k hk =>
    (h.listsAnywhere_iff k).2 ⟨s.id, hk⟩
  have hk := hown k
  have hbase := hown (numberedBase k)
  simp only [knows, recognizes]
  cases hl : d.lists s.id k <;> cases hb : d.lists s.id (numberedBase k) <;> simp_all

theorem WellFormed.encard_keywords (h : WellFormed d) :
    {k | ∃ id, d.lists id k}.encard = d.size := by
  have hkeys : {k | ∃ id, d.lists id k} = d.all.keys.toFinset := by
    ext k
    rw [Set.mem_ofPred_eq, ← h.listsAnywhere_iff, List.coe_toFinset, Set.mem_ofPred_eq,
      Table.mem_keys_iff]
    rfl
  rw [hkeys, Set.encard_coe_eq_coe_finsetCard, List.toFinset_card_of_nodup d.all.keys_nodup,
    Table.keys, List.length_map]
  rfl

end Dictionary

/-- In every dictionary that can be made, the set of all keywords and their number are those of the
sections, names and keywords are normal, and the listed sections are told in order. So what is known
of a keyword does not depend on the section that it stands in. -/
theorem representation_exact (d : Dictionary) (h : d.Built) :
    (∀ k, d.listsAnywhere k ↔ ∃ id, d.lists id k) ∧
      {k | ∃ id, d.lists id k}.encard = d.size ∧
      (∀ id, (d.keywords? id).isSome → normalize id = id) ∧
      (∀ id k, d.lists id k → normalize k = k ∧ k ≠ []) ∧
      d.ids.Pairwise (· < ·) ∧ (∀ id, id ∈ d.ids ↔ (d.keywords? id).isSome) ∧
      ∀ s k, d.knows s k ↔ ∃ id, d.lists id k ∨ d.lists id (numberedBase k) := by
  have hw := h.wellFormed
  refine ⟨hw.listsAnywhere_iff, hw.encard_keywords, hw.id_normal, ?_, d.sections.keys_sorted,
    fun id => Table.mem_keys_iff, ?_⟩
  · intro id k hk
    exact hw.keyword_normal k ((hw.listsAnywhere_iff k).2 ⟨id, hk⟩)
  · intro s k
    rw [hw.knows_eq, Dictionary.recognizes, Bool.or_eq_true, hw.listsAnywhere_iff,
      hw.listsAnywhere_iff, exists_or]

/-- A section without keywords, two spellings of one section, blank keywords. -/
theorem representation_exact_merged :
    let l : Listing := ⟨.ofList [("body  Force".toList, .listed []),
      ("BC".toList, .listed ["Mask\tName  1".toList, " ".toList])]⟩
    let d := ((Dictionary.ofListing l).merge
      (Dictionary.empty.insert " bc".toList "ŒIL".toList)).insert "ic".toList "\t ".toList
    d.Built ∧ d.ids = ["bc".toList, "body force".toList] ∧
      {k | ∃ id, d.lists id k}.encard = 2 ∧ ∀ s, d.knows s "mask name 7".toList := by
  intro l d
  have hb : d.Built := ((Dictionary.Built.ofListing l).merge (.insert .empty _ _)).insert _ _
  obtain ⟨_, hsize, _, _, _, _, hknows⟩ := representation_exact d hb
  have htwo : d.size = 2 := by decide +kernel
  refine ⟨hb, by decide +kernel, ?_, ?_⟩
  · rw [hsize, htwo]
    rfl
  · intro s
    exact (hknows s _).2 ⟨"bc".toList, .inr (by decide +kernel)⟩

end SolverInput
