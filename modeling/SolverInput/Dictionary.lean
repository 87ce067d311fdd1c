import SolverInput.Keyword
import SolverInput.Section
import SolverInput.Table

namespace SolverInput

/-- A finite set of keywords, each listed once in code-point order. -/
abbrev KeywordSet := Table Unit

namespace KeywordSet

def add (ks : KeywordSet) (k : Text) : KeywordSet :=
  ks.insert k ()

def union (a b : KeywordSet) : KeywordSet :=
  a.merge (fun _ _ => ()) b

@[simp] theorem contains_add (ks : KeywordSet) (k k' : Text) :
    (ks.add k).contains k' = (decide (k' = k) || ks.contains k') := by
  simp only [add, Table.contains, Table.get?_insert]
  split <;> simp_all

@[simp] theorem contains_union (a b : KeywordSet) (k : Text) :
    (a.union b).contains k = (a.contains k || b.contains k) := by
  simp only [union, Table.contains, Table.get?_merge, Option.isSome_merge]

@[simp] theorem contains_empty (k : Text) : (∅ : KeywordSet).contains k = false :=
  rfl

theorem ext_contains {a b : KeywordSet} (h : ∀ k, a.contains k = b.contains k) : a = b := by
  apply Table.ext_get?
  intro k
  have hk := h k
  simp only [Table.contains] at hk
  cases ha : a.get? k <;> cases hb : b.get? k <;> simp_all

theorem contains_foldl_union (es : List (Text × KeywordSet)) (ks : KeywordSet) (k : Text) :
    (es.foldl (fun all e => all.union e.2) ks).contains k =
      (ks.contains k || es.any (·.2.contains k)) := by
  induction es generalizing ks with
  | nil => simp
  | cons e es ih => rw [List.foldl_cons, ih, contains_union, List.any_cons, Bool.or_assoc]

end KeywordSet

/-- The keywords known in each section. A section that is listed without keywords is known too, and
is checked. -/
structure Dictionary where
  sections : Table KeywordSet
  /-- The keywords of all sections, for the look-up that passes over sections. -/
  all : KeywordSet
  deriving DecidableEq

namespace Dictionary

def empty : Dictionary :=
  ⟨∅, ∅⟩

def isEmpty (d : Dictionary) : Bool :=
  d.sections.isEmpty

/-- The listed sections, in code-point order. -/
def ids (d : Dictionary) : List Text :=
  d.sections.keys

/-- The keywords of a section, if the dictionary lists the section. -/
def keywords? (d : Dictionary) (id : Text) : Option KeywordSet :=
  d.sections.get? id

def size (d : Dictionary) : Nat :=
  d.all.size

def lists (d : Dictionary) (id keyword : Text) : Bool :=
  (d.keywords? id).any (·.contains keyword)

/-- Whether some section, whichever it is, lists the keyword. -/
def listsAnywhere (d : Dictionary) (keyword : Text) : Bool :=
  d.all.contains keyword

/-- Lists a section under the given name, with the keywords that it has already. -/
def declare (d : Dictionary) (id : Text) : Dictionary :=
  { d with sections := d.sections.alter id (·.getD ∅) }

/-- Adds a keyword to a section, both in normal form. A blank keyword adds nothing, not even the
section. -/
def insert (d : Dictionary) (id keyword : Text) : Dictionary :=
  let k := normalize keyword
  if k.isEmpty then d
  else ⟨d.sections.alter (normalize id) fun ks => (ks.getD ∅).add k, d.all.add k⟩

/-- The sections of both. Only the keywords that come with a section of `b` are added to all. -/
def merge (a b : Dictionary) : Dictionary :=
  ⟨a.sections.merge .union b.sections, b.sections.entries.foldl (fun all e => all.union e.2) a.all⟩

/-- A keyword is known in a section if it, or its numbered base, is listed there, or else
anywhere. -/
def knows (d : Dictionary) (s : Section) (keyword : Text) : Bool :=
  let base := numberedBase keyword
  d.lists s.id keyword || d.lists s.id base || d.listsAnywhere keyword || d.listsAnywhere base

theorem ext_keywords? {a b : Dictionary} (h : ∀ id, a.keywords? id = b.keywords? id)
    (hall : ∀ k, a.listsAnywhere k = b.listsAnywhere k) : a = b := by
  cases a
  cases b
  exact congr (congrArg mk (Table.ext_get? h)) (KeywordSet.ext_contains hall)

@[simp] theorem keywords?_declare (d : Dictionary) (id id' : Text) :
    (d.declare id).keywords? id' =
      if id' = id then some ((d.keywords? id).getD ∅) else d.keywords? id' :=
  Table.get?_alter _ _ _ _

@[simp] theorem listsAnywhere_declare (d : Dictionary) (id k : Text) :
    (d.declare id).listsAnywhere k = d.listsAnywhere k :=
  rfl

theorem insert_of_blank (d : Dictionary) (id : Text) {keyword : Text}
    (h : normalize keyword = []) : d.insert id keyword = d := by
  simp [insert, h]

@[simp] theorem keywords?_insert (d : Dictionary) (id id' : Text) {keyword : Text}
    (h : normalize keyword ≠ []) :
    (d.insert id keyword).keywords? id' =
      if id' = normalize id then
        some (((d.keywords? (normalize id)).getD ∅).add (normalize keyword))
      else d.keywords? id' := by
  simp only [insert, List.isEmpty_iff, h, if_false]
  exact Table.get?_alter _ _ _ _

@[simp] theorem listsAnywhere_insert (d : Dictionary) (id k : Text) {keyword : Text}
    (h : normalize keyword ≠ []) :
    (d.insert id keyword).listsAnywhere k =
      (decide (k = normalize keyword) || d.listsAnywhere k) := by
  simp only [insert, List.isEmpty_iff, h, if_false]
  exact KeywordSet.contains_add _ _ _

@[simp] theorem keywords?_merge (a b : Dictionary) (id : Text) :
    (a.merge b).keywords? id = Option.merge .union (a.keywords? id) (b.keywords? id) :=
  Table.get?_merge _ _ _ _

@[simp] theorem lists_declare (d : Dictionary) (id id' k : Text) :
    (d.declare id).lists id' k = d.lists id' k := by
  rw [lists, keywords?_declare]
  split
  · rename_i hid
    rw [lists, hid]
    cases d.keywords? id <;> rfl
  · rfl

@[simp] theorem lists_insert (d : Dictionary) (id id' k : Text) {keyword : Text}
    (h : normalize keyword ≠ []) :
    (d.insert id keyword).lists id' k =
      (decide (id' = normalize id ∧ k = normalize keyword) || d.lists id' k) := by
  rw [lists, keywords?_insert d id id' h]
  split
  · rename_i hid
    rw [Option.any_some, KeywordSet.contains_add, lists, hid]
    cases d.keywords? (normalize id) <;> simp
  · rename_i hid
    simp [lists, hid]

@[simp] theorem lists_merge (a b : Dictionary) (id k : Text) :
    (a.merge b).lists id k = (a.lists id k || b.lists id k) := by
  rw [lists, keywords?_merge, Option.any_merge fun x y => KeywordSet.contains_union x y k]
  rfl

theorem any_contains_iff (d : Dictionary) (k : Text) :
    d.sections.entries.any (·.2.contains k) ↔ ∃ id, d.lists id k := by
  simp only [List.any_eq_true, lists, Option.any_eq_true, keywords?, ← Table.mem_entries_iff]
  constructor
  · rintro ⟨⟨id, ks⟩, he, hk⟩
    exact ⟨id, ks, he, hk⟩
  · rintro ⟨id, ks, he, hk⟩
    exact ⟨(id, ks), he, hk⟩

theorem listsAnywhere_merge (a b : Dictionary) (k : Text) :
    (a.merge b).listsAnywhere k =
      (a.listsAnywhere k || b.sections.entries.any (·.2.contains k)) :=
  KeywordSet.contains_foldl_union _ _ _

end Dictionary

end SolverInput
