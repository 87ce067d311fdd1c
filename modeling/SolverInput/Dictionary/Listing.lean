import SolverInput.Dictionary
import SolverInput.Json

namespace SolverInput

/-- Whether the value beside a keyword marks it as present. Null, false, zero and the empty string
do not. -/
def marksPresent : Json → Bool
  | .null => false
  | .bool b => b
  | .number n => n.digits != 0
  | .string s => !s.isEmpty
  | .array _ => true
  | .object _ => true

inductive SectionListing where
  /-- Keywords with a marker that tells whether each is present. -/
  | marked (markers : Table Json)
  | listed (keywords : List Text)

namespace SectionListing

/-- The keywords that are present, as the file writes them. -/
def present : SectionListing → List Text
  | marked markers => (markers.entries.filter (marksPresent ·.2)).map (·.1)
  | listed keywords => keywords

def ofJson? : Json → Option SectionListing
  | .object members => some (marked (.ofList members))
  | .array items => (items.mapM Json.string?).map listed
  | _ => none

end SectionListing

/-- What a dictionary file says: the keywords of each section that it names. -/
structure Listing where
  sections : Table SectionListing

/-- Every member must describe a section, also one that a later member of the same name replaces. -/
def Listing.ofJson? : Json → Option Listing
  | .object members => do
    let lists ← members.mapM fun m => (SectionListing.ofJson? m.2).map (m.1, ·)
    some ⟨.ofList lists⟩
  | _ => none

namespace Dictionary

/-- Adds a section with its keywords. It is listed even if it has none. -/
def addSection (d : Dictionary) (id : Text) (l : SectionListing) : Dictionary :=
  let id := normalize id
  (l.present.foldl (·.insert id ·) d).declare id

/-- The dictionary that a file describes. Sections whose names have one normal form are united. -/
def ofListing (l : Listing) : Dictionary :=
  l.sections.entries.foldl (fun d e => d.addSection e.1 e.2) empty

theorem isSome_keywords?_insert {d : Dictionary} {id' : Text} (h : (d.keywords? id').isSome)
    (id keyword : Text) : ((d.insert id keyword).keywords? id').isSome := by
  by_cases hk : normalize keyword = []
  · rw [insert_of_blank d id hk]
    exact h
  · rw [keywords?_insert d id id' hk]
    split
    · rfl
    · exact h

theorem isSome_keywords?_foldl_insert {d : Dictionary} {id' : Text}
    (h : (d.keywords? id').isSome) (id : Text) (ks : List Text) :
    ((ks.foldl (·.insert id ·) d).keywords? id').isSome := by
  induction ks generalizing d with
  | nil => exact h
  | cons k ks ih => exact ih (isSome_keywords?_insert h id k)

theorem isSome_keywords?_addSection {d : Dictionary} {id id' : Text}
    (h : id' = normalize id ∨ (d.keywords? id').isSome) (l : SectionListing) :
    ((d.addSection id l).keywords? id').isSome := by
  rw [addSection, keywords?_declare]
  split
  · rfl
  · rename_i ne
    exact isSome_keywords?_foldl_insert (h.resolve_left ne) _ _

theorem isSome_keywords?_foldl_addSection {d : Dictionary} {id : Text}
    {es : List (Text × SectionListing)}
    (h : id ∈ es.map (·.1) ∨ (d.keywords? (normalize id)).isSome) :
    ((es.foldl (fun d e => d.addSection e.1 e.2) d).keywords? (normalize id)).isSome := by
  induction es generalizing d with
  | nil => exact h.resolve_left List.not_mem_nil
  | cons e es ih =>
    rw [List.map_cons, List.mem_cons, or_assoc] at h
    apply ih
    rcases h with rfl | h | h
    · exact .inr (isSome_keywords?_addSection (.inl rfl) e.2)
    · exact .inl h
    · exact .inr (isSome_keywords?_addSection (.inr h) e.2)

theorem isSome_keywords?_ofListing {l : Listing} {id : Text} (h : id ∈ l.sections.keys) :
    ((ofListing l).keywords? (normalize id)).isSome :=
  isSome_keywords?_foldl_addSection (.inl h)

def toListing (d : Dictionary) : Listing :=
  ⟨⟨d.sections.entries.map fun e => (e.1, .listed e.2.keys), by
    simpa [List.pairwise_map] using d.sections.sorted⟩⟩

end Dictionary

end SolverInput
