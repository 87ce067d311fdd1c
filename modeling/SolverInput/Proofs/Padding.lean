import SolverInput.Proofs.Lines
import SolverInput.Proofs.Roles

namespace SolverInput
set_option autoImplicit true

namespace Token

theorem delimiterFollows_append_blanks (s : Text) (hr : ∀ c ∈ right, isBlank c) :
    delimiterFollows (s ++ right) = delimiterFollows s := by
  rw [delimiterFollows, delimiterFollows, trimLeft_append_blanks s hr]
  split
  · rename_i h
    rw [h]
  · rename_i h
    rw [List.head?_append_of_ne_nil _ h]

theorem takeToDelimiter?_blanks (hr : ∀ c ∈ right, isBlank c) : takeToDelimiter? right = none := by
  induction right with
  | nil => rfl
  | cons b right ih =>
    have hd := delimiterFollows_append_blanks [] hr
    rw [List.nil_append] at hd
    rw [takeToDelimiter?, hd, ih (List.forall_mem_cons.1 hr).2]
    simp [delimiterFollows, trimLeft]

theorem takeToDelimiter?_append_blanks (s : Text) (hr : ∀ c ∈ right, isBlank c) :
    takeToDelimiter? (s ++ right) = takeToDelimiter? s := by
  induction s with
  | nil => exact takeToDelimiter?_blanks hr
  | cons c s ih =>
    have hd := delimiterFollows_append_blanks (c :: s) hr
    rw [List.cons_append] at hd ⊢
    rw [takeToDelimiter?, takeToDelimiter?, hd, ih]

end Token

section Padding
variable {left right : Text} (hl : ∀ c ∈ left, isBlank c) (hr : ∀ c ∈ right, isBlank c)
  (line : Text)
include hl hr

theorem head?_of_pad (hx : isBlank x = false) (h : (left ++ (line ++ right)).head? = some x) :
    line.head? = some x := by
  have hne (s : Text) (hs : ∀ c ∈ s, isBlank c) : s.head? ≠ some x := by
    intro he
    rw [hs x (List.mem_of_head? he)] at hx
    cases hx
  rw [List.head?_append, List.head?_append, Option.or_eq_some_iff, Option.or_eq_some_iff] at h
  rcases h with h | ⟨_, h | ⟨_, h⟩⟩
  · exact (hne left hl h).elim
  · exact h
  · exact (hne right hr h).elim

theorem words_pad : words (left ++ (line ++ right)) = words line := by
  rw [words_blanks_append _ hl, words_append_blanks line hr]

theorem LineRole.ofLine_pad : LineRole.ofLine (left ++ (line ++ right)) = LineRole.ofLine line :=
  ofLine_congr (words_pad hl hr line)

theorem trimLeft_pad : trimLeft (left ++ (line ++ right)) =
    if trimLeft line = [] then [] else trimLeft line ++ right := by
  rw [trimLeft_blanks_append _ hl, trimLeft_append_blanks line hr]

theorem trim_pad : trim (left ++ (line ++ right)) = trim line := by
  rw [trim, trim, trimLeft_pad hl hr]
  split
  · rename_i h
    rw [h]
  · exact trimRight_append_blanks _ hr

namespace Token

theorem capture?_pad : capture? (left ++ (line ++ right)) = capture? line := by
  unfold capture?
  rw [trimLeft_pad hl hr]
  cases h : trimLeft line with
  | nil => rfl
  | cons c rest =>
    rw [if_neg (List.cons_ne_nil c rest), List.cons_append]
    dsimp only
    rw [takeToDelimiter?_append_blanks rest hr]

/-- Blanks around a line move its keyword and do nothing else. -/
theorem ofLine?_pad : ofLine? (left ++ (line ++ right)) =
    (ofLine? line).map fun t => { t with start := t.start + left.length } := by
  rw [ofLine?_eq_map, ofLine?_eq_map, capture?_pad hl hr]
  cases h : capture? line with
  | none => rfl
  | some captured =>
    obtain ⟨hk, hp⟩ := capture?_eq_some h
    have hne : trimLeft line ≠ [] := by
      obtain ⟨c, rest, rfl, _⟩ := hk
      exact hp.ne_nil (List.cons_ne_nil c rest)
    -- Only the blanks before the keyword are counted, and those are the new ones and the old.
    have hcount := length_takeWhile_isBlank line
    have hcount' := length_takeWhile_isBlank (left ++ (line ++ right))
    rw [trimLeft_pad hl hr, if_neg hne] at hcount'
    simp only [List.length_append] at hcount'
    have hstart : ((left ++ (line ++ right)).takeWhile isBlank).length =
        (line.takeWhile isBlank).length + left.length := by
      omega
    rw [Option.map_some, Option.map_some, hstart]
    rfl

end Token
end Padding

/-- What is dropped from the end of a line is blank. -/
theorem exists_eq_dropReturn_append (l : Text) :
    ∃ right, l = dropReturn l ++ right ∧ ∀ c ∈ right, isBlank c := by
  unfold dropReturn
  split
  · rename_i h
    obtain ⟨s, rfl⟩ := List.getLast?_eq_some_iff.1 h
    exact ⟨['\r'], by simp, List.all_eq_true.1 (by decide)⟩
  · exact ⟨[], by simp, by simp⟩

theorem apply_dropReturn {f : Text → α}
    (hf : ∀ line right, (∀ c ∈ right, isBlank c) → f (line ++ right) = f line) (l : Text) :
    f (dropReturn l) = f l := by
  obtain ⟨right, hl, hr⟩ := exists_eq_dropReturn_append l
  have h := hf (dropReturn l) right hr
  rw [← hl] at h
  exact h.symm

@[simp] theorem LineRole.ofLine_dropReturn (l : Text) : ofLine (dropReturn l) = ofLine l :=
  apply_dropReturn (fun line _ hr => ofLine_pad (List.forall_mem_nil _) hr line) l

@[simp] theorem trim_dropReturn (l : Text) : trim (dropReturn l) = trim l :=
  apply_dropReturn (fun line _ hr => trim_pad (List.forall_mem_nil _) hr line) l

@[simp] theorem Token.ofLine?_dropReturn (l : Text) : ofLine? (dropReturn l) = ofLine? l := by
  refine apply_dropReturn ?_ l
  intro line right hr
  have h := ofLine?_pad (List.forall_mem_nil _) hr line
  exact h.trans Option.map_id'

end SolverInput
