import SolverInput.Scan

namespace SolverInput
set_option autoImplicit true

/-- Headers and `end` lines decide which section is open. -/
def LineRole.isStructural : LineRole → Bool
  | .header _ => true
  | .sectionEnd => true
  | _ => false

def roleAt? (ls : List Text) (i : Nat) : Option LineRole :=
  ls[i]?.map LineRole.ofLine

/-- The last header or `end` before line `i` is at line `j` and has this role. -/
structure LastStructural (ls : List Text) (i j : Nat) (role : LineRole) : Prop where
  before : j < i
  at_line : roleAt? ls j = some role
  structural : role.isStructural
  none_between : ∀ k, j < k → k < i → ∀ r, roleAt? ls k = some r → r.isStructural = false

/-- A section is open before line `i` if the last header or `end` before is a header of it. -/
def OpenBefore (ls : List Text) (i : Nat) (s : Section) : Prop :=
  ∃ j h, LastStructural ls i j (.header h) ∧ h.section? = some s

theorem exists_of_roleAt? (h : roleAt? ls i = some r) :
    ∃ line, ls[i]? = some line ∧ LineRole.ofLine line = r :=
  Option.map_eq_some_iff.1 h

theorem roleAt?_eq_some (h : ls[i]? = some line) : roleAt? ls i = some (.ofLine line) := by
  rw [roleAt?, h]
  rfl

theorem LastStructural.succ_iff (h : ∀ r, roleAt? ls i = some r → r.isStructural = false) :
    LastStructural ls (i + 1) j role ↔ LastStructural ls i j role := by
  constructor
  · intro hl
    have hne : j ≠ i := by
      intro he
      have hr := h role (he ▸ hl.at_line)
      rw [hl.structural] at hr
      cases hr
    have hlt := hl.before
    exact ⟨by omega, hl.at_line, hl.structural, fun k hj hk => hl.none_between k hj (by omega)⟩
  · intro hl
    refine ⟨Nat.lt_succ_of_lt hl.before, hl.at_line, hl.structural, ?_⟩
    intro k hj hk
    rcases Nat.lt_or_eq_of_le (Nat.le_of_lt_succ hk) with hlt | rfl
    · exact hl.none_between k hj hlt
    · exact h

theorem LastStructural.of_structural (h : roleAt? ls i = some r) (hs : r.isStructural) :
    LastStructural ls (i + 1) j role ↔ j = i ∧ role = r := by
  constructor
  · intro hl
    have hj : j = i := by
      rcases Nat.lt_or_eq_of_le (Nat.le_of_lt_succ hl.before) with hlt | he
      · have hr := hl.none_between i hlt (Nat.lt_succ_self i) r h
        rw [hs] at hr
        cases hr
      · exact he
    subst hj
    exact ⟨rfl, Option.some.inj (hl.at_line.symm.trans h)⟩
  · rintro ⟨rfl, rfl⟩
    exact ⟨Nat.lt_succ_self j, h, hs, fun k hj hk => by omega⟩

theorem openBefore_succ_of_not_structural
    (h : ∀ r, roleAt? ls i = some r → r.isStructural = false) :
    OpenBefore ls (i + 1) s ↔ OpenBefore ls i s := by
  simp only [OpenBefore, LastStructural.succ_iff h]

theorem openBefore_succ_of_header (hr : roleAt? ls i = some (.header h)) :
    OpenBefore ls (i + 1) s ↔ h.section? = some s := by
  simp only [OpenBefore, LastStructural.of_structural hr rfl]
  constructor
  · rintro ⟨j, h', ⟨rfl, he⟩, hs⟩
    cases he
    exact hs
  · intro hs
    exact ⟨i, h, ⟨rfl, rfl⟩, hs⟩

theorem not_openBefore_succ_of_end (hr : roleAt? ls i = some .sectionEnd) :
    ¬OpenBefore ls (i + 1) s := by
  simp only [OpenBefore, LastStructural.of_structural hr rfl]
  rintro ⟨j, h, ⟨_, he⟩, _⟩
  cases he

theorem scan_append (ls ms : List Text) (current : Option Section) :
    (scan (ls ++ ms) current).2 = (scan ms (scan ls current).2).2 := by
  induction ls generalizing current with
  | nil => rfl
  | cons l ls ih => simp [ih]

/-- What a line is depends on the lines before through the section that they leave open. -/
theorem getElem?_scan (ls : List Text) (current : Option Section) (i : Nat) :
    (scan ls current).1[i]? =
      ls[i]?.map fun line => (scanLine line (scan (ls.take i) current).2).1 := by
  induction ls generalizing current i with
  | nil => rfl
  | cons l ls ih =>
    cases i with
    | zero => simp
    | succ i => simp [ih]

theorem scan_take_eq_some_iff (ls : List Text) (i : Nat) (s : Section) :
    (scan (ls.take i) none).2 = some s ↔ OpenBefore ls i s := by
  -- Both sides move together over line `i`: the state by `scanLine`, the other by its role.
  induction i with
  | zero =>
    simp only [List.take_zero, scan_nil, reduceCtorEq, false_iff]
    rintro ⟨j, h, hl, _⟩
    exact absurd hl.before (Nat.not_lt_zero j)
  | succ i ih =>
    rw [List.take_add_one, scan_append]
    cases hi : ls[i]? with
    | none =>
      have hr : ∀ r, roleAt? ls i = some r → r.isStructural = false := by
        simp [roleAt?, hi]
      rw [openBefore_succ_of_not_structural hr]
      exact ih
    | some line =>
      have hr := roleAt?_eq_some hi
      simp only [Option.toList_some, scan_cons, scan_nil, scanLine]
      cases hrole : LineRole.ofLine line with
      | header h =>
        rw [hrole] at hr
        exact (openBefore_succ_of_header hr).symm
      | sectionEnd =>
        rw [hrole] at hr
        simpa using not_openBefore_succ_of_end hr
      | blank | comment | content =>
        rw [hrole] at hr
        rw [openBefore_succ_of_not_structural (by simp [hr, LineRole.isStructural])]
        exact ih

end SolverInput
