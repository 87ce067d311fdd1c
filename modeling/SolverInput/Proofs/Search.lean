import SolverInput.Proofs.Fits

namespace SolverInput
set_option autoImplicit true

/-- The relation holds `n` times in a row from `i` to `j`. -/
inductive Rounds (R : Nat → Nat → Prop) : Nat → Nat → Nat → Prop
  | nil : Rounds R 0 i i
  | cons (h : R i m) (hs : Rounds R n m j) : Rounds R (n + 1) i j

namespace Rounds

variable {R : Nat → Nat → Prop}

theorem zero_iff : Rounds R 0 i j ↔ j = i := by
  constructor
  · rintro ⟨⟩
    rfl
  · rintro rfl
    exact .nil

theorem succ_iff : Rounds R (n + 1) i j ↔ ∃ m, R i m ∧ Rounds R n m j := by
  constructor
  · rintro (_ | ⟨h, hs⟩)
    exact ⟨_, h, hs⟩
  · rintro ⟨m, h, hs⟩
    exact .cons h hs

theorem add_iff : Rounds R (m + n) i j ↔ ∃ k, Rounds R m i k ∧ Rounds R n k j := by
  induction m generalizing i with
  | zero => simp [zero_iff]
  | succ m ih =>
    rw [Nat.succ_add]
    simp only [succ_iff, ih]
    constructor
    · rintro ⟨l, hl, k, hk, hs⟩
      exact ⟨k, ⟨l, hl, hk⟩, hs⟩
    · rintro ⟨k, ⟨l, hl, hk⟩, hs⟩
      exact ⟨l, hl, k, hk, hs⟩

theorem le_length {len : Nat} (hlen : ∀ i j, R i j → i ≤ len → j ≤ len) (h : Rounds R n i j)
    (hi : i ≤ len) : j ≤ len := by
  induction h with
  | nil => exact hi
  | cons h _ ih => exact ih (hlen _ _ h hi)

variable (hR : ∀ i j, R i j → i ≤ j)
include hR

theorem le (h : Rounds R n i j) : i ≤ j := by
  induction h with
  | nil => exact Nat.le_refl _
  | cons h _ ih => exact Nat.le_trans (hR _ _ h) ih

/-- Rounds that do not get ahead can be left out. -/
theorem exists_short (h : Rounds R n i j) : ∃ k, k ≤ n ∧ i + k ≤ j ∧ Rounds R k i j := by
  induction h with
  | nil => exact ⟨0, Nat.le_refl 0, Nat.le_refl _, .nil⟩
  | @cons i m n j h hs ih =>
    obtain ⟨k, hk, hj, hs⟩ := ih
    rcases Nat.lt_or_eq_of_le (hR i m h) with hlt | rfl
    · exact ⟨k + 1, by omega, by omega, .cons h hs⟩
    · exact ⟨k, by omega, hj, hs⟩

/-- Of more rounds than there are places to go, one stays where it is. It can be left out, or be
done once more. -/
theorem succ_iff_of_lt (h : j < i + n) : Rounds R (n + 1) i j ↔ Rounds R n i j := by
  induction n generalizing i with
  | zero =>
    constructor
    · intro hs
      have := hs.le hR
      omega
    · intro hs
      have := hs.le hR
      omega
  | succ n ih =>
    rw [succ_iff, succ_iff]
    constructor
    · rintro ⟨m, hm, hs⟩
      rcases Nat.lt_or_eq_of_le (hR i m hm) with hlt | rfl
      · exact ⟨m, hm, (ih (by omega)).1 hs⟩
      · exact succ_iff.1 hs
    · rintro ⟨m, hm, hs⟩
      rcases Nat.lt_or_eq_of_le (hR i m hm) with hlt | rfl
      · exact ⟨m, hm, (ih (by omega)).2 hs⟩
      · exact ⟨i, hm, .cons hm hs⟩

theorem iff_of_lt (h : j < i + m) (hmn : m ≤ n) : Rounds R n i j ↔ Rounds R m i j := by
  obtain ⟨k, rfl⟩ := Nat.exists_eq_add_of_le hmn
  clear hmn
  induction k with
  | zero => rfl
  | succ k ih => rw [← Nat.add_assoc, succ_iff_of_lt hR (by omega), ih]

end Rounds

namespace Place

/-- The place behind the first `i` characters of a text. -/
def nth (s : Text) (i : Nat) : Place :=
  ⟨i, (s.take i).getLast?, s.drop i⟩

theorem after_nth (h : t <+: s.drop i) : (nth s i).after t = nth s (i + t.length) := by
  have htake : s.take (i + t.length) = s.take i ++ t := by
    rw [List.take_add, List.prefix_iff_eq_take.1 h]
    simp
  simp [after, nth, htake, List.getLast?_append, List.drop_drop]

theorem getLast?_take_succ {s : Text} (h : i < s.length) :
    (s.take (i + 1)).getLast? = some s[i] := by
  rw [List.take_succ_eq_append_getElem h, List.getLast?_concat]

theorem advance?_nth (set : CharSet) (s : Text) (i : Nat) : (nth s i).advance? set =
    if s[i]?.any set.contains then some (nth s (i + 1)) else none := by
  by_cases hi : i < s.length
  · simp only [advance?, nth, List.drop_eq_getElem_cons hi, getLast?_take_succ hi,
      List.getElem?_eq_getElem hi, Option.any_some]
  · have hi := Nat.not_lt.1 hi
    simp [advance?, nth, List.drop_of_length_le hi, List.getElem?_eq_none hi]

theorem onward_eq_map_nth (hn : i + n = s.length) :
    onward i (s.take i).getLast? (s.drop i) = (List.range' i (n + 1)).map (nth s) := by
  induction n generalizing i with
  | zero =>
    rw [List.drop_of_length_le (by omega), onward]
    simp [nth, List.drop_of_length_le (show s.length ≤ i by omega)]
  | succ n ih =>
    have hi : i < s.length := by omega
    rw [List.drop_eq_getElem_cons hi, onward, ← getLast?_take_succ hi, ih (by omega),
      ← List.drop_eq_getElem_cons hi]
    rfl

theorem all_eq_map_nth (s : Text) : all s = (List.range (s.length + 1)).map (nth s) := by
  have h := onward_eq_map_nth (s := s) (Nat.zero_add s.length)
  rwa [← List.range_eq_range'] at h

theorem without_map_nth (old new : List Nat) :
    without (old.map (nth s)) (new.map (nth s)) = (new.filter (· ∉ old)).map (nth s) := by
  simp only [without, List.filter_map]
  congr 1
  apply List.filter_congr
  intro i _
  rw [Bool.eq_iff_iff]
  simp only [Function.comp_apply, nth, Bool.not_eq_true', List.any_eq_false, List.mem_map,
    forall_exists_index, and_imp, forall_apply_eq_imp_iff₂, beq_iff_eq, decide_eq_true_eq]
  exact ⟨fun h hi => h i hi rfl, fun h j hj he => h (he ▸ hj)⟩

end Place

namespace Pattern
open Place

variable {p q : Pattern} {R : Nat → Nat → Prop} {step : List Place → List Place}

/-- From the place `i` of a text the pattern can get to the place `j`. -/
def Leads (p : Pattern) (s : Text) (i j : Nat) : Prop :=
  ∃ f ∈ p.fits (nth s i), j = i + f.taken.length

theorem Leads.le (h : p.Leads s i j) : i ≤ j := by
  obtain ⟨f, _, rfl⟩ := h
  exact Nat.le_add_right _ _

theorem Leads.le_length (h : p.Leads s i j) (hi : i ≤ s.length) : j ≤ s.length := by
  obtain ⟨f, hf, rfl⟩ := h
  have hlen := (isPrefix_of_mem_fits hf).length_le
  simp only [nth, List.length_drop] at hlen
  omega

theorem leads_empty : empty.Leads s i j ↔ j = i := by
  simp [Leads, fits]

theorem leads_one {set : CharSet} :
    (one set).Leads s i j ↔ s[i]?.any set.contains ∧ j = i + 1 := by
  simp only [Leads, mem_fits_one]
  constructor
  · rintro ⟨_, ⟨c, ⟨rest, he⟩, hc, rfl⟩, rfl⟩
    have hi : s[i]? = some c := by
      rw [← List.head?_drop, ← show [c] ++ rest = s.drop i from he]
      rfl
    rw [hi]
    exact ⟨hc, rfl⟩
  · rintro ⟨hc, rfl⟩
    obtain ⟨c, hi, hc⟩ := (Option.any_eq_true _ _).1 hc
    obtain ⟨hlt, rfl⟩ := List.getElem?_eq_some_iff.1 hi
    exact ⟨_, ⟨_, ⟨s.drop (i + 1), (List.drop_eq_getElem_cons hlt).symm⟩, hc, rfl⟩, rfl⟩

theorem leads_anchor : (anchor a).Leads s i j ↔ a.holds (nth s i) ∧ j = i := by
  simp only [Leads, mem_fits_anchor]
  constructor
  · rintro ⟨_, ⟨ha, rfl⟩, rfl⟩
    exact ⟨ha, rfl⟩
  · rintro ⟨ha, rfl⟩
    exact ⟨_, ⟨ha, rfl⟩, rfl⟩

theorem leads_group : (group p).Leads s i j ↔ p.Leads s i j := by
  simp only [Leads, mem_fits_group]
  constructor
  · rintro ⟨_, ⟨g, hg, rfl⟩, rfl⟩
    exact ⟨g, hg, rfl⟩
  · rintro ⟨g, hg, rfl⟩
    exact ⟨_, ⟨g, hg, rfl⟩, rfl⟩

theorem leads_seq : (seq p q).Leads s i j ↔ ∃ m, p.Leads s i m ∧ q.Leads s m j := by
  simp only [Leads, mem_fits_seq]
  constructor
  · rintro ⟨_, ⟨g, hg, h, hh, rfl⟩, rfl⟩
    rw [after_nth (isPrefix_of_mem_fits hg)] at hh
    exact ⟨_, ⟨g, hg, rfl⟩, h, hh, by simp [Fit.followedBy, Nat.add_assoc]⟩
  · rintro ⟨_, ⟨g, hg, rfl⟩, h, hh, rfl⟩
    rw [← after_nth (isPrefix_of_mem_fits hg)] at hh
    exact ⟨_, ⟨g, hg, h, hh, rfl⟩, by simp [Fit.followedBy, Nat.add_assoc]⟩

theorem leads_alt : (alt p q).Leads s i j ↔ p.Leads s i j ∨ q.Leads s i j := by
  simp only [Leads, mem_fits_alt]
  constructor
  · rintro ⟨_, ⟨g, hg, rfl⟩ | ⟨g, hg, rfl⟩, rfl⟩
    · exact .inl ⟨g, hg, rfl⟩
    · exact .inr ⟨g, hg, rfl⟩
  · rintro (⟨g, hg, rfl⟩ | ⟨g, hg, rfl⟩)
    · exact ⟨_, .inl ⟨g, hg, rfl⟩, rfl⟩
    · exact ⟨_, .inr ⟨g, hg, rfl⟩, rfl⟩

/-- How often a pattern may stand. -/
def Admits (least : Nat) (most : Option Nat) (n : Nat) : Prop :=
  least ≤ n ∧ ∀ m ∈ most, n ≤ max least m

theorem exists_rounds_of_mem (h : f ∈ rounds p.fits stop isLazy fuel isFirst least most (nth s i))
    (hstop : stop.taken = []) :
    ∃ n, Admits least most n ∧ Rounds (p.Leads s) n i (i + f.taken.length) := by
  induction fuel generalizing f isFirst least most i with
  | zero => cases h
  | succ fuel ih =>
    obtain ⟨rfl, rfl⟩ | ⟨hmore, g, hg, _, h, hh, rfl⟩ := mem_rounds_succ.1 h
    · rw [hstop]
      exact ⟨0, ⟨Nat.le_refl 0, fun m _ => Nat.zero_le _⟩, .nil⟩
    · rw [after_nth (isPrefix_of_mem_fits hg)] at hh
      obtain ⟨n, ⟨hleast, hmost⟩, hr⟩ := ih hh
      refine ⟨n + 1, ⟨by omega, ?_⟩, .cons ⟨g, hg, rfl⟩ ?_⟩
      · rintro m rfl
        have := hmost (m - 1) rfl
        simp at hmore
        omega
      · simpa [Fit.repeatedBy, Nat.add_assoc] using hr

theorem exists_mem_rounds (hr : Rounds (p.Leads s) n i j) (hn : Admits least most n)
    (hi : i ≤ s.length) (hfuel : least + (s.length - i) + isFirst.toNat < fuel)
    (hstop : stop.taken = []) :
    ∃ f ∈ rounds p.fits stop isLazy fuel isFirst least most (nth s i), j = i + f.taken.length := by
  induction n generalizing i least most fuel isFirst with
  | zero =>
    obtain ⟨fuel, rfl⟩ := Nat.exists_eq_succ_of_ne_zero (Nat.ne_zero_of_lt hfuel)
    obtain rfl := Rounds.zero_iff.1 hr
    exact ⟨stop, mem_rounds_succ.2 (.inl ⟨Nat.le_zero.1 hn.1, rfl⟩), by rw [hstop]; rfl⟩
  | succ n ih =>
    obtain ⟨fuel, rfl⟩ := Nat.exists_eq_succ_of_ne_zero (Nat.ne_zero_of_lt hfuel)
    obtain ⟨_, ⟨g, hg, rfl⟩, hr⟩ := Rounds.succ_iff.1 hr
    have hlen := Leads.le_length ⟨g, hg, rfl⟩ hi
    by_cases hidle : least = 0 ∧ g.taken = [] ∧ isFirst = false
    · obtain ⟨rfl, hg, rfl⟩ := hidle
      rw [hg] at hr
      exact ih hr ⟨Nat.zero_le n, fun m hm => Nat.le_of_succ_le (hn.2 m hm)⟩ hi hfuel
    · -- Each round uses up fuel for a round that must be, for a character, or for the first round.
      have hahead := hidle
      simp only [Classical.not_and_iff_not_or_not, ← List.length_eq_zero_iff, Bool.not_eq_false,
        ← Bool.toNat_eq_one] at hahead
      have hmore : ¬(least = 0 ∧ most = some 0) := by
        rintro ⟨rfl, rfl⟩
        have := hn.2 0 rfl
        omega
      have hn' : Admits (least - 1) (most.map (· - 1)) n := by
        refine ⟨by have := hn.1; omega, ?_⟩
        intro m hm
        obtain ⟨m', hm', rfl⟩ := Option.map_eq_some_iff.1 hm
        have := hn.2 m' hm'
        omega
      have hfuel' : least - 1 + (s.length - (i + g.taken.length)) + false.toNat < fuel := by
        rw [Bool.toNat_false]
        omega
      obtain ⟨h, hh, he⟩ := ih hr hn' hlen hfuel'
      rw [← after_nth (isPrefix_of_mem_fits hg)] at hh
      refine ⟨g.repeatedBy h, mem_rounds_succ.2 (.inr ⟨hmore, g, hg, hidle, h, hh, rfl⟩), ?_⟩
      simp [he, Fit.repeatedBy, Nat.add_assoc]

theorem leads_repeated (hi : i ≤ s.length) : (repeated p least most isLazy).Leads s i j ↔
    ∃ n, Admits least most n ∧ Rounds (p.Leads s) n i j := by
  constructor
  · rintro ⟨f, hf, rfl⟩
    exact exists_rounds_of_mem hf rfl
  · rintro ⟨n, hn, hr⟩
    refine exists_mem_rounds hr hn hi ?_ rfl
    simp only [nth, List.length_drop, Bool.toNat_true]
    omega

/-- The step leads from places of the text to those that the relation leads to. -/
def Follows (s : Text) (step : List Place → List Place) (R : Nat → Nat → Prop) : Prop :=
  ∀ is : List Nat, (∀ i ∈ is, i ≤ s.length) → ∃ js : List Nat,
    step (is.map (nth s)) = js.map (nth s) ∧ ∀ j, j ∈ js ↔ ∃ i ∈ is, R i j

theorem follows_seq (h : Follows s step R) (h' : Follows s step' R')
    (hlen : ∀ i j, R i j → i ≤ s.length → j ≤ s.length) :
    Follows s (fun places => step' (step places)) fun i j => ∃ m, R i m ∧ R' m j := by
  intro is his
  obtain ⟨js, hjs, hmem⟩ := h is his
  have hjlen : ∀ j ∈ js, j ≤ s.length := by
    intro j hj
    obtain ⟨i, hi, hR⟩ := (hmem j).1 hj
    exact hlen i j hR (his i hi)
  obtain ⟨ks, hks, hmem'⟩ := h' js hjlen
  refine ⟨ks, hks ▸ congrArg step' hjs, ?_⟩
  intro k
  simp only [hmem', hmem]
  constructor
  · rintro ⟨j, ⟨i, hi, hR⟩, hR'⟩
    exact ⟨i, hi, j, hR, hR'⟩
  · rintro ⟨i, hi, j, hR, hR'⟩
    exact ⟨j, ⟨i, hi, hR⟩, hR'⟩

theorem follows_times (h : Follows s step R) (hlen : ∀ i j, R i j → i ≤ s.length → j ≤ s.length)
    (n : Nat) : Follows s (times step n) (Rounds R n) := by
  induction n with
  | zero =>
    intro is _
    refine ⟨is, rfl, ?_⟩
    simp [Rounds.zero_iff]
  | succ n ih =>
    intro is his
    rw [times]
    split
    · rename_i hnil
      obtain rfl : is = [] := by simpa using hnil
      exact ⟨[], rfl, by simp⟩
    · simp only [Rounds.succ_iff]
      exact follows_seq h ih hlen is his

/-- What further rounds reach from a place that was seen, they reach from a new place too or have
seen already. -/
theorem reached_of_seen {seen next : Nat → Prop} (hseen : ∀ i j, seen i → R i j → seen j ∨ next j)
    (hi : seen i) (hr : Rounds R n i j) : seen j ∨ ∃ k m, k < n ∧ next m ∧ Rounds R k m j := by
  induction hr with
  | nil => exact .inl hi
  | @cons i m n j h hr ih =>
    rcases hseen i m hi h with hm | hm
    · obtain hj | ⟨k, m, hk, hm, hr⟩ := ih hm
      · exact .inl hj
      · exact .inr ⟨k, m, Nat.lt_succ_of_lt hk, hm, hr⟩
    · exact .inr ⟨n, m, Nat.lt_succ_self n, hm, hr⟩

/-- Only the newest places are tried again, as the steps from all others were taken before. -/
theorem exists_upTo_eq (h : Follows s step R) (hle : ∀ i j, R i j → i ≤ s.length → j ≤ s.length)
    {seen newest : List Nat} (hlen : ∀ i ∈ newest, i ≤ s.length) (hnew : newest ⊆ seen)
    (hseen : ∀ i j, i ∈ seen → R i j → j ∈ seen ∨ i ∈ newest) (n : Nat) :
    ∃ js : List Nat,
      upTo step n (seen.map (nth s)) (newest.map (nth s)) = js.map (nth s) ∧
        ∀ j, j ∈ js ↔ j ∈ seen ∨ ∃ i ∈ newest, ∃ k ≤ n, Rounds R k i j := by
  induction n generalizing seen newest with
  | zero =>
    refine ⟨seen, rfl, ?_⟩
    intro j
    refine (or_iff_left_of_imp ?_).symm
    rintro ⟨i, hi, k, hk, hr⟩
    obtain rfl := Nat.le_zero.1 hk
    obtain rfl := Rounds.zero_iff.1 hr
    exact hnew hi
  | succ n ih =>
    obtain ⟨ks, hks, hmem⟩ := h newest hlen
    have hnext : ∀ j, j ∈ ks.filter (· ∉ seen) ↔ (∃ i ∈ newest, R i j) ∧ j ∉ seen := by
      simp [hmem]
    have hstep : ∀ i j, i ∈ seen → R i j → j ∈ seen ∨ j ∈ ks.filter (· ∉ seen) := by
      intro i j hi hR
      by_cases hj : j ∈ seen
      · exact .inl hj
      · exact .inr ((hnext j).2 ⟨⟨i, (hseen i j hi hR).resolve_left hj, hR⟩, hj⟩)
    have hreach {i j k : Nat} (hi : i ∈ newest) (hr : Rounds R k i j) :=
      reached_of_seen hstep (hnew hi) hr
    rw [upTo, hks, without_map_nth]
    split
    · rename_i hempty
      rw [List.isEmpty_iff, List.map_eq_nil_iff] at hempty
      refine ⟨seen, rfl, ?_⟩
      intro j
      refine (or_iff_left_of_imp ?_).symm
      rintro ⟨i, hi, k, _, hr⟩
      obtain hj | ⟨_, m, _, hm, _⟩ := hreach hi hr
      · exact hj
      · rw [hempty] at hm
        cases hm
    · have hlen' : ∀ j ∈ ks.filter (· ∉ seen), j ≤ s.length := by
        intro j hj
        obtain ⟨⟨i, hi, hR⟩, _⟩ := (hnext j).1 hj
        exact hle i j hR (hlen i hi)
      have hseen' : ∀ i j, i ∈ seen ++ ks.filter (· ∉ seen) → R i j →
          j ∈ seen ++ ks.filter (· ∉ seen) ∨ i ∈ ks.filter (· ∉ seen) := by
        intro i j hi hR
        rcases List.mem_append.1 hi with hi | hi
        · exact .inl (List.mem_append.2 (hstep i j hi hR))
        · exact .inr hi
      obtain ⟨js, hjs, hmem'⟩ := ih hlen' (List.subset_append_right _ _) hseen'
      rw [← List.map_append, hjs]
      refine ⟨js, rfl, ?_⟩
      intro j
      rw [hmem', List.mem_append, or_assoc]
      constructor
      · rintro (hj | hj | ⟨m, hm, k, hk, hr⟩)
        · exact .inl hj
        · obtain ⟨⟨i, hi, hR⟩, _⟩ := (hnext j).1 hj
          exact .inr ⟨i, hi, 1, by omega, .cons hR .nil⟩
        · obtain ⟨⟨i, hi, hR⟩, _⟩ := (hnext m).1 hm
          exact .inr ⟨i, hi, k + 1, by omega, .cons hR hr⟩
      · rintro (hj | ⟨i, hi, k, hk, hr⟩)
        · exact .inl hj
        · obtain hj | ⟨k', m, hk', hm, hr'⟩ := hreach hi hr
          · exact .inl hj
          · exact .inr (.inr ⟨m, hm, k', by omega, hr'⟩)

theorem lt_room {places : List Place} (h : a ∈ places) : a.rest.length < room places := by
  have hmax : ∀ (l : List Nat) (m x : Nat), x ≤ m ∨ x ∈ l → x ≤ l.foldl max m := by
    intro l
    induction l with
    | nil => simp
    | cons y l ih =>
      intro m x hx
      apply ih
      rcases hx with hx | hx
      · exact .inl (by omega)
      · rcases List.mem_cons.1 hx with rfl | hx
        · exact .inl (Nat.le_max_right m x)
        · exact .inr hx
  exact Nat.lt_succ_of_le (hmax _ 0 _ (.inr (List.mem_map_of_mem h)))

theorem rounds_min_iff (hR : ∀ i j, R i j → i ≤ j) (h : j < i + n) :
    Rounds R (min least n) i j ↔ Rounds R least i j := by
  rcases Nat.le_total least n with hle | hle
  · rw [Nat.min_eq_left hle]
  · rw [Nat.min_eq_right hle, Rounds.iff_of_lt hR h hle]

/-- The search for repetitions: as many rounds as must be and then more, but never more than there
is room for. -/
theorem exists_admits_iff {len : Nat} (hR : ∀ i j, R i j → i ≤ j)
    (hlen : ∀ i j, R i j → i ≤ len → j ≤ len) {room : Nat} (hi : i ≤ len)
    (hroom : len < i + room) :
    (∃ n, Admits least most n ∧ Rounds R n i j) ↔
      ∃ m, Rounds R (min least room) i m ∧
        ∃ k ≤ (most.map (· - least)).getD room, Rounds R k m j := by
  constructor
  · rintro ⟨_, ⟨hleast, hmost⟩, hr⟩
    obtain ⟨k, rfl⟩ := Nat.exists_eq_add_of_le hleast
    obtain ⟨m, hm, hr⟩ := Rounds.add_iff.1 hr
    have hmlen := hm.le_length hlen hi
    refine ⟨m, (rounds_min_iff hR (by omega)).2 hm, ?_⟩
    cases most with
    | some n =>
      have hn := hmost n rfl
      exact ⟨k, by rw [Option.map_some, Option.getD_some]; omega, hr⟩
    | none =>
      obtain ⟨k', _, hj, hr'⟩ := hr.exists_short hR
      have hjlen := hr.le_length hlen hmlen
      have him := hm.le hR
      exact ⟨k', by rw [Option.map_none, Option.getD_none]; omega, hr'⟩
  · rintro ⟨m, hm, k, hk, hr⟩
    have hmlen := hm.le_length hlen hi
    have hm' := (rounds_min_iff hR (by omega)).1 hm
    refine ⟨least + k, ⟨Nat.le_add_right least k, ?_⟩, Rounds.add_iff.2 ⟨m, hm', hr⟩⟩
    rintro n rfl
    rw [Option.map_some, Option.getD_some] at hk
    omega

theorem follows_ends (p : Pattern) (s : Text) : Follows s p.ends (p.Leads s) := by
  induction p with
  | empty =>
    intro is _
    exact ⟨is, rfl, by simp [leads_empty]⟩
  | one set =>
    intro is _
    refine ⟨is.filterMap fun i => if s[i]?.any set.contains then some (i + 1) else none, ?_, ?_⟩
    · have hstep : (advance? set ∘ nth s) = fun i =>
          (if s[i]?.any set.contains then some (i + 1) else none).map (nth s) := by
        funext i
        rw [Function.comp_apply, advance?_nth]
        split <;> rfl
      rw [ends, List.filterMap_map, List.map_filterMap, ← hstep]
    · intro j
      simp only [List.mem_filterMap, Option.ite_none_right_eq_some, Option.some.injEq, leads_one,
        @eq_comm _ j]
  | anchor a =>
    intro is _
    refine ⟨is.filter fun i => a.holds (nth s i), ?_, ?_⟩
    · rw [ends, List.filter_map]
      rfl
    · intro j
      simp only [List.mem_filter, leads_anchor]
      constructor
      · rintro ⟨hj, ha⟩
        exact ⟨j, hj, ha, rfl⟩
      · rintro ⟨_, hi, ha, rfl⟩
        exact ⟨hi, ha⟩
  | group p ih =>
    simp only [Follows, leads_group]
    exact ih
  | seq p q ihp ihq =>
    simp only [Follows, leads_seq]
    exact follows_seq ihp ihq fun _ _ h hi => h.le_length hi
  | alt p q ihp ihq =>
    intro is his
    obtain ⟨js, hjs, hmem⟩ := ihp is his
    obtain ⟨ks, hks, hmem'⟩ := ihq is his
    refine ⟨js ++ ks.filter (· ∉ js), ?_, ?_⟩
    · rw [ends, hjs, hks, Place.merge, without_map_nth, List.map_append]
    · intro j
      have hor : j ∈ js ++ ks.filter (· ∉ js) ↔ j ∈ js ∨ j ∈ ks := by
        by_cases hj : j ∈ js <;> simp [hj]
      simp only [hor, hmem, hmem', leads_alt, and_or_left, exists_or]
  | repeated p least most isLazy ih =>
    have hlen : ∀ i j, p.Leads s i j → i ≤ s.length → j ≤ s.length := fun _ _ h hi => h.le_length hi
    intro is his
    generalize hroom : room (is.map (nth s)) = limit
    obtain ⟨js, hjs, hmem⟩ := follows_times ih hlen (min least limit) is his
    have hjlen : ∀ j ∈ js, j ≤ s.length := by
      intro j hj
      obtain ⟨i, hi, hr⟩ := (hmem j).1 hj
      exact hr.le_length hlen (his i hi)
    obtain ⟨ks, hks, hmem'⟩ := exists_upTo_eq ih hlen hjlen (List.Subset.refl js)
      (fun _ _ hi _ => .inr hi) ((most.map (· - least)).getD limit)
    refine ⟨ks, ?_, ?_⟩
    · rw [ends, hroom, hjs]
      exact hks
    · have hroom' : ∀ i ∈ is, s.length < i + limit := by
        intro i hi
        have hlt := hroom ▸ lt_room (List.mem_map_of_mem hi)
        rw [nth, List.length_drop] at hlt
        omega
      have hadmits {i j : Nat} (hi : i ∈ is) :
          (∃ n, Admits least most n ∧ Rounds (p.Leads s) n i j) ↔
            ∃ m, Rounds (p.Leads s) (min least limit) i m ∧
              ∃ n ≤ (most.map (· - least)).getD limit, Rounds (p.Leads s) n m j :=
        exists_admits_iff (fun _ _ => Leads.le) hlen (his i hi) (hroom' i hi)
      intro k
      rw [hmem']
      constructor
      · intro hk
        obtain ⟨j, hj, n, hn, hr⟩ : ∃ j ∈ js, ∃ n ≤ (most.map (· - least)).getD limit,
            Rounds (p.Leads s) n j k :=
          hk.elim (fun hk => ⟨k, hk, 0, Nat.zero_le _, .nil⟩) id
        obtain ⟨i, hi, hr'⟩ := (hmem j).1 hj
        exact ⟨i, hi, (leads_repeated (his i hi)).2 ((hadmits hi).2 ⟨j, hr', n, hn, hr⟩)⟩
      · rintro ⟨i, hi, hl⟩
        obtain ⟨j, hr', n, hn, hr⟩ := (hadmits hi).1 ((leads_repeated (his i hi)).1 hl)
        exact .inr ⟨j, (hmem j).2 ⟨i, hi, hr'⟩, n, hn, hr⟩

/-- Both ways to look for a pattern come to the same: the one that keeps all places at once and the
one that tries the ways to fit in their order. -/
theorem occursIn_iff (p : Pattern) (s : Text) : p.occursIn s ↔ (p.captures? s).isSome := by
  have hrange : ∀ i ∈ List.range (s.length + 1), i ≤ s.length := by
    intro i hi
    exact Nat.le_of_lt_succ (List.mem_range.1 hi)
  obtain ⟨js, hjs, hmem⟩ := follows_ends p s _ hrange
  rw [occursIn, captures?, all_eq_map_nth, hjs, List.findSome?_isSome_iff]
  constructor
  · intro hne
    obtain ⟨j, hj⟩ := List.exists_mem_of_ne_nil js (by rintro rfl; cases hne)
    obtain ⟨i, hi, f, hf, _⟩ := (hmem j).1 hj
    refine ⟨nth s i, List.mem_map_of_mem hi, ?_⟩
    rw [List.isSome_head?]
    exact List.ne_nil_of_mem hf
  · rintro ⟨_, hplace, hsome⟩
    obtain ⟨i, hi, rfl⟩ := List.mem_map.1 hplace
    obtain ⟨f, hf⟩ := Option.isSome_iff_exists.1 hsome
    have hj := (hmem _).2 ⟨i, hi, f, List.mem_of_head? hf, rfl⟩
    simp [List.ne_nil_of_mem hj]

end Pattern

end SolverInput
