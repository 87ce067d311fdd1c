import SolverInput.Pattern.Capture

namespace SolverInput
set_option autoImplicit true

theorem append_isPrefix_iff {s t r : List α} :
    s ++ t <+: r ↔ s <+: r ∧ t <+: r.drop s.length := by
  constructor
  · rintro ⟨rest, rfl⟩
    exact ⟨⟨t ++ rest, by simp⟩, ⟨rest, by simp⟩⟩
  · rintro ⟨⟨r, rfl⟩, ht⟩
    rw [List.drop_left] at ht
    exact (List.prefix_append_right_inj s).2 ht

namespace Place

@[simp] theorem after_nil (p : Place) : p.after [] = p :=
  rfl

@[simp] theorem after_after (p : Place) (s t : Text) : (p.after s).after t = p.after (s ++ t) := by
  simp [after, Nat.add_assoc, List.getLast?_append, Option.or_assoc, List.drop_drop]

@[simp] theorem rest_after (p : Place) (s : Text) : (p.after s).rest = p.rest.drop s.length :=
  rfl

theorem last_ne_none_of_mem_onward (h : p ∈ onward i (some c) s) : p.last ≠ none := by
  induction s generalizing i c with
  | nil =>
    obtain rfl := List.mem_singleton.1 h
    exact Option.some_ne_none c
  | cons d s ih =>
    rcases List.mem_cons.1 h with rfl | h
    · exact Option.some_ne_none c
    · exact ih h

end Place

namespace Pattern

variable {p q : Pattern} {set : CharSet} {place : Place} {f : Fit}

theorem mem_fits_one :
    f ∈ (one set).fits place ↔ ∃ c, [c] <+: place.rest ∧ set.contains c ∧ f = ⟨[c], []⟩ := by
  cases h : place.rest with
  | nil => simp [fits, h]
  | cons c rest =>
    by_cases hc : set.contains c <;> simp [fits, h, hc, Option.filter, List.cons_prefix_cons]

theorem mem_fits_seq : f ∈ (seq p q).fits place ↔
    ∃ g ∈ p.fits place, ∃ h ∈ q.fits (place.after g.taken), f = g.followedBy h := by
  simp only [fits, List.mem_flatMap, List.mem_map, eq_comm]

theorem mem_fits_alt : f ∈ (alt p q).fits place ↔
    (∃ g ∈ p.fits place, f = ⟨g.taken, g.groups ++ q.noGroups⟩) ∨
      ∃ g ∈ q.fits place, f = ⟨g.taken, p.noGroups ++ g.groups⟩ := by
  simp only [fits, List.mem_append, List.mem_map, eq_comm]

theorem mem_fits_group : f ∈ (group p).fits place ↔
    ∃ g ∈ p.fits place, f = ⟨g.taken, some g.taken :: g.groups⟩ := by
  simp only [fits, List.mem_map, eq_comm]

theorem mem_fits_anchor : f ∈ (anchor a).fits place ↔ a.holds place ∧ f = ⟨[], []⟩ := by
  simp only [fits]
  split <;> simp_all

@[simp] theorem mem_fits_empty_seq : f ∈ (seq empty p).fits place ↔ f ∈ p.fits place := by
  rw [mem_fits_seq]
  constructor
  · rintro ⟨g, hg, h, hh, rfl⟩
    obtain rfl := List.mem_singleton.1 hg
    exact hh
  · intro hf
    exact ⟨_, List.mem_singleton.2 rfl, f, hf, rfl⟩

theorem mem_fits_anchor_seq :
    f ∈ (seq (anchor a) p).fits place ↔ a.holds place ∧ f ∈ p.fits place := by
  rw [mem_fits_seq]
  constructor
  · rintro ⟨g, hg, h, hh, rfl⟩
    obtain ⟨ha, rfl⟩ := mem_fits_anchor.1 hg
    exact ⟨ha, hh⟩
  · rintro ⟨ha, hf⟩
    exact ⟨_, mem_fits_anchor.2 ⟨ha, rfl⟩, f, hf, rfl⟩

theorem fits_anchor_seq (ha : a.holds place) : (seq (anchor a) p).fits place = p.fits place := by
  simp only [fits, ha, if_true, List.flatMap_cons, List.flatMap_nil, List.append_nil,
    Place.after_nil]
  exact List.map_id _

theorem mem_fits_sequence_append (hne : qs ≠ []) : f ∈ (sequence (ps ++ qs)).fits place ↔
    ∃ g ∈ (sequence ps).fits place, ∃ h ∈ (sequence qs).fits (place.after g.taken),
      f = g.followedBy h := by
  rw [← mem_fits_seq]
  induction ps generalizing f place with
  | nil => exact mem_fits_empty_seq.symm
  | cons p ps ih =>
    cases ps with
    | nil =>
      obtain ⟨q, qs, rfl⟩ := List.exists_cons_of_ne_nil hne
      rfl
    | cons p' ps =>
      simp only [List.cons_append, sequence, mem_fits_seq (p := p)] at ih ⊢
      simp only [ih, mem_fits_seq]
      constructor
      · rintro ⟨g, hg, _, ⟨g', hg', h, hh, rfl⟩, rfl⟩
        rw [Place.after_after] at hh
        exact ⟨_, ⟨g, hg, g', hg', rfl⟩, h, hh, by simp [Fit.followedBy]⟩
      · rintro ⟨_, ⟨g, hg, g', hg', rfl⟩, h, hh, rfl⟩
        rw [Fit.followedBy, ← Place.after_after] at hh
        exact ⟨g, hg, _, ⟨g', hg', h, hh, rfl⟩, by simp [Fit.followedBy]⟩

theorem mem_prefer : f ∈ prefer isLazy stop goOn ↔ f ∈ stop ∨ f ∈ goOn := by
  cases isLazy <;> simp [prefer, or_comm]

theorem mem_rounds_succ {step : Place → List Fit} :
    f ∈ rounds step stop isLazy (fuel + 1) isFirst least most place ↔
      (least = 0 ∧ f = stop) ∨
        ¬(least = 0 ∧ most = some 0) ∧ ∃ g ∈ step place,
          ¬(least = 0 ∧ g.taken = [] ∧ isFirst = false) ∧
            ∃ h ∈ rounds step stop isLazy fuel false (least - 1) (most.map (· - 1))
              (place.after g.taken), f = g.repeatedBy h := by
  rw [rounds, mem_prefer]
  apply or_congr
  · split <;> simp_all
  · by_cases hm : least = 0 ∧ most = some 0
    · simp [hm]
    · rw [if_neg (by simpa using hm)]
      simp only [List.mem_flatMap, hm, not_false_eq_true, true_and]
      apply exists_congr
      intro g
      apply and_congr_right'
      by_cases hg : least = 0 ∧ g.taken = [] ∧ isFirst = false
      · simp [hg]
      · rw [if_neg (by simpa [and_assoc] using hg)]
        simp only [List.mem_map, hg, not_false_eq_true, true_and, eq_comm]

theorem isPrefix_of_mem_rounds {step : Place → List Fit}
    (hstep : ∀ place, ∀ g ∈ step place, g.taken <+: place.rest) (hstop : stop.taken = [])
    (h : f ∈ rounds step stop isLazy fuel isFirst least most place) : f.taken <+: place.rest := by
  induction fuel generalizing f isFirst least most place with
  | zero => cases h
  | succ fuel ih =>
    obtain ⟨_, rfl⟩ | ⟨_, g, hg, _, h, hh, rfl⟩ := mem_rounds_succ.1 h
    · rw [hstop]
      exact List.nil_prefix
    · exact append_isPrefix_iff.2 ⟨hstep place g hg, ih hh⟩

/-- A pattern that may stand once or not at all. -/
theorem mem_fits_optional : f ∈ (repeated p 0 (some 1) isLazy).fits place ↔
    f = ⟨[], p.noGroups⟩ ∨ ∃ g ∈ p.fits place, f = g.repeatedBy ⟨[], p.noGroups⟩ := by
  rw [fits, mem_rounds_succ]
  simp [mem_rounds_succ]

theorem rounds_one_nil (hp : place.rest = []) :
    rounds (one set).fits ⟨[], []⟩ true (fuel + 1) isFirst 0 none place = [⟨[], []⟩] := by
  simp [rounds, prefer, fits, hp]

theorem rounds_one_cons (hp : place.rest = c :: s) :
    rounds (one set).fits ⟨[], []⟩ true (fuel + 1) isFirst 0 none place = ⟨[], []⟩ ::
      if set.contains c then
        (rounds (one set).fits ⟨[], []⟩ true fuel false 0 none (place.after [c])).map
          (Fit.repeatedBy ⟨[c], []⟩)
      else [] := by
  by_cases hc : set.contains c <;> simp [rounds, prefer, fits, hp, hc, Option.filter]

/-- What a pattern takes comes next in the text. -/
theorem isPrefix_of_mem_fits (h : f ∈ p.fits place) : f.taken <+: place.rest := by
  induction p generalizing f place with
  | empty =>
    obtain rfl := List.mem_singleton.1 h
    exact List.nil_prefix
  | one set =>
    obtain ⟨c, hc, _, rfl⟩ := mem_fits_one.1 h
    exact hc
  | anchor a =>
    obtain ⟨_, rfl⟩ := mem_fits_anchor.1 h
    exact List.nil_prefix
  | group p ih =>
    obtain ⟨g, hg, rfl⟩ := mem_fits_group.1 h
    exact ih (f := g) hg
  | seq p q ihp ihq =>
    obtain ⟨g, hg, h, hh, rfl⟩ := mem_fits_seq.1 h
    exact append_isPrefix_iff.2 ⟨ihp hg, ihq hh⟩
  | alt p q ihp ihq =>
    obtain ⟨g, hg, rfl⟩ | ⟨g, hg, rfl⟩ := mem_fits_alt.1 h
    · exact ihp (f := g) hg
    · exact ihq (f := g) hg
  | repeated p least most isLazy ih =>
    exact isPrefix_of_mem_rounds (fun _ _ hg => ih hg) rfl h

/-- A pattern that fits at the start of a text only is tried nowhere else. -/
theorem captures?_of_start (h : ∀ place, ∀ f ∈ p.fits place, place.last = none) (s : Text) :
    p.captures? s = (p.fits ⟨0, none, s⟩).head? := by
  have hnone (i : Nat) (c : Char) (s : Text) :
      (Place.onward i (some c) s).findSome? (fun place => (p.fits place).head?) = none := by
    rw [List.findSome?_eq_none_iff]
    intro place hp
    rw [List.head?_eq_none_iff, List.eq_nil_iff_forall_not_mem]
    intro f hf
    exact Place.last_ne_none_of_mem_onward hp (h place f hf)
  cases s with
  | nil => simp [captures?, Place.all, Place.onward]
  | cons c s =>
    rw [captures?, Place.all, Place.onward, List.findSome?_cons, hnone]
    cases (p.fits ⟨0, none, c :: s⟩).head? <;> rfl

/-- A pattern without groups takes the texts with the property `P`, wherever they come next. -/
structure Takes (p : Pattern) (P : Text → Prop) : Prop where
  groupCount_eq : p.groupCount = 0
  mem_fits_iff : ∀ place f, f ∈ p.fits place ↔ ∃ t, t <+: place.rest ∧ P t ∧ f = ⟨t, []⟩

namespace Takes

theorem congr (h : Takes p P) (hPQ : ∀ t, P t ↔ Q t) : Takes p Q := by
  have he : P = Q := funext fun t => propext (hPQ t)
  exact he ▸ h

theorem one (set : CharSet) : Takes (.one set) fun t => ∃ c, set.contains c ∧ t = [c] where
  groupCount_eq := rfl
  mem_fits_iff place f := by
    rw [mem_fits_one]
    constructor
    · rintro ⟨c, hc, hs, rfl⟩
      exact ⟨[c], hc, ⟨c, hs, rfl⟩, rfl⟩
    · rintro ⟨_, hc, ⟨c, hs, rfl⟩, rfl⟩
      exact ⟨c, hc, hs, rfl⟩

theorem empty : Takes .empty (· = []) where
  groupCount_eq := rfl
  mem_fits_iff place f := by
    constructor
    · intro h
      obtain rfl := List.mem_singleton.1 h
      exact ⟨[], List.nil_prefix, rfl, rfl⟩
    · rintro ⟨_, _, rfl, rfl⟩
      exact List.mem_singleton.2 rfl

theorem seq (hp : Takes p P) (hq : Takes q Q) :
    Takes (.seq p q) fun t => ∃ u v, P u ∧ Q v ∧ t = u ++ v where
  groupCount_eq := by rw [groupCount, hp.groupCount_eq, hq.groupCount_eq]
  mem_fits_iff place f := by
    simp only [mem_fits_seq, hp.mem_fits_iff, hq.mem_fits_iff]
    constructor
    · rintro ⟨_, ⟨u, hu, hP, rfl⟩, _, ⟨v, hv, hQ, rfl⟩, rfl⟩
      exact ⟨u ++ v, append_isPrefix_iff.2 ⟨hu, hv⟩, ⟨u, v, hP, hQ, rfl⟩, rfl⟩
    · rintro ⟨_, huv, ⟨u, v, hP, hQ, rfl⟩, rfl⟩
      obtain ⟨hu, hv⟩ := append_isPrefix_iff.1 huv
      exact ⟨_, ⟨u, hu, hP, rfl⟩, _, ⟨v, hv, hQ, rfl⟩, rfl⟩

theorem alt (hp : Takes p P) (hq : Takes q Q) : Takes (.alt p q) fun t => P t ∨ Q t where
  groupCount_eq := by rw [groupCount, hp.groupCount_eq, hq.groupCount_eq]
  mem_fits_iff place f := by
    simp only [mem_fits_alt, noGroups, hp.groupCount_eq, hq.groupCount_eq, hp.mem_fits_iff,
      hq.mem_fits_iff]
    constructor
    · rintro (⟨_, ⟨t, ht, hP, rfl⟩, rfl⟩ | ⟨_, ⟨t, ht, hQ, rfl⟩, rfl⟩)
      · exact ⟨t, ht, .inl hP, rfl⟩
      · exact ⟨t, ht, .inr hQ, rfl⟩
    · rintro ⟨t, ht, hP | hQ, rfl⟩
      · exact .inl ⟨_, ⟨t, ht, hP, rfl⟩, rfl⟩
      · exact .inr ⟨_, ⟨t, ht, hQ, rfl⟩, rfl⟩

theorem mem_fits_seq (hp : Takes p P) : f ∈ (Pattern.seq p q).fits place ↔
    ∃ t, t <+: place.rest ∧ P t ∧
      ∃ g ∈ q.fits (place.after t), f = ⟨t ++ g.taken, g.groups⟩ := by
  simp only [Pattern.mem_fits_seq, hp.mem_fits_iff]
  constructor
  · rintro ⟨_, ⟨t, ht, hP, rfl⟩, g, hg, rfl⟩
    exact ⟨t, ht, hP, g, hg, rfl⟩
  · rintro ⟨t, ht, hP, g, hg, rfl⟩
    exact ⟨_, ⟨t, ht, hP, rfl⟩, g, hg, rfl⟩

theorem mem_fits_group_seq (hp : Takes p P) : f ∈ (Pattern.seq (group p) q).fits place ↔
    ∃ t, t <+: place.rest ∧ P t ∧
      ∃ g ∈ q.fits (place.after t), f = ⟨t ++ g.taken, some t :: g.groups⟩ := by
  simp only [Pattern.mem_fits_seq, mem_fits_group, hp.mem_fits_iff]
  constructor
  · rintro ⟨_, ⟨_, ⟨t, ht, hP, rfl⟩, rfl⟩, g, hg, rfl⟩
    exact ⟨t, ht, hP, g, hg, rfl⟩
  · rintro ⟨t, ht, hP, g, hg, rfl⟩
    exact ⟨_, ⟨_, ⟨t, ht, hP, rfl⟩, rfl⟩, g, hg, rfl⟩

/-- A sequence of no more patterns takes nothing more. -/
theorem sequence_cons (hp : Takes p P) (hps : Takes (sequence ps) Q) :
    Takes (sequence (p :: ps)) fun t => ∃ u v, P u ∧ Q v ∧ t = u ++ v := by
  cases ps with
  | nil =>
    have hQ : ∀ v, Q v ↔ v = [] := by
      intro v
      have h := (hps.mem_fits_iff ⟨0, none, v⟩ ⟨v, []⟩).symm.trans
        (empty.mem_fits_iff ⟨0, none, v⟩ ⟨v, []⟩)
      simpa using h
    apply hp.congr
    simp [hQ]
  | cons q ps => exact hp.seq hps

theorem choice {g : α → Pattern} {P : α → Text → Prop} (h : ∀ x ∈ xs, Takes (g x) (P x))
    (hne : xs ≠ []) : Takes (choice (xs.map g)) fun t => ∃ x ∈ xs, P x t := by
  induction xs with
  | nil => exact (hne rfl).elim
  | cons x xs ih =>
    obtain ⟨hx, hxs⟩ := List.forall_mem_cons.1 h
    cases xs with
    | nil =>
      apply hx.congr
      simp
    | cons y ys =>
      apply (hx.alt (ih hxs (List.cons_ne_nil y ys))).congr
      simp

theorem rounds_one (h : place.rest.length < fuel) :
    f ∈ rounds (Pattern.one set).fits ⟨[], []⟩ isLazy fuel isFirst least none place ↔
      ∃ t, t <+: place.rest ∧ (least ≤ t.length ∧ ∀ c ∈ t, set.contains c) ∧ f = ⟨t, []⟩ := by
  induction fuel generalizing f isFirst least place with
  | zero => cases h
  | succ fuel ih =>
    rw [mem_rounds_succ]
    constructor
    · rintro (⟨rfl, rfl⟩ | ⟨_, g, hg, _, h', hh, rfl⟩)
      · exact ⟨[], List.nil_prefix, ⟨Nat.le_refl 0, by simp⟩, rfl⟩
      · obtain ⟨c, hc, hs, rfl⟩ := mem_fits_one.1 hg
        have hlen := hc.length_le
        obtain ⟨t, ht, ⟨hl, hall⟩, rfl⟩ := (ih (by simp at hlen ⊢; omega)).1 hh
        have hlen : least ≤ (c :: t).length := by
          rw [List.length_cons]
          omega
        have hset : ∀ x ∈ c :: t, set.contains x := List.forall_mem_cons.2 ⟨hs, hall⟩
        exact ⟨c :: t, append_isPrefix_iff.2 ⟨hc, ht⟩, ⟨hlen, hset⟩, rfl⟩
    · rintro ⟨t, ht, ⟨hl, hall⟩, rfl⟩
      cases t with
      | nil => exact .inl ⟨Nat.le_zero.1 hl, rfl⟩
      | cons c t =>
        obtain ⟨hs, hall⟩ := List.forall_mem_cons.1 hall
        obtain ⟨hc, ht⟩ := append_isPrefix_iff.1 (show [c] ++ t <+: place.rest from ht)
        have hlen := hc.length_le
        refine .inr ⟨by simp, ⟨[c], []⟩, mem_fits_one.2 ⟨c, hc, hs, rfl⟩, by simp, ⟨t, []⟩, ?_, rfl⟩
        refine (ih (by simp at hlen ⊢; omega)).2 ⟨t, ht, ⟨?_, hall⟩, rfl⟩
        rw [List.length_cons] at hl
        omega

/-- A repeated set takes runs of its characters. -/
theorem many (set : CharSet) (least : Nat) (isLazy : Bool) :
    Takes (.repeated (.one set) least none isLazy) fun t =>
      least ≤ t.length ∧ ∀ c ∈ t, set.contains c where
  groupCount_eq := rfl
  mem_fits_iff place f := rounds_one (by omega)

end Takes

end Pattern

end SolverInput
