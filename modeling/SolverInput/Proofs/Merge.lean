import SolverInput.Proofs.WellFormed

namespace SolverInput
set_option autoImplicit true

variable {es es' : List Dictionary} {paths : List Text} {ss : List DictionarySource}

namespace Dictionary

/-- A well-formed dictionary is what it lists: the set of all keywords adds nothing. -/
theorem WellFormed.ext (ha : WellFormed a) (hb : WellFormed b)
    (hid : ∀ id, (a.keywords? id).isSome = (b.keywords? id).isSome)
    (hk : ∀ id k, a.lists id k = b.lists id k) : a = b := by
  apply ext_keywords?
  · intro id
    have hs := hid id
    have hl := hk id
    simp only [lists] at hl
    cases hx : a.keywords? id with
    | none =>
      rw [hx] at hs
      exact (Option.isNone_iff_eq_none.1 (by simpa using hs.symm)).symm
    | some ks =>
      rw [hx] at hs
      obtain ⟨ks', hy⟩ := Option.isSome_iff_exists.1 hs.symm
      rw [hx, hy] at hl
      rw [hy, KeywordSet.ext_contains hl]
  · intro k
    have hall : (∃ id, a.lists id k) ↔ ∃ id, b.lists id k := by simp only [hk]
    exact Bool.eq_iff_iff.2
      ((ha.listsAnywhere_iff k).trans (hall.trans (hb.listsAnywhere_iff k).symm))

namespace WellFormed

theorem merge_comm (ha : WellFormed a) (hb : WellFormed b) : a.merge b = b.merge a := by
  apply (ha.merge hb).ext (hb.merge ha)
  · intro id
    rw [isSome_keywords?_merge, isSome_keywords?_merge, Bool.or_comm]
  · intro id k
    rw [lists_merge, lists_merge, Bool.or_comm]

theorem merge_assoc (ha : WellFormed a) (hb : WellFormed b) (hc : WellFormed c) :
    (a.merge b).merge c = a.merge (b.merge c) := by
  apply ((ha.merge hb).merge hc).ext (ha.merge (hb.merge hc))
  · intro id
    simp only [isSome_keywords?_merge, Bool.or_assoc]
  · intro id k
    simp [Bool.or_assoc]

theorem merge_self (ha : WellFormed a) : a.merge a = a := by
  apply (ha.merge ha).ext ha
  · intro id
    rw [isSome_keywords?_merge, Bool.or_self]
  · intro id k
    rw [lists_merge, Bool.or_self]

theorem empty_merge (ha : WellFormed a) : empty.merge a = a := by
  apply (wellFormed_empty.merge ha).ext ha
  · intro id
    rw [isSome_keywords?_merge]
    rfl
  · intro id k
    rw [lists_merge]
    rfl

theorem insert_eq_merge (ha : WellFormed a) (id : Text) (h : normalize keyword ≠ []) :
    a.insert id keyword = a.merge (empty.insert id keyword) := by
  have hone := wellFormed_empty.insert id keyword
  apply (ha.insert id keyword).ext (ha.merge hone)
  · intro id'
    rw [isSome_keywords?_merge, keywords?_insert a id id' h, keywords?_insert empty id id' h]
    split
    · exact (Bool.or_true _).symm
    · exact (Bool.or_false _).symm
  · intro id' k
    rw [lists_merge, lists_insert a id id' k h, lists_insert empty id id' k h, Bool.or_comm]
    exact congrArg (a.lists id' k || ·) (Bool.or_false _).symm

end WellFormed

@[simp] theorem merge_empty (a : Dictionary) : a.merge empty = a := by
  apply ext_keywords?
  · intro id
    rw [keywords?_merge]
    exact Option.merge_none_right
  · intro k
    rw [listsAnywhere_merge]
    exact Bool.or_false _

/-- Merges other dictionaries into one, in their order. -/
def mergeAll (d : Dictionary) (es : List Dictionary) : Dictionary :=
  es.foldl merge d

@[simp] theorem mergeAll_cons (d e : Dictionary) (es : List Dictionary) :
    d.mergeAll (e :: es) = (d.merge e).mergeAll es :=
  rfl

theorem WellFormed.mergeAll (hd : WellFormed d) (hes : ∀ e ∈ es, WellFormed e) :
    (d.mergeAll es).WellFormed := by
  induction es generalizing d with
  | nil => exact hd
  | cons e es ih =>
    obtain ⟨he, hes⟩ := List.forall_mem_cons.1 hes
    exact ih (hd.merge he) hes

theorem isSome_keywords?_mergeAll (d : Dictionary) (es : List Dictionary) (id : Text) :
    ((d.mergeAll es).keywords? id).isSome =
      ((d.keywords? id).isSome || es.any fun e => (e.keywords? id).isSome) := by
  induction es generalizing d with
  | nil => exact (Bool.or_false _).symm
  | cons e es ih => rw [mergeAll_cons, ih, isSome_keywords?_merge, List.any_cons, Bool.or_assoc]

@[simp] theorem lists_mergeAll (d : Dictionary) (es : List Dictionary) (id k : Text) :
    (d.mergeAll es).lists id k = (d.lists id k || es.any (·.lists id k)) := by
  induction es generalizing d with
  | nil => exact (Bool.or_false _).symm
  | cons e es ih => rw [mergeAll_cons, ih, lists_merge, List.any_cons, Bool.or_assoc]

/-- What is merged counts, but not in which order or how often. -/
theorem WellFormed.mergeAll_congr (hd : WellFormed d) (hes : ∀ e ∈ es, WellFormed e)
    (h : ∀ e, e ∈ es' ↔ e ∈ es) : d.mergeAll es' = d.mergeAll es := by
  have hes' : ∀ e ∈ es', WellFormed e := fun e he => hes e ((h e).1 he)
  have hany (p : Dictionary → Bool) : es'.any p = es.any p := by
    rw [Bool.eq_iff_iff, List.any_eq_true, List.any_eq_true]
    simp only [h]
  apply (hd.mergeAll hes').ext (hd.mergeAll hes)
  · intro id
    rw [isSome_keywords?_mergeAll, isSome_keywords?_mergeAll, hany]
  · intro id k
    rw [lists_mergeAll, lists_mergeAll, hany]

theorem WellFormed.merge_mergeAll (hd : WellFormed d) (hes : ∀ e ∈ es, WellFormed e) :
    d.merge (empty.mergeAll es) = d.mergeAll es := by
  apply (hd.merge (wellFormed_empty.mergeAll hes)).ext (hd.mergeAll hes)
  · intro id
    rw [isSome_keywords?_merge, isSome_keywords?_mergeAll, isSome_keywords?_mergeAll]
    rfl
  · intro id k
    rw [lists_merge, lists_mergeAll, lists_mergeAll]
    rfl

end Dictionary

/-- The file at this path can be loaded. -/
def Loads (fs : FileSystem) (path : Text) : Prop :=
  ∃ d, loadFile fs path = .ok d

instance (fs : FileSystem) (path : Text) : Decidable (Loads fs path) :=
  match h : loadFile fs path with
  | .ok d => .isTrue ⟨d, h⟩
  | .error e => .isFalse fun ⟨d, hd⟩ => by
    rw [h] at hd
    cases hd

/-- One of the files fails with this error, and all before it can be loaded. -/
def FirstFailure (fs : FileSystem) (paths : List Text) (e : LoadError) : Prop :=
  ∃ before path after, paths = before ++ path :: after ∧ (∀ p ∈ before, Loads fs p) ∧
    loadFile fs path = .error e

theorem built_of_loadFile (h : loadFile fs path = .ok d) : d.Built := by
  unfold loadFile at h
  split at h
  · cases h
  · dsimp only at h
    split at h
    · rename_i hr
      cases h
      exact .of_read? hr
    · cases h

theorem exists_map_loadFile (h : ∀ p ∈ paths, Loads fs p) :
    ∃ es : List Dictionary, paths.map (loadFile fs) = es.map .ok := by
  induction paths with
  | nil => exact ⟨[], rfl⟩
  | cons p paths ih =>
    obtain ⟨⟨d, hd⟩, hps⟩ := List.forall_mem_cons.1 h
    obtain ⟨es, hes⟩ := ih hps
    refine ⟨d :: es, ?_⟩
    rw [List.map_cons, hd, hes, List.map_cons]

theorem mem_of_map_loadFile (h : paths.map (loadFile fs) = es.map .ok) :
    d ∈ es ↔ ∃ p ∈ paths, loadFile fs p = .ok d := by
  have hm : (.ok d : Except LoadError Dictionary) ∈ paths.map (loadFile fs) ↔ d ∈ es := by
    rw [h]
    simp
  rw [← hm, List.mem_map]

namespace Loading

theorem path_sources (fs : FileSystem) (user commandLine : List Text) :
    (sources fs user commandLine).map (·.path) = user.filter fs.hasEntry ++ commandLine := by
  simp [sources, Function.comp_def, DictionarySource.path]

theorem result_load (fs : FileSystem) (user commandLine : List Text) :
    (Dictionary.load fs user commandLine).result =
      (mergeFiles fs .builtin (sources fs user commandLine)).result := by
  unfold Dictionary.load
  dsimp only
  split
  · rfl
  · rfl

theorem mergeFiles_cons_of_ok (h : loadFile fs (DictionarySource.path s) = .ok e)
    (d : Dictionary) (rest : List DictionarySource) :
    (mergeFiles fs d (s :: rest)).result = (mergeFiles fs (d.merge e) rest).result := by
  rw [mergeFiles, h]

theorem mergeFiles_cons_of_error (h : loadFile fs (DictionarySource.path s) = .error e)
    (d : Dictionary) (rest : List DictionarySource) :
    (mergeFiles fs d (s :: rest)).result = .error e := by
  rw [mergeFiles, h]

theorem mergeFiles_eq_ok_iff (d : Dictionary) (ss : List DictionarySource) :
    (mergeFiles fs d ss).result = .ok d' ↔ ∃ es : List Dictionary,
      (ss.map (·.path)).map (loadFile fs) = es.map .ok ∧ d' = d.mergeAll es := by
  constructor
  · intro h
    induction ss generalizing d with
    | nil =>
      cases h
      exact ⟨[], rfl, rfl⟩
    | cons s ss ih =>
      cases hs : loadFile fs s.path with
      | error e =>
        rw [mergeFiles_cons_of_error hs] at h
        cases h
      | ok extra =>
        rw [mergeFiles_cons_of_ok hs] at h
        obtain ⟨es, hes, rfl⟩ := ih (d.merge extra) h
        refine ⟨extra :: es, ?_, rfl⟩
        rw [List.map_cons, List.map_cons, hs, hes, List.map_cons]
  · rintro ⟨es, hes, rfl⟩
    induction ss generalizing d es with
    | nil =>
      cases es with
      | nil => rfl
      | cons => cases hes
    | cons s ss ih =>
      cases es with
      | nil => cases hes
      | cons e es =>
        obtain ⟨hs, hss⟩ := List.cons_eq_cons.1 hes
        rw [mergeFiles_cons_of_ok hs]
        exact ih (d.merge e) es hss

theorem mergeFiles_eq_error_iff (d : Dictionary) (ss : List DictionarySource) :
    (mergeFiles fs d ss).result = .error e ↔ FirstFailure fs (ss.map (·.path)) e := by
  constructor
  · intro h
    induction ss generalizing d with
    | nil => cases h
    | cons s ss ih =>
      cases hs : loadFile fs s.path with
      | error e' =>
        rw [mergeFiles_cons_of_error hs] at h
        cases h
        exact ⟨[], s.path, ss.map (·.path), rfl, by simp, hs⟩
      | ok extra =>
        rw [mergeFiles_cons_of_ok hs] at h
        obtain ⟨before, p, after, hp, hb, hf⟩ := ih (d.merge extra) h
        refine ⟨s.path :: before, p, after, ?_, List.forall_mem_cons.2 ⟨⟨extra, hs⟩, hb⟩, hf⟩
        rw [List.map_cons, hp]
        rfl
  · rintro ⟨before, p, after, hp, hb, hf⟩
    induction before generalizing d ss with
    | nil =>
      obtain ⟨s, rest, rfl, rfl, _⟩ := List.map_eq_cons_iff.1 hp
      exact mergeFiles_cons_of_error hf d rest
    | cons q before ih =>
      obtain ⟨s, rest, rfl, rfl, hrest⟩ := List.map_eq_cons_iff.1 hp
      obtain ⟨⟨extra, hs⟩, hbs⟩ := List.forall_mem_cons.1 hb
      rw [mergeFiles_cons_of_ok hs]
      exact ih (d.merge extra) rest hrest hbs

end Loading

/-- The files that loading asks for: those of the user that exist and all of the command line. -/
def wantedFiles (fs : FileSystem) (user commandLine : List Text) : List Text :=
  user.filter fs.hasEntry ++ commandLine

theorem load_eq_ok_iff (fs : FileSystem) (user commandLine : List Text) :
    (Dictionary.load fs user commandLine).result = .ok d ↔ ∃ es : List Dictionary,
      (wantedFiles fs user commandLine).map (loadFile fs) = es.map .ok ∧
        d = Dictionary.builtin.mergeAll es := by
  rw [Loading.result_load, Loading.mergeFiles_eq_ok_iff, Loading.path_sources, wantedFiles]

theorem load_eq_error_iff (fs : FileSystem) (user commandLine : List Text) :
    (Dictionary.load fs user commandLine).result = .error e ↔
      FirstFailure fs (wantedFiles fs user commandLine) e := by
  rw [Loading.result_load, Loading.mergeFiles_eq_error_iff, Loading.path_sources, wantedFiles]

theorem mem_wantedFiles_iff :
    p ∈ wantedFiles fs user commandLine ↔ p ∈ user ∧ fs.hasEntry p ∨ p ∈ commandLine := by
  rw [wantedFiles, List.mem_append, List.mem_filter]

theorem loads_iff_exists_map :
    (∀ p ∈ paths, Loads fs p) ↔ ∃ es : List Dictionary, paths.map (loadFile fs) = es.map .ok := by
  constructor
  · exact exists_map_loadFile
  · rintro ⟨es, hes⟩ p hp
    have hm : loadFile fs p ∈ es.map (.ok : Dictionary → Except LoadError Dictionary) :=
      hes ▸ List.mem_map_of_mem hp
    obtain ⟨d, _, hd⟩ := List.mem_map.1 hm
    exact ⟨d, hd.symm⟩

theorem built_builtin : Dictionary.builtin.Built :=
  .ofListing _

theorem wellFormed_of_map_loadFile (h : paths.map (loadFile fs) = es.map .ok) :
    ∀ d ∈ es, d.WellFormed := by
  intro d hd
  obtain ⟨p, _, hp⟩ := (mem_of_map_loadFile h).1 hd
  exact (built_of_loadFile hp).wellFormed

/-- Which files are asked for counts, but not in which order or how often. -/
theorem load_eq_ok_of_mem_iff (h : (Dictionary.load fs user commandLine).result = .ok d)
    (hu : ∀ p, p ∈ user' ↔ p ∈ user) (hc : ∀ p, p ∈ commandLine' ↔ p ∈ commandLine) :
    (Dictionary.load fs user' commandLine').result = .ok d := by
  obtain ⟨es, hes, rfl⟩ := (load_eq_ok_iff fs user commandLine).1 h
  have hsame (p : Text) :
      p ∈ wantedFiles fs user' commandLine' ↔ p ∈ wantedFiles fs user commandLine := by
    rw [mem_wantedFiles_iff, mem_wantedFiles_iff, hu, hc]
  have hloads := loads_iff_exists_map.2 ⟨es, hes⟩
  obtain ⟨es', hes'⟩ := exists_map_loadFile fun p hp => hloads p ((hsame p).1 hp)
  apply (load_eq_ok_iff fs user' commandLine').2 ⟨es', hes', ?_⟩
  apply (built_builtin.wellFormed.mergeAll_congr (wellFormed_of_map_loadFile hes) ?_).symm
  intro e
  rw [mem_of_map_loadFile hes', mem_of_map_loadFile hes]
  simp only [hsame]

/-- Merging dictionaries is a join: associative, commutative, idempotent, with the empty dictionary
as identity and each keyword as a dictionary of its own. So a loaded dictionary depends on the set
of its files alone, and loading fails with the error of the first file that cannot be loaded. -/
theorem merge_join_load_unordered :
    (∀ a b c : Dictionary, a.Built → b.Built → c.Built →
      (a.merge b).merge c = a.merge (b.merge c) ∧ a.merge b = b.merge a ∧ a.merge a = a ∧
        Dictionary.empty.merge a = a ∧ a.merge .empty = a ∧
        ∀ id keyword, (∃ x ∈ keyword, isBlank x = false) →
          a.insert id keyword = a.merge (Dictionary.empty.insert id keyword)) ∧
      ∀ (fs : FileSystem) (user commandLine : List Text),
        let result := (Dictionary.load fs user commandLine).result
        ((∃ d, result = .ok d) ↔
          (∀ p ∈ user, fs.hasEntry p → Loads fs p) ∧ ∀ p ∈ commandLine, Loads fs p) ∧
        (∀ d, result = .ok d →
          (∃ es : List Dictionary, (wantedFiles fs user commandLine).map (loadFile fs) =
            es.map .ok ∧ d = Dictionary.builtin.mergeAll es) ∧
          ∀ user' commandLine', (∀ p, p ∈ user' ↔ p ∈ user) →
            (∀ p, p ∈ commandLine' ↔ p ∈ commandLine) →
            (Dictionary.load fs user' commandLine').result = .ok d) ∧
        ∀ e, result = .error e ↔ FirstFailure fs (wantedFiles fs user commandLine) e := by
  refine ⟨?_, ?_⟩
  · intro a b c ha hb hc
    have ha := ha.wellFormed
    have hb := hb.wellFormed
    have hc := hc.wellFormed
    refine ⟨ha.merge_assoc hb hc, ha.merge_comm hb, ha.merge_self, ha.empty_merge,
      a.merge_empty, ?_⟩
    rintro id keyword ⟨x, hx, hbx⟩
    apply ha.insert_eq_merge id
    intro hnil
    rw [normalize_eq_nil_iff.1 hnil x hx] at hbx
    cases hbx
  · intro fs user commandLine result
    refine ⟨?_, ?_, fun e => load_eq_error_iff fs user commandLine⟩
    · have hall : (∀ p ∈ wantedFiles fs user commandLine, Loads fs p) ↔
          (∀ p ∈ user, fs.hasEntry p → Loads fs p) ∧ ∀ p ∈ commandLine, Loads fs p := by
        simp only [mem_wantedFiles_iff, or_imp, forall_and, and_imp]
      rw [← hall, loads_iff_exists_map]
      constructor
      · rintro ⟨d, h⟩
        obtain ⟨es, hes, _⟩ := (load_eq_ok_iff fs user commandLine).1 h
        exact ⟨es, hes⟩
      · rintro ⟨es, hes⟩
        exact ⟨_, (load_eq_ok_iff fs user commandLine).2 ⟨es, hes, rfl⟩⟩
    · intro d h
      refine ⟨(load_eq_ok_iff fs user commandLine).1 h, ?_⟩
      intro user' commandLine' hu hc
      exact load_eq_ok_of_mem_iff h hu hc

/-- A file of the user and one of the command line, in two formats. The user's other file does not
exist. One that exists but may not be read is not passed over. -/
theorem merge_join_load_unordered_layers :
    let own := "own.json".toList
    let given := "given.toml".toList
    let absent := "absent.json".toList
    let locked := "locked.json".toList
    let fs : FileSystem := ⟨fun path =>
      if path = own then
        .ok (.file "\x7b\"Solver\": [\"Glow  Rate\"], \"body\": \x7b\x7d\x7d".toUTF8)
      else if path = given then .ok (.file "BC = ['Glow Rate 1']".toUTF8)
      else if path = locked then .ok (.locked .denied)
      else .error .missing⟩
    let one := Dictionary.empty.insert "Solver".toList "Glow".toList
    let two := Dictionary.ofListing ⟨.ofList [("solver".toList, .listed []),
      ("bc".toList, .listed ["glow".toList])]⟩
    one.merge two = two.merge one ∧
      one.insert "BC".toList "Glow".toList = one.merge (.insert .empty "BC".toList "Glow".toList) ∧
      (Dictionary.load fs [absent, locked, own] [absent]).result =
        .error (.unreadable locked (.path .denied)) ∧
      ∃ d, (Dictionary.load fs [own, absent] [given]).result = .ok d ∧
        (Dictionary.load fs [absent, own, own] [given, given]).result = .ok d := by
  intro own given absent locked fs one two
  have hone : one.Built := .insert .empty _ _
  have htwo : two.Built := .ofListing _
  obtain ⟨hlaws, hload⟩ := merge_join_load_unordered
  obtain ⟨_, hcomm, _, _, _, hinsert⟩ := hlaws one two one hone htwo hone
  obtain ⟨hok, hresult, _⟩ := hload fs [own, absent] [given]
  have hown : ∀ p ∈ [own, absent], fs.hasEntry p → Loads fs p := by decide +kernel
  have hgiven : ∀ p ∈ [given], Loads fs p := by decide +kernel
  obtain ⟨d, hd⟩ := hok.2 ⟨hown, hgiven⟩
  obtain ⟨_, _, hfailed⟩ := hload fs [absent, locked, own] [absent]
  have hfirst : FirstFailure fs (wantedFiles fs [absent, locked, own] [absent])
      (.unreadable locked (.path .denied)) :=
    ⟨[], locked, [own, absent], rfl, List.forall_mem_nil _, rfl⟩
  refine ⟨hcomm, hinsert _ _ ⟨'G', by decide, by decide⟩, (hfailed _).2 hfirst, d, hd, ?_⟩
  apply (hresult d hd).2
  · intro p
    simp [or_comm]
  · intro p
    simp

end SolverInput
