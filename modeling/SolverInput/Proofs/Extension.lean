import SolverInput.Proofs.Merge
import SolverInput.Proofs.Positions

namespace SolverInput
set_option autoImplicit true

/-- The keyword that a finding reports, in normal form. -/
def Finding.keyword (f : Finding) : Text :=
  normalize f.quoted

theorem keyword_unknownKeyword (i : Nat) (s : Section) (h : Token.ofLine? line = some t) :
    (Finding.unknownKeyword i t s).keyword = t.keyword := by
  obtain ⟨_, _, _, _, _, hk⟩ := Token.ofLine?_eq_some h
  rw [Finding.keyword, quoted_unknownKeyword i s hk]
  rfl

namespace Dictionary

theorem WellFormed.knows_merge (ha : WellFormed a) (hb : WellFormed b) (s : Section) (k : Text) :
    (a.merge b).knows s k = (a.knows s k || b.recognizes k) := by
  rw [(ha.merge hb).knows_eq, ha.knows_eq, recognizes, recognizes, recognizes,
    hb.listsAnywhere_merge, hb.listsAnywhere_merge]
  ac_rfl

theorem WellFormed.finding?_merge (ha : WellFormed a) (hb : WellFormed b)
    (hs : (b.keywords? s.id).isSome → (a.keywords? s.id).isSome) (i : Nat) (line : Text) :
    (a.merge b).finding? i line s =
      (a.finding? i line s).filter fun f => !b.recognizes f.keyword := by
  -- The sections of `b` are among those of `a`, so the same lines are checked.
  have hlisted : ((a.merge b).keywords? s.id).isNone = (a.keywords? s.id).isNone := by
    have hm := isSome_keywords?_merge a b s.id
    cases hx : a.keywords? s.id <;> cases hy : b.keywords? s.id <;> simp_all
  unfold finding?
  rw [hlisted]
  split
  · rfl
  · cases ht : Token.ofLine? line with
    | none => rfl
    | some t =>
      have hk := keyword_unknownKeyword i s ht
      simp only [ha.knows_merge hb]
      cases isCommonKeyword t.keyword <;> cases a.knows s t.keyword <;>
        cases hr : b.recognizes t.keyword <;> simp [Option.filter, hk, hr]

theorem WellFormed.findings_merge (ha : WellFormed a) (hb : WellFormed b)
    (hs : ∀ s : Section, (b.keywords? s.id).isSome → (a.keywords? s.id).isSome) (text : Text) :
    (a.merge b).findings text = (a.findings text).filter fun f => !b.recognizes f.keyword := by
  rw [findings, findings, List.filter_filterMap]
  congr 1
  funext x
  obtain ⟨⟨line, scanned⟩, i⟩ := x
  cases scanned with
  | content current =>
    cases current with
    | none => rfl
    | some s => exact ha.finding?_merge hb (hs s) i line
  | _ => rfl

theorem exists_merge_of_load (h : (load fs user commandLine).result = .ok d) :
    ∃ e : Dictionary, e.WellFormed ∧ d = builtin.merge e := by
  obtain ⟨es, hes, rfl⟩ := (load_eq_ok_iff fs user commandLine).1 h
  have hall := wellFormed_of_map_loadFile hes
  exact ⟨empty.mergeAll es, wellFormed_empty.mergeAll hall,
    (built_builtin.wellFormed.merge_mergeAll hall).symm⟩

end Dictionary

/-- Merging a dictionary into another takes away the findings whose keyword it lists, as written or
with its numbered base, and changes nothing else, as long as it lists no section that was not
checked before. The built-in dictionary checks every section, so each loaded dictionary has a part
of its findings. -/
theorem findings_of_extended :
    (∀ a b : Dictionary, a.Built → b.Built →
      (∀ s : Section, (b.keywords? s.id).isSome → (a.keywords? s.id).isSome) →
      ∀ text, (a.merge b).findings text = (a.findings text).filter fun f =>
        !(b.listsAnywhere f.keyword || b.listsAnywhere (numberedBase f.keyword))) ∧
      ∀ fs user commandLine d, (Dictionary.load fs user commandLine).result = .ok d →
        (∀ s : Section, (d.keywords? s.id).isSome) ∧
          ∀ text, (d.findings text).Sublist (Dictionary.builtin.findings text) := by
  refine ⟨?_, ?_⟩
  · intro a b ha hb hs text
    exact ha.wellFormed.findings_merge hb.wellFormed hs text
  · intro fs user commandLine d h
    obtain ⟨e, he, rfl⟩ := Dictionary.exists_merge_of_load h
    refine ⟨?_, ?_⟩
    · intro s
      rw [Dictionary.isSome_keywords?_merge, isSome_keywords?_builtin, Bool.true_or]
    · intro text
      rw [built_builtin.wellFormed.findings_merge he fun s _ => isSome_keywords?_builtin s]
      exact List.filter_sublist

/-- A numbered keyword is no longer found once its base is listed in another section, and a file of
the user that the built-in dictionary is extended by. -/
theorem findings_of_extended_numbered :
    let own := "own.json".toList
    let fs : FileSystem := ⟨fun path =>
      if path = own then
        .ok (.file "\x7b\"Solver\": [\"Glow  Rate\"], \"Rotor\": \x7b\x7d\x7d".toUTF8)
      else .error .missing⟩
    let a := (Dictionary.empty.insert "Solver".toList "Equation".toList).insert "BC".toList
      "Name".toList
    let b := Dictionary.empty.insert "bc".toList "Glow Rate 1".toList
    let text := "Solver 1\n Foo = 2\n glow rate 3 = 4\nEnd\n".toList
    (a.findings text).map (·.line) = [1, 2] ∧
      ((a.merge b).findings text).map (·.line) = [1] ∧
      ∃ d, (Dictionary.load fs [own] []).result = .ok d ∧
        (d.findings text).Sublist (Dictionary.builtin.findings text) := by
  intro own fs a b text
  have ha : a.Built := (Dictionary.Built.empty.insert _ _).insert _ _
  have hb : b.Built := .insert .empty _ _
  have hs : ∀ s : Section, (b.keywords? s.id).isSome → (a.keywords? s.id).isSome := by
    intro s
    cases s <;> decide +kernel
  obtain ⟨hmerge, hload⟩ := findings_of_extended
  have hloads : ∀ p ∈ wantedFiles fs [own] [], Loads fs p := by decide +kernel
  obtain ⟨es, hes⟩ := exists_map_loadFile hloads
  have hd := (load_eq_ok_iff fs [own] []).2 ⟨es, hes, rfl⟩
  refine ⟨by decide +kernel, ?_, _, hd, (hload fs [own] [] _ hd).2 text⟩
  rw [hmerge a b ha hb hs text]
  decide +kernel

end SolverInput
