import Mathlib.Data.List.Induction
import SolverInput.FindingStore

namespace SolverInput
set_option autoImplicit true

namespace FindingStore

/-- What may be asked of a store. -/
inductive Operation where
  | check (doc : Document)
  | query (u : Text)
  | forget (u : Text)
  deriving DecidableEq

/-- Carries out an operation and gives its answer. Forgetting has none. -/
def perform (d : Dictionary) : Operation → StateM FindingStore (Option (List Finding))
  | .check doc => validate d doc
  | .query u => fun store => (some (store.findings u), store)
  | .forget u => fun store => (none, store.erase u)

def run (d : Dictionary) (ops : List Operation) :
    StateM FindingStore (List (Option (List Finding))) :=
  ops.mapM (perform d)

/-- The last check of the document `u` as one of the language was on this text, and it has not been
forgotten since. -/
def LastChecked (u : Text) (ops : List Operation) (text : Text) : Prop :=
  ∃ before after, ops = before ++ .check ⟨u, languageId, text⟩ :: after ∧
    (∀ text', .check ⟨u, languageId, text'⟩ ∉ after) ∧ .forget u ∉ after

variable (d : Dictionary)

theorem run_cons (op : Operation) (ops : List Operation) (store : FindingStore) :
    run d (op :: ops) store =
      ((perform d op store).1 :: (run d ops (perform d op store).2).1,
        (run d ops (perform d op store).2).2) := by
  simp only [run, List.mapM_cons]
  rfl

theorem run_append (as bs : List Operation) (store : FindingStore) :
    run d (as ++ bs) store =
      ((run d as store).1 ++ (run d bs (run d as store).2).1,
        (run d bs (run d as store).2).2) := by
  simp only [run, List.mapM_append]
  rfl

theorem snd_run_concat (ops : List Operation) (op : Operation) (store : FindingStore) :
    (run d (ops ++ [op]) store).2 = (perform d op (run d ops store).2).2 := by
  rw [run_append, run_cons]
  rfl

@[simp] theorem length_run (ops : List Operation) (store : FindingStore) :
    (run d ops store).1.length = ops.length := by
  induction ops generalizing store with
  | nil => rfl
  | cons op ops ih => rw [run_cons, List.length_cons, List.length_cons, ih]

/-- An answer comes from the store that the operations before leave. -/
theorem getElem?_run_append_cons (before after : List Operation) (op : Operation)
    (store : FindingStore) :
    (run d (before ++ op :: after) store).1[before.length]? =
      some (perform d op (run d before store).2).1 := by
  rw [run_append, run_cons, List.getElem?_append_right (Nat.le_of_eq (length_run d before store)),
    length_run, Nat.sub_self, List.getElem?_cons_zero]

@[simp] theorem fst_validate (doc : Document) (store : FindingStore) :
    (validate d doc store).1 =
      if doc.language = languageId then some (d.findings doc.text) else none := by
  rw [validate]
  split <;> rfl

@[simp] theorem get?_validate (doc : Document) (store : FindingStore) (u : Text) :
    (validate d doc store).2.get? u =
      if doc.id = u ∧ doc.language = languageId then some (d.findings doc.text)
      else store.get? u := by
  rw [validate]
  split
  · rename_i hl
    simp only [Table.get?_insert, hl, and_true, eq_comm]
  · rename_i hl
    rw [if_neg fun h => hl h.2]

/-- A check replaces what the store has of its document, if that is one of the language, and leaves
all else. -/
theorem validate_cases (doc : Document) (store : FindingStore) :
    let checked := validate d doc store
    (checked.1 = none ∧ doc.language ≠ languageId ∧ ∀ u, checked.2.findings u = store.findings u) ∨
      ∃ fs, checked.1 = some fs ∧ doc.language = languageId ∧ checked.2.findings doc.id = fs ∧
        ∀ u, u ≠ doc.id → checked.2.findings u = store.findings u := by
  intro checked
  have hget (u : Text) : checked.2.findings u =
      (if doc.id = u ∧ doc.language = languageId then some (d.findings doc.text)
        else store.get? u).getD [] :=
    congrArg (·.getD []) (get?_validate d doc store u)
  have hanswer := fst_validate d doc store
  by_cases hl : doc.language = languageId
  · rw [if_pos hl] at hanswer
    refine .inr ⟨_, hanswer, hl, ?_, ?_⟩
    · rw [hget, if_pos ⟨rfl, hl⟩, Option.getD_some]
    · intro u hu
      rw [hget, if_neg fun h => hu h.1.symm]
      rfl
  · rw [if_neg hl] at hanswer
    refine .inl ⟨hanswer, hl, ?_⟩
    intro u
    rw [hget, if_neg fun h => hl h.2]
    rfl

theorem lastChecked_concat_iff :
    LastChecked u (ops ++ [op]) text ↔
      op = .check ⟨u, languageId, text⟩ ∨
        (∀ text', op ≠ .check ⟨u, languageId, text'⟩) ∧ op ≠ .forget u ∧
          LastChecked u ops text := by
  constructor
  · rintro ⟨before, after, he, hc, hf⟩
    rcases List.eq_nil_or_concat after with rfl | ⟨after, last, rfl⟩
    · obtain ⟨_, hop⟩ := List.append_inj' he rfl
      exact .inl (List.singleton_inj.1 hop)
    · rw [List.concat_eq_append, ← List.cons_append, ← List.append_assoc] at he
      obtain ⟨rfl, hop⟩ := List.append_inj' he rfl
      obtain rfl := List.singleton_inj.1 hop
      simp only [List.concat_eq_append, List.mem_append, List.mem_singleton, not_or] at hc hf
      exact .inr ⟨fun text' => Ne.symm (hc text').2, Ne.symm hf.2, before, after, rfl,
        fun text' => (hc text').1, hf.1⟩
  · rintro (rfl | ⟨hc, hf, before, after, rfl, hca, hfa⟩)
    · exact ⟨ops, [], rfl, fun _ => List.not_mem_nil, List.not_mem_nil⟩
    · refine ⟨before, after ++ [op], by simp, ?_, ?_⟩
      · intro text'
        simp [hca text', Ne.symm (hc text')]
      · simp [hfa, Ne.symm hf]

/-- The store has findings of a document exactly if it was checked and not forgotten, and then those
of the text that was last checked. -/
theorem get?_run_eq_some_iff (ops : List Operation) (u : Text) :
    (run d ops ∅).2.get? u = some fs ↔
      ∃ text, LastChecked u ops text ∧ fs = d.findings text := by
  induction ops using List.reverseRecOn with
  | nil =>
    apply iff_of_false
    · exact nofun
    · rintro ⟨text, ⟨before, after, he, _⟩, _⟩
      exact List.cons_ne_nil _ _ (List.append_eq_nil_iff.1 he.symm).2
  | append_singleton ops op ih =>
    rw [snd_run_concat]
    simp only [lastChecked_concat_iff]
    cases op with
    | check doc =>
      obtain ⟨name, language, text⟩ := doc
      rw [perform, get?_validate]
      split
      · rename_i h
        obtain ⟨rfl, rfl⟩ := h
        simp [eq_comm]
      · rename_i h
        have hother (text' : Text) :
            Operation.check ⟨name, language, text⟩ ≠ .check ⟨u, languageId, text'⟩ := by
          rintro ⟨⟩
          exact h ⟨rfl, rfl⟩
        simp [ih, hother]
    | query v =>
      have hsame : (perform d (.query v) (run d ops ∅).2).2 = (run d ops ∅).2 := rfl
      simp [hsame, ih]
    | forget v =>
      have hgone : (perform d (.forget v) (run d ops ∅).2).2 = (run d ops ∅).2.erase v := rfl
      rw [hgone, Table.get?_erase]
      split
      · rename_i h
        simp [h]
      · rename_i h
        simp [ih, Ne.symm h]

end FindingStore

/-- After any operations the findings of a document are those of the text that it was last checked
with, unless it was forgotten since, and none if there is no such check. A check has no answer
exactly if its document is of another language, and then it changes nothing. Otherwise its answer
is what the store has of the document right after, and nothing else has changed. -/
theorem stored_findings_exact (d : Dictionary) (ops : List FindingStore.Operation) :
    (∀ u, let store := (FindingStore.run d ops ∅).2
      (∀ text, FindingStore.LastChecked u ops text → store.findings u = d.findings text) ∧
        ((∀ text, ¬FindingStore.LastChecked u ops text) → store.findings u = [])) ∧
      ∀ before doc after, ops = before ++ .check doc :: after →
        let store := (FindingStore.run d before ∅).2
        let store' := (FindingStore.run d (before ++ [.check doc]) ∅).2
        ∃ answer, (FindingStore.run d ops ∅).1[before.length]? = some answer ∧
          (answer = none ↔ doc.language ≠ languageId) ∧
          (answer = none → ∀ u, store'.findings u = store.findings u) ∧
          ∀ fs, answer = some fs → store'.findings doc.id = fs ∧
            ∀ u, u ≠ doc.id → store'.findings u = store.findings u := by
  refine ⟨?_, ?_⟩
  · intro u store
    refine ⟨?_, ?_⟩
    · intro text h
      have hget := (FindingStore.get?_run_eq_some_iff d ops u).2 ⟨text, h, rfl⟩
      exact congrArg (·.getD []) hget
    · intro h
      have hget : store.get? u = none := by
        rw [Option.eq_none_iff_forall_ne_some]
        intro fs hfs
        obtain ⟨text, hlast, _⟩ := (FindingStore.get?_run_eq_some_iff d ops u).1 hfs
        exact h text hlast
      exact congrArg (·.getD []) hget
  · rintro before doc after rfl store store'
    have hnext : store' = (FindingStore.validate d doc store).2 :=
      FindingStore.snd_run_concat d before (.check doc) ∅
    refine ⟨_, FindingStore.getElem?_run_append_cons d before after (.check doc) ∅, ?_⟩
    rw [hnext, FindingStore.perform]
    rcases FindingStore.validate_cases d doc store with ⟨ha, hl, hu⟩ | ⟨fs, ha, hl, hown, hu⟩
    · rw [ha]
      exact ⟨iff_of_true rfl hl, fun _ => hu, nofun⟩
    · rw [ha]
      refine ⟨iff_of_false nofun fun hne => hne hl, nofun, ?_⟩
      rintro _ ⟨⟩
      exact ⟨hown, hu⟩

/-- Two documents in turn. A check in another language leaves the findings of the one and does not
bring back those of the other, which is forgotten. -/
theorem stored_findings_exact_interleaved :
    let d := Dictionary.empty.insert "solver".toList "equation".toList
    let a := "a.sif".toList
    let b := "b.sif".toList
    let text := "Solver\n Foo = 1".toList
    let ops : List FindingStore.Operation := [
      .check ⟨a, languageId, "Solver\n Bar = 1".toList⟩, .check ⟨b, languageId, text⟩,
      .check ⟨a, languageId, text⟩, .forget b, .query a, .check ⟨a, "python".toList, []⟩,
      .check ⟨b, "python".toList, text⟩]
    let store := (FindingStore.run d ops ∅).2
    FindingStore.LastChecked a ops text ∧ d.findings text ≠ [] ∧
      store.findings a = d.findings text ∧ (∀ t, ¬FindingStore.LastChecked b ops t) ∧
      store.findings b = [] := by
  intro d a b text ops store
  have ha : FindingStore.LastChecked a ops text :=
    ⟨ops.take 2, ops.drop 3, rfl, by simp [ops, a, b, languageId], by simp [ops, a, b]⟩
  have hb (t : Text) : ¬FindingStore.LastChecked b ops t := by
    intro h
    have hget := (FindingStore.get?_run_eq_some_iff d ops b).2 ⟨t, h, rfl⟩
    have hnone : store.get? b = none := by decide +kernel
    exact nomatch hnone.symm.trans hget
  obtain ⟨hstored, _⟩ := stored_findings_exact d ops
  exact ⟨ha, by decide +kernel, (hstored a).1 text ha, hb, (hstored b).2 hb⟩

end SolverInput
