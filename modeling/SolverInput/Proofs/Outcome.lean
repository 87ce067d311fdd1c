import Mathlib.Data.List.Forall2
import SolverInput.Check

namespace SolverInput
set_option autoImplicit true

/-- The report on a file that can be read, made from its text and the dictionary alone. -/
def ReportOn (fs : FileSystem) (d : Dictionary) (path : Text) (r : Report) : Prop :=
  ∃ text, fs.readText path = .ok text ∧ r = ⟨path, d.findings text⟩

theorem ReportOn.eq_of_readText (h : ReportOn fs d path r) (ht : fs.readText path = .ok text) :
    r = ⟨path, d.findings text⟩ := by
  obtain ⟨text', ht', rfl⟩ := h
  rw [Except.ok.inj (ht.symm.trans ht')]

/-- The first of the files that cannot be read, with the reason. -/
def FirstUnreadable (fs : FileSystem) (paths : List Text) (path : Text) (cause : ReadError) :
    Prop :=
  ∃ before after, paths = before ++ path :: after ∧
    (∀ p ∈ before, ∃ text, fs.readText p = .ok text) ∧ fs.readText path = .error cause

theorem FirstUnreadable.cons (h : FirstUnreadable fs rest path cause)
    (ht : fs.readText p = .ok text) : FirstUnreadable fs (p :: rest) path cause := by
  obtain ⟨before, after, rfl, hb, hp⟩ := h
  exact ⟨p :: before, after, rfl, List.forall_mem_cons.2 ⟨⟨text, ht⟩, hb⟩, hp⟩

theorem FirstUnreadable.mem (h : FirstUnreadable fs paths path cause) : path ∈ paths := by
  obtain ⟨before, after, rfl, _, _⟩ := h
  exact List.mem_append_right _ (.head _)

theorem FirstUnreadable.readText (h : FirstUnreadable fs paths path cause) :
    fs.readText path = .error cause :=
  h.choose_spec.choose_spec.2.2

/-- What a store holds of other files, or of the same file, has no part in the report. -/
theorem checkFile_of_ok (d : Dictionary) (store : FindingStore)
    (h : fs.readText path = .ok text) :
    ∃ event store', checkFile fs d path store = .ok (⟨path, d.findings text⟩, event, store') := by
  rw [checkFile, h]
  exact ⟨_, _, rfl⟩

theorem checkFile_of_error (d : Dictionary) (store : FindingStore)
    (h : fs.readText path = .error cause) :
    checkFile fs d path store = .error (.unreadable path cause) := by
  rw [checkFile, h]

/-- Either each file has its report, in the order of the files, or the first that cannot be read is
named. -/
theorem checkFiles_cases (fs : FileSystem) (d : Dictionary) (paths : List Text)
    (store : FindingStore) :
    (∃ rs, (checkFiles fs d paths store).2 = .ok rs ∧ List.Forall₂ (ReportOn fs d) paths rs) ∨
      ∃ path cause, (checkFiles fs d paths store).2 = .error (.unreadable path cause) ∧
        FirstUnreadable fs paths path cause := by
  induction paths generalizing store with
  | nil => exact .inl ⟨[], rfl, .nil⟩
  | cons p rest ih =>
    cases ht : fs.readText p with
    | error cause =>
      refine .inr ⟨p, cause, ?_, [], rest, rfl, by simp, ht⟩
      rw [checkFiles, checkFile_of_error d store ht]
    | ok text =>
      obtain ⟨event, store', hp⟩ := checkFile_of_ok d store ht
      have hrest : (checkFiles fs d (p :: rest) store).2 =
          (checkFiles fs d rest store').2.map (⟨p, d.findings text⟩ :: ·) := by
        rw [checkFiles, hp]
      rw [hrest]
      rcases ih store' with ⟨rs, hrs, hall⟩ | ⟨path, cause, he, hfirst⟩
      · rw [hrs]
        exact .inl ⟨_, rfl, .cons ⟨text, ht, rfl⟩ hall⟩
      · rw [he]
        exact .inr ⟨path, cause, rfl, hfirst.cons ht⟩

theorem readText_ne_error_of_forall₂ (h : List.Forall₂ (ReportOn fs d) paths rs)
    (hp : path ∈ paths) (cause : ReadError) : fs.readText path ≠ .error cause := by
  induction h with
  | nil => cases hp
  | cons hr _ ih =>
    rcases List.mem_cons.1 hp with rfl | hp
    · obtain ⟨text, ht, _⟩ := hr
      rw [ht]
      exact nofun
    · exact ih hp

namespace Report

theorem findingLine_ne_nil (path : Text) (f : Finding) : findingLine path f ≠ [] := by
  simp [findingLine]

theorem toText_eq_nil_iff (r : Report) : r.toText = [] ↔ r.findings = [] := by
  rw [toText, List.flatMap_eq_nil_iff, List.eq_nil_iff_forall_not_mem]
  simp only [findingLine_ne_nil, imp_false]

end Report

theorem render_text_eq_nil_iff {rs : List Report} :
    ReportFormat.text.render rs = [] ↔ ∀ r ∈ rs, r.findings = [] := by
  simp only [ReportFormat.render, List.flatMap_eq_nil_iff, Report.toText_eq_nil_iff]

namespace Outcome

theorem findingCount_eq_zero_iff {rs : List Report} :
    findingCount rs = 0 ↔ ∀ r ∈ rs, r.findings = [] := by
  induction rs with
  | nil => simp [findingCount]
  | cons r rs ih =>
    rw [List.forall_mem_cons, ← ih, ← List.length_eq_zero_iff]
    exact Nat.add_eq_zero_iff

/-- How a run ends: without a dictionary, at a file that cannot be read, or with all reports. -/
inductive Ending (fs : FileSystem) (loaded : Except LoadError Dictionary) (o : Options)
    (out : Outcome) : Prop
  | noDictionary (hl : loaded = .error e) (hs : out.status = 2) (ho : out.output = [])
      (he : out.error = some (.dictionary e))
  | unreadable (hl : loaded = .ok d) (hf : FirstUnreadable fs o.files path cause)
      (hs : out.status = 2) (ho : out.output = []) (he : out.error = some (.unreadable path cause))
  | reported (hl : loaded = .ok d) (hr : List.Forall₂ (ReportOn fs d) o.files rs)
      (hs : out.status = if ∀ r ∈ rs, r.findings = [] then 0 else 1)
      (ho : out.output = o.format.render rs) (he : out.error = none)

theorem ending_ofOptions (fs : FileSystem) (userFiles : List Text) (o : Options) :
    Ending fs (Dictionary.load fs userFiles o.keywords).result o (ofOptions fs userFiles o) := by
  rw [ofOptions]
  cases hl : (Dictionary.load fs userFiles o.keywords).result with
  | error e => exact .noDictionary rfl rfl rfl rfl
  | ok d =>
    simp only [reportFiles]
    rcases checkFiles_cases fs d o.files ∅ with ⟨rs, hrs, hall⟩ | ⟨path, cause, he, hfirst⟩
    · simp only [hrs, findingCount_eq_zero_iff]
      exact .reported rfl hall rfl rfl rfl
    · simp only [he]
      exact .unreadable rfl hfirst rfl rfl rfl

/-- The log level has no part in how a run ends. -/
theorem ending_ofWords (h : Options.ofWords .checker ws = .ok o) (fs : FileSystem)
    (env : Environment) :
    Ending fs (Dictionary.load fs env.userFiles o.keywords).result o (ofWords fs env ws) := by
  rw [ofWords, h]
  cases ending_ofOptions fs env.userFiles o with
  | noDictionary hl hs ho he => exact .noDictionary hl hs ho he
  | unreadable hl hf hs ho he => exact .unreadable hl hf hs ho he
  | reported hl hr hs ho he => exact .reported hl hr hs ho he

namespace Ending
variable (h : Ending fs loaded o out)
include h

theorem status_eq_two_iff :
    out.status = 2 ↔
      (∃ e, loaded = .error e) ∨ ∃ path ∈ o.files, ∃ cause, fs.readText path = .error cause := by
  cases h with
  | noDictionary hl hs => exact iff_of_true hs (.inl ⟨_, hl⟩)
  | unreadable _ hf hs => exact iff_of_true hs (.inr ⟨_, hf.mem, _, hf.readText⟩)
  | reported hl hr hs =>
    apply iff_of_false
    · rw [hs]
      split <;> decide
    · rintro (⟨e, he⟩ | ⟨path, hp, cause, hc⟩)
      · exact nomatch hl.symm.trans he
      · exact readText_ne_error_of_forall₂ hr hp cause hc

theorem of_status_eq_two (h2 : out.status = 2) :
    out.output = [] ∧
      ((∃ e, loaded = .error e ∧ out.error = some (.dictionary e)) ∨
        ∃ d path cause, loaded = .ok d ∧ FirstUnreadable fs o.files path cause ∧
          out.error = some (.unreadable path cause)) := by
  cases h with
  | noDictionary hl _ ho he => exact ⟨ho, .inl ⟨_, hl, he⟩⟩
  | unreadable hl hf _ ho he => exact ⟨ho, .inr ⟨_, _, _, hl, hf, he⟩⟩
  | reported _ _ hs =>
    rw [hs] at h2
    split at h2 <;> cases h2

theorem of_status_ne_two (h2 : out.status ≠ 2) :
    ∃ d rs, loaded = .ok d ∧ List.Forall₂ (ReportOn fs d) o.files rs ∧
      out.output = o.format.render rs ∧ out.error = none ∧
      out.status = if ∀ r ∈ rs, r.findings = [] then 0 else 1 := by
  cases h with
  | noDictionary _ hs => exact absurd hs h2
  | unreadable _ _ hs => exact absurd hs h2
  | reported hl hr hs ho he => exact ⟨_, _, hl, hr, ho, he, hs⟩

theorem status_eq_zero_iff (hf : o.format = .text) :
    out.status = 0 ↔ out.error = none ∧ out.output = [] := by
  cases h with
  | noDictionary _ hs _ he => simp [hs, he]
  | unreadable _ _ hs _ he => simp [hs, he]
  | @reported d rs _ _ hs ho he =>
    have h0 : out.status = 0 ↔ ∀ r ∈ rs, r.findings = [] := by simp [hs]
    rw [h0, ← render_text_eq_nil_iff, ← hf, ← ho]
    exact (and_iff_right he).symm

end Ending

end Outcome

/-- A run of the checker fails if there is no dictionary or some file cannot be read: then nothing
is put out, and the error is that of the dictionary, else that of the first such file. Otherwise
each file has its report, in the order of the command line and whatever the other files are, and
the status tells whether anything was found. -/
theorem outcome_exact (fs : FileSystem) (env : Environment) (ws : List Text) (o : Options)
    (h : Options.ofWords .checker ws = .ok o) :
    let loaded := (Dictionary.load fs env.userFiles o.keywords).result
    let out := Outcome.ofWords fs env ws
    (out.status = 2 ↔
        (∃ e, loaded = .error e) ∨ ∃ path ∈ o.files, ∃ cause, fs.readText path = .error cause) ∧
      (out.status = 2 → out.output = [] ∧
        ((∃ e, loaded = .error e ∧ out.error = some (.dictionary e)) ∨
          ∃ d path cause, loaded = .ok d ∧ FirstUnreadable fs o.files path cause ∧
            out.error = some (.unreadable path cause))) ∧
      (out.status ≠ 2 → ∃ d rs, loaded = .ok d ∧ List.Forall₂ (ReportOn fs d) o.files rs ∧
        out.output = o.format.render rs ∧ out.error = none ∧
        out.status = if ∀ r ∈ rs, r.findings = [] then 0 else 1) ∧
      (o.format = .text → (out.status = 0 ↔ out.error = none ∧ out.output = [])) := by
  intro loaded out
  have hending := Outcome.ending_ofWords h fs env
  exact ⟨hending.status_eq_two_iff, hending.of_status_eq_two, hending.of_status_ne_two,
    hending.status_eq_zero_iff⟩

/-- A file is named twice. In a second run, a file that does not exist stands between: what was
found before it is not put out. In a third, the user has a dictionary that may not be read. -/
theorem outcome_exact_twice :
    let text := "Solver 1\n Foo = 1\nEnd\n".toList
    let case := "case.sif".toList
    let gone := "gone.sif".toList
    let fs : FileSystem :=
      ⟨fun path => if path = case then .ok (.file (String.ofList text).toUTF8) else .error .missing⟩
    let user := "/home/u/.config/sif-ls/keywords.json".toList
    let barred : FileSystem :=
      ⟨fun path => if path = user then .ok (.locked .denied) else fs.lookup path⟩
    let env : Environment := ⟨some "/home/u".toList, none, none, none⟩
    let r : Report := ⟨case, Dictionary.builtin.findings text⟩
    let twice := Outcome.ofWords fs env [case, case]
    let broken := Outcome.ofWords fs env [case, gone, case]
    let closed := Outcome.ofWords barred env [case]
    ((twice.status = 0 ↔ r.findings = []) ∧
        twice.output = ReportFormat.text.render [r, r] ∧ twice.error = none) ∧
      (broken.status = 2 ∧ broken.output = [] ∧
        broken.error = some (.unreadable gone (.path .missing))) ∧
      closed.status = 2 ∧ closed.output = [] ∧
        closed.error = some (.dictionary (.unreadable user (.path .denied))) := by
  intro text case gone fs user barred env r twice broken closed
  have hd : (Dictionary.load fs env.userFiles []).result = .ok .builtin := by rfl
  have hcase : fs.readText case = .ok text := by decide +kernel
  have hgone : fs.readText gone = .error (.path .missing) := by rfl
  obtain ⟨hfails, _, hreports, _⟩ :=
    outcome_exact fs env [case, case] ⟨[case, case], .text, [], "info".toList⟩ rfl
  obtain ⟨hfails', hatomic, _, _⟩ :=
    outcome_exact fs env [case, gone, case] ⟨[case, gone, case], .text, [], "info".toList⟩ rfl
  obtain ⟨hfails₃, hatomic₃, _, _⟩ :=
    outcome_exact barred env [case] ⟨[case], .text, [], "info".toList⟩ rfl
  refine ⟨?_, ?_, ?_⟩
  · have h2 : twice.status ≠ 2 := by
      rw [Ne, hfails]
      rintro (⟨e, he⟩ | ⟨path, hp, cause, hc⟩)
      · exact nomatch hd.symm.trans he
      · obtain rfl : path = case := by simpa using hp
        exact nomatch hcase.symm.trans hc
    obtain ⟨d, rs, hl, hall, ho, he, hs⟩ := hreports h2
    obtain rfl : Dictionary.builtin = d := Except.ok.inj (hd.symm.trans hl)
    have hrs : rs = [r, r] := by
      cases hall with
      | cons h₁ hall =>
        cases hall with
        | cons h₂ hall =>
          cases hall
          rw [h₁.eq_of_readText hcase, h₂.eq_of_readText hcase]
    rw [hrs] at ho hs
    have hclean (r : Report) :
        (if ∀ x ∈ [r, r], x.findings = [] then 0 else 1) = 0 ↔ r.findings = [] := by simp
    exact ⟨hs ▸ hclean r, ho, he⟩
  · have h2 : broken.status = 2 := hfails'.2 (.inr ⟨gone, by simp, _, hgone⟩)
    obtain ⟨ho, ⟨e, he, _⟩ | ⟨d, path, cause, _, hf, he⟩⟩ := hatomic h2
    · exact nomatch hd.symm.trans he
    · have hp : path = case ∨ path = gone := by simpa [or_comm] using hf.mem
      rcases hp with rfl | rfl
      · exact nomatch hcase.symm.trans hf.readText
      · obtain rfl : .path .missing = cause := Except.error.inj (hgone.symm.trans hf.readText)
        exact ⟨h2, ho, he⟩
  · have hlocked : (Dictionary.load barred env.userFiles []).result =
        .error (.unreadable user (.path .denied)) := by
      rfl
    have h2 : closed.status = 2 := hfails₃.2 (.inl ⟨_, hlocked⟩)
    obtain ⟨ho, ⟨e, hl, he⟩ | ⟨d, path, cause, hl, _⟩⟩ := hatomic₃ h2
    · obtain rfl := Except.error.inj (hlocked.symm.trans hl)
      exact ⟨h2, ho, he⟩
    · exact nomatch hlocked.symm.trans hl

end SolverInput
