import SolverInput.Proofs.Outcome
import SolverInput.Proofs.Positions
import SolverInput.Proofs.ReadBack

namespace SolverInput
set_option autoImplicit true

namespace Report

variable {rs : List Report} {f : Finding}

/-- All findings in the order of the reports, each with the path of its own. -/
def allFindings (rs : List Report) : List (Text × Finding) :=
  rs.flatMap fun r => r.findings.map (r.path, ·)

theorem flatMap_toRecords (rs : List Report) :
    rs.flatMap (·.toRecords) = (allFindings rs).map fun (path, f) => findingRecord path f := by
  rw [allFindings, List.map_flatMap]
  simp only [List.map_map]
  rfl

/-- The places of the finding are numbers of 64 bits. -/
def IsWordSized (f : Finding) : Prop :=
  f.line < UInt64.size ∧ f.start < UInt64.size ∧ f.stop < UInt64.size

instance (f : Finding) : Decidable (IsWordSized f) :=
  inferInstanceAs (Decidable (_ ∧ _ ∧ _))

theorem fits_findingRecord (path : Text) (h : IsWordSized f) : (findingRecord path f).Fits 1 := by
  obtain ⟨hline, hstart, hstop⟩ := h
  apply Json.Fits.object
  simp only [List.forall_mem_cons]
  exact ⟨.string _, .number false hline, .number false hstart, .number false hstop, .string _,
    .string _, .string _, by simp⟩

theorem fits_records (h : ∀ r ∈ rs, ∀ f ∈ r.findings, IsWordSized f) :
    (Json.array (rs.flatMap (·.toRecords))).Fits 2 := by
  apply Json.Fits.array
  intro v hv
  obtain ⟨r, hr, hv⟩ := List.mem_flatMap.1 hv
  obtain ⟨f, hf, rfl⟩ := List.mem_map.1 hv
  exact fits_findingRecord r.path (h r hr f hf)

/-- The records are read back, also with the line feed that ends a report. -/
theorem read?_records (h : ∀ r ∈ rs, ∀ f ∈ r.findings, IsWordSized f)
    (hs : ∀ c ∈ s, Json.Reading.isSpace c) :
    Json.read? (Json.write .indented (.array (rs.flatMap (·.toRecords))) ++ s) =
      some (.array (rs.flatMap (·.toRecords))) :=
  Json.read?_write Json.Layout.spaced_indented (fits_records h) (by decide) hs

end Report

/-- A report in JSON is one value and a line feed. It is read back as an array with an object for
each finding, in order, that has the path of its report and the places and the message of the
finding as they were. -/
theorem json_report_read_back (rs : List Report)
    (h : ∀ r ∈ rs, ∀ f ∈ r.findings, Report.IsWordSized f) :
    let items := (Report.allFindings rs).map fun (path, f) => Json.object
      [("path".toList, .string path),
        ("line".toList, .number ⟨false, f.line, 0⟩),
        ("start_column".toList, .number ⟨false, f.start, 0⟩),
        ("end_column".toList, .number ⟨false, f.stop, 0⟩),
        ("message".toList, .string f.message),
        ("severity".toList, .string "warning".toList),
        ("source".toList, .string "elmer".toList)]
    ∃ text, ReportFormat.json.render rs = text ++ ['\n'] ∧
      Json.read? text = some (.array items) ∧
      Json.read? (ReportFormat.json.render rs) = some (.array items) := by
  intro items
  have hitems : rs.flatMap (·.toRecords) = items := Report.flatMap_toRecords rs
  have hread := Report.read?_records (s := []) h (by simp)
  rw [List.append_nil] at hread
  refine ⟨_, rfl, ?_, ?_⟩
  · rw [← hitems]
    exact hread
  · rw [← hitems]
    exact Report.read?_records h (List.forall_mem_singleton.2 rfl)

/-- Quotation marks, backslashes, control characters and characters beyond the first plane, the
largest numbers, and a report with no findings. -/
theorem json_report_read_back_escapes :
    let quoted := "\"\\\u0000\u001f\n\u2028𝄞".toList
    let largest : Finding := ⟨UInt64.size - 1, 0, UInt64.size - 1, quoted⟩
    let rs : List Report := [⟨quoted, [largest, ⟨7, 0, 10, []⟩]⟩, ⟨"clean.sif".toList, []⟩,
      ⟨[], [largest]⟩]
    ∃ first second third, Json.read? (ReportFormat.json.render rs) =
        some (.array [.object first, .object second, .object third]) ∧
      first.map (·.1) = ["path", "line", "start_column", "end_column", "message", "severity",
        "source"].map String.toList := by
  intro quoted largest rs
  obtain ⟨_, _, _, hread⟩ := json_report_read_back rs (by decide +kernel)
  exact ⟨_, _, _, hread, rfl⟩

/-- Texts of one line each, every one with a line feed after it, are the pieces between the line
feeds. -/
theorem rawLines_flatMap_append {ls : List Text} (h : ∀ l ∈ ls, '\n' ∉ l) :
    rawLines (ls.flatMap (· ++ ['\n'])) = ls ++ [[]] := by
  induction ls with
  | nil => rfl
  | cons l ls ih =>
    obtain ⟨hl, hls⟩ := List.forall_mem_cons.1 h
    rw [List.flatMap_cons, List.append_assoc, List.singleton_append, rawLines_append_newline _ hl,
      ih hls]
    rfl

theorem count_flatMap_append {ls : List Text} (h : ∀ l ∈ ls, '\n' ∉ l) :
    (ls.flatMap (· ++ ['\n'])).count '\n' = ls.length := by
  induction ls with
  | nil => rfl
  | cons l ls ih =>
    obtain ⟨hl, hls⟩ := List.forall_mem_cons.1 h
    rw [List.flatMap_cons, List.count_append, List.count_append, List.count_eq_zero_of_not_mem hl,
      ih hls, List.length_cons, List.count_singleton_self]
    omega

theorem newline_notMem_message (h : f ∈ Dictionary.findings d text) : '\n' ∉ f.message := by
  obtain ⟨i, s, t, blanks, rest, rfl, hl, _⟩ := exists_line_of_mem_findings h
  have hline := newline_notMem_of_mem_lines (List.mem_of_getElem? hl)
  have hraw : '\n' ∉ t.raw := fun hn => hline (by simp [hn])
  have hid : '\n' ∉ s.id.map Char.toUpper := by
    cases s <;> decide
  simp [Finding.unknownKeyword, hraw, hid]

/-- A finding is on a line of the text and has its keyword within the line. -/
theorem bounds_of_mem_findings (h : f ∈ Dictionary.findings d text) :
    f.line < (lines text).length ∧ f.start < f.stop ∧ f.stop ≤ text.length := by
  obtain ⟨i, s, t, blanks, rest, rfl, hl, ht, hb, hs, hk⟩ := exists_line_of_mem_findings h
  have hp := placedIn_unknownKeyword hl ht hb hs hk s
  obtain ⟨hi, _⟩ := List.getElem?_eq_some_iff.1 hl
  have hin := hp.inside
  have hle := length_le_of_mem_lines (List.mem_of_getElem? hl)
  exact ⟨hi, hp.nonempty, Nat.le_trans hin hle⟩

namespace Report

variable {rs : List Report} {f : Finding}

/-- The line of a finding in a report for people, where lines and columns count from one. -/
def textLine (path : Text) (f : Finding) : Text :=
  path ++ ':' :: Nat.toDigits 10 (f.line + 1) ++ ':' :: Nat.toDigits 10 (f.start + 1) ++
    ": warning: ".toList ++ f.message

theorem findingLine_eq (path : Text) (f : Finding) :
    findingLine path f = textLine path f ++ ['\n'] := by
  have hseverity : ": warning: ".toList = ": ".toList ++ (Finding.severity ++ ": ".toList) := rfl
  simp only [findingLine, textLine, hseverity, List.append_assoc]

theorem render_text (rs : List Report) :
    ReportFormat.text.render rs =
      ((allFindings rs).map fun (path, f) => textLine path f).flatMap (· ++ ['\n']) := by
  rw [ReportFormat.render, allFindings, List.flatMap_map, List.flatMap_assoc]
  have hline (path : Text) : findingLine path = fun f => textLine path f ++ ['\n'] :=
    funext (findingLine_eq path)
  simp only [toText, List.flatMap_map, hline]

theorem newline_notMem_textLine {path : Text} (hp : '\n' ∉ path) (hm : '\n' ∉ f.message) :
    '\n' ∉ textLine path f := by
  have hdigits (n : Nat) : '\n' ∉ Nat.toDigits 10 n := by
    intro h
    exact absurd (isDigit_of_mem_toDigits h) (by decide)
  simp [textLine, hp, hm, hdigits]

theorem length_allFindings (rs : List Report) :
    (allFindings rs).length = Outcome.findingCount rs := by
  induction rs with
  | nil => rfl
  | cons r rs ih =>
    rw [allFindings, List.flatMap_cons, List.length_append, List.length_map]
    exact congrArg (r.findings.length + ·) ih

theorem mem_allFindings_iff {path : Text} :
    (path, f) ∈ allFindings rs ↔ ∃ r ∈ rs, r.path = path ∧ f ∈ r.findings := by
  simp [allFindings, and_comm]

end Report

theorem exists_readText_of_mem (h : List.Forall₂ (ReportOn fs d) paths rs) (hr : r ∈ rs) :
    ∃ path ∈ paths, ∃ text, fs.readText path = .ok text ∧ r = ⟨path, d.findings text⟩ := by
  induction h with
  | nil => cases hr
  | cons hp _ ih =>
    rcases List.mem_cons.1 hr with rfl | hr
    · exact ⟨_, List.mem_cons_self, hp⟩
    · obtain ⟨path, hpath, hall⟩ := ih hr
      exact ⟨path, List.mem_cons_of_mem _ hpath, hall⟩

theorem toNat_toUInt64_add_one {n : Nat} (h : n + 1 < UInt64.size) :
    (n.toUInt64 + 1).toNat = n + 1 := by
  have hn : n.toUInt64.toNat = n := UInt64.toNat_ofNat_of_lt' (Nat.lt_of_succ_lt h)
  rw [UInt64.toNat_add, hn]
  exact Nat.mod_eq_of_lt h

section

variable {fs : FileSystem} {d : Dictionary} {paths : List Text} {rs : List Report}
  (hall : List.Forall₂ (ReportOn fs d) paths rs)
include hall

theorem newline_notMem_textLines (hpaths : ∀ path ∈ paths, '\n' ∉ path) :
    ∀ l ∈ (Report.allFindings rs).map fun (path, f) => Report.textLine path f, '\n' ∉ l := by
  rw [List.forall_mem_map]
  rintro ⟨path, f⟩ hmem
  obtain ⟨r, hr, rfl, hf⟩ := Report.mem_allFindings_iff.1 hmem
  obtain ⟨path, hpath, text, _, rfl⟩ := exists_readText_of_mem hall hr
  exact Report.newline_notMem_textLine (hpaths path hpath) (newline_notMem_message hf)

theorem bounds_of_mem_reports (hr : r ∈ rs) (ht : fs.readText r.path = .ok text)
    (hf : f ∈ r.findings) :
    f.line < (lines text).length ∧ f.start < f.stop ∧ f.stop ≤ text.length := by
  obtain ⟨path, _, text', ht', rfl⟩ := exists_readText_of_mem hall hr
  obtain rfl : text' = text := Except.ok.inj (ht'.symm.trans ht)
  exact bounds_of_mem_findings hf

/-- In files of fewer characters than a word can count, no place is too far for a word. -/
theorem lt_size_of_mem_reports
    (hsize : ∀ path ∈ paths, ∀ text, fs.readText path = .ok text → text.length < UInt64.size)
    (hr : r ∈ rs) (hf : f ∈ r.findings) :
    f.line + 1 < UInt64.size ∧ f.start + 1 < UInt64.size ∧ f.stop < UInt64.size := by
  obtain ⟨path, hpath, text, ht, rfl⟩ := exists_readText_of_mem hall hr
  obtain ⟨hline, hstart, hstop⟩ := bounds_of_mem_findings hf
  have hlines := length_lines_le text
  have hlen := hsize path hpath text ht
  omega

end

/-- A report for people on files that can all be read has one line for each finding, in the order of
the files and of their lines, and a record in JSON for each of them. The line and the column of a
finding are less than the numbers of lines and characters of its file, so one more is still a
number of 64 bits. -/
theorem text_report_lines (fs : FileSystem) (d : Dictionary) (paths : List Text)
    (hread : ∀ path ∈ paths, ∃ text, fs.readText path = .ok text)
    (hpaths : ∀ path ∈ paths, '\n' ∉ path) :
    ∃ rs, (reportFiles fs d paths).2 = .ok rs ∧ List.Forall₂ (ReportOn fs d) paths rs ∧
      (∀ r ∈ rs, r.findings.Pairwise (·.line < ·.line)) ∧
      (ReportFormat.text.render rs).count '\n' = Outcome.findingCount rs ∧
      rawLines (ReportFormat.text.render rs) =
        ((Report.allFindings rs).map fun (path, f) => Report.textLine path f) ++ [[]] ∧
      (∀ r ∈ rs, ∀ text, fs.readText r.path = .ok text → ∀ f ∈ r.findings,
        f.line < (lines text).length ∧ f.start < text.length) ∧
      ((∀ path ∈ paths, ∀ text, fs.readText path = .ok text → text.length < UInt64.size) →
        Json.read? (ReportFormat.json.render rs) =
            some (.array ((Report.allFindings rs).map fun (path, f) =>
              Report.findingRecord path f)) ∧
          ∀ r ∈ rs, ∀ f ∈ r.findings, (f.line.toUInt64 + 1).toNat = f.line + 1 ∧
            (f.start.toUInt64 + 1).toNat = f.start + 1) := by
  rcases checkFiles_cases fs d paths ∅ with ⟨rs, hrs, hall⟩ | ⟨path, cause, _, hfirst⟩
  · have hlines := newline_notMem_textLines hall hpaths
    refine ⟨rs, hrs, hall, ?_, ?_, ?_, ?_, ?_⟩
    · intro r hr
      obtain ⟨path, _, text, _, rfl⟩ := exists_readText_of_mem hall hr
      exact d.findings_sorted text
    · rw [Report.render_text, count_flatMap_append hlines, List.length_map,
        Report.length_allFindings]
    · rw [Report.render_text, rawLines_flatMap_append hlines]
    · intro r hr text ht f hf
      obtain ⟨hline, hstart, hstop⟩ := bounds_of_mem_reports hall hr ht hf
      exact ⟨hline, Nat.lt_of_lt_of_le hstart hstop⟩
    · intro hsize
      refine ⟨?_, ?_⟩
      · rw [← Report.flatMap_toRecords]
        apply Report.read?_records _ (List.forall_mem_singleton.2 rfl)
        intro r hr f hf
        obtain ⟨hline, hstart, hstop⟩ := lt_size_of_mem_reports hall hsize hr hf
        exact ⟨Nat.lt_of_succ_lt hline, Nat.lt_of_succ_lt hstart, hstop⟩
      · intro r hr f hf
        obtain ⟨hline, hstart, _⟩ := lt_size_of_mem_reports hall hsize hr hf
        exact ⟨toNat_toUInt64_add_one hline, toNat_toUInt64_add_one hstart⟩
  · obtain ⟨text, ht⟩ := hread path hfirst.mem
    exact nomatch ht.symm.trans hfirst.readText

/-- A keyword with a line separator, a form feed and a carriage return in it, in a file that is
named twice, and a file without findings between. -/
theorem text_report_lines_blanks :
    let keyword := "Foo\u2028\x0c\rBar".toList
    let text := "Solver\r\n".toList ++ keyword ++ " = 1\nEnd\n".toList
    let case := "a:1.sif".toList
    let clean := "clean.sif".toList
    let fs : FileSystem := ⟨fun path =>
      .ok (.file (String.ofList (if path = case then text else [])).toUTF8)⟩
    let d := Dictionary.empty.insert "solver".toList "equation".toList
    ∃ rs, (reportFiles fs d [case, clean, case]).2 = .ok rs ∧
      (ReportFormat.text.render rs).count '\n' = 2 ∧
      (rawLines (ReportFormat.text.render rs))[1]? =
        some ("a:1.sif:2:1: warning: Unknown keyword \"".toList ++ keyword ++
          "\" in SOLVER section".toList) ∧
      ∃ first second, Json.read? (ReportFormat.json.render rs) = some (.array [first, second]) := by
  intro keyword text case clean fs d
  have hcase : fs.readText case = .ok text := by decide +kernel
  have hclean : fs.readText clean = .ok [] := by decide +kernel
  have hread : ∀ path ∈ [case, clean, case], ∃ text, fs.readText path = .ok text := by
    simp only [List.forall_mem_cons]
    exact ⟨⟨_, hcase⟩, ⟨_, hclean⟩, ⟨_, hcase⟩, nofun⟩
  have hsize : ∀ path ∈ [case, clean, case], ∀ text, fs.readText path = .ok text →
      text.length < UInt64.size := by
    intro path hp t ht
    have hpath : path = case ∨ path = clean := by simpa [or_comm] using hp
    rcases hpath with rfl | rfl
    · rw [← Except.ok.inj (hcase.symm.trans ht)]
      decide +kernel
    · rw [← Except.ok.inj (hclean.symm.trans ht)]
      decide
  obtain ⟨rs, hrs, hall, _, hcount, hlines, _, hjson⟩ :=
    text_report_lines fs d [case, clean, case] hread (by decide)
  have hreports :
      rs = [⟨case, d.findings text⟩, ⟨clean, d.findings []⟩, ⟨case, d.findings text⟩] := by
    cases hall with
    | cons h₁ hall =>
      cases hall with
      | cons h₂ hall =>
        cases hall with
        | cons h₃ hall =>
          cases hall
          rw [h₁.eq_of_readText hcase, h₂.eq_of_readText hclean, h₃.eq_of_readText hcase]
  have htwo : Outcome.findingCount rs = 2 := by
    rw [hreports]
    decide +kernel
  refine ⟨rs, hrs, hcount.trans htwo, ?_, ?_⟩
  · rw [hlines, hreports]
    decide +kernel
  · rw [← Report.length_allFindings] at htwo
    obtain ⟨first, second, hfound⟩ := List.length_eq_two.1 htwo
    obtain ⟨hread, _⟩ := hjson hsize
    rw [hfound] at hread
    exact ⟨_, _, hread⟩

end SolverInput
