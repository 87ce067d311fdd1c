import SolverInput.Proofs.Deeds
import SolverInput.Proofs.Outline
import SolverInput.Proofs.Positions

namespace SolverInput
set_option autoImplicit true

/-- The line ends of a text as the protocol counts them: line feeds and carriage returns, but a
carriage return and the line feed after it are one. -/
def protocolLineEnds : Text → Nat
  | [] => 0
  | '\r' :: '\n' :: s => protocolLineEnds s + 1
  | c :: s => protocolLineEnds s + if c = '\n' ∨ c = '\r' then 1 else 0

/-- The carriage returns that no line feed follows. -/
def loneReturns : Text → Nat
  | [] => 0
  | '\r' :: '\n' :: s => loneReturns s
  | c :: s => loneReturns s + if c = '\r' then 1 else 0

theorem protocolLineEnds_eq (s : Text) : protocolLineEnds s = s.count '\n' + loneReturns s := by
  fun_induction protocolLineEnds s with
  | case1 => rfl
  | case2 s ih =>
    rw [loneReturns, ih, List.count_cons_of_ne (by decide), List.count_cons_self]
    omega
  | case3 c s hpair ih =>
    have hone : (if c = '\n' ∨ c = '\r' then 1 else 0) =
        (if c = '\n' then 1 else 0) + if c = '\r' then 1 else 0 := by
      by_cases hc : c = '\n'
      · rw [hc]
        rfl
      · simp [hc]
    rw [loneReturns, ih, List.count_cons, hone]
    · simp only [beq_iff_eq]
      omega
    · exact hpair

/-- A line begins after `prior`, and the first thing on it is `part`, after some blanks. A mark at
the beginning of the text is no part of the first line. -/
structure Leads (text prior blanks part : Text) : Prop where
  in_text : prior ++ (blanks ++ part) <+: text
  line_start : prior = [] ∨ prior = ['\ufeff'] ∨ prior.getLast? = some '\n'
  blank : ∀ c ∈ blanks, isBlank c
  visible : ∃ c, part.head? = some c ∧ isBlank c = false

/-- What the server numbers as line `i` begins after `i` line feeds. The protocol also counts the
carriage returns before it that stand alone, those among the blanks included. -/
theorem exists_leads (hl : (lines (dropMark text))[i]? = some (blanks ++ (part ++ rest)))
    (hb : ∀ c ∈ blanks, isBlank c) (hv : ∃ c, part.head? = some c ∧ isBlank c = false) :
    ∃ prior, Leads text prior blanks part ∧
      protocolLineEnds (prior ++ blanks) = i + loneReturns (prior ++ blanks) := by
  obtain ⟨prior, hp, hc, hs⟩ := exists_prior_of_getElem?_lines hl
  have hn : '\n' ∉ blanks := fun hn =>
    newline_notMem_of_mem_lines (List.mem_of_getElem? hl) (List.mem_append_left _ hn)
  have hpart : prior ++ (blanks ++ part) <+: dropMark text := by
    refine List.IsPrefix.trans ?_ hp
    rw [← List.append_assoc blanks]
    exact (List.prefix_append_right_inj prior).2 (List.prefix_append _ _)
  have hcount (mark : Text) (hm : '\n' ∉ mark) :
      protocolLineEnds (mark ++ prior ++ blanks) = i + loneReturns (mark ++ prior ++ blanks) := by
    rw [protocolLineEnds_eq, List.count_append, List.count_append,
      List.count_eq_zero_of_not_mem hm, List.count_eq_zero_of_not_mem hn, hc]
    omega
  rcases dropMark_cases text with ht | ht
  · refine ⟨prior, ⟨ht ▸ hpart, ?_, hb, hv⟩, hcount [] (by simp)⟩
    exact hs.imp_right .inr
  · refine ⟨'\ufeff' :: prior, ⟨?_, .inr ?_, hb, hv⟩, hcount ['\ufeff'] (by decide)⟩
    · rw [ht]
      exact List.cons_prefix_cons.2 ⟨rfl, hpart⟩
    · rcases hs with rfl | hs
      · exact .inl rfl
      · exact .inr (by rw [List.getLast?_cons, hs, Option.getD_some])

theorem exists_trim_of_header (h : LineRole.ofLine line = .header hd) :
    ∃ blanks rest, line = blanks ++ (trim line ++ rest) ∧ (∀ c ∈ blanks, isBlank c) ∧
      ∃ c, (trim line).head? = some c ∧ isBlank c = false := by
  have hne : trim line ≠ [] := by
    intro hnil
    simp [LineRole.ofLine, hnil] at h
  obtain ⟨c, tail, hc⟩ := List.exists_cons_of_ne_nil hne
  obtain ⟨left, right, hline, hl, _⟩ := exists_eq_pad_trim line
  refine ⟨left, right, hline, hl, c, ?_, ?_⟩
  · rw [hc, List.head?_cons]
  · exact isBlank_of_trimLeft_eq_cons ((trimLeft_trim line).trans hc)

theorem Token.IsKeyword.visible (h : IsKeyword k) : ∃ c, k.head? = some c ∧ isBlank c = false := by
  obtain ⟨c, rest, rfl, hc, _⟩ := h
  exact ⟨c, rfl, isBlank_of_isAlpha hc⟩

/-- The line that the client is told of a keyword is the one that the protocol counts, less the
carriage returns that stand alone before the keyword. -/
theorem exists_leads_of_mem_findings (hlen : text.length < UInt32.size)
    (h : f ∈ Dictionary.findings d text) :
    ∃ prior blanks keyword line, Leads text prior blanks keyword ∧
      "Unknown keyword \"".toList ++ keyword ++ "\" in ".toList <+: f.toDiagnostic.message ∧
      f.toDiagnostic.range.Spans line blanks.length (blanks.length + keyword.length) ∧
      protocolLineEnds (prior ++ blanks) = line + loneReturns (prior ++ blanks) := by
  obtain ⟨i, s, t, blanks, rest, rfl, hl, _, hb, hs, hk⟩ := exists_line_of_mem_findings h
  have hi := lt_size_of_line hlen hl
  have hlong := length_le_of_mem_lines (List.mem_of_getElem? hl)
  simp only [List.length_append] at hlong
  rw [← getElem?_lines_dropMark] at hl
  obtain ⟨prior, hleads, hcount⟩ := exists_leads hl hb hk.visible
  refine ⟨prior, blanks, t.raw, i + 1, hleads, ?_, ?_, hcount⟩
  · simp [Finding.toDiagnostic, Finding.unknownKeyword]
  · have hstart : blanks.length < UInt32.size := by omega
    have hstop : blanks.length + t.raw.length < UInt32.size := by omega
    have hspans := spans_ofColumns hi hstart hstop
    rw [← hs] at hspans ⊢
    exact hspans

theorem exists_leads_of_mem_symbols (hlen : text.length < UInt32.size) (h : y ∈ symbols text) :
    ∃ prior blanks line, Leads text prior blanks y.name ∧
      (y.range.start.line.toNat = line ∧ y.selection.start.line.toNat = line) ∧
      protocolLineEnds (prior ++ blanks) = line + loneReturns (prior ++ blanks) := by
  obtain ⟨S, hS, rfl⟩ := List.mem_map.1 h
  obtain ⟨hd, hdesc⟩ := exists_describes_of_mem_outline hS
  obtain ⟨line, hl, hrole⟩ := exists_of_roleAt? hdesc.at_header
  have htitle := hdesc.title
  rw [hl, Option.map_some, Option.some.injEq] at htitle
  obtain ⟨blanks, rest, hline, hb, hv⟩ := exists_trim_of_header hrole
  have hi := lt_size_of_line (Nat.lt_of_le_of_lt (length_dropMark_le text) hlen) hl
  rw [hline] at hl
  obtain ⟨prior, hleads, hcount⟩ := exists_leads hl hb hv
  rw [htitle] at hleads
  exact ⟨prior, blanks, S.start, hleads, ⟨toNat_toUInt32 hi, toNat_toUInt32 hi⟩, hcount⟩

/-- An opened document's findings are sent, and its sections on request. Each keyword and each
header is at the line that the protocol counts, less the carriage returns before it that stand
alone: for the protocol they end lines as well. -/
theorem lines_sent_exact (setup : Setup) (s : Session) (u : Text) (version : Int32) (text : Text)
    (hs : s.phase = .running) (hlen : text.length < UInt32.size) :
    let opened := Session.act setup (.event (.opened u languageId version text)) s
    let asked := Session.act setup (.event (.symbolsRequest u)) opened.2
    let told := (setup.dictionary.findings text).map Finding.toDiagnostic
    opened.1.sent = [.publish u (some version) told] ∧
      asked.1.reply = some (.symbols (some (symbols text))) ∧
      (∀ x ∈ told, ∃ prior blanks keyword line, Leads text prior blanks keyword ∧
        "Unknown keyword \"".toList ++ keyword ++ "\" in ".toList <+: x.message ∧
        x.range.Spans line blanks.length (blanks.length + keyword.length) ∧
        protocolLineEnds (prior ++ blanks) = line + loneReturns (prior ++ blanks)) ∧
      ∀ y ∈ symbols text, ∃ prior blanks line, Leads text prior blanks y.name ∧
        (y.range.start.line.toNat = line ∧ y.selection.start.line.toNat = line) ∧
        protocolLineEnds (prior ++ blanks) = line + loneReturns (prior ++ blanks) := by
  intro opened asked told
  have hopened : opened = (.sending [.publish u (some version) told],
      s.become setup.dictionary u (some ⟨text, version⟩)) := by
    simp only [opened, Session.act, Session.receive_of_running setup s hs, Session.handle,
      if_true, Session.keep_eq]
    rfl
  have hrunning : opened.2.phase = .running := by
    rw [hopened, Session.phase_become, hs]
  have hdoc : opened.2.documents.get? u = some ⟨text, version⟩ := by
    rw [hopened, Session.document_become, if_pos rfl]
  refine ⟨by rw [hopened]; rfl, ?_, ?_, fun y hy => exists_leads_of_mem_symbols hlen hy⟩
  · simp only [asked, Session.act, Session.receive_of_running setup _ hrunning,
      Session.reply_handle, Session.reply?, hdoc]
    rfl
  · intro x hx
    obtain ⟨f, hf, rfl⟩ := List.mem_map.1 hx
    exact exists_leads_of_mem_findings hlen hf

/-- A carriage return and a line feed, a carriage return alone, and both. -/
theorem lines_sent_exact_mixed :
    let d := Dictionary.empty.insert "solver".toList "equation".toList
    let text := "! a\r b\r\nSolver 1\r\r\n \r Foo = 1\r\nEnd\r\n".toList
    let opened := Session.act ⟨d, none⟩
      (.event (.opened "file:///case.sif".toList languageId 1 text)) ⟨.running, ∅, ∅⟩
    (d.findings text).map (·.line) = [2] ∧ text.length < UInt32.size ∧
      ∃ told, opened.1.sent = [.publish "file:///case.sif".toList (some 1) told] ∧
        ∀ x ∈ told, ∃ prior blanks keyword line, Leads text prior blanks keyword ∧
          "Unknown keyword \"".toList ++ keyword ++ "\" in ".toList <+: x.message ∧
          x.range.Spans line blanks.length (blanks.length + keyword.length) ∧
          protocolLineEnds (prior ++ blanks) = line + loneReturns (prior ++ blanks) := by
  intro d text opened
  have hlen : text.length < UInt32.size := by decide
  obtain ⟨hsent, _, htold, _⟩ := lines_sent_exact ⟨d, none⟩ ⟨.running, ∅, ∅⟩
    "file:///case.sif".toList 1 text rfl hlen
  exact ⟨by decide +kernel, hlen, _, hsent, htold⟩

/-- The comment holds a carriage return. The client counts a line more than it is told, for the
keyword as for the header. -/
theorem lines_sent_behind_protocol :
    let d := Dictionary.empty.insert "simulation".toList "bar".toList
    let text := "! a\r b\nSimulation\n  Foo = 1\nEnd\n".toList
    let setup : Setup := ⟨d, none⟩
    let opened := Session.act setup
      (.event (.opened "file:///case.sif".toList languageId 1 text)) ⟨.running, ∅, ∅⟩
    let beforeTitle := "! a\r b\n".toList
    let beforeKeyword := "! a\r b\nSimulation\n  ".toList
    beforeTitle ++ "Simulation".toList <+: text ∧ beforeKeyword ++ "Foo".toList <+: text ∧
      protocolLineEnds beforeTitle = 2 ∧ protocolLineEnds beforeKeyword = 3 ∧
      opened.1.sent = [.publish "file:///case.sif".toList (some 1)
        [⟨.ofColumns 2 2 5, "Unknown keyword \"Foo\" in SIMULATION section".toList⟩]] ∧
      (symbols text).map (fun y => (y.name, y.range.start.line)) = [("Simulation".toList, 1)] := by
  decide +kernel

end SolverInput
