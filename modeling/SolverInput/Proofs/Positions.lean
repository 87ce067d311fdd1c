import SolverInput.Proofs.Exactness
import SolverInput.Proofs.Lines
import SolverInput.Proofs.Token
import SolverInput.Session.Message

namespace SolverInput
set_option autoImplicit true

/-- The UTF-16 code units of a character: itself, or two surrogates. -/
def codeUnits (c : Char) : List Nat :=
  if c.toNat < 0x10000 then [c.toNat]
  else [0xd800 + (c.toNat - 0x10000) / 0x400, 0xdc00 + (c.toNat - 0x10000) % 0x400]

def encode16 (s : Text) : List Nat :=
  s.flatMap codeUnits

@[simp] theorem encode16_append (s t : Text) : encode16 (s ++ t) = encode16 s ++ encode16 t :=
  List.flatMap_append

@[simp] theorem length_codeUnits (c : Char) : (codeUnits c).length = unitCount c := by
  unfold codeUnits unitCount
  split <;> rfl

@[simp] theorem length_encode16 (s : Text) : (encode16 s).length = units16 s := by
  induction s with
  | nil => rfl
  | cons c s ih =>
    rw [encode16, List.flatMap_cons, List.length_append, length_codeUnits]
    exact congrArg (unitCount c + ·) ih

theorem encode16_of_basic (h : ∀ c ∈ s, c.toNat < 0x10000) : encode16 s = s.map Char.toNat := by
  induction s with
  | nil => rfl
  | cons c s ih =>
    have hc := h c List.mem_cons_self
    have hs := ih fun x hx => h x (List.mem_cons_of_mem _ hx)
    rw [encode16, List.flatMap_cons, codeUnits, if_pos hc]
    exact congrArg (c.toNat :: ·) hs

theorem toNat_lt_of_isBlank {c : Char} (h : isBlank c) : c.toNat < 0x10000 := by
  simp only [isBlank, Bool.or_eq_true, Bool.and_eq_true, decide_eq_true_eq, beq_iff_eq] at h
  omega

theorem toNat_lt_of_isAlphanum {c : Char} (h : c.isAlphanum) : c.toNat < 0x80 := by
  rcases Bool.or_eq_true_iff.1 h with h | h
  · have hn := toNat_of_isAlpha h
    omega
  · have hn : c.toNat ≤ 0x39 := of_decide_eq_true (Bool.and_eq_true_iff.1 h).2
    omega

namespace Token

theorem toNat_lt_of_isAllowed {c : Char} (h : isAllowed c) : c.toNat < 0x10000 := by
  simp only [isAllowed, Bool.or_eq_true, beq_iff_eq] at h
  rcases h with (((h | h) | rfl) | rfl) | rfl
  · exact Nat.lt_trans (toNat_lt_of_isAlphanum h) (by decide)
  · exact toNat_lt_of_isBlank h
  all_goals decide

theorem IsKeyword.ne_quote (h : IsKeyword s) : ∀ c ∈ s, c ≠ '"' := by
  intro c hc he
  have ha := h.isAllowed c hc
  rw [he] at ha
  exact absurd ha (by decide)

end Token

/-- What stands between the first two quotation marks of the message. -/
def Finding.quoted (f : Finding) : Text :=
  ((f.message.dropWhile (· != '"')).drop 1).takeWhile (· != '"')

theorem quoted_unknownKeyword (i : Nat) (s : Section) (h : Token.IsKeyword t.raw) :
    (Finding.unknownKeyword i t s).quoted = t.raw := by
  have hq : ∀ c ∈ t.raw, (c != '"') = true := by
    intro c hc
    simpa using h.ne_quote c hc
  have hw : ∀ c ∈ "Unknown keyword ".toList, (c != '"') = true := List.all_eq_true.1 (by decide)
  have hm : (Finding.unknownKeyword i t s).message =
      "Unknown keyword ".toList ++ '"' ::
        (t.raw ++ '"' :: (" in ".toList ++ s.id.map Char.toUpper ++ " section".toList)) := by
    simp [Finding.unknownKeyword]
  rw [Finding.quoted, hm, List.dropWhile_append_of_pos hw,
    List.dropWhile_cons_of_neg (by decide), List.drop_one, List.tail_cons,
    List.takeWhile_append_of_pos hq, List.takeWhile_cons_of_neg (by decide), List.append_nil]

theorem drop_take_append (a b c : List α) :
    ((a ++ (b ++ c)).take (a.length + b.length)).drop a.length = b := by
  rw [← List.append_assoc, ← List.length_append, List.take_left, List.drop_left]

theorem toNat_toUInt32 {n : Nat} (h : n < UInt32.size) : n.toUInt32.toNat = n :=
  UInt32.toNat_ofNat_of_lt' h

theorem lt_size_of_line (hlen : s.length < UInt32.size) (hl : (lines s)[i]? = some l) :
    i < UInt32.size := by
  obtain ⟨hi, _⟩ := List.getElem?_eq_some_iff.1 hl
  exact Nat.lt_trans (Nat.lt_of_lt_of_le hi (length_lines_le s)) hlen

theorem exists_line_of_mem_findings (h : f ∈ Dictionary.findings d text) :
    ∃ i s t blanks rest, f = .unknownKeyword (i + 1) t s ∧
      (lines text)[i + 1]? = some (blanks ++ (t.raw ++ rest)) ∧
      Token.ofLine? (blanks ++ (t.raw ++ rest)) = some t ∧
      (∀ c ∈ blanks, isBlank c) ∧ t.start = blanks.length ∧ Token.IsKeyword t.raw := by
  obtain ⟨i, s, t, ha, rfl⟩ := (d.mem_findings_iff text f).1 h
  obtain ⟨line, hl, ht⟩ := Option.bind_eq_some_iff.1 ha.assigns
  obtain ⟨j, _, hj, _⟩ := ha.opened
  obtain ⟨i, rfl⟩ := Nat.exists_eq_succ_of_ne_zero (Nat.ne_zero_of_lt hj.before)
  obtain ⟨blanks, rest, rfl, hb, hs, hk⟩ := Token.ofLine?_eq_some ht
  -- The line is not the first, so it is the same with the mark.
  rw [Nat.succ_eq_add_one, getElem?_lines_dropMark] at hl
  exact ⟨i, s, t, blanks, rest, rfl, hl, ht, hb, hs, hk⟩

/-- The line `l` of a text has the keyword of a finding where the finding says, whether columns count
characters or UTF-16 units. -/
structure Finding.PlacedIn (f : Finding) (text l : Text) : Prop where
  at_line : (lines text)[f.line]? = some l
  nonempty : f.start < f.stop
  inside : f.stop ≤ l.length
  blanks_before : ∀ c ∈ l.take f.start, isBlank c
  characters : (l.take f.stop).drop f.start = f.quoted
  units : ((encode16 l).take f.stop).drop f.start = encode16 f.quoted
  keyword : Token.ofLine? l = some ⟨f.quoted, f.start⟩

/-- A range of one line that has exactly these numbers, nothing cut off. -/
structure Range.Spans (r : Range) (line start stop : Nat) : Prop where
  start_line : r.start.line.toNat = line
  start_character : r.start.character.toNat = start
  stop_line : r.stop.line.toNat = line
  stop_character : r.stop.character.toNat = stop

theorem spans_ofColumns (hl : line < UInt32.size) (hs : start < UInt32.size)
    (ht : stop < UInt32.size) :
    (Range.ofColumns line start stop).Spans line start stop :=
  ⟨toNat_toUInt32 hl, toNat_toUInt32 hs, toNat_toUInt32 hl, toNat_toUInt32 ht⟩

theorem placedIn_unknownKeyword (hl : (lines text)[i]? = some (blanks ++ (t.raw ++ rest)))
    (ht : Token.ofLine? (blanks ++ (t.raw ++ rest)) = some t) (hb : ∀ c ∈ blanks, isBlank c)
    (hs : t.start = blanks.length) (hk : Token.IsKeyword t.raw) (s : Section) :
    (Finding.unknownKeyword i t s).PlacedIn text (blanks ++ (t.raw ++ rest)) := by
  have hq := quoted_unknownKeyword i s hk
  have hpos : 0 < t.raw.length := List.length_pos_iff.2 hk.ne_nil
  have hstart : (Finding.unknownKeyword i t s).start = blanks.length := hs
  have hstop : (Finding.unknownKeyword i t s).stop = blanks.length + t.raw.length :=
    congrArg (· + t.raw.length) hs
  -- Up to the end of the keyword a character is one unit, so both countings agree.
  have hbasic : encode16 t.raw = t.raw.map Char.toNat :=
    encode16_of_basic fun c hc => Token.toNat_lt_of_isAllowed (hk.isAllowed c hc)
  have hblanks : encode16 blanks = blanks.map Char.toNat :=
    encode16_of_basic fun c hc => toNat_lt_of_isBlank (hb c hc)
  refine ⟨hl, ?_, ?_, ?_, ?_, ?_, ?_⟩
  · omega
  · simp only [hstop, List.length_append]
    omega
  · rw [hstart, List.take_left]
    exact hb
  · rw [hstart, hstop, hq, drop_take_append]
  · have hslice := drop_take_append (encode16 blanks) (encode16 t.raw) (encode16 rest)
    simp only [hblanks, hbasic, List.length_map] at hslice
    simp only [hstart, hstop, hq, encode16_append, hblanks, hbasic]
    exact hslice
  · rw [ht, hq]
    rfl

/-- The place that a finding names holds its keyword in the text as the client has it, mark and all,
and the client is told of the same place. -/
theorem finding_positions_exact (d : Dictionary) (text : Text) (f : Finding)
    (hlen : text.length < UInt32.size) (hf : f ∈ d.findings text) :
    1 ≤ f.line ∧ (∃ l, f.PlacedIn text l) ∧
      f.toDiagnostic.range.Spans f.line f.start f.stop := by
  obtain ⟨i, s, t, blanks, rest, rfl, hl, ht, hb, hs, hk⟩ := exists_line_of_mem_findings hf
  have hp := placedIn_unknownKeyword hl ht hb hs hk s
  have hline : i + 1 < UInt32.size := by
    obtain ⟨hi, _⟩ := List.getElem?_eq_some_iff.1 hl
    have hle := length_lines_le text
    omega
  have hstop : (Finding.unknownKeyword (i + 1) t s).stop < UInt32.size := by
    have hle := length_le_of_mem_lines (List.mem_of_getElem? hl)
    have hin := hp.inside
    omega
  exact ⟨Nat.le_add_left 1 i, ⟨_, hp⟩,
    spans_ofColumns hline (Nat.lt_trans hp.nonempty hstop) hstop⟩

/-- A text with a mark, wide blanks before the keyword and a character of two units after it. -/
theorem finding_positions_exact_marked :
    let d := Dictionary.empty.insert "Solver".toList "Equation".toList
    let text := "\ufeffSolver 1\r\n \u3000Foo Bar(2) = 🔥\r\nEnd\n".toList
    let f : Finding := ⟨1, 2, 9, "Unknown keyword \"Foo Bar\" in SOLVER section".toList⟩
    f ∈ d.findings text ∧ 1 ≤ f.line ∧ (∃ l, f.PlacedIn text l) ∧
      f.toDiagnostic.range.Spans f.line f.start f.stop := by
  refine ⟨?_, finding_positions_exact (Dictionary.empty.insert "Solver".toList "Equation".toList)
    _ _ (by decide) ?_⟩ <;> decide +kernel

end SolverInput
