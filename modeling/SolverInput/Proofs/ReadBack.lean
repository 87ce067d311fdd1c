import SolverInput.Json.Writer
import SolverInput.Proofs.Decimal

namespace SolverInput.Json
set_option autoImplicit true

/-- Values with at most `n` arrays and objects inside one another, whose numbers are whole and have
64 bits. -/
inductive Fits : Nat → Json → Prop
  | null : Fits n .null
  | bool (b : Bool) : Fits n (.bool b)
  | number (negative : Bool) (h : k < UInt64.size) : Fits n (.number ⟨negative, k, 0⟩)
  | string (s : Text) : Fits n (.string s)
  | array (h : ∀ v ∈ vs, Fits n v) : Fits (n + 1) (.array vs)
  | object (h : ∀ m ∈ ms, Fits n m.2) : Fits (n + 1) (.object ms)

/-- A layout of which the reader passes over all but the colons. -/
structure Layout.Spaced (l : Layout) : Prop where
  lineBreak : ∀ depth, ∀ c ∈ l.lineBreak depth, Reading.isSpace c
  colon : ∃ s, l.colon = ':' :: s ∧ ∀ c ∈ s, Reading.isSpace c

/-- A character is escaped by one other character or by its number, or stands for itself. -/
theorem escape_cases (c : Char) :
    (∃ x, escape c = ['\\', x] ∧ Reading.unescape? x = some c) ∨
      c.toNat < 0x20 ∧ escape c = ['\\', 'u', '0', '0'] ++ hexPair c.toNat ∨
      escape c = [c] ∧ c ≠ '"' ∧ c ≠ '\\' ∧ ¬c.toNat < 0x20 := by
  unfold escape
  split_ifs with h₁ h₂ h₃ h₄ h₅ h₆ h₇ h₈
  · exact .inl ⟨'"', rfl, congrArg some h₁.symm⟩
  · exact .inl ⟨'\\', rfl, congrArg some h₂.symm⟩
  · exact .inl ⟨'b', rfl, congrArg some h₃.symm⟩
  · exact .inl ⟨'f', rfl, congrArg some h₄.symm⟩
  · exact .inl ⟨'n', rfl, congrArg some h₅.symm⟩
  · exact .inl ⟨'r', rfl, congrArg some h₆.symm⟩
  · exact .inl ⟨'t', rfl, congrArg some h₇.symm⟩
  · exact .inr (.inl ⟨h₈, rfl⟩)
  · exact .inr (.inr ⟨rfl, h₁, h₂, h₈⟩)

namespace Reading

variable {r r' r'' : Reading} {p q : Progress} {s : Text}

/-- The reader gets from `r` to `r'` over the text. -/
def Reads (r : Reading) (s : Text) (r' : Reading) : Prop :=
  s.foldlM step r = some r'

/-- The structure read so far, once a word that is open is ended. -/
def settled? (r : Reading) : Option Progress :=
  match r.mode with
  | .between => some r.progress
  | .word done => endWord r.progress done
  | _ => none

theorem Reads.nil (r : Reading) : Reads r [] r :=
  rfl

theorem Reads.cons (h : r.step c = some r') (hs : Reads r' s r'') : Reads r (c :: s) r'' := by
  rw [Reads, List.foldlM_cons, h]
  exact hs

theorem Reads.append (hs : Reads r s r') (ht : Reads r' t r'') : Reads r (s ++ t) r'' := by
  rw [Reads, List.foldlM_append, hs]
  exact ht

theorem Reads.single (h : r.step c = some r') : Reads r [c] r' :=
  .cons h (.nil r')

theorem step_of_settled (h : r.settled? = some p) (hc : isWordChar c = false) :
    r.step c = stepBetween p c := by
  obtain ⟨mode, progress⟩ := r
  cases mode with
  | between =>
    cases h
    rfl
  | word done =>
    have hw : endWord progress done = some p := h
    simp [step, hc, hw]
  | _ => cases h

theorem step_sign (hr : r.settled? = some p) (hc : isWordChar c = false)
    (h : stepBetween p c = some r') : r.step c = some r' :=
  (step_of_settled hr hc).trans h

theorem result?_of_settled (h : r.settled? = some p) : r.result? = p.result? := by
  obtain ⟨mode, progress⟩ := r
  cases mode with
  | between =>
    cases h
    rfl
  | word done =>
    have hw : endWord progress done = some p := h
    simp [result?, hw]
  | _ => cases h

theorem isWordChar_of_isSpace (h : isSpace c) : isWordChar c = false := by
  simp only [isSpace, Bool.or_eq_true, beq_iff_eq] at h
  rcases h with ((rfl | rfl) | rfl) | rfl <;> decide

theorem stepBetween_of_isSpace (h : isSpace c) : stepBetween p c = some ⟨.between, p⟩ :=
  if_pos h

theorem reads_spaces (hs : ∀ c ∈ s, isSpace c) : Reads ⟨.between, p⟩ s ⟨.between, p⟩ := by
  induction s with
  | nil => exact .nil _
  | cons c s ih =>
    obtain ⟨hc, hs⟩ := List.forall_mem_cons.1 hs
    exact .cons (stepBetween_of_isSpace hc) (ih hs)

theorem exists_reads_spaces (hr : r.settled? = some p) (hs : ∀ c ∈ s, isSpace c) :
    ∃ r', Reads r s r' ∧ r'.settled? = some p := by
  cases s with
  | nil => exact ⟨r, .nil r, hr⟩
  | cons x s =>
    obtain ⟨hx, hs⟩ := List.forall_mem_cons.1 hs
    have hfirst := step_of_settled hr (isWordChar_of_isSpace hx)
    rw [stepBetween_of_isSpace hx] at hfirst
    exact ⟨_, .cons hfirst (reads_spaces hs), rfl⟩

/-- A sign after a value, perhaps with space before it. -/
theorem reads_sign (hr : r.settled? = some p) (hs : ∀ c ∈ s, isSpace c)
    (hc : isWordChar c = false) (h : stepBetween p c = some r') : Reads r (s ++ [c]) r' := by
  obtain ⟨r₁, hr₁, hsettled⟩ := exists_reads_spaces hr hs
  exact hr₁.append (.single (step_sign hsettled hc h))

theorem endUnit_of_lt (done : Text) (h : n < 0x20) :
    endUnit done none n = some (.quoted (Char.ofNat n :: done)) := by
  have hhigh : ¬0xd800 ≤ n := by omega
  have hlow : ¬0xdc00 ≤ n := by omega
  simp [endUnit, hhigh, hlow]

theorem reads_number (done : Text) (h : n < 0x20) :
    Reads ⟨.quoted done, p⟩ (['\\', 'u', '0', '0'] ++ hexPair n)
      ⟨.quoted (Char.ofNat n :: done), p⟩ := by
  have hopen : Reads ⟨.quoted done, p⟩ ['\\', 'u', '0', '0'] ⟨.unit done none 2 0, p⟩ := rfl
  have hhigh : step ⟨.unit done none 2 0, p⟩ (Nat.digitChar (n / 16)) =
      some ⟨.unit done none 3 (n / 16), p⟩ := by
    simp [step, hexValue?_digitChar (d := n / 16) (by omega)]
  have hlow : step ⟨.unit done none 3 (n / 16), p⟩ (Nat.digitChar (n % 16)) =
      some ⟨.quoted (Char.ofNat n :: done), p⟩ := by
    simp [step, hexValue?_digitChar (d := n % 16) (by omega), Nat.div_add_mod',
      endUnit_of_lt done h]
  exact hopen.append (.cons hhigh (.single hlow))

/-- An escaped character is read back. -/
theorem reads_escape (c : Char) (done : Text) :
    Reads ⟨.quoted done, p⟩ (escape c) ⟨.quoted (c :: done), p⟩ := by
  rcases escape_cases c with ⟨x, he, hx⟩ | ⟨hc, he⟩ | ⟨he, hquote, hslash, hc⟩
  · rw [he]
    have hu : x ≠ 'u' := by
      rintro rfl
      cases hx
    apply Reads.cons (s := [x]) (c := '\\') rfl
    apply Reads.single
    simp [step, hu, hx]
  · rw [he]
    have h := reads_number (p := p) done hc
    rw [Char.ofNat_toNat] at h
    exact h
  · rw [he]
    apply Reads.single
    simp [step, hquote, hslash, hc]

theorem reads_escapes (s done : Text) :
    Reads ⟨.quoted done, p⟩ (s.flatMap escape) ⟨.quoted (s.reverse ++ done), p⟩ := by
  induction s generalizing done with
  | nil => exact .nil _
  | cons c s ih =>
    have h := (reads_escape (p := p) c done).append (ih (c :: done))
    rw [List.flatMap_cons, List.reverse_cons, List.append_assoc]
    exact h

theorem take_of_step (h : p.step t = some q) : take p t = some ⟨.between, q⟩ := by
  rw [take, h]
  rfl

theorem reads_quote (h : p.step (.scalar (.string s)) = some q) :
    Reads ⟨.between, p⟩ (quote s) ⟨.between, q⟩ := by
  have hopen : step ⟨.between, p⟩ '"' = some ⟨.quoted [], p⟩ := rfl
  have hclose : step ⟨.quoted s.reverse, p⟩ '"' = some ⟨.between, q⟩ := by
    simp [step, take_of_step h]
  have hs := reads_escapes (p := p) s []
  rw [List.append_nil] at hs
  exact (Reads.cons hopen hs).append (.single hclose)

theorem reads_wordChars (hs : ∀ c ∈ s, isWordChar c) (done : Text) :
    Reads ⟨.word done, p⟩ s ⟨.word (s.reverse ++ done), p⟩ := by
  induction s generalizing done with
  | nil => exact .nil _
  | cons c s ih =>
    obtain ⟨hc, hs⟩ := List.forall_mem_cons.1 hs
    have h := ih hs (c :: done)
    rw [List.reverse_cons, List.append_assoc]
    exact .cons (if_pos hc) h

theorem not_isSpace_of_isWordChar (h : isWordChar c) : isSpace c = false := by
  rw [Bool.eq_false_iff]
  intro hc
  rw [isWordChar_of_isSpace hc] at h
  cases h

theorem reads_word (hne : s ≠ []) (hs : ∀ c ∈ s, isWordChar c) (hv : scalarOfWord? s = some v)
    (h : p.step (.scalar v) = some q) : ∃ r, Reads ⟨.between, p⟩ s r ∧ r.settled? = some q := by
  obtain ⟨c, s, rfl⟩ := List.exists_cons_of_ne_nil hne
  obtain ⟨hc, hcs⟩ := List.forall_mem_cons.1 hs
  have hopen : step ⟨.between, p⟩ c = some ⟨.word [c], p⟩ := by
    simp [step, stepBetween, not_isSpace_of_isWordChar hc, hc]
  refine ⟨_, .cons hopen (reads_wordChars hcs [c]), ?_⟩
  simp [settled?, endWord, hv, h]

theorem isWordChar_of_mem_toText {negative : Bool} (h : c ∈ Number.toText ⟨negative, n, 0⟩) :
    isWordChar c := by
  rcases Number.isDigit_or_of_mem_toText h with hd | rfl
  · simp [isWordChar, Char.isAlphanum, hd]
  · decide

theorem scalarOfWord?_toText (negative : Bool) (h : n < UInt64.size) :
    scalarOfWord? (Number.toText ⟨negative, n, 0⟩) = some (.number ⟨negative, n, 0⟩) := by
  have hne (w : Text) (hw : w.any fun c => !c.isDigit && c != '-') :
      Number.toText ⟨negative, n, 0⟩ ≠ w := by
    rintro rfl
    obtain ⟨c, hc, hother⟩ := List.any_eq_true.1 hw
    rcases Number.isDigit_or_of_mem_toText hc with he | he <;> simp [he] at hother
  rw [scalarOfWord?, if_neg (hne _ (by decide)), if_neg (hne _ (by decide)),
    if_neg (hne _ (by decide)), Number.ofText?_toText negative h]
  rfl

end Reading

namespace Progress

variable {p : Progress} {frames : List Frame}

/-- A value inside `frames` may come next. -/
def Awaits (p : Progress) (frames : List Frame) : Prop :=
  ∀ t, t ≠ .closeBracket → p.step t = beginValue frames t

theorem awaits_value (frames : List Frame) : Awaits ⟨.value, frames⟩ frames := by
  intro t _
  cases t <;> rfl

theorem awaits_firstItem (frames : List Frame) :
    Awaits ⟨.firstItem, frames⟩ (.array [] :: frames) := by
  intro t ht
  cases t with
  | closeBracket => exact (ht rfl).elim
  | _ => rfl

theorem Awaits.scalar (h : p.Awaits frames) (v : Json) :
    p.step (.scalar v) = some ⟨.separator v, frames⟩ :=
  h (.scalar v) nofun

theorem Awaits.openBracket (h : p.Awaits frames) (hf : frames.length < maxDepth) :
    p.step .openBracket = some ⟨.firstItem, frames⟩ := by
  rw [h .openBracket nofun]
  exact if_pos hf

theorem Awaits.openBrace (h : p.Awaits frames) (hf : frames.length < maxDepth) :
    p.step .openBrace = some ⟨.firstMember, frames⟩ := by
  rw [h .openBrace nofun]
  exact if_pos hf

/-- Inside one array or object more there may be one less. -/
theorem length_cons_le (h : frames.length + (n + 1) ≤ maxDepth) (frame : Frame) :
    (frame :: frames).length + n ≤ maxDepth := by
  rw [List.length_cons]
  omega

end Progress

namespace Reading

variable {l : Layout} {r : Reading} {p : Progress} {frames : List Frame} {v : Json}

/-- Where a value may come next, the reader gets over its text to its end. -/
def Readable (l : Layout) (n : Nat) (v : Json) : Prop :=
  ∀ depth p frames, p.Awaits frames → frames.length + n ≤ Progress.maxDepth →
    ∃ r, Reads ⟨.between, p⟩ (writeAt l depth v) r ∧ r.settled? = some ⟨.separator v, frames⟩

theorem reads_writeItems (depth : Nat) (hl : l.Spaced) (hvs : ∀ v ∈ vs, Readable l n v)
    (done : List Json) (hf : frames.length + (n + 1) ≤ Progress.maxDepth)
    (hr : r.settled? = some ⟨.separator v, .array done :: frames⟩) :
    Reads r (writeItems l (depth + 1) vs ++ l.lineBreak depth ++ [']'])
      ⟨.between, ⟨.separator (.array (done.reverse ++ v :: vs)), frames⟩⟩ := by
  induction vs generalizing r v done with
  | nil =>
    have hclose := reads_sign hr (hl.lineBreak depth) (c := ']') (by decide) rfl
    simpa [writeItems] using hclose
  | cons u vs ih =>
    obtain ⟨hu, hvs⟩ := List.forall_mem_cons.1 hvs
    have hcomma : r.step ',' = some ⟨.between, ⟨.value, .array (v :: done) :: frames⟩⟩ :=
      step_sign hr (by decide) rfl
    obtain ⟨r', hr', hsettled⟩ :=
      hu (depth + 1) _ _ (Progress.awaits_value _) (Progress.length_cons_le hf _)
    have h := (Reads.cons hcomma (reads_spaces (hl.lineBreak (depth + 1)))).append
      (hr'.append (ih hvs (v :: done) hsettled))
    simpa [writeItems] using h

/-- A member is its name, a colon and its value. -/
theorem exists_reads_member (depth : Nat) (hl : l.Spaced) (hv : Readable l n v)
    (hf : frames.length + (n + 1) ≤ Progress.maxDepth)
    (hk : p.step (.scalar (.string k)) = some ⟨.colon done k, frames⟩) :
    ∃ r, Reads ⟨.between, p⟩ (quote k ++ l.colon ++ writeAt l depth v) r ∧
      r.settled? = some ⟨.separator v, .object done k :: frames⟩ := by
  obtain ⟨s, hcolon, hs⟩ := hl.colon
  obtain ⟨r, hr, hsettled⟩ :=
    hv depth _ _ (Progress.awaits_value (.object done k :: frames)) (Progress.length_cons_le hf _)
  have hname : Reads ⟨.between, p⟩ (quote k ++ l.colon)
      ⟨.between, ⟨.value, .object done k :: frames⟩⟩ := by
    rw [hcolon]
    exact (reads_quote hk).append (.cons rfl (reads_spaces hs))
  exact ⟨r, hname.append hr, hsettled⟩

theorem reads_writeMembers (depth : Nat) (hl : l.Spaced) (hms : ∀ m ∈ ms, Readable l n m.2)
    (done : List (Text × Json)) (hf : frames.length + (n + 1) ≤ Progress.maxDepth)
    (hr : r.settled? = some ⟨.separator v, .object done k :: frames⟩) :
    Reads r (writeMembers l (depth + 1) ms ++ l.lineBreak depth ++ ['\x7d'])
      ⟨.between, ⟨.separator (.object (done.reverse ++ (k, v) :: ms)), frames⟩⟩ := by
  induction ms generalizing r k v done with
  | nil =>
    have hclose := reads_sign hr (hl.lineBreak depth) (c := '\x7d') (by decide) rfl
    simpa [writeMembers] using hclose
  | cons m ms ih =>
    obtain ⟨k', u⟩ := m
    obtain ⟨hu, hms⟩ := List.forall_mem_cons.1 hms
    have hcomma : r.step ',' = some ⟨.between, ⟨.member ((k, v) :: done), frames⟩⟩ :=
      step_sign hr (by decide) rfl
    obtain ⟨r', hr', hsettled⟩ := exists_reads_member (p := ⟨.member ((k, v) :: done), frames⟩)
      (k := k') (depth + 1) hl hu hf rfl
    have h := (Reads.cons hcomma (reads_spaces (hl.lineBreak (depth + 1)))).append
      (hr'.append (ih hms ((k, v) :: done) hsettled))
    simpa [writeMembers] using h

theorem readable_scalar (hne : s ≠ []) (hs : ∀ c ∈ s, isWordChar c) (hv : scalarOfWord? s = some v)
    (hw : ∀ depth, writeAt l depth v = s) : Readable l n v := by
  intro depth p frames hp _
  rw [hw]
  exact reads_word hne hs hv (hp.scalar v)

theorem readable_array (hl : l.Spaced) (h : ∀ v ∈ vs, Readable l n v) :
    Readable l (n + 1) (.array vs) := by
  intro depth p frames hp hf
  have hopen : step ⟨.between, p⟩ '[' = some ⟨.between, ⟨.firstItem, frames⟩⟩ :=
    take_of_step (hp.openBracket (by omega))
  cases vs with
  | nil => exact ⟨_, .cons hopen (.single rfl), rfl⟩
  | cons v vs =>
    obtain ⟨hv, hvs⟩ := List.forall_mem_cons.1 h
    obtain ⟨r, hr, hsettled⟩ :=
      hv (depth + 1) _ _ (Progress.awaits_firstItem frames) (Progress.length_cons_le hf _)
    have hrest := reads_writeItems depth hl hvs [] hf hsettled
    have hread := (Reads.cons hopen (reads_spaces (hl.lineBreak (depth + 1)))).append
      (hr.append hrest)
    refine ⟨⟨.between, ⟨.separator (.array (v :: vs)), frames⟩⟩, ?_, rfl⟩
    simpa [writeAt] using hread

theorem readable_object (hl : l.Spaced) (h : ∀ m ∈ ms, Readable l n m.2) :
    Readable l (n + 1) (.object ms) := by
  intro depth p frames hp hf
  have hopen : step ⟨.between, p⟩ '\x7b' = some ⟨.between, ⟨.firstMember, frames⟩⟩ :=
    take_of_step (hp.openBrace (by omega))
  cases ms with
  | nil => exact ⟨_, .cons hopen (.single rfl), rfl⟩
  | cons m ms =>
    obtain ⟨k, v⟩ := m
    obtain ⟨hv, hms⟩ := List.forall_mem_cons.1 h
    obtain ⟨r, hr, hsettled⟩ :=
      exists_reads_member (p := ⟨.firstMember, frames⟩) (k := k) (depth + 1) hl hv hf rfl
    have hrest := reads_writeMembers depth hl hms [] hf hsettled
    have hread := (Reads.cons hopen (reads_spaces (hl.lineBreak (depth + 1)))).append
      (hr.append hrest)
    refine ⟨⟨.between, ⟨.separator (.object ((k, v) :: ms)), frames⟩⟩, ?_, rfl⟩
    simpa [writeAt] using hread

end Reading

theorem Fits.readable (hl : l.Spaced) (h : Fits n v) : Reading.Readable l n v := by
  induction h with
  | null =>
    have hs : ∀ c ∈ "null".toList, Reading.isWordChar c := List.all_eq_true.1 (by decide)
    exact Reading.readable_scalar (List.cons_ne_nil _ _) hs rfl fun _ => rfl
  | bool b =>
    cases b with
    | true =>
      have hs : ∀ c ∈ "true".toList, Reading.isWordChar c := List.all_eq_true.1 (by decide)
      exact Reading.readable_scalar (List.cons_ne_nil _ _) hs rfl fun _ => rfl
    | false =>
      have hs : ∀ c ∈ "false".toList, Reading.isWordChar c := List.all_eq_true.1 (by decide)
      exact Reading.readable_scalar (List.cons_ne_nil _ _) hs rfl fun _ => rfl
  | number negative h =>
    exact Reading.readable_scalar (Number.toText_ne_nil negative)
      (fun _ => Reading.isWordChar_of_mem_toText) (Reading.scalarOfWord?_toText negative h)
      fun _ => rfl
  | string s =>
    intro depth p frames hp _
    exact ⟨_, Reading.reads_quote (hp.scalar _), rfl⟩
  | array _ ih => exact Reading.readable_array hl ih
  | object _ ih => exact Reading.readable_object hl ih

theorem read?_write (hl : l.Spaced) (h : Fits n v) (hn : n ≤ Progress.maxDepth)
    (hs : ∀ c ∈ s, Reading.isSpace c) : read? (write l v ++ s) = some v := by
  have hdepth : ([] : List Frame).length + n ≤ Progress.maxDepth := by
    simpa using hn
  obtain ⟨r, hr, hsettled⟩ := h.readable hl 0 .start [] (Progress.awaits_value []) hdepth
  obtain ⟨r', hr', hsettled'⟩ := Reading.exists_reads_spaces hsettled hs
  have hall : (write l v ++ s).foldlM Reading.step .start = some r' := hr.append hr'
  rw [read?, hall, Option.bind_some, Reading.result?_of_settled hsettled']
  rfl

theorem Layout.spaced_indented : Layout.indented.Spaced := by
  refine ⟨?_, [' '], rfl, by simp [Reading.isSpace]⟩
  intro depth c hc
  rcases List.mem_cons.1 hc with rfl | hc
  · rfl
  · rw [List.eq_of_mem_replicate hc]
    rfl

end SolverInput.Json
