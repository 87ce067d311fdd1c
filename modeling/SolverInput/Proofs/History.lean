import Mathlib.Data.List.Induction
import SolverInput.Session

namespace SolverInput
set_option autoImplicit true

namespace Event

/-- No session begins with the event and none is prevented. -/
def beforeStart (e : Event) : Bool :=
  e != .initializeRequest && e != .exitNotice

def beforeStop (e : Event) : Bool :=
  e != .shutdownRequest && e != .exitNotice

/-- The document that an event opens under the name `u`. -/
def opening? (u : Text) : Event → Option OpenDocument
  | .opened uri language version text =>
    if uri = u ∧ language = languageId then some ⟨text, version⟩ else none
  | _ => none

/-- The text that an event gives to the document `u`: that of an opening, the last one of a change,
one that comes with a save. -/
def textFor? (u : Text) : Event → Option Text
  | .opened uri language _ text => if uri = u ∧ language = languageId then some text else none
  | .changed uri _ texts => if uri = u then texts.getLast? else none
  | .saved uri text => if uri = u then text else none
  | _ => none

/-- The version that an event gives to the document `u`. A change without texts gives none. -/
def versionFor? (u : Text) : Event → Option Int32
  | .opened uri language version _ => if uri = u ∧ language = languageId then some version else none
  | .changed uri version texts => if uri = u ∧ texts ≠ [] then some version else none
  | _ => none

def effect (u : Text) (e : Event) : Option OpenDocument → Option OpenDocument
  | none => e.opening? u
  | some doc =>
    if e = .closed u then none
    else some ⟨(e.textFor? u).getD doc.content, (e.versionFor? u).getD doc.version⟩

def document? : Event → Option Text
  | .opened uri _ _ _ => some uri
  | .changed uri _ _ => some uri
  | .saved uri _ => some uri
  | .closed uri => some uri
  | .symbolsRequest uri => some uri
  | _ => none

theorem effect_eq_self (ho : opening? u e = none) (ht : textFor? u e = none)
    (hv : versionFor? u e = none) (hc : e ≠ .closed u) (doc : Option OpenDocument) :
    e.effect u doc = doc := by
  cases doc with
  | none => exact ho
  | some doc =>
    rw [effect, if_neg hc, ht, hv]
    rfl

theorem effect_of_other (h : document? e ≠ some u) (doc : Option OpenDocument) :
    e.effect u doc = doc := by
  have hc : e ≠ .closed u := by
    rintro rfl
    exact h rfl
  apply effect_eq_self ?_ ?_ ?_ hc <;> cases e <;>
    simp_all [document?, opening?, textFor?, versionFor?]

theorem isSome_effect_opened (u : Text) (version : Int32) (text : Text)
    (doc : Option OpenDocument) : ((opened u languageId version text).effect u doc).isSome := by
  cases doc with
  | none => simp [effect, opening?]
  | some doc => simp [effect]

theorem isSome_effect {e : Event} (hc : e ≠ .closed u) (doc : OpenDocument) :
    (e.effect u (some doc)).isSome := by
  simp [effect, hc]

end Event

/-- The events that the server acts on: those after the first request to initialize and before the
request to shut down or the notice to exit. -/
def delivered (es : List Event) : List Event :=
  match es.dropWhile Event.beforeStart with
  | .initializeRequest :: later => later.takeWhile Event.beforeStop
  | _ => []

/-- The document `u` after these events, one after another. -/
def documentAfter (u : Text) (es : List Event) : Option OpenDocument :=
  es.foldl (fun doc e => e.effect u doc) none

/-- The document `u` was opened and not closed since, and `doc` has the last text and the last
version that it was given from then on. -/
def LeavesOpen (u : Text) (es : List Event) (doc : OpenDocument) : Prop :=
  ∃ before version text after,
    es = before ++ .opened u languageId version text :: after ∧ .closed u ∉ after ∧
      ((.opened u languageId version text :: after).filterMap (Event.textFor? u)).getLast? =
        some doc.content ∧
      ((.opened u languageId version text :: after).filterMap (Event.versionFor? u)).getLast? =
        some doc.version

theorem documentAfter_concat (u : Text) (es : List Event) (e : Event) :
    documentAfter u (es ++ [e]) = e.effect u (documentAfter u es) := by
  rw [documentAfter, List.foldl_append]
  rfl

theorem getLast?_filterMap_concat (f : α → Option β) (l : List α) (a : α) :
    ((l ++ [a]).filterMap f).getLast? = (f a).or (l.filterMap f).getLast? := by
  rw [List.filterMap_append, List.getLast?_append]
  cases h : f a with
  | none => simp [h]
  | some b => simp [h]

theorem LeavesOpen.concat (h : LeavesOpen u es doc) (hc : e ≠ .closed u) :
    LeavesOpen u (es ++ [e])
      ⟨(e.textFor? u).getD doc.content, (e.versionFor? u).getD doc.version⟩ := by
  obtain ⟨before, version, text, after, rfl, hn, ht, hv⟩ := h
  refine ⟨before, version, text, after ++ [e], ?_, ?_, ?_, ?_⟩
  · simp
  · simp [hn, Ne.symm hc]
  · rw [← List.cons_append, getLast?_filterMap_concat, ht]
    cases e.textFor? u <;> rfl
  · rw [← List.cons_append, getLast?_filterMap_concat, hv]
    cases e.versionFor? u <;> rfl

theorem leavesOpen_of_opening (es : List Event) (h : Event.opening? u e = some doc) :
    LeavesOpen u (es ++ [e]) doc := by
  cases e with
  | opened uri language version text =>
    simp only [Event.opening?] at h
    split at h
    · rename_i hu
      obtain ⟨rfl, rfl⟩ := hu
      cases h
      exact ⟨es, version, text, [], rfl, List.not_mem_nil, by simp [Event.textFor?],
        by simp [Event.versionFor?]⟩
    · cases h
  | _ => cases h

theorem leavesOpen_of_documentAfter (h : documentAfter u es = some doc) : LeavesOpen u es doc := by
  induction es using List.reverseRecOn generalizing doc with
  | nil => cases h
  | append_singleton es e ih =>
    rw [documentAfter_concat] at h
    cases hd : documentAfter u es with
    | none =>
      rw [hd] at h
      exact leavesOpen_of_opening es h
    | some old =>
      rw [hd, Event.effect] at h
      split at h
      · cases h
      · rename_i hc
        cases h
        exact (ih hd).concat hc

theorem isSome_documentAfter_of_opened (before : List Event) (version : Int32) (text : Text)
    (h : .closed u ∉ after) :
    (documentAfter u (before ++ .opened u languageId version text :: after)).isSome := by
  induction after using List.reverseRecOn with
  | nil =>
    rw [documentAfter_concat]
    exact Event.isSome_effect_opened u version text _
  | append_singleton after e ih =>
    simp only [List.mem_append, List.mem_singleton, not_or] at h
    obtain ⟨doc, hd⟩ := Option.isSome_iff_exists.1 (ih h.1)
    rw [← List.cons_append, ← List.append_assoc, documentAfter_concat, hd]
    exact Event.isSome_effect (Ne.symm h.2) doc

theorem isSome_documentAfter_iff :
    (documentAfter u es).isSome ↔ ∃ before version text after,
      es = before ++ .opened u languageId version text :: after ∧ .closed u ∉ after := by
  constructor
  · intro h
    obtain ⟨doc, hd⟩ := Option.isSome_iff_exists.1 h
    obtain ⟨before, version, text, after, he, hn, _⟩ := leavesOpen_of_documentAfter hd
    exact ⟨before, version, text, after, he, hn⟩
  · rintro ⟨before, version, text, after, rfl, hn⟩
    exact isSome_documentAfter_of_opened before version text hn

namespace Phase

def next (e : Event) : Phase → Phase
  | .exited => .exited
  | .uninitialized =>
    if e = .exitNotice then .exited else if e = .initializeRequest then .running else .uninitialized
  | .running =>
    if e = .exitNotice then .exited else if e = .shutdownRequest then .shutDown else .running
  | .shutDown => if e = .exitNotice then .exited else .shutDown

/-- What the events so far are like in a phase. -/
def Fits (es : List Event) : Phase → Prop
  | .uninitialized => ∀ e ∈ es, e.beforeStart
  | .running => ∃ before after, es = before ++ .initializeRequest :: after ∧
      (∀ e ∈ before, e.beforeStart) ∧ ∀ e ∈ after, e.beforeStop
  | .shutDown => ∀ later, delivered (es ++ later) = delivered es
  | .exited => ∀ later, delivered (es ++ later) = delivered es

end Phase

theorem delivered_append_of_beforeStart (later : List Event) (h : ∀ e ∈ es, e.beforeStart) :
    delivered (es ++ later) = delivered later := by
  rw [delivered, List.dropWhile_append_of_pos h, delivered]

theorem delivered_of_beforeStart (h : ∀ e ∈ es, e.beforeStart) : delivered es = [] := by
  have hd := delivered_append_of_beforeStart [] h
  rwa [List.append_nil] at hd

theorem delivered_append_of_running (later : List Event) (hb : ∀ e ∈ before, e.beforeStart)
    (ha : ∀ e ∈ after, e.beforeStop) :
    delivered (before ++ .initializeRequest :: after ++ later) =
      after ++ later.takeWhile Event.beforeStop := by
  rw [List.append_assoc, delivered_append_of_beforeStart _ hb, delivered, List.cons_append,
    List.dropWhile_cons_of_neg (by decide)]
  exact List.takeWhile_append_of_pos ha

theorem delivered_of_running (hb : ∀ e ∈ before, e.beforeStart) (ha : ∀ e ∈ after, e.beforeStop) :
    delivered (before ++ .initializeRequest :: after) = after := by
  have hd := delivered_append_of_running [] hb ha
  rwa [List.append_nil, List.takeWhile_nil, List.append_nil] at hd

namespace Phase

theorem Fits.delivered_concat {p : Phase} (h : p.Fits es) (e : Event) :
    delivered (es ++ [e]) =
      delivered es ++ if p = .running ∧ e.beforeStop then [e] else [] := by
  cases p with
  | uninitialized =>
    rw [delivered_append_of_beforeStart [e] h, delivered_of_beforeStart h]
    cases e <;> rfl
  | running =>
    obtain ⟨before, after, rfl, hb, ha⟩ := h
    rw [delivered_append_of_running [e] hb ha, delivered_of_running hb ha]
    by_cases he : e.beforeStop <;> simp [he]
  | shutDown =>
    rw [h [e]]
    simp
  | exited =>
    rw [h [e]]
    simp

theorem fits_stopped_concat (h : ∀ later, delivered (es ++ later) = delivered es) (e : Event)
    (later : List Event) : delivered (es ++ [e] ++ later) = delivered (es ++ [e]) := by
  rw [List.append_assoc, h, h]

theorem fits_stopped_of_running (hb : ∀ e ∈ before, e.beforeStart)
    (ha : ∀ e ∈ after, e.beforeStop) (he : Event.beforeStop e = false) (later : List Event) :
    delivered (before ++ .initializeRequest :: after ++ [e] ++ later) =
      delivered (before ++ .initializeRequest :: after ++ [e]) := by
  rw [List.append_assoc _ [e], delivered_append_of_running _ hb ha,
    delivered_append_of_running _ hb ha]
  simp [he]

theorem Fits.next {p : Phase} (h : p.Fits es) (e : Event) : (p.next e).Fits (es ++ [e]) := by
  cases p with
  | uninitialized =>
    simp only [Phase.next]
    split
    · rename_i he
      subst he
      intro later
      rw [List.append_assoc, delivered_append_of_beforeStart _ h,
        delivered_append_of_beforeStart _ h]
      rfl
    · rename_i hexit
      split
      · rename_i he
        subst he
        exact ⟨es, [], rfl, h, by simp⟩
      · rename_i hinit
        refine List.forall_mem_append.2 ⟨h, List.forall_mem_singleton.2 ?_⟩
        simp [Event.beforeStart, hexit, hinit]
  | running =>
    obtain ⟨before, after, rfl, hb, ha⟩ := h
    simp only [Phase.next]
    split
    · rename_i he
      subst he
      exact fits_stopped_of_running hb ha rfl
    · rename_i hexit
      split
      · rename_i he
        subst he
        exact fits_stopped_of_running hb ha rfl
      · rename_i hdown
        refine ⟨before, after ++ [e], by simp, hb, ?_⟩
        refine List.forall_mem_append.2 ⟨ha, List.forall_mem_singleton.2 ?_⟩
        simp [Event.beforeStop, hexit, hdown]
  | shutDown =>
    simp only [Phase.next]
    split <;> exact fits_stopped_concat h e
  | exited => exact fits_stopped_concat h e

end Phase

end SolverInput
