import SolverInput.Proofs.Consistency

namespace SolverInput
set_option autoImplicit true

/-- The document that an action is about, if it is about one. -/
def Action.document? : Action → Option Text
  | .event e => e.document?
  | .republish uri => some uri

/-- What an action comes to for the document that it is about. -/
inductive Deed where
  | nothing
  /-- The document is this one from now on, or it is closed, and the client is told. -/
  | become (doc : Option OpenDocument)

/-- What comes of an event in a running session, as the document stands. -/
def Event.deed : Event → Option OpenDocument → Deed
  | .opened _ language version text, _ =>
    if language = languageId then .become (some ⟨text, version⟩) else .nothing
  | .changed _ version texts, some _ =>
    match texts.getLast? with
    | some text => .become (some ⟨text, version⟩)
    | none => .nothing
  | .saved _ text, some doc => .become (some { doc with content := text.getD doc.content })
  | .closed _, some _ => .become none
  | _, _ => .nothing

def Action.deed (p : Phase) : Action → Option OpenDocument → Deed
  | .event e, doc => if p = .running then e.deed doc else .nothing
  | .republish _, some doc => .become (some doc)
  | .republish _, none => .nothing

namespace Session

def become (d : Dictionary) (uri : Text) (doc : Option OpenDocument) (s : Session) : Session :=
  match doc with
  | some doc =>
    { s with
      documents := s.documents.insert uri doc
      store := s.store.insert uri (d.findings doc.content) }
  | none => { s with documents := s.documents.erase uri, store := s.store.erase uri }

variable (d : Dictionary) (uri : Text) (doc : Option OpenDocument) (s : Session)

@[simp] theorem phase_become : (s.become d uri doc).phase = s.phase := by
  cases doc <;> rfl

@[simp] theorem document_become (v : Text) :
    (s.become d uri doc).documents.get? v = if v = uri then doc else s.documents.get? v := by
  cases doc with
  | some doc => exact Table.get?_insert ..
  | none => exact Table.get?_erase ..

@[simp] theorem store_become (v : Text) :
    (s.become d uri doc).store.get? v =
      if v = uri then doc.map (d.findings ·.content) else s.store.get? v := by
  cases doc with
  | some doc => exact Table.get?_insert ..
  | none => exact Table.get?_erase ..

end Session

namespace Deed

def messages (d : Dictionary) (uri : Text) : Deed → List Message
  | nothing => []
  | become doc => [.publish uri (report d doc).1 (report d doc).2]

def perform (d : Dictionary) (uri : Text) : Deed → Session → Session
  | nothing, s => s
  | become doc, s => s.become d uri doc

@[simp] theorem phase_perform (d : Dictionary) (uri : Text) (deed : Deed) (s : Session) :
    (deed.perform d uri s).phase = s.phase := by
  cases deed with
  | nothing => rfl
  | become doc => exact s.phase_become d uri doc

end Deed

namespace Session

variable (setup : Setup) (s : Session)

theorem keep_eq (uri : Text) (doc : OpenDocument) :
    keep setup uri doc s =
      (.sending ((Deed.become (some doc)).messages setup.dictionary uri),
        s.become setup.dictionary uri (some doc)) := by
  have hk : (s.documents.insert uri doc).get? uri = some doc := by
    rw [Table.get?_insert, if_pos rfl]
  rw [keep, publish_of_some setup hk]
  rfl

/-- To check an open document again is to keep it as it is. -/
theorem publish_eq (h : s.documents.get? uri = some doc) :
    publish setup uri s =
      (.sending ((Deed.become (some doc)).messages setup.dictionary uri),
        s.become setup.dictionary uri (some doc)) := by
  have hsame : s.documents.insert uri doc = s.documents := by
    apply Table.ext_get?
    intro v
    rw [Table.get?_insert]
    split
    · rename_i hv
      rw [hv, h]
    · rfl
  rw [publish_of_some setup h, become, hsame]
  rfl

theorem handle_of_document? (h : Event.document? e = some uri) :
    (handle setup e s).1.sent = (e.deed (s.documents.get? uri)).messages setup.dictionary uri ∧
      (handle setup e s).2 =
        (e.deed (s.documents.get? uri)).perform setup.dictionary uri s := by
  cases e with
  | initializeRequest | initializedNotice | shutdownRequest | exitNotice | unreadableNotice =>
    cases h
  | opened uri' language version text =>
    cases h
    simp only [handle, Event.deed]
    split
    · rw [keep_eq]
      exact ⟨rfl, rfl⟩
    · exact ⟨rfl, rfl⟩
  | changed uri' version texts =>
    cases h
    cases hd : s.documents.get? uri with
    | none =>
      simp only [handle, hd, Event.deed]
      cases texts.getLast? <;> exact ⟨rfl, rfl⟩
    | some doc =>
      simp only [handle, hd, Event.deed]
      cases texts.getLast? with
      | none => exact ⟨rfl, rfl⟩
      | some text =>
        simp only [keep_eq]
        exact ⟨rfl, rfl⟩
  | saved uri' text =>
    cases h
    cases hd : s.documents.get? uri with
    | none =>
      simp only [handle, hd, Event.deed]
      exact ⟨rfl, rfl⟩
    | some doc =>
      simp only [handle, hd, Event.deed, keep_eq]
      exact ⟨rfl, rfl⟩
  | closed uri' =>
    cases h
    cases hd : s.documents.get? uri with
    | none =>
      simp only [handle, hd, Event.deed]
      exact ⟨rfl, rfl⟩
    | some doc =>
      simp only [handle, hd, Event.deed]
      exact ⟨rfl, rfl⟩
  | symbolsRequest uri' =>
    cases h
    exact ⟨rfl, rfl⟩

theorem receive_of_running (h : s.phase = .running) (e : Event) :
    receive setup e s = handle setup e s := by
  cases e <;> simp [receive, handle, h]

/-- Outside a running session an event moves the phase alone, and nothing is sent. -/
theorem receive_of_not_running (h : s.phase ≠ .running) (e : Event) :
    (receive setup e s).1.sent = [] ∧
      (receive setup e s).2 = { s with phase := s.phase.next e } := by
  obtain ⟨phase, documents, store⟩ := s
  cases phase with
  | running => exact (h rfl).elim
  | _ => cases e <;> exact ⟨rfl, rfl⟩

theorem next_of_document? (h : Event.document? e = some uri) (p : Phase) : p.next e = p := by
  cases e with
  | opened | changed | saved | closed | symbolsRequest => cases p <;> rfl
  | _ => cases h

theorem act_republish (uri : Text) :
    act setup (.republish uri) s =
      (if s.phase = .exited then .silent else (publish setup uri s).1,
        (publish setup uri s).2) := by
  rw [← phase_publish setup uri s]
  rfl

/-- An action about a document does to the session what its deed says, and tells the client so
unless the session is over. -/
theorem act_of_document? (h : Action.document? a = some uri) :
    (act setup a s).1.sent =
        (if s.phase = .exited then []
          else (a.deed s.phase (s.documents.get? uri)).messages setup.dictionary uri) ∧
      (act setup a s).2 =
        (a.deed s.phase (s.documents.get? uri)).perform setup.dictionary uri s := by
  cases a with
  | event e =>
    simp only [act, Action.deed]
    by_cases hp : s.phase = .running
    · rw [receive_of_running setup s hp, if_neg (by simp [hp]), if_pos hp]
      exact handle_of_document? setup s h
    · obtain ⟨hsent, hnext⟩ := receive_of_not_running setup s hp e
      rw [next_of_document? h] at hnext
      rw [hsent, hnext, if_neg hp]
      exact ⟨(ite_self _).symm, rfl⟩
  | republish uri' =>
    cases h
    rw [act_republish]
    cases hd : s.documents.get? uri with
    | none =>
      rw [publish_of_none setup hd]
      exact ⟨apply_ite Answer.sent .., rfl⟩
    | some doc =>
      rw [publish_eq setup s hd]
      exact ⟨apply_ite Answer.sent .., rfl⟩

/-- An action about no document moves the phase alone, and greets the client if it should. -/
theorem act_of_no_document (h : Action.document? a = none) :
    (act setup a s).1.sent =
        (if a = .event .initializedNotice ∧ s.phase = .running then greeting setup else []) ∧
      (act setup a s).2 = { s with phase := (a.event?.map s.phase.next).getD s.phase } := by
  cases a with
  | republish uri => cases h
  | event e =>
    obtain ⟨phase, documents, store⟩ := s
    cases e with
    | opened | changed | saved | closed | symbolsRequest => cases h
    | _ => cases phase <;> exact ⟨rfl, rfl⟩

/-- The reply in a running session. Only questions about symbols look at a document. -/
def reply? (documents : Table OpenDocument) : Event → Option Reply
  | .initializeRequest => some (.refused .invalidRequest)
  | .shutdownRequest => some .null
  | .symbolsRequest uri =>
    some (.symbols ((documents.get? uri).map (SolverInput.symbols ·.content)))
  | _ => none

theorem reply_handle (e : Event) : (handle setup e s).1.reply = reply? s.documents e := by
  cases e with
  | opened uri language version text =>
    simp only [handle]
    split
    · rw [keep_eq]
      rfl
    · rfl
  | changed | saved | closed =>
    simp only [handle]
    split
    · simp only [keep_eq]
      rfl
    · rfl
  | _ => rfl

/-- A reply depends on the phase and on the document asked about, but not on the dictionary. -/
theorem reply_act_congr (setup' : Setup) (hp : s.phase = t.phase)
    (hd : ∀ uri, Action.document? a = some uri → s.documents.get? uri = t.documents.get? uri) :
    (act setup a s).1.reply = (act setup' a t).1.reply := by
  cases a with
  | republish uri =>
    have hnone (setup : Setup) (s : Session) : (act setup (.republish uri) s).1.reply = none := by
      rw [act_republish, publish]
      split <;> split <;> rfl
    rw [hnone, hnone]
  | event e =>
    simp only [act]
    by_cases hr : s.phase = .running
    · rw [receive_of_running setup s hr, receive_of_running setup' t (hp ▸ hr), reply_handle,
        reply_handle]
      cases e with
      | symbolsRequest uri => rw [reply?, reply?, hd uri rfl]
      | _ => rfl
    · obtain ⟨phase, documents, store⟩ := s
      obtain ⟨_, documents', store'⟩ := t
      cases hp
      cases phase with
      | running => exact (hr rfl).elim
      | _ => cases e <;> rfl

end Session

end SolverInput
