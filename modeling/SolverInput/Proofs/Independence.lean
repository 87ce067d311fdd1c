import SolverInput.Proofs.Deeds

namespace SolverInput
set_option autoImplicit true

/-- Whether an action is about the document `u`, or about no document at all. -/
def Action.concerns (u : Text) (a : Action) : Bool :=
  a.document?.all (· == u)

/-- What the client is told of the document `u`, in the order of the messages. -/
def Answer.told (u : Text) (a : Answer) : List (Option Int32 × List Diagnostic) :=
  a.sent.filterMap (·.toldOf? u)

theorem Answer.eq_of_sent_reply {a b : Answer} (hs : a.sent = b.sent) (hr : a.reply = b.reply) :
    a = b := by
  cases a
  cases b
  cases hs
  cases hr
  rfl

theorem Deed.told_messages_of_ne (hu : u ≠ uri) (d : Dictionary) (deed : Deed) :
    (deed.messages d uri).filterMap (·.toldOf? u) = [] := by
  cases deed with
  | nothing => rfl
  | become doc => simp [messages, Message.toldOf?, Ne.symm hu]

namespace Session

/-- Two sessions have the same phase and the same of the document `u`. -/
structure Agree (u : Text) (s t : Session) : Prop where
  phase : s.phase = t.phase
  document : s.documents.get? u = t.documents.get? u
  store : s.store.get? u = t.store.get? u

theorem Agree.trans (h : Agree u r s) (h' : Agree u s t) : Agree u r t :=
  ⟨h.phase.trans h'.phase, h.document.trans h'.document, h.store.trans h'.store⟩

theorem Agree.perform (h : Agree u s t) (d : Dictionary) (uri : Text) (deed : Deed) :
    Agree u (deed.perform d uri s) (deed.perform d uri t) := by
  cases deed with
  | nothing => exact h
  | become doc =>
    refine ⟨?_, ?_, ?_⟩
    · rw [Deed.phase_perform, Deed.phase_perform, h.phase]
    · simp only [Deed.perform, document_become, h.document]
    · simp only [Deed.perform, store_become, h.store]

theorem agree_perform_of_ne (hu : u ≠ uri) (d : Dictionary) (deed : Deed) (s : Session) :
    Agree u (deed.perform d uri s) s := by
  cases deed with
  | nothing => exact ⟨rfl, rfl, rfl⟩
  | become doc =>
    refine ⟨Deed.phase_perform d uri _ s, ?_, ?_⟩
    · rw [Deed.perform, document_become, if_neg hu]
    · rw [Deed.perform, store_become, if_neg hu]

variable (setup : Setup)

/-- What concerns a document is answered from the phase and from that document alone. -/
theorem Agree.act (h : Agree u s t) (ha : Action.concerns u a) :
    (act setup a s).1 = (act setup a t).1 ∧ Agree u (act setup a s).2 (act setup a t).2 := by
  cases hd : a.document? with
  | none =>
    obtain ⟨hsent, hnext⟩ := act_of_no_document setup s hd
    obtain ⟨hsent', hnext'⟩ := act_of_no_document setup t hd
    refine ⟨Answer.eq_of_sent_reply ?_ ?_, ?_⟩
    · rw [hsent, hsent', h.phase]
    · apply reply_act_congr setup s setup h.phase
      intro uri he
      cases hd.symm.trans he
    · rw [hnext, hnext']
      exact ⟨by rw [h.phase], h.document, h.store⟩
  | some uri =>
    have hu : uri = u := by
      simpa [Action.concerns, hd] using ha
    subst hu
    obtain ⟨hsent, hnext⟩ := act_of_document? setup s hd
    obtain ⟨hsent', hnext'⟩ := act_of_document? setup t hd
    refine ⟨Answer.eq_of_sent_reply ?_ ?_, ?_⟩
    · rw [hsent, hsent', h.phase, h.document]
    · apply reply_act_congr setup s setup h.phase
      intro uri' he
      cases hd.symm.trans he
      exact h.document
    · rw [hnext, hnext', h.phase, h.document]
      exact h.perform setup.dictionary uri _

/-- What is done to another document leaves this one alone, and the client is told nothing of it. -/
theorem agree_act_of_other (ha : Action.concerns u a = false) (s : Session) :
    (Session.act setup a s).1.told u = [] ∧ Agree u (Session.act setup a s).2 s := by
  cases hd : a.document? with
  | none => simp [Action.concerns, hd] at ha
  | some uri =>
    have hu : u ≠ uri := by
      rintro rfl
      simp [Action.concerns, hd] at ha
    obtain ⟨hsent, hnext⟩ := act_of_document? setup s hd
    refine ⟨?_, ?_⟩
    · rw [Answer.told, hsent]
      split
      · rfl
      · exact Deed.told_messages_of_ne hu setup.dictionary _
    · rw [hnext]
      exact agree_perform_of_ne hu setup.dictionary _ s

/-- A run and the same run without the actions on other documents tell the client the same of the
document `u` and come to the same of it. -/
theorem agree_run (u : Text) (as : List Action) :
    let all := run setup as start
    let own := run setup (as.filter (·.concerns u)) start
    all.1.flatMap (·.told u) = own.1.flatMap (·.told u) ∧ Agree u all.2 own.2 := by
  intro all own
  induction as using List.reverseRecOn with
  | nil => exact ⟨rfl, rfl, rfl, rfl⟩
  | append_singleton as a ih =>
    obtain ⟨htold, hagree⟩ := ih
    simp only [all, own, List.filter_append, run_concat, List.flatMap_append]
    by_cases ha : a.concerns u
    · obtain ⟨hanswer, hnext⟩ := hagree.act setup ha
      rw [List.filter_cons_of_pos ha, List.filter_nil, run_concat, List.flatMap_append, htold,
        hanswer]
      exact ⟨rfl, hnext⟩
    · simp only [Bool.not_eq_true] at ha
      obtain ⟨hnone, hnext⟩ := agree_act_of_other setup ha (run setup as start).2
      rw [List.filter_cons_of_neg (by simp [ha]), List.filter_nil, List.append_nil, htold,
        List.flatMap_singleton, hnone, List.append_nil]
      exact ⟨rfl, hnext.trans hagree⟩

end Session

/-- Documents do not interfere. Take all actions on other documents out of a run: the client is told
the same of the document `u`, in the same order. After any actions, and so after each of them, the
document and its findings are the same, the next action that concerns it has the same answer, and
the next one on another document tells the client nothing of it. -/
theorem documents_independent (setup : Setup) (u : Text) (as : List Action) (a : Action) :
    let all := Session.run setup as Session.start
    let own := Session.run setup (as.filter (·.concerns u)) Session.start
    all.1.flatMap (·.told u) = own.1.flatMap (·.told u) ∧
      all.2.documents.get? u = own.2.documents.get? u ∧
      all.2.store.findings u = own.2.store.findings u ∧
      if a.concerns u then (Session.act setup a all.2).1 = (Session.act setup a own.2).1
      else (Session.act setup a all.2).1.told u = [] := by
  intro all own
  obtain ⟨htold, hagree⟩ := Session.agree_run setup u as
  refine ⟨htold, hagree.document, congrArg (·.getD []) hagree.store, ?_⟩
  split
  · rename_i ha
    exact (hagree.act setup ha).1
  · rename_i ha
    exact (Session.agree_act_of_other setup (by simpa using ha) all.2).1

end SolverInput
