import SolverInput.Proofs.History

namespace SolverInput
set_option autoImplicit true

def Action.event? : Action → Option Event
  | .event e => some e
  | .republish _ => none

/-- What a message tells the client of the document `u`. -/
def Message.toldOf? (u : Text) : Message → Option (Option Int32 × List Diagnostic)
  | .publish uri version diagnostics => if uri = u then some (version, diagnostics) else none
  | _ => none

/-- What the client is to know of a document: its version and findings, or that it has none. -/
def report (d : Dictionary) : Option OpenDocument → Option Int32 × List Diagnostic
  | none => (none, [])
  | some doc => (some doc.version, (d.findings doc.content).map Finding.toDiagnostic)

namespace Session

/-- The findings in the store are those of the document as it is open. -/
def Synced (setup : Setup) (u : Text) (s : Session) : Prop :=
  s.store.get? u = (s.documents.get? u).map fun doc => setup.dictionary.findings doc.content

/-- An answer leads from one session to another in which the document `u` is `doc`. The client is
told of it, or the document has not changed. -/
structure Moves (setup : Setup) (u : Text) (doc : Option OpenDocument) (s : Session) (a : Answer)
    (s' : Session) : Prop where
  document : s'.documents.get? u = doc
  synced : Synced setup u s → Synced setup u s'
  told : a.sent.filterMap (·.toldOf? u) = [report setup.dictionary doc] ∨
    a.sent.filterMap (·.toldOf? u) = [] ∧ s.documents.get? u = doc

variable (setup : Setup) (u : Text)

theorem moves_of_eq (hd : s'.documents = s.documents) (hs : s'.store = s.store)
    (ha : a.sent.filterMap (·.toldOf? u) = []) :
    Moves setup u (s.documents.get? u) s a s' := by
  refine ⟨by rw [hd], ?_, .inr ⟨ha, rfl⟩⟩
  intro h
  rw [Synced, hd, hs]
  exact h

theorem publish_of_some (h : s.documents.get? uri = some doc) :
    publish setup uri s =
      (.sending [.publish uri (some doc.version)
        ((setup.dictionary.findings doc.content).map Finding.toDiagnostic)],
        { s with store := s.store.insert uri (setup.dictionary.findings doc.content) }) := by
  rw [publish]
  simp [h, FindingStore.validate]

theorem publish_of_none (h : s.documents.get? uri = none) :
    publish setup uri s = (.silent, s) := by
  rw [publish]
  simp [h]

/-- The client is told of the one document that a step touches. -/
theorem moves_told (uri : Text) (doc : Option OpenDocument)
    (hd : s'.documents.get? uri = doc)
    (hs : s'.store.get? uri = doc.map fun doc => setup.dictionary.findings doc.content)
    (hother : ∀ v, v ≠ uri → s'.documents.get? v = s.documents.get? v ∧
      s'.store.get? v = s.store.get? v) :
    Moves setup u (if u = uri then doc else s.documents.get? u) s
      (.sending [.publish uri (report setup.dictionary doc).1 (report setup.dictionary doc).2])
      s' := by
  by_cases hu : u = uri
  · subst hu
    rw [if_pos rfl]
    refine ⟨hd, fun _ => ?_, .inl ?_⟩
    · rw [Synced, hs, hd]
    · simp [Answer.sending, Message.toldOf?]
  · obtain ⟨hdu, hsu⟩ := hother u hu
    rw [if_neg hu]
    refine ⟨hdu, fun h => ?_, .inr ⟨?_, rfl⟩⟩
    · rw [Synced, hsu, hdu]
      exact h
    · simp [Answer.sending, Message.toldOf?, Ne.symm hu]

theorem moves_keep (uri : Text) (doc : OpenDocument) (s : Session) :
    Moves setup u (if u = uri then some doc else s.documents.get? u) s
      (keep setup uri doc s).1 (keep setup uri doc s).2 := by
  have hk : (s.documents.insert uri doc).get? uri = some doc := by
    rw [Table.get?_insert, if_pos rfl]
  rw [keep, publish_of_some setup hk]
  apply moves_told setup u uri (some doc) hk
  · simp
  · intro v hv
    simp [hv]

theorem moves_close (uri : Text) (s : Session) :
    Moves setup u (if u = uri then none else s.documents.get? u) s
      (.sending [.publish uri none []])
      { s with documents := s.documents.erase uri, store := s.store.erase uri } := by
  apply moves_told setup u uri none
  · simp
  · simp
  · intro v hv
    simp [hv]

theorem moves_publish (uri : Text) (s : Session) :
    Moves setup u (s.documents.get? u) s (publish setup uri s).1 (publish setup uri s).2 := by
  cases hd : s.documents.get? uri with
  | none =>
    rw [publish_of_none setup hd]
    exact moves_of_eq setup u rfl rfl rfl
  | some doc =>
    have hsame : s.documents.get? u = if u = uri then some doc else s.documents.get? u := by
      split
      · rename_i hu
        rw [hu, hd]
      · rfl
    rw [publish_of_some setup hd, hsame]
    refine moves_told setup u uri (some doc) ?_ ?_ ?_
    · exact hd
    · simp
    · intro v hv
      simp [hv]

theorem toldOf?_greeting : (greeting setup).filterMap (·.toldOf? u) = [] := by
  unfold greeting
  split <;> rfl

theorem effect_of_document? {s : Session} (hu : Event.document? e = some uri)
    (he : e.effect uri (s.documents.get? uri) = doc) :
    e.effect u (s.documents.get? u) = if u = uri then doc else s.documents.get? u := by
  split
  · rename_i heq
    rw [heq, he]
  · rename_i hne
    exact Event.effect_of_other (by simpa [hu] using Ne.symm hne) _

theorem moves_kept (hu : Event.document? e = some uri)
    (he : e.effect uri (s.documents.get? uri) = some doc) :
    Moves setup u (e.effect u (s.documents.get? u)) s
      (keep setup uri doc s).1 (keep setup uri doc s).2 := by
  rw [effect_of_document? u hu he]
  exact moves_keep setup u uri doc s

theorem moves_silent {s : Session} (hu : Event.document? e = some uri)
    (he : e.effect uri (s.documents.get? uri) = s.documents.get? uri) :
    Moves setup u (e.effect u (s.documents.get? u)) s .silent s := by
  have hsame : e.effect u (s.documents.get? u) = s.documents.get? u := by
    rw [effect_of_document? u hu he]
    split
    · rename_i heq
      rw [heq]
    · rfl
  rw [hsame]
  exact moves_of_eq setup u rfl rfl rfl

theorem moves_handle (e : Event) (s : Session) :
    Moves setup u (e.effect u (s.documents.get? u)) s (handle setup e s).1 (handle setup e s).2 := by
  cases e with
  | initializeRequest | shutdownRequest | exitNotice | symbolsRequest | unreadableNotice =>
    rw [Event.effect_eq_self rfl rfl rfl (by simp)]
    exact moves_of_eq setup u rfl rfl rfl
  | initializedNotice =>
    rw [Event.effect_eq_self rfl rfl rfl (by simp)]
    exact moves_of_eq setup u rfl rfl (toldOf?_greeting setup u)
  | opened uri language version text =>
    simp only [handle]
    split
    · rename_i hl
      apply moves_kept setup u rfl
      cases s.documents.get? uri <;>
        simp [hl, Event.effect, Event.opening?, Event.textFor?, Event.versionFor?]
    · rename_i hl
      apply moves_silent setup u rfl
      exact Event.effect_eq_self (by simp [Event.opening?, hl]) (by simp [Event.textFor?, hl])
        (by simp [Event.versionFor?, hl]) (by simp) _
  | changed uri version texts =>
    simp only [handle]
    split
    · rename_i text old ht hd
      have hne : texts ≠ [] := by
        rintro rfl
        cases ht
      apply moves_kept setup u rfl
      simp [hd, ht, hne, Event.effect, Event.textFor?, Event.versionFor?]
    · rename_i hnone
      apply moves_silent setup u rfl
      cases hd : s.documents.get? uri with
      | none => rfl
      | some doc =>
        have ht : texts.getLast? = none := by
          cases ht : texts.getLast? with
          | none => rfl
          | some text => exact (hnone text doc ht hd).elim
        simp [Event.effect, Event.textFor?, Event.versionFor?, List.getLast?_eq_none_iff.1 ht]
  | saved uri text =>
    simp only [handle]
    cases hd : s.documents.get? uri with
    | none =>
      apply moves_silent setup u rfl
      rw [hd]
      rfl
    | some doc =>
      apply moves_kept setup u rfl
      simp [hd, Event.effect, Event.textFor?, Event.versionFor?]
  | closed uri =>
    simp only [handle]
    cases hd : s.documents.get? uri with
    | none =>
      apply moves_silent setup u rfl
      rw [hd]
      rfl
    | some doc =>
      have hnone : (Event.closed uri).effect uri (s.documents.get? uri) = none := by
        simp [hd, Event.effect]
      rw [effect_of_document? u rfl hnone]
      exact moves_close setup u uri s

theorem phase_publish (uri : Text) (s : Session) : (publish setup uri s).2.phase = s.phase := by
  unfold publish
  split <;> rfl

theorem moves_republish (uri : Text) (s : Session) :
    Moves setup u (s.documents.get? u) s
      (act setup (.republish uri) s).1 (act setup (.republish uri) s).2 := by
  have hm := moves_publish setup u uri s
  have ha : act setup (.republish uri) s =
      (if (publish setup uri s).2.phase = .exited then .silent else (publish setup uri s).1,
        (publish setup uri s).2) := rfl
  rw [ha]
  -- After the end the program may still ask for a document, but the client hears nothing.
  by_cases hp : (publish setup uri s).2.phase = .exited
  · rw [if_pos hp]
    exact ⟨hm.document, hm.synced, .inr ⟨rfl, rfl⟩⟩
  · rw [if_neg hp]
    exact hm

theorem phase_handle (e : Event) (h : s.phase = .running) :
    (handle setup e s).2.phase = s.phase.next e := by
  rw [h]
  cases e with
  | opened | changed | saved | closed =>
    simp only [handle]
    split <;> simp [keep, phase_publish, h, Phase.next]
  | shutdownRequest | exitNotice => rfl
  | _ => exact h

theorem phase_receive (e : Event) (s : Session) :
    (receive setup e s).2.phase = s.phase.next e := by
  cases hp : s.phase with
  | running =>
    cases e with
    | exitNotice => simp [receive, hp, Phase.next]
    | _ =>
      rw [← hp, ← phase_handle setup _ hp]
      simp [receive, hp]
  | _ => cases e <;> simp [receive, hp, Phase.next]

theorem moves_receive (e : Event) (s : Session) :
    Moves setup u
      (if s.phase = .running ∧ e.beforeStop then e.effect u (s.documents.get? u)
        else s.documents.get? u)
      s (receive setup e s).1 (receive setup e s).2 := by
  split
  · rename_i h
    obtain ⟨hp, he⟩ := h
    have hr : receive setup e s = handle setup e s := by
      cases e with
      | exitNotice => cases he
      | _ => simp [receive, hp]
    rw [hr]
    exact moves_handle setup u e s
  · rename_i h
    apply moves_of_eq <;> cases hp : s.phase <;> cases e <;>
      simp_all [receive, handle, Event.isRequest, Event.beforeStop, Answer.silent, Answer.replying]

/-- What holds of a session that has seen these events and sent these messages. -/
structure Follows (setup : Setup) (u : Text) (es : List Event) (s : Session) (sent : List Message) :
    Prop where
  phase : s.phase.Fits es
  document : s.documents.get? u = documentAfter u (delivered es)
  synced : Synced setup u s
  told : (sent.filterMap (·.toldOf? u)).getLast? = some (report setup.dictionary (s.documents.get? u)) ∨
    (sent.filterMap (·.toldOf? u)).getLast? = none ∧ s.documents.get? u = none

variable {setup u}

theorem Follows.moves (h : Follows setup u es s sent)
    (hm : Moves setup u (documentAfter u (delivered es')) s a s') (hp : s'.phase.Fits es') :
    Follows setup u es' s' (sent ++ a.sent) := by
  refine ⟨hp, hm.document, hm.synced h.synced, ?_⟩
  rw [hm.document, List.filterMap_append, List.getLast?_append]
  rcases hm.told with ht | ⟨ht, hd⟩
  · rw [ht]
    exact .inl rfl
  · rw [ht, ← hd]
    exact h.told

theorem Follows.step (h : Follows setup u es s sent) (a : Action) :
    Follows setup u (es ++ a.event?.toList) (act setup a s).2 (sent ++ (act setup a s).1.sent) := by
  cases a with
  | event e =>
    have hm := moves_receive setup u e s
    apply h.moves ?_ ?_
    · rw [Action.event?, Option.toList_some, h.phase.delivered_concat]
      split at hm
      · rename_i hd
        rw [if_pos hd, documentAfter_concat, ← h.document]
        exact hm
      · rename_i hd
        rw [if_neg hd, List.append_nil, ← h.document]
        exact hm
    · have hp := phase_receive setup e s
      simp only [act, Action.event?, Option.toList_some, hp]
      exact h.phase.next e
  | republish uri =>
    rw [Action.event?, Option.toList_none, List.append_nil]
    apply h.moves ?_ ?_
    · rw [← h.document]
      exact moves_republish setup u uri s
    · have hp : (act setup (.republish uri) s).2.phase = s.phase := phase_publish setup uri s
      rw [hp]
      exact h.phase

theorem run_concat (as : List Action) (a : Action) (s : Session) :
    run setup (as ++ [a]) s =
      ((run setup as s).1 ++ [(act setup a (run setup as s).2).1],
        (act setup a (run setup as s).2).2) := by
  simp only [run, List.mapM_append, List.mapM_cons, List.mapM_nil]
  rfl

theorem follows_run (setup : Setup) (u : Text) (as : List Action) :
    Follows setup u (as.filterMap Action.event?) (run setup as start).2
      ((run setup as start).1.flatMap (·.sent)) := by
  -- By the last action: `Follows` speaks of all events so far, which grow at the end.
  induction as using List.reverseRecOn with
  | nil =>
    have hp : Phase.Fits [] .uninitialized := by
      intro e he
      cases he
    exact ⟨hp, rfl, rfl, .inr ⟨rfl, rfl⟩⟩
  | append_singleton as a ih =>
    have hs := ih.step a
    rw [run_concat, List.filterMap_append, List.flatMap_append]
    simp only [List.flatMap_cons, List.flatMap_nil, List.append_nil]
    cases a with
    | event e => exact hs
    | republish uri => exact hs

end Session

/-- After any actions, and so after each of them, the open documents are those that the delivered
events opened and did not close. An open document has the last text and version that it was given,
the store has its findings, and the client was last told of them. Of a document that is not open
nothing is kept, and the client knows of none. -/
theorem session_state_exact (setup : Setup) (as : List Action) (u : Text) :
    let s := (Session.run setup as Session.start).2
    let told := ((Session.run setup as Session.start).1.flatMap (·.sent)).filterMap (·.toldOf? u)
    let es := delivered (as.filterMap Action.event?)
    ((s.documents.get? u).isSome ↔ ∃ before version text after,
        es = before ++ .opened u languageId version text :: after ∧ .closed u ∉ after) ∧
      (∀ doc, s.documents.get? u = some doc →
        LeavesOpen u es doc ∧
          s.store.findings u = setup.dictionary.findings doc.content ∧
          told.getLast? = some (some doc.version,
            (setup.dictionary.findings doc.content).map Finding.toDiagnostic)) ∧
      (s.documents.get? u = none →
        s.store.findings u = [] ∧ ∀ p, told.getLast? = some p → p = (none, [])) := by
  intro s told es
  have h := Session.follows_run setup u as
  have hdoc : s.documents.get? u = documentAfter u es := h.document
  have hstore : s.store.findings u =
      ((s.documents.get? u).map fun doc => setup.dictionary.findings doc.content).getD [] :=
    congrArg (·.getD []) h.synced
  have htold : told.getLast? = some (report setup.dictionary (s.documents.get? u)) ∨
      told.getLast? = none ∧ s.documents.get? u = none := h.told
  refine ⟨?_, ?_, ?_⟩
  · rw [hdoc]
    exact isSome_documentAfter_iff
  · intro doc hd
    rw [hd] at hstore htold
    refine ⟨leavesOpen_of_documentAfter (hdoc.symm.trans hd), hstore, ?_⟩
    rcases htold with ht | ⟨_, hn⟩
    · exact ht
    · cases hn
  · intro hd
    rw [hd] at hstore htold
    refine ⟨hstore, ?_⟩
    intro p hp
    rcases htold with ht | ⟨ht, _⟩
    · exact (Option.some.inj (hp.symm.trans ht))
    · rw [ht] at hp
      cases hp

/-- An early opening is dropped, a change without texts and an opening in another language pass over
the document, a late closing is not heard. -/
theorem session_state_exact_changed :
    let u := "file:///case.sif".toList
    let setup : Setup := ⟨Dictionary.empty.insert "solver".toList "equation".toList, none⟩
    let as : List Action := [
      .event (.opened u languageId 1 "Solver".toList), .event .initializeRequest,
      .event (.opened u languageId 2 "Solver\n Foo = 1".toList), .event (.changed u 3 []),
      .event (.changed u 4 ["End".toList, "Solver\n Bar = 1".toList]),
      .event (.opened u "python".toList 5 "End".toList), .event (.saved u none), .republish u,
      .event .shutdownRequest, .event (.closed u)]
    let s := (Session.run setup as Session.start).2
    let doc : OpenDocument := ⟨"Solver\n Bar = 1".toList, 4⟩
    s.documents.get? u = some doc ∧ LeavesOpen u (delivered (as.filterMap Action.event?)) doc ∧
      s.store.findings u = setup.dictionary.findings doc.content := by
  intro u setup as s doc
  have hd : s.documents.get? u = some doc := by decide +kernel
  obtain ⟨hl, hf, _⟩ := (session_state_exact setup as u).2.1 doc hd
  exact ⟨hd, hl, hf⟩

end SolverInput
