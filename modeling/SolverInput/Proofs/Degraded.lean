import SolverInput.Proofs.Deeds
import SolverInput.Session

namespace SolverInput
set_option autoImplicit true

namespace Dictionary

@[simp] theorem findingAt?_empty (i : Nat) (line : Text) (scanned : ScannedLine) :
    empty.findingAt? i line scanned = none := by
  unfold findingAt?
  split <;> rfl

/-- An empty dictionary lists no section, so it has none checked. -/
@[simp] theorem findings_empty (text : Text) : empty.findings text = [] :=
  List.filterMap_eq_nil_iff.2 fun _ _ => findingAt?_empty ..

end Dictionary

/-- The event is delivered when it comes after these. -/
def IsDelivered (past : List Event) (e : Event) : Prop :=
  delivered (past ++ [e]) = delivered past ++ [e]

instance (past : List Event) (e : Event) : Decidable (IsDelivered past e) :=
  inferInstanceAs (Decidable (_ = _))

/-- The message as it is when nothing is found. -/
def Message.withoutFindings : Message → Message
  | .publish uri version _ => .publish uri version []
  | m => m

theorem Deed.messages_empty (d : Dictionary) (uri : Text) (deed : Deed) :
    deed.messages .empty uri = (deed.messages d uri).map Message.withoutFindings := by
  cases deed with
  | nothing => rfl
  | become doc =>
    cases doc with
    | none => rfl
    | some doc => simp [messages, report, Message.withoutFindings]

namespace Session

/-- A session `t` stands where `s` does, but it has found nothing. -/
structure Mirrors (s t : Session) : Prop where
  phase : t.phase = s.phase
  documents : t.documents = s.documents
  no_findings : ∀ u, t.store.findings u = []

theorem Mirrors.perform (h : Mirrors s t) (d : Dictionary) (uri : Text) (deed : Deed) :
    Mirrors (deed.perform d uri s) (deed.perform .empty uri t) := by
  cases deed with
  | nothing => exact h
  | become doc =>
    refine ⟨?_, ?_, ?_⟩
    · rw [Deed.phase_perform, Deed.phase_perform, h.phase]
    · apply Table.ext_get?
      intro v
      simp only [Deed.perform, document_become, h.documents]
    · intro u
      rw [FindingStore.findings, Deed.perform, store_become]
      split
      · cases doc with
        | none => rfl
        | some doc => exact Dictionary.findings_empty doc.content
      · exact h.no_findings u

variable (d : Dictionary) (e : Text)

/-- A session that mirrors another goes on to mirror it, with the same replies. But for a greeting
it sends the same messages without their findings. -/
theorem Mirrors.act (h : Mirrors s t) (a : Action) :
    let healthy := Session.act ⟨d, none⟩ a s
    let degraded := Session.act ⟨.empty, some e⟩ a t
    Mirrors healthy.2 degraded.2 ∧ degraded.1.reply = healthy.1.reply ∧
      if a = .event .initializedNotice ∧ s.phase = .running then
        healthy.1.sent = greeting ⟨d, none⟩ ∧ degraded.1.sent = greeting ⟨.empty, some e⟩
      else degraded.1.sent = healthy.1.sent.map Message.withoutFindings := by
  intro healthy degraded
  have hreply : degraded.1.reply = healthy.1.reply :=
    reply_act_congr ⟨.empty, some e⟩ t ⟨d, none⟩ h.phase fun uri _ => by rw [h.documents]
  cases hd : a.document? with
  | none =>
    obtain ⟨hsent, hnext⟩ := act_of_no_document ⟨d, none⟩ s hd
    obtain ⟨hsent', hnext'⟩ := act_of_no_document ⟨.empty, some e⟩ t hd
    refine ⟨?_, hreply, ?_⟩
    · rw [hnext, hnext']
      exact ⟨by rw [h.phase], h.documents, h.no_findings⟩
    · rw [hsent, hsent', h.phase]
      split
      · exact ⟨rfl, rfl⟩
      · rfl
  | some uri =>
    have hne : a ≠ .event .initializedNotice := by
      rintro rfl
      cases hd
    obtain ⟨hsent, hnext⟩ := act_of_document? ⟨d, none⟩ s hd
    obtain ⟨hsent', hnext'⟩ := act_of_document? ⟨.empty, some e⟩ t hd
    refine ⟨?_, hreply, ?_⟩
    · rw [hnext, hnext', h.phase, h.documents]
      exact h.perform d uri _
    · rw [if_neg fun hg => hne hg.1, hsent, hsent', h.phase, h.documents]
      split
      · rfl
      · exact Deed.messages_empty d uri _

theorem mirrors_run (as : List Action) :
    Mirrors (run ⟨d, none⟩ as start).2 (run ⟨.empty, some e⟩ as start).2 := by
  induction as using List.reverseRecOn with
  | nil => exact ⟨rfl, rfl, fun _ => rfl⟩
  | append_singleton as a ih =>
    rw [run_concat, run_concat]
    exact (ih.act d e a).1

/-- Events are delivered to a running session, but not the one that ends it. -/
theorem isDelivered_iff (setup : Setup) (as : List Action) (e : Event) :
    IsDelivered (as.filterMap Action.event?) e ↔
      (run setup as start).2.phase = .running ∧ e.beforeStop := by
  rw [IsDelivered, (follows_run setup [] as).phase.delivered_concat]
  simp

end Session

namespace Setup

theorem ofLoading_eq_healthy_iff (say : Wording) (l : Loading) (d : Dictionary) :
    ofLoading say l = ⟨d, none⟩ ↔ l.result = .ok d := by
  unfold ofLoading
  cases l.result with
  | ok d' => simp
  | error cause => simp

theorem ofLoading_eq_degraded_iff (say : Wording) (l : Loading) (e : Text) :
    ofLoading say l = ⟨.empty, some e⟩ ↔
      ∃ cause, l.result = .error cause ∧ cause.message say = e := by
  unfold ofLoading
  cases l.result with
  | ok d => simp
  | error cause => simp

end Setup

/-- What becomes of an action in a session without a dictionary, `e` being the reason for that,
compared with what becomes of it in a session with one. These events came before. -/
structure Degrades (e : Text) (past : List Event) (a : Action)
    (healthy degraded : Answer × Session) : Prop where
  reply : degraded.1.reply = healthy.1.reply
  documents : degraded.2.documents = healthy.2.documents
  no_findings : ∀ u, degraded.2.store.findings u = []
  sent :
    if a = .event .initializedNotice ∧ IsDelivered past .initializedNotice then
      healthy.1.sent = [.log "sif-ls initialized".toList] ∧
        degraded.1.sent = [.log "sif-ls initialized".toList,
          .showError ("Keyword dictionary unavailable, validation disabled: ".toList ++ e)]
    else degraded.1.sent = healthy.1.sent.map Message.withoutFindings

/-- A session without a dictionary goes as it would with one, except that nothing is found and that
the client is told why, each time that it says it is initialized. The server starts such a session
exactly when its dictionary cannot be loaded. -/
theorem degraded_session_exact :
    (∀ (d : Dictionary) (e : Text) (past : List Action) (a : Action),
      let healthy : Setup := ⟨d, none⟩
      let degraded : Setup := ⟨.empty, some e⟩
      Degrades e (past.filterMap Action.event?) a
        (Session.act healthy a (Session.run healthy past Session.start).2)
        (Session.act degraded a (Session.run degraded past Session.start).2)) ∧
      ∀ (say : Wording) (fs : FileSystem) (env : Environment) (ws : List Text) (o : Options),
        Options.ofWords .server ws = .ok o →
        let loaded := (Dictionary.load fs env.userFiles o.keywords).result
        ∃ setup events, Setup.ofWords say fs env ws = .ok (setup, events) ∧
          (∀ d, setup = ⟨d, none⟩ ↔ loaded = .ok d) ∧
          ∀ e, setup = ⟨.empty, some e⟩ ↔
            ∃ cause, loaded = .error cause ∧ cause.message say = e := by
  refine ⟨?_, ?_⟩
  · intro d e past a healthy degraded
    obtain ⟨hnext, hreply, hsent⟩ := (Session.mirrors_run d e past).act d e a
    refine ⟨hreply, hnext.documents, hnext.no_findings, ?_⟩
    have hstop : Event.beforeStop .initializedNotice := rfl
    simp only [Session.isDelivered_iff healthy past, hstop, and_true]
    exact hsent
  · intro say fs env ws o ho loaded
    have hsetup : ∃ events, Setup.ofWords say fs env ws =
        .ok (.ofLoading say (Dictionary.load fs env.userFiles o.keywords), events) := by
      rw [Setup.ofWords, ho]
      exact ⟨_, rfl⟩
    obtain ⟨events, hsetup⟩ := hsetup
    exact ⟨_, events, hsetup, Setup.ofLoading_eq_healthy_iff say _,
      Setup.ofLoading_eq_degraded_iff say _⟩

/-- The dictionary that the command line names does not exist. A document with a finding is open
when the client says that it is initialized. -/
theorem degraded_session_exact_missing :
    let fs : FileSystem := ⟨fun _ => .error .missing⟩
    let env : Environment := ⟨some "/home/u".toList, none, none, none⟩
    let ws := ["--keywords".toList, "own.json".toList]
    let e :=
      "Failed to read keyword dictionary: own.json: No such file or directory (os error 2)".toList
    let d := Dictionary.empty.insert "solver".toList "equation".toList
    let text := "Solver\n Foo = 1".toList
    let say : Wording := fun _ _ => []
    let past : List Action := [.event .initializeRequest,
      .event (.opened "file:///case.sif".toList languageId 1 text)]
    (d.findings text).length = 1 ∧
      (∃ events, Setup.ofWords say fs env ws = .ok (⟨.empty, some e⟩, events)) ∧
      Degrades e (past.filterMap Action.event?) (.event .initializedNotice)
        (Session.act ⟨d, none⟩ (.event .initializedNotice)
          (Session.run ⟨d, none⟩ past Session.start).2)
        (Session.act ⟨.empty, some e⟩ (.event .initializedNotice)
          (Session.run ⟨.empty, some e⟩ past Session.start).2) := by
  intro fs env ws e d text say past
  have ho : Options.ofWords .server ws = .ok ⟨[], .text, ["own.json".toList], "info".toList⟩ := by
    rfl
  obtain ⟨hsession, hserver⟩ := degraded_session_exact
  obtain ⟨setup, events, hsetup, _, hdegraded⟩ := hserver say fs env ws _ ho
  have hs : setup = ⟨.empty, some e⟩ := (hdegraded e).2 ⟨_, rfl, rfl⟩
  rw [hs] at hsetup
  exact ⟨by decide +kernel, ⟨events, hsetup⟩, hsession d e past (.event .initializedNotice)⟩

end SolverInput
