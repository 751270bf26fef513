import BlockFlow.Session

/-!
# Running jobs

What the jobs of a session give when they succeed, and how they leave the session. A job only ever
adds to the log and notes that the settings were consulted, so the settings themselves stay.
-/

namespace BlockFlow

namespace Session

/-- The session after its settings were consulted. -/
def consult (s : Session) : Session :=
  if s.consulted then s else { s with consulted := true, log := s.log ++ s.notices }

/-- The session after a choice that is made by the settings where it is left open. -/
def choose (s : Session) : Option Bool → Session
  | some _ => s
  | none => s.consult

/-- The session with entries added to its log. -/
def reported (s : Session) (entries : List Log.Entry) : Session :=
  { s with log := s.log ++ entries }

/-- Consulting the settings does not change them. -/
theorem settings_consult (s : Session) : s.consult.settings = s.settings := by
  unfold consult
  split <;> rfl

/-- Nor does a choice. -/
theorem settings_choose (s : Session) (choice : Option Bool) :
    (s.choose choice).settings = s.settings := by
  cases choice with
  | some _ => rfl
  | none => exact settings_consult s

end Session

namespace Job

variable {α β : Type} {s s₁ s₂ : Session}

/-- A job gives a value in a session and leaves the session in a state. -/
def Gives (job : Job α) (s : Session) (value : α) (s' : Session) : Prop :=
  job.run.run s = (.ok value, s')

theorem gives_pure (a : α) (s : Session) : (pure a : Job α).Gives s a s :=
  rfl

/-- Jobs that give their values one after the other. -/
theorem Gives.bind {job : Job α} {next : α → Job β} {a : α} {b : β} (h : job.Gives s a s₁)
    (hnext : (next a).Gives s₁ b s₂) : (job >>= next).Gives s b s₂ := by
  unfold Gives at h hnext ⊢
  rw [ExceptT.run_bind, StateT.run_bind, h]
  exact hnext

/-- A job gives one value at most. -/
theorem Gives.unique {job : Job α} {a b : α} (h : job.Gives s a s₁) (h' : job.Gives s b s₂) :
    a = b :=
  Except.ok.inj (Prod.mk.inj (h.symm.trans h')).1

theorem gives_report (entries : List Log.Entry) (s : Session) :
    (report entries).Gives s () (s.reported entries) :=
  rfl

/-- The settings are given, and the session knows that they were consulted. -/
theorem gives_settings (s : Session) : settings.Gives s s.settings s.consult := by
  obtain ⟨settings, notices, consulted, log⟩ := s
  cases consulted <;> rfl

/-! ## Choices -/

/-- A value that selects a language gives it and leaves the session alone. -/
theorem gives_language {selector : Json} {language : Language}
    (h : Language.select? selector = some language) (s : Session) :
    (Job.language selector).Gives s language s := by
  unfold Job.language
  rw [h]
  exact gives_pure language s

/-- Whether to expand is as chosen, or else as configured. -/
theorem gives_expansion (choice : Option Bool) (s : Session) :
    (expansion choice).Gives s (choice.getD s.settings.expandNested) (s.choose choice) := by
  cases choice with
  | some expand => exact gives_pure expand s
  | none => exact (gives_settings s).bind (gives_pure _ _)

/-- Whether blocks have a scope of their own is as chosen, or else as configured. -/
theorem gives_blockScoping (choice : Option Bool) (s : Session) :
    (blockScoping choice).Gives s (choice.getD s.settings.blockScoped) (s.choose choice) := by
  cases choice with
  | some blockScoped => exact gives_pure blockScoped s
  | none => exact (gives_settings s).bind (gives_pure _ _)

/-! ## Building and rendering -/

/-- Two lists of entries always give a diagram. -/
theorem gives_loadDiagram (nodes edges : List Json) (s : Session) :
    ∃ s₁, s₁.settings = s.settings ∧
      (loadDiagram (.arr nodes) (.arr edges)).Gives s (Diagram.ofEntries nodes edges) s₁ :=
  ⟨s.reported _, rfl, (gives_report _ s).bind (gives_pure _ _)⟩

/-- A diagram always gives a program. -/
theorem gives_buildDiagram (g : Diagram) (expand : Bool) (s : Session) :
    ∃ s₁, s₁.settings = s.settings ∧ (buildDiagram g expand).Gives s (g.build expand) s₁ :=
  ⟨s.reported _, rfl, (gives_report _ s).bind (gives_pure _ _)⟩

/-- Two lists of entries always give a program. -/
theorem gives_build (nodes edges : List Json) (choice : Option Bool) (s : Session) :
    ∃ s₁, s₁.settings = s.settings ∧
      (build (.arr nodes) (.arr edges) choice).Gives s
        ((Diagram.ofEntries nodes edges).build (choice.getD s.settings.expandNested)) s₁ := by
  obtain ⟨s₁, hs₁, hload⟩ := gives_loadDiagram nodes edges s
  have hchoice := gives_expansion choice s₁
  rw [hs₁] at hchoice
  obtain ⟨s₂, hs₂, hbuild⟩ := gives_buildDiagram (Diagram.ofEntries nodes edges)
    (choice.getD s.settings.expandNested) (s₁.choose choice)
  refine ⟨s₂, ?_, hload.bind (hchoice.bind hbuild)⟩
  rw [hs₂, Session.settings_choose, hs₁]

/-- A program always gives its source in a language. -/
theorem gives_render (language : Language) (choice : Option Bool) (p : Program Unit) (s : Session) :
    ∃ s₁, (do render language (← blockScoping choice) p).Gives s
      (p.source language (choice.getD s.settings.blockScoped)) s₁ :=
  ⟨_, (gives_blockScoping choice s).bind ((gives_report _ _).bind (gives_pure _ _))⟩

/-- Two lists of entries compile to the source of their program, all as configured. -/
theorem gives_compile (nodes edges : List Json) {selector : Json} {language : Language}
    (hselect : Language.select? selector = some language) (s : Session) :
    ∃ s₁, (compile (.arr nodes) (.arr edges) selector).Gives s
      (((Diagram.ofEntries nodes edges).build s.settings.expandNested).source language
        s.settings.blockScoped) s₁ := by
  obtain ⟨s₁, hs₁, hbuild⟩ := gives_build nodes edges none s
  obtain ⟨s₂, hrender⟩ := gives_render language none
    ((Diagram.ofEntries nodes edges).build s.settings.expandNested) s₁
  rw [hs₁] at hrender
  exact ⟨s₂, (gives_language hselect s).bind (hbuild.bind hrender)⟩

end Job

end BlockFlow
