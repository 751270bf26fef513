import BlockFlow.Proofs.Session.Running

/-!
# How jobs end

A job to render a saved program or to compile a diagram fails for a handful of reasons, and this
module says exactly when. The selector is looked at first, whatever else is wrong
(`outcome_generate`, `outcome_compile`). After that a saved program only has to say that it is one,
and the blocks and arrows of a diagram only have to be values that have entries: nothing in them can
make loading, building or rendering fail.
-/

namespace BlockFlow

/-! ## Conditions -/

/-- A value that names one of the languages, up to case and blanks around the name. -/
def Language.IsNamed (selector : Json) : Prop :=
  Text.lower (Text.trim selector.text) ∈ [Text.ofString "csharp", "cpp", "java", "python"]

instance (selector : Json) : Decidable (Language.IsNamed selector) :=
  inferInstanceAs (Decidable (_ ∈ _))

/-- An object that says that it is a program. -/
def Json.SaysProgram (j : Json) : Prop :=
  ∃ fields, j = .obj fields ∧ Json.Fields.get fields "type" = .str "program"

/-- A value that has no entries to give: the truth value true, or a number other than zero. -/
inductive Json.HasNoEntries : Json → Prop
  | bool : HasNoEntries (.bool true)
  | int {n : Int} (h : n ≠ 0) : HasNoEntries (.int n)
  | float {x : Float} (h : (x == 0.0) = false) : HasNoEntries (.float x)

/-- A value selects a language exactly if it names one. -/
theorem Language.isSome_select?_iff (selector : Json) :
    (select? selector).isSome = true ↔ IsNamed selector := by
  simp only [select?, ofName?, List.find?_isSome, decide_eq_true_eq]
  simp [IsNamed, all, name]

/-- There are no entries to read exactly if the value has none to give. -/
theorem Json.entries?_eq_none_iff (j : Json) : j.entries? = none ↔ j.HasNoEntries := by
  constructor
  · intro h
    cases j with
    | bool b =>
      cases b with
      | true => exact .bool
      | false => cases h
    | int n => exact .int (by simpa [entries?] using h)
    | float x => exact .float (by simpa [entries?] using h)
    | _ => cases h
  -- The values that have no entries to give are the ones that the reader refuses.
  · rintro (_ | h | h) <;> simp_all [entries?]

namespace Program

/-- A saved program is loaded exactly if it says that it is one. -/
theorem exists_load_eq_ok_iff (j : Json) : (∃ p, load j = .ok p) ↔ j.SaysProgram := by
  cases j with
  | obj fields =>
    by_cases h : Json.Fields.get fields "type" = .str "program"
    · simp [load, Json.isObject, ofJson, Json.SaysProgram, h]
    · simp [load, Json.isObject, ofJson, Json.SaysProgram, h]
  | _ => simp [load, Json.isObject, Json.SaysProgram]

end Program

namespace Diagram

/-- A diagram is refused exactly if one of its two lists has no entries to give. -/
theorem exists_load_eq_error_iff (nodes edges : Json) :
    (∃ e, (load nodes edges).1 = .error e) ↔ nodes.HasNoEntries ∨ edges.HasNoEntries := by
  rw [← Json.entries?_eq_none_iff, ← Json.entries?_eq_none_iff, load, Json.entries, Json.entries]
  cases nodes.entries? <;> cases edges.entries? <;> simp

/-- It is loaded in all other cases. -/
theorem exists_load_eq_ok_iff (nodes edges : Json) :
    (∃ g, (load nodes edges).1 = .ok g) ↔ ¬ nodes.HasNoEntries ∧ ¬ edges.HasNoEntries := by
  rw [← not_or, ← exists_load_eq_error_iff]
  cases (load nodes edges).1 <;> simp

end Diagram

/-! ## Outcomes -/

namespace Job

variable {α β : Type} {job : Job α} {s s₁ : Session} {a : α} {e : CompileError}

/-- How a job ends in a session. -/
def outcome (job : Job α) (s : Session) : Except CompileError α :=
  (job.run.run s).1

/-- A job that gives a value ends with it. -/
theorem Gives.outcome_eq (h : job.Gives s a s₁) : job.outcome s = .ok a :=
  congrArg Prod.fst h

/-- After a job that gives a value the next one decides. -/
theorem Gives.outcome_bind (h : job.Gives s a s₁) (next : α → Job β) :
    (job >>= next).outcome s = (next a).outcome s₁ := by
  unfold Gives at h
  rw [outcome, ExceptT.run_bind, StateT.run_bind, h]
  rfl

/-- After a failure nothing else is done. -/
theorem outcome_bind_of_error (h : job.outcome s = .error e) (next : α → Job β) :
    (job >>= next).outcome s = .error e := by
  unfold outcome at h ⊢
  rw [ExceptT.run_bind, StateT.run_bind]
  generalize job.run.run s = ended at h ⊢
  obtain ⟨result, s'⟩ := ended
  subst h
  rfl

/-- A value that selects no language is refused as such. -/
theorem outcome_language {selector : Json} (h : Language.select? selector = none) (s : Session) :
    (Job.language selector).outcome s = .error (.unsupportedLanguage selector) := by
  unfold Job.language
  rw [h]
  rfl

/-- What rendering a saved program comes to. -/
theorem outcome_generate (selector saved : Json) (choice : Option Bool) (s : Session) :
    (generate selector saved choice).outcome s =
      match Language.select? selector, Program.load saved with
      | none, _ => .error (.unsupportedLanguage selector)
      | some _, .error cause => .error (.notAProgram cause)
      | some language, .ok p => .ok (p.source language (choice.getD s.settings.blockScoped)) := by
  -- Without a language nothing is loaded.
  cases hselect : Language.select? selector with
  | none => exact outcome_bind_of_error (outcome_language hselect s) _
  | some language =>
    rw [generate, (gives_language hselect s).outcome_bind,
      (gives_blockScoping choice s).outcome_bind, loadProgram]
    cases Program.load saved <;> rfl

/-- Loading a diagram is refused, or it gives the diagram and reports what was passed over. -/
theorem loadDiagram_cases (nodes edges : Json) (s : Session) :
    match (Diagram.load nodes edges).1 with
    | .error cause => (loadDiagram nodes edges).outcome s = .error (.notIterable cause)
    | .ok g => (loadDiagram nodes edges).Gives s g (s.reported (Diagram.load nodes edges).2) := by
  unfold loadDiagram
  generalize Diagram.load nodes edges = loaded
  obtain ⟨result, log⟩ := loaded
  cases result with
  | error cause => exact (gives_report log s).outcome_bind _
  | ok g => exact (gives_report log s).bind (gives_pure g _)

/-- What compiling a diagram comes to. -/
theorem outcome_compile (nodes edges selector : Json) (s : Session) :
    (compile nodes edges selector).outcome s =
      match Language.select? selector, (Diagram.load nodes edges).1 with
      | none, _ => .error (.unsupportedLanguage selector)
      | some _, .error cause => .error (.notIterable cause)
      | some language, .ok g =>
        .ok ((g.build s.settings.expandNested).source language s.settings.blockScoped) := by
  -- Without a language the diagram is not even loaded.
  cases hselect : Language.select? selector with
  | none => exact outcome_bind_of_error (outcome_language hselect s) _
  | some language =>
    rw [compile, (gives_language hselect s).outcome_bind]
    have hload := loadDiagram_cases nodes edges s
    generalize (Diagram.load nodes edges).1 = result at hload ⊢
    cases result with
    | error cause => exact outcome_bind_of_error (outcome_bind_of_error hload _) _
    | ok g =>
      -- Building and rendering give their results, whatever is reported before and in between.
      have hexpand := gives_expansion none (s.reported (Diagram.load nodes edges).2)
      obtain ⟨s₁, hs₁, hbuild⟩ := gives_buildDiagram g s.settings.expandNested
        ((s.reported (Diagram.load nodes edges).2).choose none)
      obtain ⟨s₂, hrender⟩ :=
        gives_render language none (g.build s.settings.expandNested) s₁
      rw [hs₁, Session.settings_choose] at hrender
      have hjob : (build nodes edges none >>= renderConfigured language).Gives s _ s₂ :=
        (hload.bind (hexpand.bind hbuild)).bind hrender
      exact hjob.outcome_eq

/-- The jobs fail exactly when their inputs are refused. The selector has to name a language,
whatever else is given. A saved program then has to be an object that says that it is a program, and
the blocks and arrows of a diagram must not be true or a number other than zero. In all other cases
there is code. -/
theorem outcomes_exact (selector : Json) (s : Session) :
    (∀ (saved : Json) (choice : Option Bool),
      ((generate selector saved choice).outcome s = .error (.unsupportedLanguage selector) ↔
        ¬ Language.IsNamed selector) ∧
      ((∃ cause, (generate selector saved choice).outcome s = .error (.notAProgram cause)) ↔
        Language.IsNamed selector ∧ ¬ saved.SaysProgram) ∧
      ((∃ code, (generate selector saved choice).outcome s = .ok code) ↔
        Language.IsNamed selector ∧ saved.SaysProgram)) ∧
    ∀ nodes edges : Json,
      ((compile nodes edges selector).outcome s = .error (.unsupportedLanguage selector) ↔
        ¬ Language.IsNamed selector) ∧
      ((∃ cause, (compile nodes edges selector).outcome s = .error (.notIterable cause)) ↔
        Language.IsNamed selector ∧ (nodes.HasNoEntries ∨ edges.HasNoEntries)) ∧
      ((∃ code, (compile nodes edges selector).outcome s = .ok code) ↔
        Language.IsNamed selector ∧ ¬ nodes.HasNoEntries ∧ ¬ edges.HasNoEntries) ∧
      ∀ cause, (compile nodes edges selector).outcome s ≠ .error (.notAProgram cause) := by
  rw [← Language.isSome_select?_iff]
  constructor
  · intro saved choice
    rw [outcome_generate, ← Program.exists_load_eq_ok_iff]
    cases Language.select? selector with
    | none => simp
    | some language => cases Program.load saved <;> simp
  · intro nodes edges
    rw [outcome_compile, ← Diagram.exists_load_eq_error_iff, ← Diagram.exists_load_eq_ok_iff]
    cases Language.select? selector with
    | none => simp
    | some language => cases (Diagram.load nodes edges).1 <;> simp

/-- Of several faults the selector is reported, and the name of a language may stand in blanks. -/
example : Language.IsNamed (.str "\t JAVA\n") ∧ ¬ Language.IsNamed (.str "c#") ∧
    ∀ s, (compile (.bool true) (.int 3) (.str "c#")).outcome s =
      .error (.unsupportedLanguage (.str "c#")) :=
  ⟨by decide, by decide, fun _ => rfl⟩

end Job

end BlockFlow
