import BlockFlow.Proofs.Diagram.Placement
import BlockFlow.Proofs.Program.RoundTrip
import BlockFlow.Proofs.Session.Running
import BlockFlow.Proofs.Text.Splitting
import BlockFlow.Service

/-!
# The two ways to code

A diagram is compiled in one go, or it is built first and its saved program is rendered later. Both
ways give the same code, because everything that building puts into a program survives saving: the
parameters of a function have a type and a name, and an unknown block has a kind.
-/

namespace BlockFlow

/-! ## What building makes can be saved -/

theorem Statement.loadable_shell (s : Statement Unit) : s.shell.Loadable ↔ s.Loadable := by
  cases s <;> exact Iff.rfl

/-- Words make a parameter with a type and a name. -/
theorem Param.filled_ofWords {words : List Text} (hwords : words ≠ [])
    (hword : ∀ word ∈ words, word ≠ []) :
    (Param.ofWords words).typeName ≠ "" ∧ (Param.ofWords words).name ≠ "" := by
  match words with
  | [] => exact absurd rfl hwords
  | [name] => exact ⟨by simp [Param.ofWords], hword name (by simp)⟩
  | typeName :: name :: _ => exact ⟨hword typeName (by simp), hword name (by simp)⟩

/-- So every parameter of a text has a type and a name. -/
theorem Param.filled_of_mem_ofItems {t : Text} {p : Param} (h : p ∈ Param.ofItems (Text.items t)) :
    p.typeName ≠ "" ∧ p.name ≠ "" := by
  obtain ⟨item, hitem, rfl⟩ := List.mem_map.1 h
  refine Param.filled_ofWords (Text.words_ne_nil_of_mem_items hitem) ?_
  intro word hword
  exact Text.ne_nil_of_mem_words hword

/-- An unknown block without a type gets a kind, too. -/
theorem Node.filled_kind (n : Node) :
    (if n.typeName = "" then Text.ofString "unknown" else n.typeName) ≠ "" := by
  split
  · simp
  · rename_i h
    exact h

/-- The statement of a block can be read back, whatever the data of the block. -/
theorem Node.loadable_statement (n : Node) : n.statement.Loadable := by
  unfold Node.statement
  -- A function has its parameters from a text, and the other kinds to watch are the unknown ones.
  cases n.kind with
  | functionDefine => exact fun p hp => Param.filled_of_mem_ofItems hp
  | entry | unknown => exact n.filled_kind
  | _ => trivial

namespace Diagram

/-- So can every statement of a built program. -/
theorem loadable_build (g : Diagram) (expand : Bool) :
    ∀ s ∈ (g.build expand).walk, s.Loadable := by
  intro s hs
  obtain ⟨node, -, hshell⟩ := exists_node_of_mem_walk_build hs
  rw [← Statement.loadable_shell, hshell]
  exact node.loadable_statement

/-- A built program that is saved is read back as it was. -/
theorem ofJson_toJson_build (g : Diagram) (expand : Bool) :
    Program.ofJson (g.build expand).toJson = .ok (g.build expand) :=
  Program.ofJson_toJson_of_loadable (g.loadable_build expand)

end Diagram

namespace Job

/-- Renders a program in the selected language. -/
def generateFrom (selector : Json) (p : Program Unit) (blockScoped : Option Bool) : Job Text := do
  let language ← Job.language selector
  let blockScoped ← blockScoping blockScoped
  render language blockScoped p

/-- Loading the saved form of a built program gives the program. -/
theorem loadProgram_toJson_build (g : Diagram) (expand : Bool) :
    loadProgram (g.build expand).toJson = pure (g.build expand) := by
  have hload : Program.load (g.build expand).toJson = .ok (g.build expand) :=
    g.ofJson_toJson_build expand
  unfold loadProgram
  rw [hload]

/-- It makes no difference whether a built program is saved before it is rendered. -/
theorem generate_toJson_build (selector : Json) (g : Diagram) (expand : Bool)
    (scoping : Option Bool) :
    generate selector (g.build expand).toJson scoping =
      generateFrom selector (g.build expand) scoping := by
  unfold generate generateFrom
  rw [loadProgram_toJson_build]
  simp only [pure_bind]

/-- A diagram is built, and then its program and the saved program are rendered alike. -/
theorem gives_build_generate (nodes edges : List Json) {selector : Json} {language : Language}
    (hselect : Language.select? selector = some language) (expand scoping : Option Bool)
    (s : Session) :
    ∃ p s₁ s₂, p = (Diagram.ofEntries nodes edges).build (expand.getD s.settings.expandNested) ∧
      (build (.arr nodes) (.arr edges) expand).Gives s p s₁ ∧
      (do render language (← blockScoping scoping) p).Gives s₁
        (p.source language (scoping.getD s.settings.blockScoped)) s₂ ∧
      (generate selector p.toJson scoping).Gives s₁
        (p.source language (scoping.getD s.settings.blockScoped)) s₂ := by
  obtain ⟨s₁, hs₁, hbuild⟩ := gives_build nodes edges expand s
  obtain ⟨s₂, hrender⟩ := gives_render language scoping
    ((Diagram.ofEntries nodes edges).build (expand.getD s.settings.expandNested)) s₁
  rw [hs₁] at hrender
  refine ⟨_, s₁, s₂, rfl, hbuild, hrender, ?_⟩
  rw [generate_toJson_build]
  exact (gives_language hselect s₁).bind hrender

end Job

/-! ## Requests -/

namespace Service

/-- A request with these fields passes the checks, and its job gives a value in a session. -/
def Answers (checks : Checks) (route : Route) (fields : Json.Fields) (s : Session) (value : Json)
    (s' : Session) : Prop :=
  ∃ job, jobOf checks route fields = .ok job ∧ job.Gives s value s'

variable {checks : Checks} {fields : Json.Fields} {nodes edges : List Json} {name : Text}
  {p : Program Unit} {code : Text} {s s₁ s₂ : Session}

/-- A request for the program of a diagram is answered with the saved program. -/
theorem answers_build (hdiagram : checks.diagram fields = .ok (nodes, edges))
    (hbuild : (Job.build (.arr nodes) (.arr edges) none).Gives s p s₁) :
    Answers checks .build fields s (.obj [("ir", p.toJson)]) s₁ := by
  have hjob : jobOf checks .build fields = .ok (do
      let p ← Job.build (.arr nodes) (.arr edges) none
      return .obj [("ir", p.toJson)]) := by
    unfold jobOf
    rw [hdiagram]
    rfl
  exact ⟨_, hjob, hbuild.bind (Job.gives_pure _ s₁)⟩

/-- A request for the code of a saved program is answered with the code. -/
theorem answers_generate (hname : checks.language fields = .ok name)
    (hgenerate : (Job.generate (.str name) (Json.Fields.get fields "ir") none).Gives s code s₁) :
    Answers checks .generate fields s (.obj [("code", .str code)]) s₁ := by
  have hjob : jobOf checks .generate fields = .ok (do
      let code ← Job.generate (.str name) (Json.Fields.get fields "ir") none
      return .obj [("code", .str code)]) := by
    unfold jobOf
    rw [hname]
    rfl
  exact ⟨_, hjob, hgenerate.bind (Job.gives_pure _ s₁)⟩

/-- A request for the code of a diagram is answered with the code and the saved program. -/
theorem answers_compile {language : Language}
    (hdiagram : checks.diagram fields = .ok (nodes, edges))
    (hname : checks.language fields = .ok name)
    (hselect : Language.select? (.str name) = some language)
    (hbuild : (Job.build (.arr nodes) (.arr edges) none).Gives s p s₁)
    (hrender : (Job.renderConfigured language p).Gives s₁ code s₂) :
    Answers checks .compile fields s (.obj [("code", .str code), ("ir", p.toJson)]) s₂ := by
  have hjob : jobOf checks .compile fields = .ok (do
      let language ← Job.language (.str name)
      let p ← Job.build (.arr nodes) (.arr edges) none
      let code ← Job.renderConfigured language p
      return .obj [("code", .str code), ("ir", p.toJson)]) := by
    unfold jobOf
    rw [Checked.both_eq_ok.2 ⟨hdiagram, hname⟩]
    rfl
  exact ⟨_, hjob, (Job.gives_language hselect s).bind
    (hbuild.bind (hrender.bind (Job.gives_pure _ s₂)))⟩

end Service

/-! ## Both ways -/

/-- The two ways from a diagram to code in a language agree in a session. -/
structure PathsAgree (nodes edges : List Json) (selector : Json) (language : Language)
    (s : Session) : Prop where
  /-- Whatever is chosen for the two flags, a program is built, it is read back from its saved form
  as it was, and rendering either of the two is the same job and gives the source of the program. -/
  chosen : ∀ expand scoping : Option Bool, ∃ p s₁ s₂,
    p = (Diagram.ofEntries nodes edges).build (expand.getD s.settings.expandNested) ∧
      (Job.build (.arr nodes) (.arr edges) expand).Gives s p s₁ ∧
      Program.ofJson p.toJson = .ok p ∧
      Job.generate selector p.toJson scoping = Job.generateFrom selector p scoping ∧
      (Job.generate selector p.toJson scoping).Gives s₁
        (p.source language (scoping.getD s.settings.blockScoped)) s₂
  /-- With the configured flags, compiling gives that code too and leaves the session alike. -/
  configured : ∃ p s₁ s₂, p = (Diagram.ofEntries nodes edges).build s.settings.expandNested ∧
    (Job.build (.arr nodes) (.arr edges) none).Gives s p s₁ ∧
      (Job.generate selector p.toJson none).Gives s₁
        (p.source language s.settings.blockScoped) s₂ ∧
      (Job.compile (.arr nodes) (.arr edges) selector).Gives s
        (p.source language s.settings.blockScoped) s₂
  /-- So do the requests: one for the program and one with it for the code, or one for both. This
  does not depend on how their fields are checked. -/
  requested : ∀ (checks : Service.Checks) fields name,
    checks.diagram fields = .ok (nodes, edges) → checks.language fields = .ok name →
    selector = .str name → ∃ ir s₁ code s₂,
      Service.Answers checks .build fields s (.obj [("ir", ir)]) s₁ ∧
        (∀ again, checks.language again = .ok name → Json.Fields.get again "ir" = ir →
          Service.Answers checks .generate again s₁ (.obj [("code", .str code)]) s₂) ∧
        Service.Answers checks .compile fields s (.obj [("code", .str code), ("ir", ir)]) s₂

/-- Building a diagram and rendering the saved program is the same as compiling it. -/
theorem paths_agree (nodes edges : List Json) {selector : Json} {language : Language}
    (hselect : Language.select? selector = some language) (s : Session) :
    PathsAgree nodes edges selector language s where
  chosen expand scoping := by
    obtain ⟨p, s₁, s₂, rfl, hbuild, -, hgenerate⟩ :=
      Job.gives_build_generate nodes edges hselect expand scoping s
    exact ⟨_, s₁, s₂, rfl, hbuild, Diagram.ofJson_toJson_build _ _,
      Job.generate_toJson_build selector _ _ scoping, hgenerate⟩
  configured := by
    obtain ⟨p, s₁, s₂, hp, hbuild, hrender, hgenerate⟩ :=
      Job.gives_build_generate nodes edges hselect none none s
    have hcompile : (Job.compile (.arr nodes) (.arr edges) selector).Gives s _ s₂ :=
      (Job.gives_language hselect s).bind (hbuild.bind hrender)
    exact ⟨p, s₁, s₂, hp, hbuild, hgenerate, hcompile⟩
  requested checks fields name hdiagram hname hselector := by
    subst hselector
    obtain ⟨p, s₁, s₂, -, hbuild, hrender, hgenerate⟩ :=
      Job.gives_build_generate nodes edges hselect none none s
    refine ⟨p.toJson, s₁, _, s₂, Service.answers_build hdiagram hbuild, ?_,
      Service.answers_compile hdiagram hname hselect hbuild hrender⟩
    intro again hagain hir
    rw [← hir] at hgenerate
    exact Service.answers_generate hagain hgenerate

/-- The blocks of `sampleRequest`. -/
def sampleNodes : List Json :=
  [.obj [("id", .str "start"), ("type", .str "input"), ("data", .obj [])],
    .obj [("id", .int 1), ("type", .str "functionDefine"),
      ("data", .obj [("name", .str "f"), ("params", .str "int a, , b")])],
    .obj [("id", .str "x"), ("type", .null), ("data", .obj [("note", .arr [.null])])]]

/-- The arrows of `sampleRequest`. -/
def sampleEdges : List Json :=
  [.obj [("id", .null), ("source", .str "start"), ("target", .str "x"), ("sourceHandle", .null),
    ("targetHandle", .null)]]

/-- A request with a function whose parameters leave out a type and an item, and a block without a
type. -/
def sampleRequest : Json.Fields :=
  [("language", .str " Java "), ("nodes", .arr sampleNodes), ("edges", .arr sampleEdges)]

/-- The sample, compiled with a name of the language in blanks: both ways end with the same
answer. -/
theorem paths_agree_sample :
    Language.select? (.str " Java ") = some .java ∧
      Service.Checks.standard.diagram sampleRequest = .ok (sampleNodes, sampleEdges) ∧
      Service.Checks.standard.language sampleRequest = .ok " Java " ∧
      ∃ ir s₁ code s₂,
        Service.Answers .standard .build sampleRequest (.start []) (.obj [("ir", ir)]) s₁ ∧
          Service.Answers .standard .generate [("language", .str " Java "), ("ir", ir)] s₁
            (.obj [("code", .str code)]) s₂ ∧
          Service.Answers .standard .compile sampleRequest (.start [])
            (.obj [("code", .str code), ("ir", ir)]) s₂ := by
  have hselect : Language.select? (.str " Java ") = some .java := by decide
  have hdiagram : Service.Checks.standard.diagram sampleRequest =
      .ok (sampleNodes, sampleEdges) := rfl
  have hname : Service.Checks.standard.language sampleRequest = .ok " Java " := rfl
  have hagree := paths_agree sampleNodes sampleEdges hselect (.start [])
  obtain ⟨ir, s₁, code, s₂, hbuild, hgenerate, hcompile⟩ :=
    hagree.requested .standard sampleRequest _ hdiagram hname rfl
  exact ⟨hselect, hdiagram, hname, ir, s₁, code, s₂, hbuild, hgenerate _ rfl rfl, hcompile⟩

end BlockFlow
