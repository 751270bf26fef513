import BlockFlow.Proofs.Command.Delivery
import BlockFlow.Proofs.Command.Reading
import BlockFlow.Proofs.Diagram.Encodable
import BlockFlow.Proofs.Session.Running

/-!
# Output discipline

What a run of the command does to the files. The outputs of a run are planned by its arguments, its
environment and the saved diagram (`Plans`). A run with a plan is the delivery of its outputs
(`Plans.run_eq`), and a run without one leaves the tree alone (`plans_or_untouched`), so a run that
ends early for any reason has written nothing yet.
-/

namespace BlockFlow.Command

open FileTree

/-! ## Planned outputs -/

/-- What an output holds: the program itself, or its source in a language. -/
inductive Target where
  | program
  | source (language : Language)
deriving DecidableEq

namespace Target

/-- The ending of the file of a target. -/
def ending : Target → String
  | .program => ".ir.json"
  | .source language => language.extension

/-- The name of the file of a target. -/
def fileName (stem : Text) (target : Target) : Text :=
  stem ++ target.ending

/-- The text of a target for a program. -/
def text (blockScoped : Bool) (p : Program Unit) : Target → Text
  | .program => p.toJson.indented ++ "\n"
  | .source language => p.source language blockScoped

/-- A text is what compiling the blocks and arrows gives for a target. -/
def Compiles (env : Environment) (nodes edges : List Json) : Target → Text → Prop
  | .program, text => ∃ p s,
      (Job.build (.arr nodes) (.arr edges) none).Gives (.start env) p s ∧
        text = p.toJson.indented ++ "\n"
  | .source language, text => ∃ s,
      (Job.compile (.arr nodes) (.arr edges) (.str language.name)).Gives (.start env) text s

end Target

/-- The targets in the order in which they are written: the program if it is asked for, and the
selected languages, or all of them if none is selected. -/
def targets (ir : Bool) (selected : List Language) : List Target :=
  (if ir then [.program] else [])
    ++ (if selected.isEmpty then Language.all else selected).map .source

/-- The level that is asked for, or that of the settings. -/
def Options.level (o : Options) (env : Environment) : Text :=
  if o.logLevel ≠ "" then o.logLevel else (Settings.load env).1.logLevel

/-- The run of the arguments is to write outputs into a directory, for the diagram that is saved as
a JSON value. There is one output for each target, and the languages are those of the arguments from
left to right. There is no plan where the run only shows something or ends before it can deliver:
the arguments, the level, the file and the diagram all have to be good. -/
inductive Plans (env : Environment) (t : FileTree) (arguments : List Text) :
    Json → Path → List (Text × Text) → Prop
  | intro {o : Options} {path out : Text} {tokens : List Token} {selected : List Language}
      {saved : Json} {warnings : List Schema.Warning} {nodes edges : List Json}
      {outputs : List (Text × Text)}
      (asked : readArguments arguments = .ok (.run o path))
      (classified : classifyAll arguments = .ok tokens)
      (unprinted : .option .print none ∉ tokens)
      (languages : (languageValues tokens).map Language.ofName? = selected.map some)
      (directory : o.out = some out)
      (level : (Log.threshold? (o.level env)).isSome)
      (read : (openFile t (.ofText path) >>= readJson) = .ok saved)
      (valid : Schema.validate o.strict saved = (warnings, .ok (nodes, edges)))
      (compiled : List.Forall₂
        (fun target output => output.1 = target.fileName (outputStem (.ofText path)) ∧
          target.Compiles env nodes edges output.2)
        (targets (.option .ir none ∈ tokens) selected) outputs) :
      Plans env t arguments saved (.ofText out) outputs

/-! ### Names -/

/-- Different targets have different endings. -/
theorem eq_of_ending {target target' : Target} (h : Text.ofString target.ending = target'.ending) :
    target = target' := by
  revert h
  rcases target with _ | language
  · rcases target' with _ | language'
    · decide
    · cases language' <;> decide
  · rcases target' with _ | language'
    · cases language <;> decide
    · cases language <;> cases language' <;> decide

/-- Every ending is longer than the component that leads up. -/
theorem three_le_length_ending (target : Target) :
    3 ≤ (Text.ofString target.ending).length := by
  rcases target with _ | language
  · decide
  · cases language <;> decide

/-- The file of a target does not lead out of its directory. -/
theorem fileName_ne_up (stem : Text) (target : Target) : target.fileName stem ≠ ".." := by
  intro h
  have hlength := congrArg List.length h
  have hending := three_le_length_ending target
  have hup : (Text.ofString "..").length = 2 := by decide
  rw [Target.fileName, List.length_append] at hlength
  omega

/-- The files of targets have names that stand for one text each. -/
theorem wellNamed_map (stem : Text) (text : Target → Text) (ts : List Target) :
    WellNamed (ts.map fun target => (target.fileName stem, text target)) := by
  constructor
  · intro output houtput output' houtput' hname
    obtain ⟨target, -, rfl⟩ := List.mem_map.1 houtput
    obtain ⟨target', -, rfl⟩ := List.mem_map.1 houtput'
    rw [eq_of_ending (List.append_cancel_left hname)]
  · intro output houtput
    obtain ⟨target, -, rfl⟩ := List.mem_map.1 houtput
    exact fileName_ne_up stem target

/-! ### Texts -/

/-- A language is selected by its own name. -/
theorem select?_name (language : Language) :
    Language.select? (.str language.name) = some language := by
  cases language <;> decide

/-- Compiling gives the text of a target for the program that is built. -/
theorem compiles_iff (env : Environment) (nodes edges : List Json) (target : Target) (text : Text) :
    target.Compiles env nodes edges text ↔
      text = target.text (Settings.load env).1.blockScoped
        ((Diagram.ofEntries nodes edges).build (Settings.load env).1.expandNested) := by
  cases target with
  | program =>
    obtain ⟨s, -, hbuild⟩ := Job.gives_build nodes edges none (.start env)
    constructor
    · rintro ⟨p, s', hp, rfl⟩
      obtain rfl := hbuild.unique hp
      rfl
    · rintro rfl
      exact ⟨_, s, hbuild, rfl⟩
  | source language =>
    obtain ⟨s, hcompile⟩ := Job.gives_compile nodes edges (select?_name language) (.start env)
    constructor
    · rintro ⟨s', htext⟩
      exact htext.unique hcompile
    · rintro rfl
      exact ⟨s, hcompile⟩

/-- The outputs of targets for a program. -/
def targetOutputs (blockScoped : Bool) (stem : Text) (p : Program Unit) (ts : List Target) :
    List (Text × Text) :=
  ts.map fun target => (target.fileName stem, target.text blockScoped p)

/-- Outputs that compiling gives target by target are the texts of the targets for the program that
is built. -/
theorem forall₂_compiles_iff (env : Environment) (nodes edges : List Json) (stem : Text)
    (ts : List Target) (outputs : List (Text × Text)) :
    List.Forall₂ (fun target output => output.1 = target.fileName stem ∧
        target.Compiles env nodes edges output.2) ts outputs ↔
      outputs = targetOutputs (Settings.load env).1.blockScoped stem
        ((Diagram.ofEntries nodes edges).build (Settings.load env).1.expandNested) ts := by
  simp only [compiles_iff, targetOutputs]
  constructor
  · intro h
    induction h with
    | nil => rfl
    | cons h _ ih => rw [List.map_cons, ← ih, ← h.1, ← h.2]
  · rintro rfl
    rw [List.forall₂_map_right_iff, List.forall₂_same]
    exact fun _ _ => ⟨rfl, rfl⟩

/-- The outputs of a plan are those of its targets. -/
theorem outputs_eq (selected : List Language) (directory : Path) (ir blockScoped : Bool)
    (stem : Text) (p : Program Unit) :
    outputs ⟨if selected.isEmpty then Language.all else selected, directory, ir⟩
        blockScoped stem p =
      targetOutputs blockScoped stem p (targets ir selected) := by
  simp only [outputs, targetOutputs, targets, List.map_append, List.map_map]
  cases ir <;> rfl

/-- A program without surrogates has outputs without surrogates. -/
theorem encodable_targetOutputs {p : Program Unit} (h : p.Encodable) (blockScoped : Bool)
    (stem : Text) (ts : List Target) :
    ∀ output ∈ targetOutputs blockScoped stem p ts, output.2.Encodable := by
  intro output houtput
  obtain ⟨target, -, rfl⟩ := List.mem_map.1 houtput
  cases target with
  | program => simp [Target.text, Json.encodable_indented]
  | source language => exact Program.encodable_source h language blockScoped

/-! ## Plans -/

/-- A selection succeeds where every language is known. -/
theorem mapM_eq_ok_iff {select : Option Language → Except Failure Language}
    (hsome : ∀ language, select (some language) = .ok language)
    (hnone : select none = .error .noLanguage) (languages : List (Option Language))
    (selected : List Language) :
    languages.mapM select = .ok selected ↔ languages = selected.map some := by
  induction languages generalizing selected with
  | nil => cases selected <;> simp [pure, Except.pure]
  | cons first rest ih =>
    have hfirst : ∀ language, select first = .ok language ↔ first = some language := by
      cases first with
      | none => simp [hnone]
      | some language => simp [hsome]
    simp only [List.mapM_cons, bind_eq_ok_iff, hfirst, ih]
    -- The selection starts with the first language and goes on with those of the rest.
    constructor
    · rintro ⟨language, rfl, others, rfl, h⟩
      obtain rfl := Except.ok.inj h
      rfl
    · intro h
      cases selected with
      | nil => cases h
      | cons language others =>
        obtain ⟨hlanguage, hothers⟩ := List.cons.inj h
        exact ⟨language, hlanguage, others, hothers, rfl⟩

/-- A plan takes a language for every language option and a name for the output directory. -/
theorem plan_eq_ok_iff (o : Options) (plan : Plan) :
    o.plan = .ok plan ↔ ∃ selected out, o.languages = selected.map some ∧ o.out = some out ∧
      plan = ⟨if selected.isEmpty then Language.all else selected, .ofText out, o.ir⟩ := by
  rw [Options.plan, bind_eq_ok_iff]
  refine exists_congr fun selected => ?_
  rw [exists_and_left]
  refine and_congr (mapM_eq_ok_iff (fun _ => rfl) rfl _ _) ?_
  cases o.out with
  | none => simp
  | some out =>
    constructor
    · intro h
      exact ⟨out, rfl, (Except.ok.inj h).symm⟩
    · rintro ⟨_, hout, rfl⟩
      obtain rfl := Option.some.inj hout
      rfl

/-- A diagram is read where its file holds JSON that the schema accepts. -/
theorem readDiagram_eq_ok_iff {t : FileTree} {strict : Bool} {p : Path}
    {warnings : List Schema.Warning} {nodes edges : List Json} :
    readDiagram t strict p = (warnings, .ok (nodes, edges)) ↔
      ∃ saved, (openFile t p >>= readJson) = .ok saved ∧
        Schema.validate strict saved = (warnings, .ok (nodes, edges)) := by
  unfold readDiagram
  cases openFile t p >>= readJson with
  | error stop => simp
  | ok saved =>
    rcases hvalid : Schema.validate strict saved with ⟨warnings', result⟩
    cases result <;> simp [hvalid, Except.mapError]

/-- A run that ends before anything is delivered or printed. -/
structure EndsEarly (t : FileTree) (r : Outcome) : Prop where
  tree : r.tree = t
  stdout : r.stdout = ""
  ending : r.ending ≠ .exit 0

/-- A run that reads a diagram compiles the program that is built from it. -/
theorem runOptions_eq_compile {env : Environment} {t : FileTree} {o : Options} {path : Text}
    {warnings : List Schema.Warning} {nodes edges : List Json}
    (hlevel : (Log.threshold? (o.level env)).isSome)
    (hread : readDiagram t o.strict (.ofText path) = (warnings, .ok (nodes, edges))) :
    let compiled := compile o (Settings.load env).1 t (.ofText path)
      ((Diagram.ofEntries nodes edges).build (Settings.load env).1.expandNested)
    (runOptions env t o path).ending = compiled.1 ∧
      (runOptions env t o path).stdout = compiled.2.1 ∧
      (runOptions env t o path).tree = compiled.2.2.1 := by
  obtain ⟨threshold, hthreshold⟩ := Option.isSome_iff_exists.1 hlevel
  rw [Options.level] at hthreshold
  simp only [runOptions, hthreshold, hread]
  exact ⟨trivial, trivial, trivial⟩

/-- A run that has no level for its log or reads no diagram ends early. -/
theorem runOptions_early (env : Environment) (t : FileTree) (o : Options) (path : Text) :
    ((Log.threshold? (o.level env)).isSome ∧ ∃ warnings nodes edges,
      readDiagram t o.strict (.ofText path) = (warnings, .ok (nodes, edges))) ∨
      EndsEarly t (runOptions env t o path) := by
  cases hthreshold : Log.threshold? (o.level env) with
  | none =>
    right
    rw [Options.level] at hthreshold
    simp only [runOptions, hthreshold]
    exact ⟨rfl, rfl, nofun⟩
  | some threshold =>
    rcases hread : readDiagram t o.strict (.ofText path) with ⟨warnings, stop | ⟨nodes, edges⟩⟩
    · right
      rw [Options.level] at hthreshold
      simp only [runOptions, hthreshold, hread]
      cases stop <;> exact ⟨rfl, rfl, nofun⟩
    · left
      exact ⟨rfl, warnings, nodes, edges, rfl⟩

/-- With a plan, compiling is delivering. -/
theorem compile_eq_deliver {o : Options} {plan : Plan} (hplan : o.plan = .ok plan)
    (settings : Settings) (t : FileTree) (path : Path) (p : Program Unit) :
    let delivered := deliver o.print plan.directory t
      (outputs plan settings.blockScoped (outputStem path) p)
    (compile o settings t path p).1 = .ofDelivery delivered.2.2 ∧
      (compile o settings t path p).2.1 = delivered.2.1 ∧
      (compile o settings t path p).2.2.1 = delivered.1 := by
  simp only [compile, hplan]
  refine ⟨?_, trivial, trivial⟩
  -- The ending of a compilation is read off how its delivery went.
  split
  case h_1 hdelivered => rw [hdelivered]; rfl
  case h_2 hdelivered => rw [hdelivered]; rfl

namespace Plans

variable {env : Environment} {t : FileTree} {arguments : List Text} {saved : Json}
  {directory : Path} {outputs : List (Text × Text)}

/-- Planned outputs have names that stand for one text each. -/
theorem wellNamed (h : Plans env t arguments saved directory outputs) : WellNamed outputs := by
  obtain ⟨-, -, -, -, -, -, -, -, hcompiled⟩ := h
  rw [(forall₂_compiles_iff ..).1 hcompiled]
  exact wellNamed_map _ _ _

/-- The planned texts hold no surrogates if the saved diagram does not. -/
theorem encodable (h : Plans env t arguments saved directory outputs) (hsaved : saved.Encodable) :
    ∀ output ∈ outputs, output.2.Encodable := by
  obtain ⟨-, -, -, -, -, -, -, hvalid, hcompiled⟩ := h
  have hnodes := Schema.encodable_of_validate hsaved hvalid
  rw [(forall₂_compiles_iff ..).1 hcompiled]
  exact encodable_targetOutputs
    (Diagram.encodable_build (Diagram.encodable_ofEntries hnodes _) _) _ _ _

/-- A run with a plan delivers the planned outputs. -/
theorem run_eq (h : Plans env t arguments saved directory outputs) :
    (run env t arguments).tree = (deliver false directory t outputs).1 ∧
      (run env t arguments).stdout = (deliver false directory t outputs).2.1 ∧
      (run env t arguments).ending = .ofDelivery (deliver false directory t outputs).2.2 := by
  obtain @⟨o, path, out, tokens, selected, _, _, nodes, edges, _, hasked, hclassified, hunprinted,
    hlanguages, hdirectory, hlevel, hread, hvalid, hcompiled⟩ := h
  obtain ⟨tokens', htokens, hselected, hprint, hir⟩ := selects_of_readArguments hasked
  obtain rfl : tokens = tokens' := Except.ok.inj (hclassified.symm.trans htokens)
  have hplan := (plan_eq_ok_iff o _).2 ⟨selected, out, hselected.trans hlanguages, hdirectory, rfl⟩
  -- The two switches are on exactly where their tokens stand among the arguments.
  have hprint : o.print = false := by simpa using mt hprint.1 hunprinted
  have hir : o.ir = decide (.option .ir none ∈ tokens) := by
    rw [Bool.eq_iff_iff, hir, decide_eq_true_iff]
  have hrun : run env t arguments = runOptions env t o path := by rw [run, hasked]
  obtain ⟨hending, hstdout, htree⟩ :=
    runOptions_eq_compile hlevel (readDiagram_eq_ok_iff.2 ⟨saved, hread, hvalid⟩)
  obtain ⟨hending', hstdout', htree'⟩ := compile_eq_deliver hplan (Settings.load env).1 t
    (.ofText path) ((Diagram.ofEntries nodes edges).build (Settings.load env).1.expandNested)
  rw [outputs_eq, hir, ← (forall₂_compiles_iff ..).1 hcompiled, hprint] at hending' hstdout' htree'
  rw [hrun]
  exact ⟨htree.trans htree', hstdout.trans hstdout', hending.trans hending'⟩

/-- A run with a plan is a delivery, which spoils nothing unless the diagram holds a surrogate. -/
theorem exists_delivery (h : Plans env t arguments saved directory outputs) :
    ∃ written spoiled rest, outputs = written ++ spoiled ++ rest ∧
      Delivery directory (t.makeDirectories directory).2 t written spoiled rest
        (run env t arguments).tree (run env t arguments).stdout (run env t arguments).ending ∧
      (saved.Encodable → spoiled = []) := by
  obtain ⟨written, spoiled, rest, rfl, hdelivery⟩ :=
    Command.exists_delivery directory t outputs h.wellNamed
  obtain ⟨htree, hstdout, hending⟩ := h.run_eq
  rw [htree, hstdout, hending]
  refine ⟨written, spoiled, rest, rfl, hdelivery, ?_⟩
  intro hsaved
  rw [List.eq_nil_iff_forall_not_mem]
  intro output houtput
  have hencodable := h.encodable hsaved output
    (List.mem_append_left _ (List.mem_append_right _ houtput))
  exact hdelivery.ends.not_encodable output houtput hencodable

end Plans

/-! ## Runs -/

/-- The arguments ask for the help text, or for outputs to be printed. -/
def AsksToShow (arguments : List Text) : Prop :=
  readArguments arguments = .ok .help ∨
    ∃ tokens, classifyAll arguments = .ok tokens ∧ .option .print none ∈ tokens

/-- A run that shows something has no plan. -/
theorem Plans.not_asksToShow {env : Environment} {t : FileTree} {arguments : List Text}
    {saved : Json} {directory : Path} {outputs : List (Text × Text)}
    (h : Plans env t arguments saved directory outputs) : ¬ AsksToShow arguments := by
  obtain ⟨hasked, hclassified, hunprinted, -, -, -, -, -, -⟩ := h
  rintro (hhelp | ⟨tokens, htokens, hprint⟩)
  · cases hasked.symm.trans hhelp
  · obtain rfl := Except.ok.inj (hclassified.symm.trans htokens)
    exact hunprinted hprint

/-- A run without a plan leaves the tree as it is. Only where it is to show something does it end
well and print. -/
theorem plans_or_untouched (env : Environment) (t : FileTree) (arguments : List Text) :
    (∃ saved directory outputs, Plans env t arguments saved directory outputs) ∨
      (run env t arguments).tree = t ∧
        ((run env t arguments).ending = .exit 0 → AsksToShow arguments) ∧
        ((run env t arguments).ending ≠ .exit 0 → (run env t arguments).stdout = "") := by
  cases hasked : readArguments arguments with
  | error e =>
    right
    rw [run, hasked]
    exact ⟨rfl, nofun, fun _ => rfl⟩
  | ok invocation =>
    cases invocation with
    | help =>
      right
      rw [run, hasked]
      exact ⟨rfl, fun _ => Or.inl hasked, fun h => absurd rfl h⟩
    | run o path =>
      have hrun : run env t arguments = runOptions env t o path := by rw [run, hasked]
      rw [hrun]
      obtain ⟨tokens, htokens, hselected, hprint, hir⟩ := selects_of_readArguments hasked
      rcases runOptions_early env t o path with ⟨hlevel, warnings, nodes, edges, hread⟩ | hearly
      · -- The diagram was read, so all that can be missing is a plan: a language, or a directory.
        obtain ⟨hending, hstdout, htree⟩ := runOptions_eq_compile hlevel hread
        cases hplan : o.plan with
        | error failure =>
          right
          simp only [compile, hplan] at hending hstdout htree
          exact ⟨htree, fun h => by simp [hending] at h, fun _ => hstdout⟩
        | ok plan =>
          cases hprinted : o.print with
          | true =>
            right
            simp only [compile, hplan, deliver, hprinted, if_true] at hending htree
            exact ⟨htree, fun _ => Or.inr ⟨tokens, htokens, hprint.1 hprinted⟩,
              fun h => absurd hending h⟩
          | false =>
            -- With a plan and nothing to print, everything that a plan asks for is at hand.
            left
            obtain ⟨saved, hsaved, hvalid⟩ := readDiagram_eq_ok_iff.1 hread
            obtain ⟨selected, out, hlanguages, hout, -⟩ := (plan_eq_ok_iff o plan).1 hplan
            have hunprinted : .option .print none ∉ tokens := by
              rw [← hprint, hprinted]
              exact Bool.false_ne_true
            exact ⟨saved, .ofText out, _, hasked, htokens, hunprinted,
              hselected.symm.trans hlanguages, hout, hlevel, hsaved, hvalid,
              (forall₂_compiles_iff ..).2 rfl⟩
      · -- Nothing was delivered or printed yet.
        right
        exact ⟨hearly.tree, fun h => absurd h hearly.ending, fun _ => hearly.stdout⟩

/-! ## Discipline -/

/-- How a run treats the files it finds. -/
structure Disciplined (env : Environment) (t : FileTree) (arguments : List Text) (r : Outcome) :
    Prop where
  /-- A run with a plan writes the first of its outputs, each complete, and touches no other file.
  Only an output that cannot be encoded is spoiled, and that takes a surrogate in the diagram. -/
  planned : ∀ saved directory outputs, Plans env t arguments saved directory outputs →
    ∃ written spoiled rest, outputs = written ++ spoiled ++ rest ∧
      Delivery directory (t.makeDirectories directory).2 t written spoiled rest
        r.tree r.stdout r.ending ∧
      (saved.Encodable → spoiled = [])
  /-- Without a plan no file changes. -/
  changed : ¬ SameFiles t r.tree →
    ∃ saved directory outputs, Plans env t arguments saved directory outputs
  /-- A run that ends well has written all of its outputs, unless it was to show something. -/
  finished : r.ending = .exit 0 → ¬ AsksToShow arguments →
    ∃ saved directory outputs, Plans env t arguments saved directory outputs ∧
      ∀ output ∈ outputs, r.tree.find (directory.join output.1) = .ok (.file (.text output.2))
  /-- A run that is to show something changes nothing. -/
  shown : AsksToShow arguments → r.tree = t
  /-- A refused run changes nothing and prints nothing. -/
  refused : r.ending = .exit 1 ∨ r.ending = .exit 2 → r.tree = t ∧ r.stdout = ""
  /-- A run that breaks off before it has reported an output changes no file. -/
  broken : ∀ failure, r.ending = .failed failure → (∀ e, failure ≠ .encoding e) → r.stdout = "" →
    SameFiles t r.tree

/-- Every run writes its planned outputs in order, each complete, and nothing else. -/
theorem run_disciplined (env : Environment) (t : FileTree) (arguments : List Text) :
    Disciplined env t arguments (run env t arguments) where
  planned _ _ _ h := h.exists_delivery
  changed hchanged := by
    rcases plans_or_untouched env t arguments with h | ⟨htree, -, -⟩
    · exact h
    · rw [htree] at hchanged
      exact absurd (SameFiles.refl t) hchanged
  finished hending hshow := by
    rcases plans_or_untouched env t arguments with ⟨saved, directory, outputs, h⟩ | ⟨-, hshown, -⟩
    · obtain ⟨written, spoiled, rest, houtputs, hdelivery, -⟩ := h.exists_delivery
      refine ⟨saved, directory, outputs, h, ?_⟩
      obtain ⟨-, rfl, rfl⟩ := (hending ▸ hdelivery.ends).of_exit
      rw [houtputs, List.append_nil, List.append_nil]
      exact hdelivery.complete
    · exact absurd (hshown hending) hshow
  shown hshow := by
    rcases plans_or_untouched env t arguments with ⟨_, _, _, h⟩ | ⟨htree, -, -⟩
    · exact absurd hshow h.not_asksToShow
    · exact htree
  refused hending := by
    rcases plans_or_untouched env t arguments with ⟨_, _, _, h⟩ | ⟨htree, -, hstdout⟩
    · -- A delivery ends well or fails, so it does not end with one of these codes.
      obtain ⟨written, spoiled, rest, -, hdelivery, -⟩ := h.exists_delivery
      rcases hending with hending | hending
      · exact absurd (hending ▸ hdelivery.ends).of_exit.1 (by decide)
      · exact absurd (hending ▸ hdelivery.ends).of_exit.1 (by decide)
    · refine ⟨htree, hstdout ?_⟩
      rcases hending with hending | hending <;> rw [hending] <;> decide
  broken failure hending hfailure hstdout := by
    rcases plans_or_untouched env t arguments with ⟨_, _, _, h⟩ | ⟨htree, -, -⟩
    · -- Every output that was written would have been reported.
      obtain ⟨written, spoiled, rest, -, hdelivery, -⟩ := h.exists_delivery
      obtain rfl := (hending ▸ hdelivery.ends).spoiled_eq_nil hfailure
      obtain rfl := eq_nil_of_reports (hdelivery.reported.symm.trans hstdout)
      exact hdelivery.sameFiles
    · rw [htree]
      exact SameFiles.refl t

/-- A directory has the name of the second output, so only the first one is written. -/
example :
    let t : FileTree := ⟨["home"], [(["home"], .directory), (["home", "generated"], .directory),
      (["home", "generated", "g_1.java"], .directory),
      (["home", "G-1.json"], .file (.text "\x7b\"nodes\": [], \"edges\": []\x7d"))]⟩
    let r := run [] t ["G-1.json", "--language=java", "--ir"]
    r.ending = .failed (.file ⟨.isADirectory, ⟨"", ["generated", "g_1.java"]⟩⟩) ∧
      r.stdout = "[visualcoder] wrote  : generated/g_1.ir.json\n" ∧ r.tree.files.length = 2 := by
  decide +kernel

end BlockFlow.Command
