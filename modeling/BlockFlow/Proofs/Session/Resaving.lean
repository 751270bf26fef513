import BlockFlow.Proofs.Program.Loading
import BlockFlow.Proofs.Session.Running
import BlockFlow.Proofs.Source.Kinds

/-!
# Saving what was loaded

A loaded program that is saved again and read back is the same program with the same code, but for
one gap in the reader: an object whose type is the empty string is loaded as an unknown statement
without a kind, and the kind it is read back with shows in the code. Whatever was loaded is saved
for good after the first time.
-/

namespace BlockFlow

open Statement (unknownKinds fillKind)

/-- A saved program that can be read is rendered to its source. -/
theorem Job.gives_generate {saved selector : Json} {p : Program Unit} {language : Language}
    (hload : Program.ofJson saved = .ok p) (hselect : Language.select? selector = some language)
    (scoping : Option Bool) (s : Session) : ∃ s₁,
      (generate selector saved scoping).Gives s
        (p.source language (scoping.getD s.settings.blockScoped)) s₁ := by
  have hprogram : loadProgram saved = pure p := by
    cases saved with
    | obj fields => simp [loadProgram, Program.load, Json.isObject, hload]
    | _ => cases hload
  unfold generate
  rw [hprogram]
  exact ⟨_, (gives_language hselect s).bind ((gives_blockScoping scoping s).bind
    ((gives_pure p _).bind ((gives_report _ _).bind (gives_pure _ _))))⟩

namespace Program

variable {j : Json} {p : Program Unit}

/-- The parameters of a loaded program have types and names. -/
theorem paramsFilled_of_ofJson (h : ofJson j = .ok p) : ∀ t ∈ p.walk, t.ParamsFilled := by
  intro t ht
  rcases loadable_or_untyped h ht with hloadable | ⟨data, id, rfl, -⟩
  · exact hloadable.paramsFilled
  · trivial

/-- A loaded program can be read back exactly when each of its unknown statements has a kind. -/
theorem forall_loadable_iff (h : ofJson j = .ok p) :
    (∀ t ∈ p.walk, t.Loadable) ↔ [] ∉ unknownKinds p.walk := by
  constructor
  · intro hloadable hmem
    obtain ⟨data, id, ht⟩ := Statement.mem_unknownKinds.1 hmem
    exact hloadable _ ht rfl
  · intro hkinds t ht
    rcases loadable_or_untyped h ht with hloadable | ⟨data, id, rfl, -⟩
    · exact hloadable
    · exact absurd (Statement.mem_unknownKinds.2 ⟨data, id, ht⟩) hkinds

/-- Nothing is filled in exactly when each unknown statement has a kind. -/
theorem rekind_fillKind_eq_iff (h : ofJson j = .ok p) :
    p.rekind fillKind = p ↔ [] ∉ unknownKinds p.walk := by
  have hfilled := paramsFilled_of_ofJson h
  rw [← forall_loadable_iff h]
  constructor
  · intro heq
    have hloadable := loadable_rekind_fillKind hfilled
    rwa [heq] at hloadable
  · intro hloadable
    have hsame := ofJson_toJson_of_loadable hloadable
    rw [ofJson_toJson_eq_rekind hfilled] at hsame
    exact Except.ok.inj hsame

/-- The code shows whether a kind was filled in. -/
theorem source_rekind_fillKind_ne (h : [] ∈ unknownKinds p.walk) (language : Language)
    (blockScoped : Bool) :
    (p.rekind fillKind).source language blockScoped ≠ p.source language blockScoped := by
  intro heq
  have hlonger := length_source_lt Statement.length_le_fillKind h Statement.length_lt_fillKind_nil
    language blockScoped
  rw [heq] at hlonger
  exact Nat.lt_irrefl _ hlonger

/-- A loaded program that is saved again has the kinds filled in that were missing, and from then on
it stays as it is. The program and its code in every language stay as they were exactly when no kind
is missing, and where one is, the statement was an object whose type is the empty string. -/
theorem resave_eq_iff (h : ofJson j = .ok p) :
    ofJson p.toJson = .ok (p.rekind fillKind) ∧
    ofJson (p.rekind fillKind).toJson = .ok (p.rekind fillKind) ∧
    (p.rekind fillKind = p ↔ [] ∉ unknownKinds p.walk) ∧
    (∀ data id, .unknown [] data id ∈ p.walk → Json.Fields.get data "type" = .str []) ∧
    ∀ (selector : Json) (language : Language), Language.select? selector = some language →
      ∀ (scoping : Option Bool) (s : Session), ∃ (code code' : Text) (s₁ s₂ : Session),
        (Job.generate selector j scoping).Gives s code s₁ ∧
        (Job.generate selector p.toJson scoping).Gives s code' s₂ ∧
        (code' = code ↔ [] ∉ unknownKinds p.walk) := by
  have hfilled := paramsFilled_of_ofJson h
  have hresaved := ofJson_toJson_eq_rekind hfilled
  refine ⟨hresaved, ofJson_toJson_of_loadable (loadable_rekind_fillKind hfilled),
    rekind_fillKind_eq_iff h, fun data id ht => ?_, fun selector language hselect scoping s => ?_⟩
  -- An unknown statement without a kind cannot be read back, so it is the gap.
  · rcases loadable_or_untyped h ht with hloadable | ⟨data', id', heq, htype⟩
    · exact absurd rfl hloadable
    · obtain ⟨-, rfl, -⟩ := Statement.unknown.inj heq
      exact htype
  · obtain ⟨s₁, hcode⟩ := Job.gives_generate h hselect scoping s
    obtain ⟨s₂, hcode'⟩ := Job.gives_generate hresaved hselect scoping s
    refine ⟨_, _, s₁, s₂, hcode, hcode', fun heq hmem => ?_, fun hkinds => ?_⟩
    · exact source_rekind_fillKind_ne hmem _ _ heq
    · rw [(rekind_fillKind_eq_iff h).2 hkinds]

/-- Where a type is missing or some odd value rather than the empty string, nothing changes. -/
theorem resave_eq_iff_odd_types : ∃ (j : Json) (p : Program Unit),
    j = .obj [("type", .str "program"), ("body", .arr [.obj [("type", .arr [.str ""])],
      .obj [("id", .int 1)], .str ""])] ∧
    p.body = [.unknown "['']" [("type", .arr [.str ""])] none,
      .unknown "None" [("id", .int 1)] (some "1"), .unknown "str" [("value", .str "")] none] ∧
    ofJson j = .ok p ∧ ofJson p.toJson = .ok p ∧
    ∀ s : Session, ∃ (code : Text) (s₁ s₂ : Session),
      (Job.generate (.str "python") j none).Gives s code s₁ ∧
      (Job.generate (.str "python") p.toJson none).Gives s code s₂ := by
  have hload : ofJson (.obj [("type", .str "program"), ("body", .arr
      [.obj [("type", .arr [.str ""])], .obj [("id", .int 1)], .str ""])]) =
        .ok ⟨[], [], [.unknown "['']" [("type", .arr [.str ""])] none,
          .unknown "None" [("id", .int 1)] (some "1"), .unknown "str" [("value", .str "")] none]⟩ :=
    rfl
  obtain ⟨hresaved, -, hsame, -, hcode⟩ := resave_eq_iff hload
  rw [hsame.2 (by decide +kernel)] at hresaved
  refine ⟨_, _, rfl, rfl, hload, hresaved, fun s => ?_⟩
  obtain ⟨code, code', s₁, s₂, hgives, hgives', heq⟩ :=
    hcode (.str "python") .python (by decide +kernel) none s
  obtain rfl := heq.2 (by decide +kernel)
  exact ⟨code', s₁, s₂, hgives, hgives'⟩

/-- An object whose type is the empty string is another statement once it is saved again, and the
code shows it in every language. -/
theorem resave_changes_untyped : ∃ p q : Program Unit,
    ofJson (.obj [("type", .str "program"), ("body", .arr [.obj [("type", .str "")]])]) = .ok p ∧
      ofJson p.toJson = .ok q ∧ q ≠ p ∧
      ∀ language blockScoped, q.source language blockScoped ≠ p.source language blockScoped := by
  have hload : ofJson (.obj [("type", .str "program"), ("body", .arr [.obj [("type", .str "")]])]) =
      .ok ⟨[], [], [.unknown [] [("type", .str "")] none]⟩ := rfl
  have hkind : [] ∈ unknownKinds
      (⟨[], [], [.unknown [] [("type", .str "")] none]⟩ : Program Unit).walk := by decide +kernel
  refine ⟨_, _, hload, ofJson_toJson_eq_rekind (paramsFilled_of_ofJson hload), ?_, ?_⟩
  · exact fun heq => (rekind_fillKind_eq_iff hload).1 heq hkind
  · exact fun language blockScoped => source_rekind_fillKind_ne hkind language blockScoped

end Program

end BlockFlow
