import BlockFlow.Command.Arguments
import BlockFlow.Proofs.Fallible

/-!
# What arguments select

The selections that are read from arguments, in terms of the arguments themselves: the languages are
the values of the language options from left to right, and a switch is on where its option is given
(`selects_of_readArguments`).
-/

namespace BlockFlow.Command

/-- The values of the language options, from left to right. A value is part of the argument or the
argument after it. -/
def languageValues : List Token → List Text
  | [] => []
  | .option .language (some value) :: rest => value :: languageValues rest
  | .option .language none :: .positional value :: rest => value :: languageValues rest
  | _ :: rest => languageValues rest

/-- What tokens add to the selections of options. -/
structure Selects (tokens : List Token) (o o' : Options) : Prop where
  languages : o'.languages = o.languages ++ (languageValues tokens).map Language.ofName?
  print : o'.print = true ↔ o.print = true ∨ .option .print none ∈ tokens
  ir : o'.ir = true ↔ o.ir = true ∨ .option .ir none ∈ tokens

namespace Options

/-- Setting an option adds a language or leaves the selections as they are. -/
theorem of_assign {o o' : Options} {option : Opt} {value : Text}
    (h : o.assign option value = .ok o') :
    o'.languages = o.languages ++ (if option = .language then [Language.ofName? value] else []) ∧
      o'.print = o.print ∧ o'.ir = o.ir := by
  cases option with
  | language =>
    by_cases hvalue : value = "--"
    · -- No language has this name, so a missing value counts as an unknown one.
      have hnone : Language.ofName? "--" = none := by decide
      simp only [assign, hvalue, if_true] at h
      obtain rfl := Except.ok.inj h
      simp [hvalue, hnone]
    · simp only [assign, hvalue, if_false] at h
      split at h
      case h_1 language hname =>
        obtain rfl := Except.ok.inj h
        simp [hname]
      case h_2 => cases h
  | out | logLevel =>
    obtain rfl := Except.ok.inj h
    simp
  | _ => cases h

end Options

namespace Selects

variable {tokens rest : List Token} {o o₁ o' : Options}

/-- Tokens that select nothing. -/
theorem skip (h : Selects rest o₁ o')
    (hsame : o₁.languages = o.languages ∧ o₁.print = o.print ∧ o₁.ir = o.ir)
    (hvalues : languageValues tokens = languageValues rest)
    (hprint : .option .print none ∈ tokens ↔ .option .print none ∈ rest)
    (hir : .option .ir none ∈ tokens ↔ .option .ir none ∈ rest) : Selects tokens o o' := by
  obtain ⟨hlanguages, hprinted, hwritten⟩ := hsame
  refine ⟨?_, ?_, ?_⟩
  · rw [h.languages, hlanguages, hvalues]
  · rw [h.print, hprinted, hprint]
  · rw [h.ir, hwritten, hir]

/-- Tokens that set an option to a value. -/
theorem assign {option : Opt} {value : Text} (h : Selects rest o₁ o')
    (hassign : o.assign option value = .ok o₁)
    (hvalues : languageValues tokens =
      (if option = .language then [value] else []) ++ languageValues rest)
    (hprint : .option .print none ∈ tokens ↔ .option .print none ∈ rest)
    (hir : .option .ir none ∈ tokens ↔ .option .ir none ∈ rest) : Selects tokens o o' := by
  obtain ⟨hlanguages, hprinted, hwritten⟩ := Options.of_assign hassign
  refine ⟨?_, ?_, ?_⟩
  · rw [h.languages, hlanguages, hvalues, List.map_append, List.append_assoc]
    split <;> rfl
  · rw [h.print, hprinted, hprint]
  · rw [h.ir, hwritten, hir]

/-- A token that turns a switch on. -/
theorem enable {option : Opt} (hoption : option.takesValue = false)
    (h : Selects rest (o.enable option) o') : Selects (.option option none :: rest) o o' := by
  cases option with
  | language | out | logLevel => cases hoption
  | _ => exact ⟨h.languages, by simpa [Options.enable] using h.print,
      by simpa [Options.enable] using h.ir⟩

end Selects

/-- What the tokens select is added to the options they are read into. -/
theorem selects_of_readTokens {o o' : Options} {extras : List Text} {tokens : List Token}
    {path : Text} (h : readTokens o extras tokens = .ok (.run o' path)) : Selects tokens o o' := by
  fun_induction readTokens o extras tokens with
  | case1 o extras =>
    unfold Options.finish at h
    split at h
    · cases h
    · split at h
      · obtain ⟨rfl, -⟩ := Invocation.run.inj (Except.ok.inj h)
        exact ⟨by simp [languageValues], by simp, by simp⟩
      · cases h
  -- These cases end in help or in an error.
  | case2 | case3 | case4 | case6 | case8 => cases h
  | case5 o extras option value rest hvalue ih =>
    obtain ⟨o₁, hassign, hrest⟩ := bind_eq_ok_iff.1 h
    refine (ih o₁ hrest).assign hassign ?_ (by simp) (by simp)
    cases option <;> rfl
  | case7 o extras option _ hvalue value rest ih =>
    obtain ⟨o₁, hassign, hrest⟩ := bind_eq_ok_iff.1 h
    cases option with
    | language | out | logLevel => exact (ih o₁ hrest).assign hassign rfl (by simp) (by simp)
    | _ => cases hvalue
  | case9 o extras option rest _ hvalue ih => exact (ih h).enable (by simpa using hvalue)
  -- These tokens are the path, a separator or left over, and select nothing.
  | case10 _ _ _ _ ih | case12 _ _ _ _ _ _ ih | case13 _ _ _ _ _ ih | case15 _ _ _ _ ih =>
    exact (ih h).skip ⟨rfl, rfl, rfl⟩ rfl (by simp) (by simp)
  | case11 _ _ _ _ _ ih | case14 _ _ _ _ _ ih =>
    exact (ih h).skip ⟨rfl, rfl, rfl⟩ rfl (by simp) (by simp)

/-- What arguments select, by their tokens. -/
theorem selects_of_readArguments {arguments : List Text} {o : Options} {path : Text}
    (h : readArguments arguments = .ok (.run o path)) :
    ∃ tokens, classifyAll arguments = .ok tokens ∧
      o.languages = (languageValues tokens).map Language.ofName? ∧
      (o.print = true ↔ .option .print none ∈ tokens) ∧
      (o.ir = true ↔ .option .ir none ∈ tokens) := by
  obtain ⟨tokens, htokens, hread⟩ := bind_eq_ok_iff.1 h
  have hselects := selects_of_readTokens hread
  exact ⟨tokens, htokens, by simpa using hselects.languages, by simpa using hselects.print,
    by simpa using hselects.ir⟩

end BlockFlow.Command
