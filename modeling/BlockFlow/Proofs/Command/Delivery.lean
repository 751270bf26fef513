import BlockFlow.Command.Run
import BlockFlow.Proofs.Command.Files

/-!
# Delivering outputs

Outputs are written one after the other until one fails. Those before it stand complete in their
files, the ones after it are not touched, and no other file changes (`exists_delivery`). Only a text
that cannot be encoded costs the content of its own file.
-/

namespace BlockFlow.Command

open FileTree

/-- Outputs whose names stand for one text each and lead into the output directory. -/
structure WellNamed (outputs : List (Text × Text)) : Prop where
  one : ∀ output ∈ outputs, ∀ output' ∈ outputs, output.1 = output'.1 → output = output'
  below : ∀ output ∈ outputs, output.1 ≠ ".."

/-- The ending of a delivery. -/
def Ending.ofDelivery : Except WriteError Unit → Ending
  | .ok () => .exit 0
  | .error e => .failed (.ofWrite e)

/-- The lines that report written outputs. -/
def reports (directory : Path) (written : List (Text × Text)) : Text :=
  written.flatMap fun output => "[visualcoder] wrote  : " ++ (directory.join output.1).text ++ "\n"

/-- How a delivery ends, by the outputs that were written, the one that was spoiled and those that
were left. It breaks off where the output directory cannot be made, where no file can be opened for
the next output, or where the next output cannot be encoded. -/
inductive Ends (directory : Path) (made : Except FileError Unit) (t' : FileTree) :
    List (Text × Text) → List (Text × Text) → List (Text × Text) → Ending → Prop
  | done {written : List (Text × Text)} : Ends directory made t' written [] [] (.exit 0)
  | unmade {rest : List (Text × Text)} {error : FileError} (unmade : made = .error error) :
      Ends directory made t' [] [] rest (.failed (.file error))
  | unopened {written rest : List (Text × Text)} {output : Text × Text} {fault : FileFault}
      (unopenable : t'.Unopenable ⟨fault, directory.join output.1⟩) :
      Ends directory made t' written [] (output :: rest)
        (.failed (.file ⟨fault, directory.join output.1⟩))
  | unencoded {written rest : List (Text × Text)} {output : Text × Text}
      {error : Text.Utf8.Unencodable} (unencodable : ¬ output.2.Encodable) :
      Ends directory made t' written [output] rest (.failed (.encoding error))

/-- What a delivery into a directory does. -/
structure Delivery (directory : Path) (made : Except FileError Unit) (t : FileTree)
    (written spoiled rest : List (Text × Text)) (t' : FileTree) (stdout : Text) (ending : Ending) :
    Prop where
  /-- The files of the written outputs hold their complete texts. -/
  complete : ∀ output ∈ written,
    t'.find (directory.join output.1) = .ok (.file (.text output.2))
  /-- The file of an output that cannot be encoded is left empty. -/
  emptied : ∀ output ∈ spoiled, t'.find (directory.join output.1) = .ok (.file (.text []))
  /-- Every file that changes is the file of an output. -/
  others : ∀ location, t'.file? location ≠ t.file? location →
    ∃ output ∈ written ++ spoiled, t'.locate (directory.join output.1) = .ok location
  /-- Exactly the written outputs are reported. -/
  reported : stdout = reports directory written
  ends : Ends directory made t' written spoiled rest ending

variable {directory : Path} {made : Except FileError Unit} {t t' : FileTree}
  {written spoiled rest : List (Text × Text)} {stdout : Text} {ending : Ending}

/-- Only an output that cannot be encoded is spoiled. -/
theorem Ends.not_encodable (h : Ends directory made t' written spoiled rest ending) :
    ∀ output ∈ spoiled, ¬ output.2.Encodable := by
  cases h with
  | unencoded unencodable => simpa using unencodable
  | _ => simp

/-- One more output that was written first changes nothing about how a delivery ends. -/
theorem Ends.cons (h : Ends directory (.ok ()) t' written spoiled rest ending)
    (output : Text × Text) :
    Ends directory (.ok ()) t' (output :: written) spoiled rest ending := by
  cases h with
  | done => exact .done
  | unmade unmade => cases unmade
  | unopened unopenable => exact .unopened unopenable
  | unencoded unencodable => exact .unencoded unencodable

/-- A delivery that does not break off has written everything. -/
theorem Ends.of_exit {code : Nat} (h : Ends directory made t' written spoiled rest (.exit code)) :
    code = 0 ∧ spoiled = [] ∧ rest = [] := by
  cases h with
  | done => exact ⟨rfl, rfl, rfl⟩

/-- A delivery that fails for another reason than an encoding spoils nothing. -/
theorem Ends.spoiled_eq_nil {failure : Failure}
    (h : Ends directory made t' written spoiled rest (.failed failure))
    (hfailure : ∀ e, failure ≠ .encoding e) : spoiled = [] := by
  cases h with
  | unmade | unopened => rfl
  | @unencoded _ _ _ error => exact absurd rfl (hfailure error)

/-- Where nothing is reported, nothing was written. -/
theorem eq_nil_of_reports (h : reports directory written = "") : written = [] := by
  cases written with
  | nil => rfl
  | cons output rest => simp [reports, Text.ofString, Text.ofChars] at h

/-- A delivery that wrote nothing leaves every file as it was. -/
theorem Delivery.sameFiles (h : Delivery directory made t [] [] rest t' stdout ending) :
    SameFiles t t' := by
  intro location
  by_contra hchanged
  obtain ⟨output, houtput, -⟩ := h.others location hchanged
  exact absurd houtput List.not_mem_nil

/-- Names stay good when the first output is left out. -/
theorem WellNamed.tail {output : Text × Text} {outputs : List (Text × Text)}
    (h : WellNamed (output :: outputs)) : WellNamed outputs :=
  ⟨fun a ha b hb => h.one a (List.mem_cons_of_mem _ ha) b (List.mem_cons_of_mem _ hb),
    fun a ha => h.below a (List.mem_cons_of_mem _ ha)⟩

/-- One complete write before a delivery. What is delivered later does not touch the file, unless it
is the same output again. -/
theorem Delivery.cons (output : Text × Text) {location : Location}
    (hnamed : WellNamed (output :: (written ++ spoiled ++ rest)))
    (hlocate : t.locate (directory.join output.1) = .ok location)
    (hfree : t.get? location ≠ some .directory) (hencodable : output.2.Encodable)
    (hsame : SameDirectories (t.set location (.file (.text output.2))) t')
    (h : Delivery directory (.ok ()) (t.set location (.file (.text output.2))) written spoiled rest
      t' stdout ending) :
    Delivery directory (.ok ()) t (output :: written) spoiled rest t'
      (reports directory [output] ++ stdout) ending := by
  have hfirst : t'.locate (directory.join output.1) = .ok location :=
    (((sameDirectories_set_file hfree _).trans hsame).locate_iff _ _).2 hlocate
  have hcomplete : t'.find (directory.join output.1) = .ok (.file (.text output.2)) := by
    rw [find_eq_file hfirst]
    by_cases hkept : t'.file? location = (t.set location (.file (.text output.2))).file? location
    · rw [hkept]
      exact file?_set_file hfree _
    · -- The file was written again, so it was for an output of the same name.
      obtain ⟨again, hmem, hagain⟩ := h.others location hkept
      have hlater : again ∈ output :: (written ++ spoiled ++ rest) :=
        List.mem_cons_of_mem _ (List.mem_append_left _ hmem)
      have hname := name_eq_of_locate_join (hnamed.below again hlater)
        (hnamed.below output List.mem_cons_self) hagain hfirst
      obtain rfl := hnamed.one again hlater output List.mem_cons_self hname
      rw [← find_eq_file hagain]
      rcases List.mem_append.1 hmem with hmem | hmem
      · exact h.complete again hmem
      · exact absurd hencodable (h.ends.not_encodable again hmem)
  refine ⟨List.forall_mem_cons.2 ⟨hcomplete, h.complete⟩, h.emptied, ?_, ?_, h.ends.cons output⟩
  · intro changed hchanged
    by_cases hlocation : changed = location
    · exact ⟨output, List.mem_cons_self, hlocation ▸ hfirst⟩
    · rw [← file?_set_of_ne t (.file (.text output.2)) hlocation] at hchanged
      obtain ⟨later, hmem, hlater⟩ := h.others changed hchanged
      exact ⟨later, List.mem_cons_of_mem _ hmem, hlater⟩
  · rw [h.reported]
    simp [reports]

/-- The writing of outputs is a delivery. -/
theorem exists_delivery_writeOutputs (directory : Path) (t : FileTree)
    (outputs : List (Text × Text)) (hnamed : WellNamed outputs) :
    SameDirectories t (writeOutputs directory t outputs).1 ∧
      ∃ written spoiled rest, outputs = written ++ spoiled ++ rest ∧
        Delivery directory (.ok ()) t written spoiled rest (writeOutputs directory t outputs).1
          (writeOutputs directory t outputs).2.1
          (.ofDelivery (writeOutputs directory t outputs).2.2) := by
  induction outputs generalizing t with
  | nil =>
    refine ⟨SameDirectories.refl t, [], [], [], rfl, ?_⟩
    exact ⟨List.forall_mem_nil _, List.forall_mem_nil _, fun _ h => absurd rfl h, rfl, .done⟩
  | cons output rest ih =>
    obtain ⟨name, text⟩ := output
    rcases t.writeText_cases (directory.join name) text with
      ⟨fault, hwrite, hunopenable⟩ | ⟨location, hlocate, hfree, hwrite⟩
    · -- No file can be opened, so the delivery breaks off here with every file as it was.
      simp only [writeOutputs, hwrite]
      refine ⟨SameDirectories.refl t, [], [], (name, text) :: rest, rfl, ?_⟩
      exact ⟨List.forall_mem_nil _, List.forall_mem_nil _, fun _ h => absurd rfl h, rfl,
        .unopened hunopenable⟩
    · rcases hwrite with ⟨e, hunencodable, hwrite⟩ | ⟨hencodable, hwrite⟩
      · -- The file is emptied before the text turns out not to be encodable.
        simp only [writeOutputs, hwrite]
        have hsame := sameDirectories_set_file hfree (.text [])
        have hlocate' := (hsame.locate_iff _ _).2 hlocate
        refine ⟨hsame, [], [(name, text)], rest, rfl, List.forall_mem_nil _, ?_, ?_, rfl,
          .unencoded hunencodable⟩
        · rw [List.forall_mem_singleton, find_eq_file hlocate']
          exact file?_set_file hfree _
        · intro changed hchanged
          by_cases hlocation : changed = location
          · exact ⟨(name, text), List.mem_singleton_self _, hlocation ▸ hlocate'⟩
          · exact absurd (file?_set_of_ne t _ hlocation) hchanged
      · obtain ⟨hsame, written, spoiled, rest, rfl, hdelivery⟩ :=
          ih (t.set location (.file (.text text))) hnamed.tail
        simp only [writeOutputs, hwrite]
        refine ⟨(sameDirectories_set_file hfree _).trans hsame, (name, text) :: written, spoiled,
          rest, rfl, ?_⟩
        have hcons := hdelivery.cons (name, text) hnamed hlocate hfree hencodable hsame
        simpa [reports] using hcons

/-- Outputs that are not printed are delivered into the output directory. -/
theorem exists_delivery (directory : Path) (t : FileTree) (outputs : List (Text × Text))
    (hnamed : WellNamed outputs) :
    ∃ written spoiled rest, outputs = written ++ spoiled ++ rest ∧
      Delivery directory (t.makeDirectories directory).2 t written spoiled rest
        (deliver false directory t outputs).1 (deliver false directory t outputs).2.1
        (.ofDelivery (deliver false directory t outputs).2.2) := by
  have hfiles := t.sameFiles_makeDirectories directory
  simp only [deliver, Bool.false_eq_true, if_false]
  split
  -- Where the output directory cannot be made, nothing is written at all.
  case h_1 t₁ e hmade =>
    rw [hmade] at hfiles ⊢
    refine ⟨[], [], outputs, rfl, List.forall_mem_nil _, List.forall_mem_nil _, ?_, rfl,
      .unmade rfl⟩
    exact fun location h => absurd (hfiles location) h
  case h_2 t₁ hmade =>
    rw [hmade] at hfiles ⊢
    obtain ⟨-, written, spoiled, rest, houtputs, h⟩ :=
      exists_delivery_writeOutputs directory t₁ outputs hnamed
    refine ⟨written, spoiled, rest, houtputs, h.complete, h.emptied, ?_, h.reported, h.ends⟩
    exact fun location hchanged => h.others location (hfiles location ▸ hchanged)

end BlockFlow.Command
