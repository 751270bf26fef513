import BlockFlow.Command.FileTree
import BlockFlow.Proofs.Fallible
import BlockFlow.Proofs.Text.Encodable

/-!
# What operations do to files

Making directories leaves every file as it was (`sameFiles_makeDirectories`). Writing a text changes
at most the one file its path leads to and no directory (`writeText_cases`), so it does not change
where other paths lead (`SameDirectories.locate_iff`).
-/

namespace BlockFlow.Command

namespace FileTree

variable {t t' t'' : FileTree} {location other : Location}

/-! ## Entries -/

/-- Dropping the entries at one location leaves those at others. -/
theorem lookup_filter_ne (entries : List (Location × Entry)) (h : other ≠ location) :
    (entries.filter (·.1 ≠ location)).lookup other = entries.lookup other := by
  induction entries with
  | nil => rfl
  | cons first rest ih =>
    by_cases hfirst : first.1 = location
    · have hother : (other == first.1) = false := by simpa [hfirst] using h
      rw [List.filter_cons_of_neg (by simpa using hfirst), List.lookup_cons, hother]
      exact ih
    · rw [List.filter_cons_of_pos (by simpa using hfirst), List.lookup_cons, List.lookup_cons, ih]

/-- Putting an entry at a location changes no other location. -/
theorem get?_set_of_ne (t : FileTree) (entry : Entry) (h : other ≠ location) :
    (t.set location entry).get? other = t.get? other := by
  have hbeq : (other == location) = false := by simpa using h
  unfold get? set
  rw [List.lookup_cons, hbeq, lookup_filter_ne t.entries h]

/-- The entry that was put at a location is found there. The root keeps its own. -/
theorem get?_set_self (t : FileTree) (entry : Entry) (h : location ≠ []) :
    (t.set location entry).get? location = some entry := by
  unfold get? set
  rw [if_neg h, List.lookup_cons_self]

/-- What is no directory is not the root. -/
theorem ne_nil_of_get? (h : t.get? location ≠ some .directory) : location ≠ [] := by
  rintro rfl
  exact h rfl

/-- The content of the file at a location, if there is a file. -/
def file? (t : FileTree) (location : Location) : Option Content :=
  match t.get? location with
  | some (.file content) => some content
  | _ => none

/-! ## Files that stay -/

/-- The two trees hold the same files. -/
def SameFiles (t t' : FileTree) : Prop :=
  ∀ location, t'.file? location = t.file? location

theorem SameFiles.refl (t : FileTree) : SameFiles t t :=
  fun _ => rfl

/-- Files that stay in two steps stay in both together. -/
theorem SameFiles.trans (h : SameFiles t t') (h' : SameFiles t' t'') : SameFiles t t'' :=
  fun location => (h' location).trans (h location)

/-- A directory is only made where nothing stands, so no file gives way to it. -/
theorem sameFiles_makeDirectory {p : Path} (h : t.makeDirectory p = .ok t') : SameFiles t t' := by
  obtain ⟨location, -, h⟩ := bind_eq_ok_iff.mp h
  split at h
  · cases h
  case h_2 hnone =>
    obtain rfl := Except.ok.inj h
    intro other
    -- Nothing stood at the location before, and no file stands there now.
    by_cases hother : other = location
    · have hroot : location ≠ [] := ne_nil_of_get? (hnone.trans_ne nofun)
      rw [hother, file?, file?, get?_set_self t .directory hroot, hnone]
    · rw [file?, file?, get?_set_of_ne t .directory hother]

/-- Looking whether a directory is there changes nothing. -/
theorem settleDirectory_fst (t : FileTree) (p : Path) (fault : FileFault) :
    (t.settleDirectory p fault).1 = t := by
  unfold settleDirectory
  split <;> rfl

theorem sameFiles_settleDirectory (t : FileTree) (p : Path) (fault : FileFault) :
    SameFiles t (t.settleDirectory p fault).1 := by
  rw [settleDirectory_fst]
  exact SameFiles.refl t

/-- Each directory on the way is made or left alone, and no file changes in either case. -/
theorem sameFiles_makeDirectoriesFrom (root : Text) (t : FileTree) (parts : List Text) :
    SameFiles t (makeDirectoriesFrom root t parts).1 := by
  induction parts with
  | nil =>
    simp only [makeDirectoriesFrom]
    split
    case h_1 hmade => exact sameFiles_makeDirectory hmade
    case h_2 fault _ => exact sameFiles_settleDirectory t _ fault
  | cons part parents ih =>
    simp only [makeDirectoriesFrom]
    split
    case h_1 hmade => exact sameFiles_makeDirectory hmade
    -- The parents are made first, and then the directory is tried once more.
    case h_2 =>
      split
      case h_1 hparents =>
        rw [hparents] at ih
        exact ih
      case h_2 hparents =>
        rw [hparents] at ih
        split
        case h_1 hmade => exact ih.trans (sameFiles_makeDirectory hmade)
        case h_2 fault _ => exact ih.trans (sameFiles_settleDirectory _ _ fault)
    case h_3 fault _ _ => exact sameFiles_settleDirectory t _ fault

/-- Making directories changes no file, also when it fails. -/
theorem sameFiles_makeDirectories (t : FileTree) (p : Path) :
    SameFiles t (t.makeDirectories p).1 :=
  sameFiles_makeDirectoriesFrom p.root t p.parts.reverse

/-! ## Where paths lead -/

/-- The two trees have the same directories and start relative paths at the same place. -/
structure SameDirectories (t t' : FileTree) : Prop where
  workingDirectory : t'.workingDirectory = t.workingDirectory
  directory : ∀ location, t'.get? location = some .directory ↔ t.get? location = some .directory

theorem SameDirectories.refl (t : FileTree) : SameDirectories t t :=
  ⟨rfl, fun _ => Iff.rfl⟩

/-- Directories that stay in two steps stay in both together. -/
theorem SameDirectories.trans (h : SameDirectories t t') (h' : SameDirectories t' t'') :
    SameDirectories t t'' :=
  ⟨h'.workingDirectory.trans h.workingDirectory,
    fun location => (h'.directory location).trans (h.directory location)⟩

/-- Going down by one component takes a directory, and a name that is not too long. -/
theorem descend_cons_eq_ok (t : FileTree) (location : Location) (part : Text) (rest : List Text)
    (target : Location) :
    t.descend location (part :: rest) = .ok target ↔
      t.get? location = some .directory ∧
        (if part = ".." then t.descend location.dropLast rest
          else if maxNameBytes < Text.Utf8.size part then .error .nameTooLong
          else t.descend (location ++ [part]) rest) = .ok target := by
  rw [descend]
  split
  case h_1 hnone => simp [hnone]
  case h_2 hfile => simp [hfile]
  case h_3 hdirectory => simp [hdirectory]

/-- Going down consults nothing but directories. -/
theorem SameDirectories.descend_iff (h : SameDirectories t t') (parts : List Text)
    (location target : Location) :
    t'.descend location parts = .ok target ↔ t.descend location parts = .ok target := by
  induction parts generalizing location with
  | nil => exact Iff.rfl
  | cons part rest ih =>
    rw [descend_cons_eq_ok, descend_cons_eq_ok, h.directory location]
    -- Both trees agree on whether the location is a directory; what follows is the rest of the
    -- path.
    apply and_congr_right'
    split
    · exact ih _
    · split
      · exact Iff.rfl
      · exact ih _

/-- Where a path leads depends on the directories only. -/
theorem SameDirectories.locate_iff (h : SameDirectories t t') (p : Path) (target : Location) :
    t'.locate p = .ok target ↔ t.locate p = .ok target := by
  unfold locate
  rw [h.workingDirectory]
  split
  · exact Iff.rfl
  · split
    · exact Iff.rfl
    · exact h.descend_iff _ _ _

/-- The last component of a path names the last component of the location. -/
theorem descend_append_name {parts : List Text} {name : Text} (hname : name ≠ "..")
    {target : Location} (h : t.descend location (parts ++ [name]) = .ok target) :
    ∃ parent, t.descend location parts = .ok parent ∧ target = parent ++ [name] := by
  induction parts generalizing location with
  | nil =>
    obtain ⟨-, h⟩ := (descend_cons_eq_ok t location name [] target).1 h
    rw [if_neg hname] at h
    split at h
    · cases h
    · exact ⟨location, rfl, (Except.ok.inj h).symm⟩
  | cons part rest ih =>
    obtain ⟨hdirectory, h⟩ := (descend_cons_eq_ok t location part (rest ++ [name]) target).1 h
    simp only [descend_cons_eq_ok, hdirectory, true_and]
    split at h
    case isTrue hup =>
      rw [if_pos hup]
      exact ih h
    case isFalse hup =>
      rw [if_neg hup]
      -- A name that is too long would have ended the way before its last component.
      split at h
      · cases h
      case isFalse hlong =>
        rw [if_neg hlong]
        exact ih h

/-- A path that leads somewhere has no fault of its own. -/
theorem descend_of_locate {p : Path} {target : Location} (h : t.locate p = .ok target) :
    t.descend (if p.isAbsolute then [] else t.workingDirectory) p.parts = .ok target := by
  unfold locate at h
  split at h
  · cases h
  · split at h
    · cases h
    · exact h

/-- Different names in a directory lead to different locations. -/
theorem name_eq_of_locate_join {directory : Path} {name name' : Text} (hname : name ≠ "..")
    (hname' : name' ≠ "..") (h : t.locate (directory.join name) = .ok location)
    (h' : t.locate (directory.join name') = .ok location) : name = name' := by
  obtain ⟨parent, hparent, hlocation⟩ := descend_append_name hname (descend_of_locate h)
  obtain ⟨parent', hparent', hlocation'⟩ := descend_append_name hname' (descend_of_locate h')
  -- Both names are below the same directory.
  obtain rfl : parent = parent' := Except.ok.inj (hparent.symm.trans hparent')
  exact List.singleton_inj.1 (List.append_cancel_left (hlocation.symm.trans hlocation'))

/-- A path leads to a file with some content where its location holds one. -/
theorem find_eq_file {p : Path} {content : Content} (h : t.locate p = .ok location) :
    t.find p = .ok (.file content) ↔ t.file? location = some content := by
  simp only [find, h, file?, bind, Except.bind]
  split
  case h_1 entry hentry =>
    rw [hentry]
    cases entry <;> simp
  case h_2 hnone => simp [hnone]

/-! ## Writing -/

/-- Putting a file where no directory stands leaves the directories alone. -/
theorem sameDirectories_set_file (h : t.get? location ≠ some .directory) (content : Content) :
    SameDirectories t (t.set location (.file content)) := by
  refine ⟨rfl, fun other => ?_⟩
  by_cases hother : other = location
  · rw [hother, get?_set_self t _ (ne_nil_of_get? h)]
    simpa using h
  · rw [get?_set_of_ne t _ hother]

/-- The file that was put at a location is found there. -/
theorem file?_set_file (h : t.get? location ≠ some .directory) (content : Content) :
    (t.set location (.file content)).file? location = some content := by
  rw [file?, get?_set_self t _ (ne_nil_of_get? h)]

/-- Putting an entry at a location changes no file elsewhere. -/
theorem file?_set_of_ne (t : FileTree) (entry : Entry) (h : other ≠ location) :
    (t.set location entry).file? other = t.file? other := by
  rw [file?, file?, get?_set_of_ne t entry h]

/-- No file can be opened at a path, because it leads nowhere or to a directory. -/
def Unopenable (t : FileTree) (error : FileError) : Prop :=
  t.locate error.path = .error error.fault ∨
    t.isDirectory error.path = true ∧ error.fault = .isADirectory

/-- What a write can do: nothing, empty the file of a text that cannot be encoded, or put the whole
text there. -/
theorem writeText_cases (t : FileTree) (p : Path) (text : Text) :
    (∃ fault, t.writeText p text = (t, .error (.file ⟨fault, p⟩)) ∧ t.Unopenable ⟨fault, p⟩) ∨
      ∃ location, t.locate p = .ok location ∧ t.get? location ≠ some .directory ∧
        ((∃ e, ¬ text.Encodable ∧
            t.writeText p text = (t.set location (.file (.text [])), .error (.encoding e))) ∨
          (text.Encodable ∧
            t.writeText p text = (t.set location (.file (.text text)), .ok ()))) := by
  cases hlocate : t.locate p with
  | error fault =>
    left
    exact ⟨fault, by rw [writeText, hlocate], Or.inl hlocate⟩
  | ok location =>
    by_cases hdirectory : t.get? location = some .directory
    · left
      refine ⟨.isADirectory, by simp [writeText, hlocate, hdirectory], Or.inr ⟨?_, rfl⟩⟩
      simp [isDirectory, find, hlocate, bind, Except.bind, hdirectory]
    · right
      refine ⟨location, rfl, hdirectory, ?_⟩
      -- A file is opened either way; the text decides what it holds in the end.
      have hencodable := Text.Utf8.unencodable?_eq_none_iff text
      cases hfault : Text.Utf8.unencodable? text with
      | none =>
        right
        refine ⟨hencodable.1 hfault, ?_⟩
        rw [writeText, hlocate]
        grind
      | some e =>
        left
        refine ⟨e, fun h => by simp [hencodable.2 h] at hfault, ?_⟩
        rw [writeText, hlocate]
        grind

end FileTree

end BlockFlow.Command
