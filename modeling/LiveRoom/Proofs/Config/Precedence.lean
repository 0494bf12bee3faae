import LiveRoom.Config.Load
import LiveRoom.Files.Tree
import LiveRoom.Proofs.Text.Blank
import LiveRoom.Proofs.Text.Utf8

/-!
# What wins over what

A configuration is found in two steps.  First one of three is taken: the one in the file
that a variable names, the one in the user's own file, or the defaults
(`Config.Beneath`).  Then another variable may replace the address of the service in it,
and nothing else (`Config.Overrides`).

The two files are not treated alike.  A named file has to be there and to hold a
configuration; if it does not, that is an error which names the variable, and nothing takes
its place.  The user's own file may be missing, but once the path leads anywhere it must
hold a configuration as well.  The address has no part in this: it changes a success and
never turns one into a failure or back.
-/

namespace LiveRoom

/-- **A file holds a configuration**: its bytes are the UTF-8 of a text that spells it. -/
def Files.Holds (files : Files) (path : Path) (config : Config) : Prop :=
  ∃ text : String, files.readBytes path = .ok (Utf8.encode text.toList) ∧
    Config.ofJson text = .ok config

theorem Files.readText_eq_ok_iff {files : Files} {path : Path} {text : String} :
    files.readText path = .ok text ↔ files.readBytes path = .ok (Utf8.encode text.toList) := by
  have hdecode : ∀ content, Utf8.decode? content = some text.toList ↔
      content = Utf8.encode text.toList := fun _ => Utf8.decode?_eq_some_iff
  unfold readText
  cases files.readBytes path with
  | error error => simp
  | ok content =>
    rw [Except.ok.injEq, ← hdecode]
    dsimp only
    cases Utf8.decode? content with
    | none => simp
    | some decoded =>
      rw [Except.ok.injEq, Option.some.injEq]
      constructor
      · rintro rfl
        exact String.toList_ofList.symm
      · rintro rfl
        exact String.ofList_toList

namespace Config

variable {lookup : String → Option String} {directory : Option Path} {files : Files}

/-! ## One file -/

/-- **Reading a file succeeds** exactly if it holds a configuration, and gives that one. -/
theorem ofFile_eq_ok_iff {path : Path} {config : Config} :
    ofFile files path = .ok config ↔ files.Holds path config := by
  unfold ofFile Files.Holds
  simp only [← Files.readText_eq_ok_iff]
  cases files.readText path with
  | error error => simp
  | ok text =>
    simp only [Except.ok.injEq, exists_eq_left']
    cases ofJson text <;> simp

/-- **Reading a file fails** exactly if it holds no configuration. -/
theorem exists_ofFile_eq_error_iff {path : Path} :
    (∃ error, ofFile files path = .error error) ↔ ∀ config, ¬ files.Holds path config := by
  simp only [← ofFile_eq_ok_iff]
  cases ofFile files path <;> simp

/-! ## The file that is taken -/

/-- **The configuration beneath the override**: what the named file holds, or what the
user's own file holds, or the defaults. -/
inductive Beneath (lookup : String → Option String) (directory : Option Path) (files : Files) :
    Config → Prop where
  | named {value : String} {config : Config} (set : lookup configVariable = some value)
      (file : files.Holds (Path.ofString value) config) : Beneath lookup directory files config
  | own {place : Path} {config : Config} (unset : lookup configVariable = none)
      (given : directory = some place) (present : files.contains (ownFile place) = true)
      (file : files.Holds (ownFile place) config) : Beneath lookup directory files config
  | defaults (unset : lookup configVariable = none)
      (absent : ∀ place, directory = some place → files.contains (ownFile place) = false) :
      Beneath lookup directory files Config.default

theorem base_of_named {value : String} (set : lookup configVariable = some value) :
    base lookup directory files =
      (ofFile files (Path.ofString value)).mapError (.named value) := by
  simp only [base, set]

theorem base_of_own {place : Path} (unset : lookup configVariable = none)
    (given : directory = some place) (present : files.contains (ownFile place) = true) :
    base lookup directory files = (ofFile files (ownFile place)).mapError .own := by
  simp only [base, unset, given, present, if_true]

theorem base_of_absent (unset : lookup configVariable = none)
    (absent : ∀ place, directory = some place → files.contains (ownFile place) = false) :
    base lookup directory files = .ok Config.default := by
  cases directory with
  | none => simp only [base, unset]
  | some place => simp [base, unset, absent place rfl]

/-- **The three cases**: a file is named, or the user has one of their own, or neither. -/
theorem source_cases (lookup : String → Option String) (directory : Option Path)
    (files : Files) :
    (∃ value, lookup configVariable = some value) ∨
    (lookup configVariable = none ∧
      ∃ place, directory = some place ∧ files.contains (ownFile place) = true) ∨
    (lookup configVariable = none ∧
      ∀ place, directory = some place → files.contains (ownFile place) = false) := by
  cases hvalue : lookup configVariable with
  | some value => exact .inl ⟨value, rfl⟩
  | none =>
    right
    by_cases hown : ∃ place, directory = some place ∧ files.contains (ownFile place) = true
    · exact .inl ⟨rfl, hown⟩
    · refine .inr ⟨rfl, fun place hplace => ?_⟩
      rw [← Bool.not_eq_true]
      exact fun hpresent => hown ⟨place, hplace, hpresent⟩

theorem mapError_eq_ok_iff {ε ε' α : Type} {x : Except ε α} {f : ε → ε'} {a : α} :
    x.mapError f = .ok a ↔ x = .ok a := by
  cases x <;> simp [Except.mapError]

theorem mapError_eq_error_iff {ε ε' α : Type} {x : Except ε α} {f : ε → ε'} {error : ε'} :
    x.mapError f = .error error ↔ ∃ cause, x = .error cause ∧ f cause = error := by
  cases x <;> simp [Except.mapError]

/-- **The configuration beneath the override is found** where there is one. -/
theorem base_eq_ok_iff {config : Config} :
    base lookup directory files = .ok config ↔ Beneath lookup directory files config := by
  constructor
  · intro h
    rcases source_cases lookup directory files with ⟨value, set⟩ | ⟨unset, place, given, present⟩ |
      ⟨unset, absent⟩
    · rw [base_of_named set, mapError_eq_ok_iff, ofFile_eq_ok_iff] at h
      exact .named set h
    · rw [base_of_own unset given present, mapError_eq_ok_iff, ofFile_eq_ok_iff] at h
      exact .own unset given present h
    · rw [base_of_absent unset absent] at h
      obtain rfl := Except.ok.inj h
      exact .defaults unset absent
  · intro h
    cases h with
    | named set file => rw [base_of_named set, mapError_eq_ok_iff, ofFile_eq_ok_iff]; exact file
    | own unset given present file =>
      rw [base_of_own unset given present, mapError_eq_ok_iff, ofFile_eq_ok_iff]
      exact file
    | defaults unset absent => exact base_of_absent unset absent

/-! ## The address -/

/-- **The override of the address**: an address that is not blank all over replaces the one
beneath, as it stands; without one nothing changes. -/
inductive Overrides (beneath : Config) : Option String → Config → Prop where
  | address {url : String} (filled : ∃ c ∈ url.toList, Text.isBlank c = false) :
      Overrides beneath (some url) { beneath with serverUrl := url }
  | blank {url : String} (blank : ∀ c ∈ url.toList, Text.isBlank c = true) :
      Overrides beneath (some url) beneath
  | unset : Overrides beneath none beneath

theorem overrides_iff {beneath config : Config} {url : Option String} :
    Overrides beneath url config ↔ config = beneath.withServer url := by
  cases url with
  | none =>
    constructor
    · rintro ⟨⟩
      rfl
    · rintro rfl
      exact .unset
  | some url =>
    by_cases hblank : Text.trimmed url = ""
    · have hall := Text.trimmed_eq_empty_iff.mp hblank
      rw [withServer, if_pos hblank]
      constructor
      · rintro (⟨c, hc, hfilled⟩ | _)
        · rw [hall c hc] at hfilled
          cases hfilled
        · rfl
      · rintro rfl
        exact .blank hall
    · have hfilled : ∃ c ∈ url.toList, Text.isBlank c = false := by
        rw [Text.trimmed_eq_empty_iff] at hblank
        simpa using hblank
      rw [withServer, if_neg hblank]
      constructor
      · rintro (_ | hall)
        · rfl
        · exact absurd (Text.trimmed_eq_empty_iff.mpr hall) hblank
      · rintro rfl
        exact .address hfilled

/-! ## Loading -/

theorem load_eq_ok_iff {config : Config} :
    load lookup directory files = .ok config ↔
      ∃ beneath, Beneath lookup directory files beneath ∧
        Overrides beneath (lookup serverVariable) config := by
  simp only [← base_eq_ok_iff, overrides_iff, load]
  cases base lookup directory files with
  | error error => simp [Except.map]
  | ok beneath => simp [Except.map, eq_comm]

/-- **The address has no part in a failure.** -/
theorem load_eq_error_iff {error : LoadError} :
    load lookup directory files = .error error ↔ base lookup directory files = .error error := by
  unfold load
  cases base lookup directory files <;> simp [Except.map]

/-- **A named file decides alone**: what it holds and the address are all that counts. -/
theorem load_congr_of_named {value : String} (set : lookup configVariable = some value)
    {lookup' : String → Option String} {directory' : Option Path} {files' : Files}
    (hset : lookup' configVariable = some value)
    (hserver : lookup' serverVariable = lookup serverVariable)
    (hfile : files'.readBytes (Path.ofString value) = files.readBytes (Path.ofString value)) :
    load lookup' directory' files' = load lookup directory files := by
  have hread : ofFile files' (Path.ofString value) = ofFile files (Path.ofString value) := by
    simp only [ofFile, Files.readText, hfile]
  rw [load, load, base_of_named hset, base_of_named set, hread, hserver]

/-- The chain of a failure under a named file starts with the variable and its value. -/
theorem head?_chain_of_named {value : String} (set : lookup configVariable = some value)
    {error : LoadError} (h : load lookup directory files = .error error) :
    error.chain.head? = some ("IALCTL_CONFIG is set to " ++ value) := by
  rw [load_eq_error_iff, base_of_named set, mapError_eq_error_iff] at h
  obtain ⟨cause, -, rfl⟩ := h
  rfl

/-- A file that is named fails exactly if it holds no configuration. -/
theorem exists_load_eq_error_iff_of_named {value : String}
    (set : lookup configVariable = some value) :
    (∃ error, load lookup directory files = .error error) ↔
      ∀ config, ¬ files.Holds (Path.ofString value) config := by
  simp only [load_eq_error_iff, base_of_named set, mapError_eq_error_iff]
  rw [← exists_ofFile_eq_error_iff]
  constructor
  · rintro ⟨error, cause, hcause, -⟩
    exact ⟨cause, hcause⟩
  · rintro ⟨cause, hcause⟩
    exact ⟨.named value cause, cause, hcause, rfl⟩

/-- Without a named file, loading fails exactly if the user's own file is there and holds no
configuration. -/
theorem exists_load_eq_error_iff_of_unset (unset : lookup configVariable = none) :
    (∃ error, load lookup directory files = .error error) ↔
      ∃ place, directory = some place ∧ files.contains (ownFile place) = true ∧
        ∀ config, ¬ files.Holds (ownFile place) config := by
  simp only [load_eq_error_iff, ← exists_ofFile_eq_error_iff]
  constructor
  · rintro ⟨error, h⟩
    rcases source_cases lookup directory files with ⟨value, set⟩ | ⟨-, place, given, present⟩ |
      ⟨-, absent⟩
    · rw [unset] at set
      cases set
    · rw [base_of_own unset given present, mapError_eq_error_iff] at h
      obtain ⟨cause, hcause, -⟩ := h
      exact ⟨place, given, present, cause, hcause⟩
    · rw [base_of_absent unset absent] at h
      cases h
  · rintro ⟨place, given, present, cause, hcause⟩
    refine ⟨.own cause, ?_⟩
    rw [base_of_own unset given present, hcause]
    rfl

/-- **The three layers of the configuration.**

* A success is the configuration beneath the override with the address over it, and nothing
  else is a success.
* A named file decides alone, together with the address.  Loading fails exactly if that file
  holds no configuration, and then the failure starts with the variable and its value.
* Without a named file, loading fails exactly if the user's own file is there and holds no
  configuration; a directory in its place is such a failure.
* The address has no part in a failure: with any other one the same failures occur. -/
theorem load_decides (lookup : String → Option String) (directory : Option Path)
    (files : Files) :
    (∀ config, load lookup directory files = .ok config ↔
      ∃ beneath, Beneath lookup directory files beneath ∧
        Overrides beneath (lookup serverVariable) config) ∧
    (∀ value, lookup configVariable = some value →
      ((∃ error, load lookup directory files = .error error) ↔
        ∀ config, ¬ files.Holds (Path.ofString value) config) ∧
      (∀ error, load lookup directory files = .error error →
        error.chain.head? = some ("IALCTL_CONFIG is set to " ++ value)) ∧
      ∀ lookup' directory' files', lookup' configVariable = some value →
        lookup' serverVariable = lookup serverVariable →
        files'.readBytes (Path.ofString value) = files.readBytes (Path.ofString value) →
          load lookup' directory' files' = load lookup directory files) ∧
    (lookup configVariable = none →
      ((∃ error, load lookup directory files = .error error) ↔
        ∃ place, directory = some place ∧ files.contains (ownFile place) = true ∧
          ∀ config, ¬ files.Holds (ownFile place) config) ∧
      ∀ (tree : FileTree) (place : Path) (entries : List (Path × Node)), files = tree.files →
        directory = some place → tree.find (ownFile place) = .ok (.directory entries) →
          load lookup directory files = .error (.own (.unreadable (ownFile place) .isDirectory))) ∧
    (∀ lookup', lookup' configVariable = lookup configVariable →
      ∀ error, load lookup' directory files = .error error ↔
        load lookup directory files = .error error) := by
  refine ⟨fun config => load_eq_ok_iff, fun value set => ⟨?_, ?_, ?_⟩, fun unset => ⟨?_, ?_⟩, ?_⟩
  · exact exists_load_eq_error_iff_of_named set
  · exact fun error h => head?_chain_of_named set h
  · exact fun lookup' directory' files' => load_congr_of_named set
  · exact exists_load_eq_error_iff_of_unset unset
  · rintro tree place entries rfl given hfind
    have present : tree.files.contains (ownFile place) = true := by
      simp [FileTree.files, hfind, Except.toOption]
    have hread : ofFile tree.files (ownFile place) =
        .error (.unreadable (ownFile place) .isDirectory) := by
      simp [ofFile, Files.readText, FileTree.files, FileTree.readBytes, hfind]
    rw [load_eq_error_iff, base_of_own unset given present, hread]
    rfl
  · intro lookup' hsame error
    simp only [load_eq_error_iff, base, hsame]

end Config

end LiveRoom
