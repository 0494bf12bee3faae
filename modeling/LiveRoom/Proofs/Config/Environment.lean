import LiveRoom.Proofs.Config.Precedence
import Mathlib.Data.List.Basic

/-!
# A file that is named in the environment

The value of a variable is bytes.  If those that name a configuration file are UTF-8, the
file decides alone (`Config.Decides`): whatever else differs between two processes, the
directories and the user's own file included, they load the same configuration or fail for
the same reason.

Bytes that are no text do not decide (`Config.decides_exactly_as_text`).  They count as if
the variable were unset, so the user's own file or the defaults take the place of the file
that was named, and nobody is told.
-/

namespace LiveRoom

namespace Environment

variable {environment environment' : Environment} {name other : String}

theorem text?_eq_some_iff {text : String} :
    environment.text? name = some text ↔
      environment.bytes? name = some (Utf8.encode text.toList) := by
  have hdecode : ∀ bytes, Utf8.decode? bytes = some text.toList ↔
      bytes = Utf8.encode text.toList := fun _ => Utf8.decode?_eq_some_iff
  unfold text?
  cases environment.bytes? name with
  | none => simp
  | some bytes =>
    rw [Option.some.injEq, ← hdecode, Option.bind_some, Option.map_eq_some_iff]
    constructor
    · rintro ⟨found, hfound, rfl⟩
      rw [hfound, String.toList_ofList]
    · intro h
      exact ⟨text.toList, h, String.ofList_toList⟩

/-- **Bytes that are no text count as unset.** -/
theorem text?_of_garbled {value : List UInt8} (set : environment.bytes? name = some value)
    (garbled : ∀ text, value ≠ Utf8.encode text) : environment.text? name = none := by
  rw [Option.eq_none_iff_forall_ne_some]
  intro text htext
  rw [text?_eq_some_iff, set] at htext
  exact garbled _ (Option.some.inj htext)

theorem text?_congr (h : environment'.bytes? name = environment.bytes? name) :
    environment'.text? name = environment.text? name := by
  rw [text?, text?, h]

theorem only_congr {names : List String}
    (h : ∀ name ∈ names, environment'.bytes? name = environment.bytes? name) :
    environment'.only names = environment.only names :=
  List.filterMap_congr fun name hname => by rw [h name hname]

def without (environment : Environment) (name : String) : Environment :=
  environment.filter fun entry => entry.1 ≠ name

theorem bytes?_without_self : (environment.without name).bytes? name = none := by
  simp [bytes?, without]

theorem bytes?_without_of_ne (h : other ≠ name) :
    (environment.without name).bytes? other = environment.bytes? other := by
  have hkept : ∀ entry : String × List UInt8,
      (entry.1 ≠ name ∧ entry.1 = other) ↔ entry.1 = other := by
    intro entry
    constructor
    · exact And.right
    · rintro rfl
      exact ⟨h, rfl⟩
  simp only [bytes?, without, List.find?_filter, decide_eq_true_eq, hkept]

theorem configDirectory_congr
    (hdirectory : environment'.bytes? directoryVariable = environment.bytes? directoryVariable)
    (hhome : environment'.bytes? homeVariable = environment.bytes? homeVariable)
    (accountHome : Path) :
    environment'.configDirectory accountHome = environment.configDirectory accountHome := by
  simp only [configDirectory, home, hdirectory, hhome]

end Environment

namespace Config

open Environment

/-! ## A value decides alone -/

/-- **A value of the variable decides alone.**  Wherever the variable has it, the settings are
those of the file that it names, under the address; without a configuration in that file
loading fails.  Two processes that agree on the address and on that file load the same. -/
structure Decides (value : List UInt8) : Prop where
  settings {environment : Environment} {accountHome : Path} {files : Files} {config : Config}
    (set : environment.bytes? configVariable = some value) :
    ofEnvironment environment accountHome files = .ok config ↔
      ∃ beneath, files.Holds value beneath ∧
        Overrides beneath (environment.text? serverVariable) config
  refused {environment : Environment} {accountHome : Path} {files : Files}
    (set : environment.bytes? configVariable = some value) :
    (∃ error, ofEnvironment environment accountHome files = .error error) ↔
      ∀ config, ¬ files.Holds value config
  congr {environment environment' : Environment} {accountHome accountHome' : Path}
    {files files' : Files} (set : environment.bytes? configVariable = some value)
    (set' : environment'.bytes? configVariable = some value)
    (server : environment'.bytes? serverVariable = environment.bytes? serverVariable)
    (file : files'.readBytes value = files.readBytes value) :
    ofEnvironment environment' accountHome' files' = ofEnvironment environment accountHome files

/-- A text decides alone. -/
theorem decides_encode (text : List Char) : Decides (Utf8.encode text) := by
  have hpath : Path.ofString (String.ofList text) = Utf8.encode text := by
    rw [Path.ofString, String.toList_ofList]
  have hset : ∀ environment : Environment,
      environment.bytes? configVariable = some (Utf8.encode text) →
        environment.text? configVariable = some (String.ofList text) := by
    intro environment set
    rw [text?_eq_some_iff, set, String.toList_ofList]
  refine ⟨?_, ?_, ?_⟩
  · intro environment accountHome files config set
    rw [ofEnvironment, load_eq_ok_iff]
    constructor
    · rintro ⟨beneath, hbeneath, hover⟩
      refine ⟨beneath, ?_, hover⟩
      cases hbeneath with
      | named hvalue file =>
        obtain rfl := Option.some.inj ((hset environment set).symm.trans hvalue)
        exact hpath ▸ file
      | own unset => cases (hset environment set).symm.trans unset
      | defaults unset => cases (hset environment set).symm.trans unset
    · rintro ⟨beneath, file, hover⟩
      exact ⟨beneath, .named (hset environment set) (hpath.symm ▸ file), hover⟩
  · intro environment accountHome files set
    rw [ofEnvironment, exists_load_eq_error_iff_of_named (hset environment set), hpath]
  · intro environment environment' accountHome accountHome' files files' set set' server file
    rw [ofEnvironment, ofEnvironment]
    exact load_congr_of_named (hset environment set) (hset environment' set')
      (text?_congr server) (hpath.symm ▸ file)

/-! ## Bytes that are no text -/

section Garbled
variable {value : List UInt8}

/-- **Bytes that are no text are dropped**: the configuration is that of an environment without
the variable. -/
theorem ofEnvironment_of_garbled {environment : Environment}
    (set : environment.bytes? configVariable = some value)
    (garbled : ∀ text, value ≠ Utf8.encode text) (accountHome : Path) (files : Files) :
    ofEnvironment environment accountHome files =
      ofEnvironment (environment.without configVariable) accountHome files := by
  have hconfig : environment.text? configVariable = none := text?_of_garbled set garbled
  have hconfig' : (environment.without configVariable).text? configVariable = none := by
    rw [text?, bytes?_without_self]
    rfl
  have hserver : (environment.without configVariable).text? serverVariable =
      environment.text? serverVariable := text?_congr (bytes?_without_of_ne (by decide))
  have hdirectory : (environment.without configVariable).configDirectory accountHome =
      environment.configDirectory accountHome :=
    configDirectory_congr (bytes?_without_of_ne (by decide)) (bytes?_without_of_ne (by decide))
      accountHome
  simp only [ofEnvironment, load, base, hconfig, hconfig', hserver, hdirectory]

def noFiles : Files := ⟨fun _ => false, fun _ => .error .notFound⟩

/-- Where there are no files, an address in the environment is laid over the defaults. -/
theorem ofEnvironment_noFiles_of_server {environment : Environment} {url : String}
    (unset : environment.text? configVariable = none)
    (set : environment.text? serverVariable = some url) (filled : Text.trimmed url ≠ "")
    (accountHome : Path) :
    ofEnvironment environment accountHome noFiles = .ok { default with serverUrl := url } := by
  rw [ofEnvironment, load, base_of_absent unset fun _ _ => rfl, set]
  show Except.ok (withServer default (some url)) = _
  rw [withServer, if_neg filled]

/-- **Bytes that are no text give way to the defaults** where there are no files. -/
theorem ofEnvironment_noFiles_of_garbled (garbled : ∀ text, value ≠ Utf8.encode text)
    (accountHome : Path) :
    ofEnvironment [(configVariable, value)] accountHome noFiles = .ok default := by
  have hset : Environment.bytes? [(configVariable, value)] configVariable = some value := by
    simp [bytes?]
  have hconfig := text?_of_garbled hset garbled
  have hserver : Environment.text? [(configVariable, value)] serverVariable = none := by
    have hne : configVariable ≠ serverVariable := by decide
    simp [text?, bytes?, hne]
  rw [ofEnvironment, load, base_of_absent hconfig fun _ _ => rfl, hserver]
  rfl

/-- So they do not decide: nothing can be read there, and yet loading does not fail. -/
theorem not_decides_of_garbled (garbled : ∀ text, value ≠ Utf8.encode text) :
    ¬ Decides value := by
  intro hdecides
  have hset : Environment.bytes? [(configVariable, value)] configVariable = some value := by
    simp [bytes?]
  have hnothing : ∀ config, ¬ noFiles.Holds value config := by
    rintro config ⟨text, hread, -⟩
    cases hread
  have hrefused : ∃ error,
      ofEnvironment [(configVariable, value)] [Path.separator] noFiles = .error error :=
    (hdecides.refused hset).mpr hnothing
  obtain ⟨error, herror⟩ := hrefused
  rw [ofEnvironment_noFiles_of_garbled garbled] at herror
  cases herror

end Garbled

/-- **A named file decides alone exactly if its name is text.**

Whatever bytes the variable has, they decide alone if they are UTF-8 and do not if they are
not.  In that case the configuration is the one of an environment without the variable. -/
theorem decides_exactly_as_text (value : List UInt8) :
    (Decides value ↔ ∃ text, value = Utf8.encode text) ∧
    ((∀ text, value ≠ Utf8.encode text) → ∀ (environment : Environment) (accountHome : Path)
      (files : Files), environment.bytes? configVariable = some value →
        ofEnvironment environment accountHome files =
          ofEnvironment (environment.without configVariable) accountHome files) := by
  refine ⟨⟨?_, ?_⟩, ?_⟩
  · intro hdecides
    by_contra hgarbled
    exact not_decides_of_garbled (not_exists.mp hgarbled) hdecides
  · rintro ⟨text, rfl⟩
    exact decides_encode text
  · intro garbled environment accountHome files set
    exact ofEnvironment_of_garbled set garbled accountHome files

/-- Under a name of the one byte 0xFF nothing can be read, and the defaults take its place. -/
theorem garbled_name_is_dropped :
    let files := (FileTree.mk .empty [Path.separator]).files
    (∀ config, ¬ files.Holds [0xFF] config) ∧
      ofEnvironment [(configVariable, [0xFF])] [Path.separator] files = .ok default ∧
      ¬ ∀ value, Decides value := by
  intro files
  have garbled : ∀ text, [0xFF] ≠ Utf8.encode text := by
    intro text htext
    have hnone : Utf8.decode? [0xFF] = none := by decide +kernel
    cases hnone.symm.trans (Utf8.decode?_eq_some_iff.mpr htext)
  have hset : Environment.bytes? [(configVariable, [0xFF])] configVariable = some [0xFF] := rfl
  refine ⟨?_, ?_, fun hall => not_decides_of_garbled garbled (hall _)⟩
  · rintro config ⟨text, hread, -⟩
    cases hread
  · have absent : ∀ place, some (Environment.configDirectory [(configVariable, [0xFF])]
        [Path.separator]) = some place → files.contains (ownFile place) = false := by
      rintro _ ⟨⟩
      decide
    rw [ofEnvironment, load, base_of_absent (text?_of_garbled hset garbled) absent]
    rfl

end Config

end LiveRoom
