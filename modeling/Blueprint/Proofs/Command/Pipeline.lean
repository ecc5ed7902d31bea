import Blueprint.Proofs.Command.Layers
import Blueprint.Proofs.Outcome
import Blueprint.Template.Expand

/-!
# Commands and the library

`generate` and `check` do nothing of their own. They open a project, which is to have its
settings, to read its definition, to parse it and to load it, in this order
(`Blueprint.Command.Opens`), and the first of these steps that fails is what the command fails
of (`Blueprint.Command.Stops`).

| a project | `generate` | `check` |
|---|---|---|
| opens | renders it, and ends as the run does | succeeds |
| stops | fails, and changes nothing | fails in the same way |

So the disk that `generate` leaves is the one that the run leaves, with the options of
`Blueprint.Settings.Choices.layered`, and `check` never changes the disk
(`Blueprint.Command.commands_follow_pipeline`). A log file is opened before all of this, and
everything that is said here is said of the disk with the log file on it.

All of this is the same for any readers of TOML and YAML (`Blueprint.Command.Formats`), since
what a text gives is only passed on. Each step has one lemma that says what it gives and one
that says what it fails of:

| step | gives | fails of |
|---|---|---|
| settings | `findSettings_eq_ok_iff` | `findSettings_eq_error_iff` |
| definition | `readDefinition_eq_ok_iff` | `readDefinition_eq_error_iff` |
| both | `readSources_eq_ok_iff` | `readSources_eq_error_iff` |
| project | `openProject_eq_ok_iff` | `openProject_eq_error_iff` |
-/

namespace Blueprint

namespace Command

open Settings (Choices)

variable {formats : Formats} {d : Disk} {config : Option String} {definition : String}
  {choices : Choices} {project : Project} {settings : Settings} {document : Tree}
  {failure : Failure}

/-! ### The steps before the render -/

/-- **Settings are at a path**: a text that is a document of settings, with these choices. -/
def SettingsAt (formats : Formats) (d : Disk) (path : String) (choices : Choices) : Prop :=
  ∃ (text : String) (document : formats.Item), d.readText path = .ok text ∧
    formats.toml? text = some document ∧ (Settings.read? document).isSome = true ∧
    choices = .ofDocument document

/-- **The settings for a definition**: those that are named, those that stand beside the
definition if there is a file, or none. -/
inductive SettingsFor (formats : Formats) (d : Disk) (definition : String) :
    Option String → Choices → Prop
  | named {path : String} {choices : Choices} (h : SettingsAt formats d path choices) :
      SettingsFor formats d definition (some path) choices
  | beside {choices : Choices} (hfile : d.isFile (Settings.besidePath definition) = true)
      (h : SettingsAt formats d (Settings.besidePath definition) choices) :
      SettingsFor formats d definition none choices
  | absent (hfile : d.isFile (Settings.besidePath definition) = false) :
      SettingsFor formats d definition none .none

/-- **A project opens**: it has settings, and its definition is a document that loads with
their options. -/
structure Opens (formats : Formats) (d : Disk) (config : Option String) (definition : String)
    (choices : Choices) (project : Project) : Prop where
  settings : SettingsFor formats d definition config choices
  loads : ∃ text document, d.readText definition = .ok text ∧
    formats.definition? text = some document ∧
    load choices.settings.load document = .ok project

/-- **A project stops** at the first step that fails, with what this step is wrong about. -/
inductive Stops (formats : Formats) (d : Disk) (config : Option String) (definition : String) :
    Failure → Prop
  | settings {error : SettingsError}
      (h : Settings.findWith formats.toml? d config definition = .error error) :
      Stops formats d config definition (.settings error)
  | unreadable {choices : Choices} {fault : DiskFault}
      (hs : SettingsFor formats d definition config choices)
      (h : d.readText definition = .error fault) :
      Stops formats d config definition (.unreadable fault)
  | invalidYaml {choices : Choices} {text : String}
      (hs : SettingsFor formats d definition config choices)
      (htext : d.readText definition = .ok text) (h : formats.definition? text = none) :
      Stops formats d config definition .invalidYaml
  | load {choices : Choices} {text : String} {document : Tree} {error : LoadError}
      (hs : SettingsFor formats d definition config choices)
      (htext : d.readText definition = .ok text)
      (hdocument : formats.definition? text = some document)
      (h : Blueprint.load choices.settings.load document = .error error) :
      Stops formats d config definition (.load error)

/-! ### Settings -/

/-- A text has settings exactly when a document of settings is read from it. -/
theorem ofTextWith_eq_ok_iff {path text : String} :
    Settings.ofTextWith formats.toml? path text = .ok settings ↔
      ∃ document, formats.toml? text = some document ∧
        Settings.read? document = some settings := by
  rw [Settings.ofTextWith, ← Option.bind_eq_some_iff]
  cases (formats.toml? text).bind Settings.read? <;> simp

/-- **Settings are read at a path** exactly when some are there, and are those of their choices. -/
theorem readAt_eq_ok_iff {path : String} :
    Settings.readAt formats.toml? d path = .ok settings ↔
      ∃ choices, SettingsAt formats d path choices ∧ choices.settings = settings := by
  rw [Settings.readAt]
  constructor
  · intro h
    split at h
    next => exact nomatch h
    next text htext =>
      obtain ⟨document, hdocument, hread⟩ := ofTextWith_eq_ok_iff.mp h
      have hsome : (Settings.read? document).isSome = true := by rw [hread, Option.isSome_some]
      exact ⟨.ofDocument document, ⟨text, document, htext, hdocument, hsome, rfl⟩,
        (Settings.eq_settings_of_read hread).symm⟩
  · rintro ⟨choices, ⟨text, document, htext, hdocument, hsome, rfl⟩, rfl⟩
    obtain ⟨found, hfound⟩ := Option.isSome_iff_exists.mp hsome
    rw [htext, ← Settings.eq_settings_of_read hfound]
    exact ofTextWith_eq_ok_iff.mpr ⟨document, hdocument, hfound⟩

/-- **The settings that are found are the settings for the definition.** -/
theorem findWith_eq_ok_iff :
    Settings.findWith formats.toml? d config definition = .ok settings ↔
      ∃ choices, SettingsFor formats d definition config choices ∧ choices.settings = settings := by
  rw [Settings.findWith]
  cases config with
  | some path =>
    simp only [Settings.path?, readAt_eq_ok_iff]
    refine exists_congr fun choices => and_congr_left fun _ => ⟨.named, ?_⟩
    rintro (h | _ | _)
    exact h
  | none =>
    cases hfile : d.isFile (Settings.besidePath definition) with
    | true =>
      simp only [Settings.path?, hfile, if_true, readAt_eq_ok_iff]
      refine exists_congr fun choices => and_congr_left fun _ => ⟨.beside hfile, ?_⟩
      rintro (_ | ⟨_, h⟩ | habsent)
      · exact h
      · exact nomatch hfile.symm.trans habsent
    | false =>
      simp only [Settings.path?, hfile, Bool.false_eq_true, if_false]
      constructor
      · intro h
        exact ⟨.none, .absent hfile, Choices.settings_none.trans (Except.ok.inj h)⟩
      · rintro ⟨choices, _ | ⟨hpresent, _⟩ | _, rfl⟩
        · exact nomatch hfile.symm.trans hpresent
        · rw [Choices.settings_none]

theorem findSettings_eq_ok_iff :
    findSettings formats d config definition = .ok settings ↔
      ∃ choices, SettingsFor formats d definition config choices ∧ choices.settings = settings := by
  rw [findSettings, mapError_eq_ok_iff, findWith_eq_ok_iff]

theorem findSettings_eq_error_iff :
    findSettings formats d config definition = .error failure ↔
      ∃ error, Settings.findWith formats.toml? d config definition = .error error ∧
        .settings error = failure := by
  rw [findSettings, mapError_eq_error_iff]

/-! ### Definitions -/

theorem readDefinition_eq_ok_iff :
    readDefinition formats d definition = .ok document ↔
      ∃ text, d.readText definition = .ok text ∧ formats.definition? text = some document := by
  rw [readDefinition]
  cases d.readText definition with
  | error fault => simp
  | ok text => cases hdocument : formats.definition? text <;> simp [hdocument]

theorem readDefinition_eq_error_iff :
    readDefinition formats d definition = .error failure ↔
      (∃ fault, d.readText definition = .error fault ∧ .unreadable fault = failure) ∨
      ∃ text, d.readText definition = .ok text ∧ formats.definition? text = none ∧
        .invalidYaml = failure := by
  rw [readDefinition]
  cases d.readText definition with
  | error fault => simp
  | ok text => cases hdocument : formats.definition? text <;> simp [hdocument]

/-! ### Opening a project -/

theorem readSources_eq_ok_iff :
    readSources formats d config definition = .ok (settings, document) ↔
      findSettings formats d config definition = .ok settings ∧
        readDefinition formats d definition = .ok document := by
  simp [readSources, bind_eq_ok_iff, pure, Except.pure]

/-- The definition is read after the settings. -/
theorem readSources_eq_error_iff :
    readSources formats d config definition = .error failure ↔
      findSettings formats d config definition = .error failure ∨
      (∃ settings, findSettings formats d config definition = .ok settings) ∧
        readDefinition formats d definition = .error failure := by
  simp [readSources, bind_eq_error_iff, pure, Except.pure]

theorem openProject_eq_ok_iff :
    openProject formats d config definition = .ok (settings, project) ↔
      ∃ document, readSources formats d config definition = .ok (settings, document) ∧
        load settings.load document = .ok project := by
  simp [openProject, bind_eq_ok_iff, mapError_eq_ok_iff, pure, Except.pure]

/-- The definition is loaded after the sources are read. -/
theorem openProject_eq_error_iff :
    openProject formats d config definition = .error failure ↔
      readSources formats d config definition = .error failure ∨
      ∃ settings document, readSources formats d config definition = .ok (settings, document) ∧
        ∃ error, load settings.load document = .error error ∧ .load error = failure := by
  simp [openProject, bind_eq_error_iff, mapError_eq_error_iff, pure, Except.pure]

/-- **A project is opened exactly when it opens**, with the settings of its choices. -/
theorem openProject_eq_ok_iff_opens :
    openProject formats d config definition = .ok (settings, project) ↔
      ∃ choices, Opens formats d config definition choices project ∧
        choices.settings = settings := by
  simp only [openProject_eq_ok_iff, readSources_eq_ok_iff, findSettings_eq_ok_iff,
    readDefinition_eq_ok_iff]
  constructor
  · rintro ⟨document, ⟨⟨choices, hs, rfl⟩, text, htext, hdocument⟩, hload⟩
    exact ⟨choices, ⟨hs, text, document, htext, hdocument, hload⟩, rfl⟩
  · rintro ⟨choices, ⟨hs, text, document, htext, hdocument, hload⟩, rfl⟩
    exact ⟨document, ⟨⟨choices, hs, rfl⟩, text, htext, hdocument⟩, hload⟩

/-- **A project is not opened exactly when it stops**, for the same reason. -/
theorem openProject_eq_error_iff_stops :
    openProject formats d config definition = .error failure ↔
      Stops formats d config definition failure := by
  simp only [openProject_eq_error_iff, readSources_eq_error_iff, readSources_eq_ok_iff,
    findSettings_eq_error_iff, findSettings_eq_ok_iff, readDefinition_eq_error_iff,
    readDefinition_eq_ok_iff]
  constructor
  · rintro (hsources | ⟨_, document, ⟨⟨choices, hs, rfl⟩, text, htext, hdocument⟩, error, h, rfl⟩)
    · rcases hsources with ⟨error, h, rfl⟩ | ⟨⟨_, choices, hs, -⟩, hdefinition⟩
      · exact .settings h
      · rcases hdefinition with ⟨fault, h, rfl⟩ | ⟨text, htext, h, rfl⟩
        · exact .unreadable hs h
        · exact .invalidYaml hs htext h
    · exact .load hs htext hdocument h
  · intro h
    cases h with
    | settings h => exact .inl (.inl ⟨_, h, rfl⟩)
    | unreadable hs h => exact .inl (.inr ⟨⟨_, _, hs, rfl⟩, .inl ⟨_, h, rfl⟩⟩)
    | invalidYaml hs htext h => exact .inl (.inr ⟨⟨_, _, hs, rfl⟩, .inr ⟨_, htext, h, rfl⟩⟩)
    | load hs htext hdocument h =>
      exact .inr ⟨_, _, ⟨⟨_, hs, rfl⟩, _, htext, hdocument⟩, _, h, rfl⟩

theorem openProject_of_opens (h : Opens formats d config definition choices project) :
    openProject formats d config definition = .ok (choices.settings, project) :=
  openProject_eq_ok_iff_opens.mpr ⟨choices, h, rfl⟩

/-- **A project opens or stops**, whatever there is on the disk. -/
theorem opens_or_stops (formats : Formats) (d : Disk) (config : Option String)
    (definition : String) :
    (∃ choices project, Opens formats d config definition choices project) ∨
      ∃ failure, Stops formats d config definition failure := by
  cases hopen : openProject formats d config definition with
  | ok opened =>
    obtain ⟨choices, hopens, -⟩ := openProject_eq_ok_iff_opens.mp hopen
    exact .inl ⟨choices, opened.2, hopens⟩
  | error failure => exact .inr ⟨failure, openProject_eq_error_iff_stops.mp hopen⟩

/-! ### Commands -/

section Commands

variable (expand : Render.Expansion) (runId : String) (verbose dump : Bool)
  {a : GenerateArguments}

theorem status_eq_zero_iff {o : Outcome} : o.status = 0 ↔ o.failure = none := by
  rw [Outcome.status]
  cases o.failure <;> simp

/-- **`generate` is a run of the renderer** where the project opens. -/
theorem generateFiles_of_opens (h : Opens formats d a.config a.definition choices project) :
    (generateFiles formats expand runId verbose a d).disk =
        (Render.renderProject expand (choices.layered a) project d).disk ∧
      (generateFiles formats expand runId verbose a d).failure =
        (Render.renderProject expand (choices.layered a) project d).failure.map .render := by
  rw [generateFiles, openProject_of_opens h]
  simp only [choices.options_settings, Render.Outcome.report]
  cases (Render.renderProject expand (choices.layered a) project d).failure <;> exact ⟨rfl, rfl⟩

/-- `generate` does nothing where the project stops. -/
theorem generateFiles_of_stops (h : Stops formats d a.config a.definition failure) :
    (generateFiles formats expand runId verbose a d).disk = d ∧
      (generateFiles formats expand runId verbose a d).failure = some failure := by
  rw [generateFiles, openProject_eq_error_iff_stops.mpr h]
  exact ⟨rfl, rfl⟩

theorem checkProject_of_opens (h : Opens formats d config definition choices project) :
    (checkProject formats verbose ⟨definition, config, dump⟩ d).failure = none := by
  rw [checkProject, openProject_of_opens h]

theorem checkProject_of_stops (h : Stops formats d config definition failure) :
    (checkProject formats verbose ⟨definition, config, dump⟩ d).failure = some failure := by
  rw [checkProject, openProject_eq_error_iff_stops.mpr h]
  rfl

theorem disk_checkProject (formats : Formats) (verbose : Bool) (c : CheckArguments) (d : Disk) :
    (checkProject formats verbose c d).disk = d := by
  rw [checkProject]
  cases openProject formats d c.config c.definition <;> rfl

/-- An invocation does what its command does on the disk with the log file, and prints more. -/
theorem runWith_of_openLog (formats : Formats) (i : Invocation) {opened : Disk}
    (hlog : openLog d i.logFile = .ok opened) :
    (i.runWith formats expand runId d).disk =
        (i.action.run formats expand runId i.verbose opened).disk ∧
      (i.runWith formats expand runId d).failure =
        (i.action.run formats expand runId i.verbose opened).failure := by
  rw [Invocation.runWith, hlog]
  exact ⟨rfl, rfl⟩

end Commands

/-- **Outcomes of `generate` and `check` that follow the pipeline**, on a disk and for one
definition. -/
structure FollowsPipeline (formats : Formats) (expand : Render.Expansion)
    (a : GenerateArguments) (d : Disk) (generated checked : Outcome) : Prop where
  /-- `generate` succeeds when the project opens and its run succeeds. -/
  generate_iff : generated.status = 0 ↔ ∃ choices project,
    Opens formats d a.config a.definition choices project ∧
      (Render.renderProject expand (choices.layered a) project d).failure = none
  /-- The disk after `generate` is that of the run. -/
  rendered : ∀ choices project, Opens formats d a.config a.definition choices project →
    generated.disk = (Render.renderProject expand (choices.layered a) project d).disk
  /-- The run may fail. -/
  broken : ∀ choices project error, Opens formats d a.config a.definition choices project →
    (Render.renderProject expand (choices.layered a) project d).failure = some error →
      generated.failure = some (.render error)
  /-- Nothing is done where the project stops. -/
  stopped : ∀ failure, Stops formats d a.config a.definition failure →
    generated.disk = d ∧ generated.failure = some failure ∧ checked.failure = some failure
  /-- There is nothing else that may happen. -/
  decided : (∃ choices project, Opens formats d a.config a.definition choices project) ∨
    ∃ failure, Stops formats d a.config a.definition failure
  /-- `check` succeeds when the project opens. -/
  check_iff : checked.status = 0 ↔
    ∃ choices project, Opens formats d a.config a.definition choices project
  check_disk : checked.disk = d

/-- **The commands follow the pipeline**, for any readers of the formats, every disk and all their
arguments. -/
theorem commands_follow_pipeline (formats : Formats) (expand : Render.Expansion) (runId : String)
    (verbose dump : Bool) (logFile : Option String) (a : GenerateArguments) {d opened : Disk}
    (hlog : openLog d logFile = .ok opened) :
    FollowsPipeline formats expand a opened
      (Invocation.runWith formats expand runId ⟨verbose, logFile, .generate a⟩ d)
      (Invocation.runWith formats expand runId
        ⟨verbose, logFile, .check ⟨a.definition, a.config, dump⟩⟩ d) := by
  obtain ⟨hdisk, hfailure⟩ :=
    runWith_of_openLog expand runId formats ⟨verbose, logFile, .generate a⟩ hlog
  obtain ⟨hdisk', hfailure'⟩ := runWith_of_openLog expand runId formats
    ⟨verbose, logFile, .check ⟨a.definition, a.config, dump⟩⟩ hlog
  refine ⟨?generate_iff, ?rendered, ?broken, ?stopped, opens_or_stops _ _ _ _, ?check_iff,
    ?check_disk⟩
  case generate_iff =>
    rw [status_eq_zero_iff, hfailure]
    constructor
    · intro hnone
      rcases opens_or_stops formats opened a.config a.definition with
        ⟨choices, project, h⟩ | ⟨failure, h⟩
      · have hrun := (generateFiles_of_opens expand runId verbose h).2
        exact ⟨choices, project, h, Option.map_eq_none_iff.mp (hrun.symm.trans hnone)⟩
      · exact nomatch (generateFiles_of_stops expand runId verbose h).2.symm.trans hnone
    · rintro ⟨choices, project, h, hnone⟩
      have hrun := (generateFiles_of_opens expand runId verbose h).2
      exact hrun.trans (Option.map_eq_none_iff.mpr hnone)
  case rendered =>
    intro choices project h
    exact hdisk.trans (generateFiles_of_opens expand runId verbose h).1
  case broken =>
    intro choices project error h herror
    have hrun := (generateFiles_of_opens expand runId verbose h).2
    rw [hfailure]
    exact hrun.trans (congrArg (Option.map _) herror)
  case stopped =>
    intro failure h
    obtain ⟨hkept, hstopped⟩ := generateFiles_of_stops expand runId verbose h
    have hchecked := checkProject_of_stops verbose dump h
    exact ⟨hdisk.trans hkept, hfailure.trans hstopped, hfailure'.trans hchecked⟩
  case check_iff =>
    rw [status_eq_zero_iff, hfailure']
    constructor
    · intro hnone
      rcases opens_or_stops formats opened a.config a.definition with hopens | ⟨failure, h⟩
      · exact hopens
      · exact nomatch (checkProject_of_stops verbose dump h).symm.trans hnone
    · rintro ⟨choices, project, h⟩
      exact checkProject_of_opens verbose dump h
  case check_disk => exact hdisk'.trans (disk_checkProject _ _ _ _)

/-! ### A site -/

/-- A definition, settings beside it that name a directory of templates, and a template there. -/
def siteDisk : Disk :=
  let definition := "name: Site\nobjects:\n- name: Page\n  properties:\n  - name: id\n" ++
    "    type: id\nfiles:\n- scope: project\n  input: a.hbs\n  output: a.txt\n"
  ((Disk.blank.install "site.yaml" (.file definition.toUTF8)).install "modelgen.toml"
    (.file "render.template_dir = 't'".toUTF8)).install "t/a.hbs" (.file "hello".toUTF8)

/-- The site, with a directory for its files. -/
def siteArguments : GenerateArguments := ⟨"site.yaml", none, none, some "out", false, false⟩

theorem status_generate_site : (Invocation.runWith .plain Template.expandWith "first"
    ⟨false, none, .generate siteArguments⟩ siteDisk).status = 0 := by
  decide +kernel

/-- The site is generated with the readers of this library, so it opens and its run succeeds. -/
theorem commands_follow_pipeline_site : openLog siteDisk none = .ok siteDisk ∧
    ∃ choices project, Opens .plain siteDisk none "site.yaml" choices project ∧
      (Render.renderProject Template.expandWith (choices.layered siteArguments) project
        siteDisk).failure = none :=
  ⟨rfl, (commands_follow_pipeline .plain Template.expandWith "first" false true none
    siteArguments rfl).generate_iff.mp status_generate_site⟩

end Command

end Blueprint
