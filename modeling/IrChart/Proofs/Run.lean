import IrChart.Proofs.Accounting
import IrChart.Proofs.Chart
import IrChart.Proofs.Files.Laws
import IrChart.Proofs.Settings.Resolve

/-!
# Runs are all or nothing

A run looks at its settings and its input, and everything that can fail by then leaves all files as
they were; its last act is one write (`run_run`). So a run that fails changes no file, a run that
succeeds changes one, and of several failures the first in a fixed order is reported
(`run_allOrNothing`).
-/

namespace IrChart

section Looking

variable {σ : Type} [FileAccess (StateM σ)] [FileView σ] [LawfulFileAccess σ]

namespace Settings

/-- Resolving the settings changes no file. -/
theorem looksOnly_resolve (arguments : Arguments) (user : Option String) :
    LooksOnly (σ := σ) (resolve arguments user) := by
  intro s
  rw [run_resolve LawfulFileAccess.looksOnly_isFile]
  cases consulted (isFileIn s) arguments user with
  | none => rfl
  | some path => exact LawfulFileAccess.looksOnly_readText path s

end Settings

/-! ### Reports -/

/-- A source that is refused has no report. -/
theorem reportOf_of_refused {source : String} {failure : ParseFailure}
    (refused : Dump.parse source = .error failure) (input : String) (config : Config)
    (entropy : Random.Key) : reportOf input source config entropy = .error (.parse failure source) := by
  have parsed : Session.parse source = .error (.parse failure source) := by
    rw [Session.parse, refused]
    rfl
  rw [reportOf, Session.run_process_of_error parsed]
  rfl

/-- A source that is parsed has a report: that of its chart. -/
theorem exists_reportOf_eq_ok {source : String} {dump : ParsedDump}
    (parsed : Dump.parse source = .ok dump) (size : source.utf8ByteSize < 2 ^ 63)
    (input : String) (config : Config) (entropy : Random.Key) :
    ∃ chart, ((Session.process source).run (Session.start config entropy)).1 = .ok chart ∧
      reportOf input source config entropy = .ok (Report.render input chart) := by
  obtain ⟨chart, charted⟩ := Session.exists_run_process_eq_ok (Session.parse_eq_ok_iff.2 parsed)
    size (Session.start config entropy)
  refine ⟨chart, charted, ?_⟩
  rw [reportOf, charted]
  rfl

theorem exists_chart_of_reportOf {input source report : String} {config : Config}
    {entropy : Random.Key} (reported : reportOf input source config entropy = .ok report) :
    ∃ chart, ((Session.process source).run (Session.start config entropy)).1 = .ok chart ∧
      Report.render input chart = report := by
  unfold reportOf at reported
  cases charted : ((Session.process source).run (Session.start config entropy)).1 with
  | error failure =>
    rw [charted] at reported
    cases reported
  | ok chart =>
    rw [charted] at reported
    cases reported
    exact ⟨chart, rfl, rfl⟩

/-! ### Runs -/

/-- A run looks at its settings and its input, makes its report, and then writes it. -/
theorem run_run (around : Surroundings) (arguments : Arguments) (s : σ) :
    (run around arguments : StateM σ (Except Failure Unit)).run s =
      match answerIn (Settings.resolve arguments around.userSettings) s with
      | .error problem => (.error (.config problem.message), s)
      | .ok settings =>
        match answerIn (FileAccess.readText arguments.input) s with
        | .error fault => (.error (.io fault), s)
        | .ok source =>
          match reportOf arguments.input source settings.config around.entropy with
          | .error failure => (.error failure, s)
          | .ok report =>
            let write : StateM σ (Except FileFault Unit) :=
              FileAccess.writeText settings.output report
            ((write.run s).1.mapError .io, (write.run s).2) := by
  rw [run, (Settings.looksOnly_resolve arguments around.userSettings).run_bind]
  cases answerIn (Settings.resolve arguments around.userSettings) s with
  | error problem => rfl
  | ok settings =>
    dsimp only
    rw [(LawfulFileAccess.looksOnly_readText arguments.input).run_bind]
    cases answerIn (FileAccess.readText arguments.input) s with
    | error fault => rfl
    | ok source =>
      dsimp only
      cases reportOf arguments.input source settings.config around.entropy with
      | error failure => rfl
      | ok report => rfl

/-- A run stops before it writes and changes nothing, or it writes the report of its input. -/
theorem run_cases (around : Surroundings) (arguments : Arguments) (s : σ) :
    (∃ failure, (run around arguments : StateM σ (Except Failure Unit)).run s =
      (.error failure, s)) ∨
    ∃ settings source report,
      answerIn (Settings.resolve arguments around.userSettings) s = .ok settings ∧
      answerIn (FileAccess.readText arguments.input) s = .ok source ∧
      reportOf arguments.input source settings.config around.entropy = .ok report ∧
      ∀ answer s', (FileAccess.writeText settings.output report : StateM σ _).run s = (answer, s') →
        (run around arguments : StateM σ (Except Failure Unit)).run s =
          (answer.mapError .io, s') := by
  have ran := run_run around arguments s
  cases usable : answerIn (Settings.resolve arguments around.userSettings) s with
  | error problem =>
    rw [usable] at ran
    exact .inl ⟨_, ran⟩
  | ok settings =>
    rw [usable] at ran
    dsimp only at ran
    cases read : answerIn (FileAccess.readText arguments.input) s with
    | error fault =>
      rw [read] at ran
      exact .inl ⟨_, ran⟩
    | ok source =>
      rw [read] at ran
      dsimp only at ran
      cases reported : reportOf arguments.input source settings.config around.entropy with
      | error failure =>
        rw [reported] at ran
        exact .inl ⟨failure, ran⟩
      | ok report =>
        rw [reported] at ran
        dsimp only at ran
        refine .inr ⟨settings, source, report, rfl, rfl, reported, ?_⟩
        intro answer s' wrote
        rw [ran, wrote]

/-- A run that fails changes nothing. -/
theorem unchanged_of_run_failed {around : Surroundings} {arguments : Arguments} {s s' : σ}
    {failure : Failure}
    (fails : (run around arguments : StateM σ (Except Failure Unit)).run s =
      (.error failure, s')) : s' = s := by
  rcases run_cases around arguments s with
    ⟨failure', stopped⟩ | ⟨settings, source, report, -, -, -, wrote⟩
  · rw [stopped] at fails
    cases fails
    rfl
  · generalize write : (FileAccess.writeText settings.output report : StateM σ _).run s = answer
    obtain ⟨answer, after⟩ := answer
    rw [wrote answer after write] at fails
    cases answer with
    | ok _ => cases fails
    | error fault =>
      cases fails
      exact LawfulFileAccess.unchanged_of_failed s _ settings.output report fault write

/-- A run that succeeds changes one file: the output holds the report of the input. -/
theorem onlyWritten_of_run_done {around : Surroundings} {arguments : Arguments} {s s' : σ}
    (done : (run around arguments : StateM σ (Except Failure Unit)).run s = (.ok (), s')) :
    ∃ settings source chart,
      answerIn (Settings.resolve arguments around.userSettings) s = .ok settings ∧
      FileHolds s arguments.input source ∧
      ((Session.process source).run (Session.start settings.config around.entropy)).1 =
        .ok chart ∧
      OnlyWritten s s' settings.output (Report.render arguments.input chart) := by
  rcases run_cases around arguments s with
    ⟨failure, stopped⟩ | ⟨settings, source, report, usable, read, reported, wrote⟩
  · rw [stopped] at done
    cases done
  · generalize write : (FileAccess.writeText settings.output report : StateM σ _).run s = answer
    obtain ⟨answer, after⟩ := answer
    rw [wrote answer after write] at done
    cases answer with
    | error fault => cases done
    | ok _ =>
      cases done
      obtain ⟨chart, charted, rfl⟩ := exists_chart_of_reportOf reported
      have held := LawfulFileAccess.holds_of_read s arguments.input source read
      have only := LawfulFileAccess.onlyWritten_of_written s s' settings.output _ write
      exact ⟨settings, source, chart, usable, held, charted, only⟩

/-- What a run promises about files. -/
structure AllOrNothing (around : Surroundings) (arguments : Arguments) (s : σ) : Prop where
  /-- A run that fails changes nothing. -/
  failed : ∀ failure s',
    (run around arguments : StateM σ (Except Failure Unit)).run s = (.error failure, s') → s' = s
  /-- A run that succeeds changes one file: the output holds the report of the input under the
  settings. -/
  done : ∀ s', (run around arguments : StateM σ (Except Failure Unit)).run s = (.ok (), s') →
    ∃ settings source chart,
      answerIn (Settings.resolve arguments around.userSettings) s = .ok settings ∧
      FileHolds s arguments.input source ∧
      ((Session.process source).run (Session.start settings.config around.entropy)).1 =
        .ok chart ∧
      OnlyWritten s s' settings.output (Report.render arguments.input chart)
  /-- Settings that cannot be used are reported, whatever else is wrong. -/
  config : ∀ problem,
    answerIn (Settings.resolve arguments around.userSettings) s = .error problem →
    answerIn (run around arguments) s = .error (.config problem.message)
  /-- Next comes an input that cannot be read. -/
  unread : ∀ settings fault,
    answerIn (Settings.resolve arguments around.userSettings) s = .ok settings →
    answerIn (FileAccess.readText arguments.input) s = .error fault →
    answerIn (run around arguments) s = .error (.io fault)
  /-- Next comes an input without a node. -/
  refused : ∀ settings source failure,
    answerIn (Settings.resolve arguments around.userSettings) s = .ok settings →
    answerIn (FileAccess.readText arguments.input) s = .ok source →
    Dump.parse source = .error failure →
    answerIn (run around arguments) s = .error (.parse failure source)
  /-- After that only the write can fail. A source has less than `2 ^ 63` bytes, as every text in
  memory does. -/
  written : ∀ settings source dump,
    answerIn (Settings.resolve arguments around.userSettings) s = .ok settings →
    answerIn (FileAccess.readText arguments.input) s = .ok source →
    Dump.parse source = .ok dump → source.utf8ByteSize < 2 ^ 63 →
    ∃ report, reportOf arguments.input source settings.config around.entropy = .ok report ∧
      answerIn (run around arguments) s =
        (answerIn (FileAccess.writeText settings.output report) s).mapError .io

/-- Every run is all or nothing, with any seed or key, on all files that obey the laws. -/
theorem run_allOrNothing (around : Surroundings) (arguments : Arguments) (s : σ) :
    AllOrNothing around arguments s where
  failed _ _ fails := unchanged_of_run_failed fails
  done _ done := onlyWritten_of_run_done done
  config problem unusable := by
    rw [answerIn, run_run, unusable]
  unread settings fault usable unread := by
    rw [answerIn, run_run, usable]
    dsimp only
    rw [unread]
  refused settings source failure usable read refused := by
    rw [answerIn, run_run, usable]
    dsimp only
    rw [read]
    dsimp only
    rw [reportOf_of_refused refused]
  written settings source dump usable read parsed size := by
    obtain ⟨chart, -, reported⟩ := exists_reportOf_eq_ok parsed size arguments.input settings.config
      around.entropy
    refine ⟨_, reported, ?_⟩
    rw [answerIn, run_run, usable]
    dsimp only
    rw [read]
    dsimp only
    rw [reported]
    rfl

end Looking

/-! ### A run on a tree -/

/-- An input, and a directory for its report. -/
def sampleTree : FileTree :=
  { location := "/work"
    entries := [(["d.txt"], .file Session.sampleSource.toUTF8), (["out"], .directory)] }

/-- A run that places nodes on the grid. -/
def sampleArguments : Arguments :=
  { input := "d.txt", output := some "out/report.toml", method := some .grid }

/-- The key of a run without a seed. -/
def sampleKey : Random.Key := .replicate 8 7

theorem run_allOrNothing_sampleTree :
    AllOrNothing ⟨none, sampleKey⟩ sampleArguments sampleTree ∧
      ∃ tree chart,
        (run ⟨none, sampleKey⟩ sampleArguments : StateM FileTree _).run sampleTree = (.ok (), tree) ∧
        OnlyWritten sampleTree tree "out/report.toml" (Report.render "d.txt" chart) := by
  have promise : AllOrNothing ⟨none, sampleKey⟩ sampleArguments sampleTree := run_allOrNothing _ _ _
  have usable : answerIn (Settings.resolve sampleArguments none) sampleTree =
      .ok ⟨⟨.grid, none⟩, "out/report.toml"⟩ := rfl
  have read : answerIn (FileAccess.readText "d.txt") sampleTree = .ok Session.sampleSource := rfl
  obtain ⟨dump, parsed, -⟩ := Session.parse_sampleSource
  obtain ⟨report, -, written⟩ := promise.written _ _ dump usable read
    (Session.parse_eq_ok_iff.1 parsed) (by decide)
  have wrote : answerIn (FileAccess.writeText "out/report.toml" report) sampleTree = .ok () := rfl
  generalize ran : (run ⟨none, sampleKey⟩ sampleArguments : StateM FileTree _).run sampleTree = answer
  obtain ⟨answer, tree⟩ := answer
  have success : answer = .ok () := by
    rw [answerIn, ran, wrote] at written
    exact written
  subst success
  obtain ⟨settings, source, chart, usable', -, -, only⟩ := promise.done tree ran
  rw [usable] at usable'
  cases usable'
  exact ⟨promise, tree, chart, rfl, only⟩

end IrChart
