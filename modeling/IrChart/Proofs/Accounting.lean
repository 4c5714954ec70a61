import IrChart.Proofs.Dump.Size
import IrChart.Proofs.Layout.Inside
import IrChart.Proofs.Random.Words
import IrChart.Proofs.Session

/-!
# Words of a session

A session moves its generator by a number of words that can be told beforehand: each step takes
its own number, from the settings and the graph alone (`snd_run_perform`), and a run takes the sum
(`snd_run_performAll`). So what a step answers depends on the steps before it only through the
number of words they took (`accounted`).
-/

namespace IrChart

namespace Session

/-- The session with its generator `n` words further on. -/
def advance (s : Session) (n : Nat) : Session := { s with generator := s.generator.advance n }

@[simp] theorem config_advance (s : Session) (n : Nat) : (s.advance n).config = s.config := rfl

@[simp] theorem advance_zero (s : Session) : s.advance 0 = s := rfl

@[simp] theorem advance_advance (s : Session) (m n : Nat) :
    (s.advance m).advance n = s.advance (m + n) := by
  simp [advance]

end Session

/-- The number of words that a step takes in a session with the given settings. -/
def Step.words (config : Config) : Step → Nat
  | .parse _ => 0
  | .colorize g => Coloring.words g
  | .layout g => Layout.words g config.method
  | .layoutWith g method => Layout.words g method
  | .process source =>
    match Session.parse source with
    | .error _ => 0
    | .ok dump => Coloring.words dump.graph + Layout.words dump.graph config.method

namespace Session

theorem snd_run_colorize (g : Graph) (s : Session) :
    ((colorize g).run s).2 = s.advance (Coloring.words g) := by
  rw [colorize, run_draw, Coloring.takes_assign g s.generator]
  rfl

theorem snd_run_layoutWith (g : Graph) (method : Method) (s : Session) :
    ((layoutWith g method).run s).2 = s.advance (Layout.words g method) := by
  show { s with generator := ((Layout.compute g method).run s.generator).2 } = _
  rw [Layout.takes_compute g method s.generator]
  rfl

theorem run_layout (g : Graph) (s : Session) :
    (layout g).run s = (layoutWith g s.config.method).run s := rfl

/-- A dump that is parsed is colored and placed like any graph. -/
theorem run_process_of_parsed {source : String} {dump : ParsedDump} {s s' s'' : Session}
    {coloring : Coloring} {answer : Except Failure Placement}
    (parsed : parse source = .ok dump)
    (colored : (colorize dump.graph).run s = (coloring, s'))
    (placed : (layout dump.graph).run s' = (answer, s'')) :
    (process source).run s =
      (answer.map fun placement => { dump, coloring, method := s.config.method, placement },
        s'') := by
  have moved : s' = s.advance (Coloring.words dump.graph) := by
    rw [← snd_run_colorize, colored]
  have config : s'.config = s.config := by rw [moved, config_advance]
  rw [run_layout, config] at placed
  have color : (colorize dump.graph).run s = pure (coloring, s') := colored
  have place : (layoutWith dump.graph s.config.method).run s' = pure (answer, s'') := placed
  unfold process
  rw [parsed]
  simp only [StateT.run_bind, color, StateT.run_get, pure_bind, config, place]
  cases answer <;> rfl

theorem snd_run_process (source : String) (s : Session) :
    ((process source).run s).2 = s.advance ((Step.process source).words s.config) := by
  cases parsed : parse source with
  | error failure => rw [run_process_of_error parsed, Step.words, parsed, advance_zero]
  | ok dump =>
    have atColors := snd_run_colorize dump.graph s
    generalize colored : (colorize dump.graph).run s = coloring at atColors
    have atPlaces := snd_run_layoutWith dump.graph coloring.2.config.method coloring.2
    rw [← run_layout] at atPlaces
    generalize placed : (layout dump.graph).run coloring.2 = placement at atPlaces
    rw [run_process_of_parsed parsed colored placed, atPlaces, atColors, config_advance,
      advance_advance, Step.words, parsed]

/-- A step answers what it computes, and leaves what it leaves. -/
theorem run_perform (step : Step) (s : Session) :
    (perform step).run s =
      match step with
      | .parse source => (.parsed (parse source), s)
      | .colorize g => (.colored ((colorize g).run s).1, ((colorize g).run s).2)
      | .layout g => (.placed ((layout g).run s).1, ((layout g).run s).2)
      | .layoutWith g method =>
        (.placed ((layoutWith g method).run s).1, ((layoutWith g method).run s).2)
      | .process source => (.processed ((process source).run s).1, ((process source).run s).2) := by
  cases step with
  | parse source => rfl
  | _ =>
    rw [perform, StateT.run_bind]
    rfl

/-- A step takes the words that its settings and its graph say. -/
theorem snd_run_perform (step : Step) (s : Session) :
    ((perform step).run s).2 = s.advance (step.words s.config) := by
  rw [run_perform]
  cases step with
  | parse source => rfl
  | colorize g => exact snd_run_colorize g s
  | layout g =>
    show ((layout g).run s).2 = s.advance (Layout.words g s.config.method)
    rw [run_layout, snd_run_layoutWith]
  | layoutWith g method =>
    show ((layoutWith g method).run s).2 = s.advance (Layout.words g method)
    rw [snd_run_layoutWith]
  | process source =>
    dsimp only
    exact snd_run_process source s

/-! ### Runs -/

theorem run_performAll_nil (s : Session) : (performAll []).run s = ([], s) := rfl

theorem run_performAll_cons (step : Step) (steps : List Step) (s : Session) :
    (performAll (step :: steps)).run s =
      (((perform step).run s).1 :: ((performAll steps).run ((perform step).run s).2).1,
        ((performAll steps).run ((perform step).run s).2).2) := by
  rw [performAll, List.mapM_cons]
  rfl

theorem run_performAll_append (before after : List Step) (s : Session) :
    (performAll (before ++ after)).run s =
      (((performAll before).run s).1 ++ ((performAll after).run ((performAll before).run s).2).1,
        ((performAll after).run ((performAll before).run s).2).2) := by
  induction before generalizing s with
  | nil => rfl
  | cons step before ih =>
    rw [List.cons_append, run_performAll_cons, ih, run_performAll_cons, List.cons_append]

/-- A run takes the words of its steps. -/
theorem snd_run_performAll (steps : List Step) (s : Session) :
    ((performAll steps).run s).2 = s.advance (steps.map (·.words s.config)).sum := by
  induction steps generalizing s with
  | nil => rfl
  | cons step steps ih =>
    rw [run_performAll_cons, ih, snd_run_perform, config_advance, advance_advance, List.map_cons,
      List.sum_cons]

/-- The answers to the marked steps of a run. -/
def markedResults (run : List (Step × Bool)) (s : Session) : List Result :=
  (((performAll (run.map (·.1))).run s).1.zip (run.map (·.2))).filterMap fun (result, marked) =>
    if marked then some result else none

theorem markedResults_cons (step : Step) (marked : Bool) (run : List (Step × Bool))
    (s : Session) :
    markedResults ((step, marked) :: run) s =
      (if marked then [((perform step).run s).1] else []) ++
        markedResults run ((perform step).run s).2 := by
  unfold markedResults
  rw [List.map_cons, List.map_cons, run_performAll_cons, List.zip_cons_cons, List.filterMap_cons]
  cases marked <;> rfl

/-- Steps that take no words may be left out. -/
theorem run_filter_of_free (run : List (Step × Bool)) (s : Session)
    (free : ∀ entry ∈ run, entry.2 = false → entry.1.words s.config = 0) :
    (performAll ((run.filter (·.2)).map (·.1))).run s =
      (markedResults run s, ((performAll (run.map (·.1))).run s).2) := by
  induction run generalizing s with
  | nil => rfl
  | cons entry run ih =>
    obtain ⟨step, marked⟩ := entry
    have later := ih ((perform step).run s).2 (by
      intro entry member
      rw [snd_run_perform, config_advance]
      exact free entry (List.mem_cons_of_mem _ member))
    rw [markedResults_cons, List.map_cons, run_performAll_cons]
    cases marked with
    | true =>
      rw [List.filter_cons_of_pos rfl, List.map_cons, run_performAll_cons, later]
      rfl
    | false =>
      have stays : ((perform step).run s).2 = s := by
        rw [snd_run_perform, free (step, false) (List.mem_cons_self ..) rfl, advance_zero]
      rw [stays] at later ⊢
      rw [List.filter_cons_of_neg Bool.false_ne_true, later]
      rfl

/-! ### What runs can rely on -/

/-- The steps that make up the process of a source, if it succeeds with the chart. -/
def stages (source : String) (chart : Chart) : List Step :=
  [.parse source, .colorize chart.dump.graph, .layout chart.dump.graph]

/-- The answers to these steps. -/
def stageResults (chart : Chart) : List Result :=
  [.parsed (.ok chart.dump), .colored chart.coloring, .placed (.ok chart.placement)]

/-- A process that succeeds is its stages. -/
theorem run_performAll_stages {source : String} {chart : Chart} {s s' : Session}
    (done : (process source).run s = (.ok chart, s')) :
    (performAll (stages source chart)).run s = (stageResults chart, s') := by
  cases parsed : parse source with
  | error failure =>
    rw [run_process_of_error parsed] at done
    cases done
  | ok dump =>
    generalize colored : (colorize dump.graph).run s = coloring
    generalize placed : (layout dump.graph).run coloring.2 = placement
    rw [run_process_of_parsed parsed colored placed] at done
    obtain ⟨answer, final⟩ := placement
    cases answer with
    | error failure => cases done
    | ok placement =>
      cases done
      have parse : (perform (.parse source)).run s = (.parsed (.ok dump), s) :=
        congrArg (fun answer => (Result.parsed answer, s)) parsed
      have color : (perform (.colorize dump.graph)).run s = (.colored coloring.1, coloring.2) :=
        congrArg (fun answer : Coloring × Session => (Result.colored answer.1, answer.2)) colored
      have place : (perform (.layout dump.graph)).run coloring.2 =
          (.placed (.ok placement), final) :=
        congrArg (fun answer : Except Failure Placement × Session =>
          (Result.placed answer.1, answer.2)) placed
      simp only [stages, run_performAll_cons, parse, color, place, run_performAll_nil]
      rfl

/-- A source that can be parsed is processed: only parsing fails. -/
theorem exists_run_process_eq_ok {source : String} {dump : ParsedDump}
    (parsed : parse source = .ok dump) (size : source.utf8ByteSize < 2 ^ 63) (s : Session) :
    ∃ chart, ((process source).run s).1 = .ok chart := by
  have few : 2 * dump.graph.size + 1 ≤ Single.most := by
    have := size_le_of_parse parsed
    unfold Single.most
    omega
  rw [run_process_of_ok parsed s, Layout.run_compute_eq_ok few]
  exact ⟨_, rfl⟩

theorem length_run_performAll (steps : List Step) (s : Session) :
    ((performAll steps).run s).1.length = steps.length := by
  induction steps generalizing s with
  | nil => rfl
  | cons step steps ih => rw [run_performAll_cons, List.length_cons, ih, List.length_cons]

/-- At any place of a run, a process that succeeds can be replaced by its stages. -/
theorem run_performAll_of_staged {before after : List Step} {source : String}
    {earlier later : List Result} {chart : Chart} {s final : Session}
    (length : earlier.length = before.length)
    (ran : (performAll (before ++ [.process source] ++ after)).run s =
      (earlier ++ [.processed (.ok chart)] ++ later, final)) :
    (performAll (before ++ stages source chart ++ after)).run s =
      (earlier ++ stageResults chart ++ later, final) := by
  generalize started : (performAll before).run s = start
  have size := length_run_performAll before s
  rw [started] at size
  generalize processed : (process source).run start.2 = answer
  have one : (performAll [.process source]).run start.2 = ([.processed answer.1], answer.2) := by
    rw [run_performAll_cons, run_perform]
    dsimp only
    rw [processed]
    rfl
  rw [run_performAll_append, run_performAll_append, started, one] at ran
  obtain ⟨results, rfl⟩ := Prod.mk.inj ran
  obtain ⟨front, rfl⟩ := List.append_inj results (by simp [size, length])
  obtain ⟨rfl, process⟩ := List.append_inj front (size.trans length.symm)
  obtain ⟨result, state⟩ := answer
  cases process
  rw [run_performAll_append, run_performAll_append, started, run_performAll_stages processed]

/-- What runs from a session can rely on. -/
structure Accounted (s : Session) : Prop where
  /-- A run moves the generator by the words of its steps, and changes nothing else. -/
  words : ∀ steps, ((performAll steps).run s).2 = s.advance (steps.map (·.words s.config)).sum
  /-- A process that succeeds can be replaced by its stages, at any place of a run. -/
  staged : ∀ before source after earlier chart later final, earlier.length = before.length →
    (performAll (before ++ [.process source] ++ after)).run s =
      (earlier ++ [.processed (.ok chart)] ++ later, final) →
    (performAll (before ++ stages source chart ++ after)).run s =
      (earlier ++ stageResults chart ++ later, final)
  /-- A process that fails leaves the session as it was. A source has less than `2 ^ 63` bytes, as
  every text in memory does. -/
  failed : ∀ source failure, source.utf8ByteSize < 2 ^ 63 →
    ((process source).run s).1 = .error failure → ((process source).run s).2 = s
  /-- Steps that take no words, here the unmarked ones, can be left out of a run or put into it. -/
  thinned : ∀ run : List (Step × Bool),
    (∀ entry ∈ run, entry.2 = false → entry.1.words s.config = 0) →
    (performAll ((run.filter (·.2)).map (·.1))).run s =
      (markedResults run s, ((performAll (run.map (·.1))).run s).2)

/-- Every session is accounted for: the steps before a step matter to it only by the number of words
they took. -/
theorem accounted (s : Session) : s.Accounted where
  words steps := snd_run_performAll steps s
  staged before source after earlier chart later final length ran :=
    run_performAll_of_staged length ran
  failed source failure size fails := by
    cases parsed : parse source with
    | error why => rw [run_process_of_error parsed]
    | ok dump =>
      obtain ⟨chart, done⟩ := exists_run_process_eq_ok parsed size s
      rw [done] at fails
      cases fails
  thinned run free := run_filter_of_free run s free

end Session
end IrChart
