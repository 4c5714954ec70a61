import IrChart.Files.Tree

/-!
# Laws of files

What a program may rely on when it works with files, and how its reads are watched.
-/

namespace IrChart

/-! ## Laws

What a program may rely on when it works with files: looking changes nothing, a write that fails
changes nothing either, and a write that succeeds changes the one file it names. File trees obey
these laws: a write puts a file where its path leads, and the path leads there afterwards
(`put_of_writeText`, `locate_put`).
-/

/-- What an action answers in a state. -/
def answerIn {σ α : Type} (action : StateM σ α) (s : σ) : α := (action.run s).1

/-- The action looks at the state and leaves it as it is. -/
def LooksOnly {σ α : Type} (action : StateM σ α) : Prop := ∀ s, (action.run s).2 = s

/-- How the files of a state are seen. Files are told apart by their places; several paths may lead
to one place. -/
class FileView (σ : Type) where
  /-- What files are told apart by. -/
  Place : Type
  /-- The place that a path leads to, if it leads anywhere. -/
  locate : σ → String → Option Place
  /-- The bytes of the file at a place, if there is one. -/
  content : σ → Place → Option ByteArray

/-- The path leads to a file with the text for its content. -/
def FileHolds {σ : Type} [FileView σ] (s : σ) (path text : String) : Prop :=
  ∃ place, FileView.locate s path = some place ∧
    FileView.content s place = some text.toUTF8

/-- The file that the path leads to has the text for its content in the second state, and no other
file differs between the two states. -/
def OnlyWritten {σ : Type} [FileView σ] (s s' : σ) (path text : String) : Prop :=
  ∃ place, FileView.locate s path = some place ∧ FileView.locate s' path = some place ∧
    FileView.content s' place = some text.toUTF8 ∧
    ∀ other, other ≠ place → FileView.content s' other = FileView.content s other

/-- The laws of file access. Why a file cannot be read or written is left open. -/
class LawfulFileAccess (σ : Type) [FileAccess (StateM σ)] [FileView σ] : Prop where
  looksOnly_isFile : ∀ path, LooksOnly (σ := σ) (FileAccess.isFile path)
  looksOnly_readText : ∀ path, LooksOnly (σ := σ) (FileAccess.readText path)
  /-- What is read is the content of the file. -/
  holds_of_read : ∀ (s : σ) path text, answerIn (FileAccess.readText path) s = .ok text →
    FileHolds s path text
  /-- A write that fails changes nothing. -/
  unchanged_of_failed : ∀ (s s' : σ) path text fault,
    (FileAccess.writeText path text : StateM σ (Except FileFault Unit)).run s = (.error fault, s') →
      s' = s
  /-- A write that succeeds changes the file that its path leads to, and no other. -/
  onlyWritten_of_written : ∀ (s s' : σ) path text,
    (FileAccess.writeText path text : StateM σ (Except FileFault Unit)).run s = (.ok (), s') →
      OnlyWritten s s' path text

/-- After an action that looks only, the state is still the same. -/
theorem LooksOnly.run_bind {σ α β : Type} {action : StateM σ α} (h : LooksOnly action)
    (next : α → StateM σ β) (s : σ) :
    (action >>= next).run s = (next (answerIn action s)).run s := by
  have same : action.run s = pure (answerIn action s, s) := Prod.ext rfl (h s)
  rw [StateT.run_bind, same, pure_bind]

/-! ### File trees -/

namespace FileTree

/-- What is found among entries of which those at a place were replaced. -/
theorem find?_replace (entries : List (List String × FileEntry)) (place other : List String)
    (entry : FileEntry) :
    ((entries.map fun e => if e.1 == place then (place, entry) else e).find?
      (·.1 == other)).map Prod.snd =
      if other = place then ((entries.find? (·.1 == place)).map fun _ => entry)
      else (entries.find? (·.1 == other)).map Prod.snd := by
  induction entries with
  | nil => simp
  | cons e entries ih =>
    rw [List.map_cons]
    by_cases here : e.1 = place
    · have there : (e.1 == place) = true := by simpa using here
      rw [there, if_pos rfl]
      by_cases same : other = place
      · simp [same, there]
      · have apart : (place == other) = false := by simpa using Ne.symm same
        have apart' : (e.1 == other) = false := by rw [here, apart]
        simp only [List.find?_cons, apart, apart', ih, if_neg same]
    · have elsewhere : (e.1 == place) = false := by simpa using here
      rw [elsewhere, if_neg Bool.false_ne_true]
      by_cases found : e.1 = other
      · have apart : other ≠ place := fun same => here (found.trans same)
        have hit : (e.1 == other) = true := by simpa using found
        simp only [List.find?_cons, hit, if_neg apart]
      · have miss : (e.1 == other) = false := by simpa using found
        simp only [List.find?_cons, miss, elsewhere, ih]

/-- A place that is no directory is below the directory of the tree. -/
theorem below_of_get?_ne_directory {tree : FileTree} {place : List String}
    (file : tree.get? place ≠ some .directory) : ¬ (isAbove place || place == root) = true := by
  intro above
  apply file
  rw [get?, if_pos above]

/-- A put changes the entry at its place only. -/
theorem get?_put (tree : FileTree) {place : List String}
    (below : ¬ (isAbove place || place == root) = true) (entry : FileEntry) (other : List String) :
    (tree.put place entry).get? other = if other = place then some entry else tree.get? other := by
  unfold get? put
  by_cases present : tree.entries.any (·.1 == place) = true
  · obtain ⟨e, member, here⟩ := List.any_eq_true.1 present
    obtain ⟨found, hit⟩ := Option.isSome_iff_exists.1
      (List.find?_isSome (p := (·.1 == place)).2 ⟨e, member, here⟩)
    rw [if_pos present, find?_replace, hit]
    by_cases same : other = place
    · rw [if_pos same, if_pos same, same, if_neg below, Option.map_some]
    · rw [if_neg same, if_neg same]
  · have missed : tree.entries.find? (·.1 == place) = none := by
      rw [List.find?_eq_none]
      intro e member here
      exact present (List.any_eq_true.2 ⟨e, member, here⟩)
    rw [if_neg present, List.find?_append]
    by_cases same : other = place
    · rw [if_pos same, same, if_neg below, missed]
      simp
    · have apart : ¬ place = other := Ne.symm same
      simp [same, apart]

@[simp] theorem location_put (tree : FileTree) (place : List String) (entry : FileEntry) :
    (tree.put place entry).location = tree.location := by
  unfold put
  split <;> rfl

/-- Only a directory is entered. -/
theorem get?_of_enter {tree : FileTree} {place next : List String} {part : String}
    (entered : tree.enter place part = .ok next) : tree.get? place = some .directory := by
  unfold enter at entered
  split at entered
  · cases entered
  · cases entered
  · assumption

/-- Putting a file where a walk ends does not change the walk: it went through directories only. -/
theorem foldlM_enter_put {tree : FileTree} {start place : List String} {parts : List String}
    (walked : parts.foldlM tree.enter start = .ok place)
    (file : tree.get? place ≠ some .directory) (entry : FileEntry) :
    parts.foldlM (tree.put place entry).enter start = .ok place := by
  induction parts generalizing start with
  | nil => exact walked
  | cons part parts ih =>
    rw [List.foldlM_cons] at walked ⊢
    cases entered : tree.enter start part with
    | error fault =>
      rw [entered] at walked
      cases walked
    | ok next =>
      have directory := get?_of_enter entered
      have apart : start ≠ place := by
        rintro rfl
        exact file directory
      have same : (tree.put place entry).enter start part = tree.enter start part := by
        unfold enter
        rw [get?_put tree (below_of_get?_ne_directory file), if_neg apart]
      rw [entered] at walked
      rw [same, entered]
      exact ih walked

/-- A path still leads to the file that was put where it leads. -/
theorem locate_put {tree : FileTree} {path : String} {place : List String}
    (located : tree.locate path = .ok place) (file : tree.get? place ≠ some .directory)
    (entry : FileEntry) : (tree.put place entry).locate path = .ok place := by
  have start : (tree.put place entry).startOf path = tree.startOf path := by
    unfold startOf
    rw [location_put]
  unfold locate at located ⊢
  split at located
  · cases located
  · split at located
    · cases located
    · split at located
      · cases located
      · rename_i noNul named short
        rw [if_neg noNul, if_neg named, if_neg short, start]
        exact foldlM_enter_put located file entry

theorem trimSlashes_of_getLast? {path : String} (last : path.toList.getLast? ≠ some '/') :
    trimSlashes path = path := by
  have kept : path.toList.reverse.dropWhile (· == '/') = path.toList.reverse := by
    rw [List.getLast?_eq_head?_reverse] at last
    cases reversed : path.toList.reverse with
    | nil => rfl
    | cons c rest =>
      have other : (c == '/') = false := by simpa [reversed] using last
      rw [List.dropWhile_cons, other, if_neg Bool.false_ne_true]
  unfold trimSlashes
  simp [kept]

/-- A write that succeeds puts a file where its path leads, and no directory was there. -/
theorem put_of_writeText {tree tree' : FileTree} {path text : String}
    (written : tree.writeText path text = .ok tree') :
    ∃ place, tree.locate path = .ok place ∧ tree.get? place ≠ some .directory ∧
      tree' = tree.put place (.file text.toUTF8) := by
  unfold writeText at written
  cases located : tree.locate (trimSlashes path) with
  | error fault =>
    rw [located] at written
    cases written
  | ok place =>
    rw [located] at written
    simp only [bind, Except.bind] at written
    split at written
    · cases written
    · rename_i file
      split at written
      · cases written
      · rename_i last
        cases written
        rw [trimSlashes_of_getLast? last] at located
        exact ⟨place, located, file, rfl⟩

/-- A text that is read is the content of a file. -/
theorem get?_of_readText {tree : FileTree} {path text : String}
    (read : tree.readText path = .ok text) :
    ∃ place, tree.locate path = .ok place ∧ tree.get? place = some (.file text.toUTF8) := by
  unfold readText at read
  cases located : tree.locate path with
  | error fault =>
    rw [located] at read
    cases read
  | ok place =>
    rw [located] at read
    refine ⟨place, rfl, ?_⟩
    simp only [bind, Except.bind] at read
    split at read
    · cases read
    · cases read
    · rename_i bytes found
      split at read
      · rename_i text' decoded
        cases read
        unfold String.fromUTF8? at decoded
        split at decoded
        · cases decoded
          exact found
        · cases decoded
      · cases read

instance : FileView FileTree where
  Place := List String
  locate tree path := (tree.locate path).toOption
  content tree place :=
    match tree.get? place with
    | some (.file bytes) => some bytes
    | _ => none

theorem run_writeText (tree : FileTree) (path text : String) :
    (FileAccess.writeText path text : StateM FileTree (Except FileFault Unit)).run tree =
      match tree.writeText path text with
      | .ok tree' => (.ok (), tree')
      | .error fault => (.error fault, tree) := rfl

theorem onlyWritten_put {tree : FileTree} {path : String} {place : List String}
    (located : tree.locate path = .ok place) (file : tree.get? place ≠ some .directory)
    (text : String) : OnlyWritten tree (tree.put place (.file text.toUTF8)) path text := by
  have found := tree.get?_put (below_of_get?_ne_directory file) (.file text.toUTF8)
  have here := found place
  rw [if_pos rfl] at here
  refine ⟨place, ?_, ?_, ?_, ?_⟩
  · simp [FileView.locate, located, Except.toOption]
  · simp [FileView.locate, locate_put located file, Except.toOption]
  · simp only [FileView.content, here]
  · intro other apart
    simp only [FileView.content, found, if_neg apart]

/-- Runs on file trees obey the laws. -/
instance : LawfulFileAccess FileTree where
  looksOnly_isFile _ _ := rfl
  looksOnly_readText _ _ := rfl
  holds_of_read tree path text read := by
    obtain ⟨place, located, found⟩ := get?_of_readText read
    refine ⟨place, ?_, ?_⟩
    · simp [FileView.locate, located, Except.toOption]
    · simp [FileView.content, found]
  unchanged_of_failed tree tree' path text fault failed := by
    rw [run_writeText] at failed
    split at failed
    · cases failed
    · cases failed
      rfl
  onlyWritten_of_written tree tree' path text written := by
    rw [run_writeText] at written
    split at written
    · rename_i wrote
      cases written
      obtain ⟨place, located, file, rfl⟩ := put_of_writeText wrote
      exact onlyWritten_put located file text
    · cases written

end FileTree

/-! ## Watched files

What an action reads is seen by running the same action on a state that keeps a list of the paths
whose texts were asked for.
-/

/-- A state with the paths whose texts were asked for, in order. -/
structure Watched (σ : Type) where
  state : σ
  reads : List String

namespace Watched

variable {σ α : Type}

/-- An action on the state, of which nothing is noted. -/
def onState (action : StateM σ α) : StateM (Watched σ) α := fun w =>
  let (a, state) := action.run w.state
  (a, { w with state })

variable [FileAccess (StateM σ)]

/-- Every read is noted, whether it succeeds or not. -/
instance : FileAccess (StateM (Watched σ)) where
  isFile path := onState (FileAccess.isFile path)
  readText path := fun w =>
    (onState (FileAccess.readText path)).run { w with reads := w.reads ++ [path] }
  writeText path text := onState (FileAccess.writeText path text)

theorem looksOnly_isFile (looks : ∀ path, LooksOnly (σ := σ) (FileAccess.isFile path))
    (path : String) : LooksOnly (σ := Watched σ) (FileAccess.isFile path) := by
  intro w
  show { w with state := ((FileAccess.isFile path : StateM σ Bool).run w.state).2 } = w
  rw [looks path w.state]

end Watched

end IrChart
