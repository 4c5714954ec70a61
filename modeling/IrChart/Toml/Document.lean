import IrChart.Toml.Scalar

/-!
# TOML documents

The statements of a text are carried out one after another on a tree of tables. A table may be
opened by one header only, a key may be given one value only, and a table that dotted keys made is
open to dotted keys only. Tables that were made on the way to another one may still be opened.

The entries after a header are collected in a branch of their own, which enters the tree when the
next header or the end of the text is reached. What stands in the way of a header `[key]` is noticed
at the header, what stands in the way of a header `[[key]]` only then.
-/

namespace IrChart.Toml

/-- How a table of a document came to be. -/
inductive Origin where
  /-- On the way to another table. -/
  | implicit
  /-- By a dotted key. -/
  | dotted
  /-- By a header. -/
  | explicit
  /-- As an inline table. -/
  | inline
  deriving DecidableEq, Repr

/-- A part of a document under construction. -/
inductive Tree where
  | leaf (value : Value)
  | table (origin : Origin) (entries : List (String × Tree))
  /-- The tables of headers `[[key]]`, the last one first. -/
  | tables (last : List (String × Tree)) (earlier : List (List (String × Tree)))

/-- The entries of a table under construction. -/
abbrev Branch := List (String × Tree)

namespace Branch

/-- The entry of a key. -/
def get? (branch : Branch) (key : String) : Option Tree :=
  (branch.find? (·.1 == key)).map Prod.snd

/-- `branch` with an entry: in place if it has the key, at the end otherwise. -/
def put (branch : Branch) (key : String) (tree : Tree) : Branch :=
  if branch.any (·.1 == key) then
    branch.map fun entry => if entry.1 == key then (key, tree) else entry
  else branch ++ [(key, tree)]

/-- `branch` without the entry of a key. -/
def remove (branch : Branch) (key : String) : Branch := branch.filter (·.1 != key)

/-- A change of the table at hand, given how it came to be. -/
abbrev Change := Origin → Branch → Except Fault Branch

/-- `branch` with a change made in the table at the end of a path. Missing tables on the way are
made; a list of tables leads to its last one. Nothing enters an inline table, and dotted keys enter
no table that a header opened. -/
def update (dotted : Bool) (change : Change) : Origin → List String → Branch → Except Fault Branch
  | origin, [], branch => change origin branch
  | _, key :: path, branch =>
    match branch.get? key with
    | none => do
      let origin := if dotted then .dotted else .implicit
      return branch ++ [(key, .table origin (← update dotted change origin path []))]
    | some (.table origin inner) =>
      if origin = .inline then .error (.notATable "inline table")
      else if dotted && origin == .explicit then .error .duplicateKey
      else do return branch.put key (.table origin (← update dotted change origin path inner))
    | some (.tables last earlier) => do
      return branch.put key (.tables (← update dotted change .explicit path last) earlier)
    | some (.leaf value) => .error (.notATable value.typeName)

/-- Gives a key its value; a dotted key may end only in a table that dotted keys made, and a plain
key never does. -/
def assign (dotted : Bool) (key : String) (tree : Tree) : Change := fun origin branch =>
  if dotted != (origin == .dotted) then .error .duplicateKey
  else if (branch.get? key).isSome then .error .duplicateKey
  else .ok (branch ++ [(key, tree)])

/-- Takes out what is in the place of a table that a header opens: nothing, or a table that was
made on the way to another one. -/
def vacate (key : String) : Change := fun _ branch =>
  match branch.get? key with
  | none => .ok branch
  | some (.table .implicit _) => .ok (branch.remove key)
  | some _ => .error .duplicateKey

/-- Enters the table of a header. -/
def enter (key : String) (content : Branch) : Change := fun _ branch =>
  .ok (branch.put key (.table .explicit content))

/-- Enters one more table of a list. -/
def append (key : String) (content : Branch) : Change := fun _ branch =>
  match branch.get? key with
  | none => .ok (branch ++ [(key, .tables content [])])
  | some (.tables last earlier) => .ok (branch.put key (.tables content (last :: earlier)))
  | some _ => .error .duplicateKey

/-- The entries of the table at the end of a path; there are none if there is no such table. -/
def descend : List String → Branch → Branch
  | [], branch => branch
  | key :: path, branch =>
    match branch.get? key with
    | some (.table _ inner) => descend path inner
    | some (.tables last _) => descend path last
    | _ => []

/-- The keys of a path, the last one apart. -/
def splitLast : List String → List String × String
  | [] => ([], "")
  | [key] => ([], key)
  | key :: rest => let (path, last) := splitLast rest; (key :: path, last)

end Branch

mutual

/-- The value of a finished part of a document. -/
def Tree.value : Tree → Value
  | .leaf value => value
  | .table _ entries => .table (branchTable entries)
  | .tables last earlier => .array ((branchTables earlier).reverse ++ [.table (branchTable last)])

/-- The table of a finished branch. -/
def branchTable : List (String × Tree) → Table
  | [] => []
  | (key, tree) :: rest => (key, tree.value) :: branchTable rest

/-- The tables of finished branches. -/
def branchTables : List (List (String × Tree)) → List Value
  | [] => []
  | entries :: rest => .table (branchTable entries) :: branchTables rest

end

mutual

/-- The part of a document that a written value stands for. -/
def RawValue.tree : RawValue → Except Fault Tree
  | .missing => do return .leaf (← Scalar.bare [])
  | .bare text => do return .leaf (← Scalar.bare text)
  | .quoted quote text => do return .leaf (.string (← Scalar.string quote text))
  | .array items => do return .leaf (.array (← itemValues items))
  | .inlineTable pairs => do return .table .inline (← pairBranch [] pairs)

/-- The values of written items. -/
def itemValues : List RawValue → Except Fault (List Value)
  | [] => .ok []
  | item :: rest => do
    let tree ← item.tree
    return tree.value :: (← itemValues rest)

/-- The entries of an inline table, added to those that were read before. -/
def pairBranch (branch : Branch) : List (List RawKey × RawValue) → Except Fault Branch
  | [] => .ok branch
  | (key, .missing) :: rest => do
    let _ ← Scalar.keys key
    pairBranch branch rest
  | (key, item) :: rest => do
    let (path, last) := Branch.splitLast (← Scalar.keys key)
    let dotted := !path.isEmpty
    let tree ← item.tree
    pairBranch (← branch.update true (Branch.assign dotted last tree) .explicit path) rest

end

/-- The header of the table that entries go to. -/
structure Header where
  path : List String
  key : String
  isArray : Bool
  deriving DecidableEq, Repr

/-- A document under construction: its finished tables, and the table at hand with its header. The
entries before the first header belong to the root. -/
structure Document where
  root : Branch := []
  header : Option Header := none
  entries : Branch := []

namespace Document

/-- The tables of a document when the table at hand is finished. -/
def finish (doc : Document) : Except Fault Branch :=
  match doc.header with
  | none => .ok doc.entries
  | some header =>
    let change := if header.isArray then Branch.append header.key doc.entries
      else Branch.enter header.key doc.entries
    doc.root.update false change .explicit header.path

/-- Opens the table of a header. -/
def openTable (doc : Document) (isArray : Bool) (key : List RawKey) : Except Fault Document := do
  let root ← doc.finish
  let (path, last) := Branch.splitLast (← Scalar.keys key)
  let header : Header := { path, key := last, isArray }
  if isArray then return { root, header := some header }
  else
    return {
      root := ← root.update false (Branch.vacate last) .explicit path
      header := some header
      entries := root.descend (path ++ [last]) }

/-- Carries out a statement. -/
def step (doc : Document) : Statement → Except Fault Document
  | .table key => doc.openTable false key
  | .tableArray key => doc.openTable true key
  | .pair key item => do
    let (path, last) := Branch.splitLast (← Scalar.keys key)
    let dotted := !path.isEmpty
    let tree ← item.tree
    return { doc with
      entries := ← doc.entries.update dotted (Branch.assign dotted last tree) .explicit path }

end Document

/-- The table that a text stands for. -/
def read (text : String) : Except Fault Table := do
  let doc ← (← Statement.read text).foldlM Document.step {}
  return branchTable (← doc.finish)

end IrChart.Toml
