import GridChess.FileTree
import GridChess.Proofs.Outcome
import GridChess.Proofs.Text.Octets

/-!
# What is on a disk

A disk recalls if it gives back the text that was last written to a path. A file tree does: a file
never takes the place of a directory, so all paths lead where they led before, and the one that was
written leads to the new content (`recalls_disk`).
-/

set_option autoImplicit false

namespace GridChess

/-- A text that could be written is read afterwards. -/
def Disk.Recalls {σ : Type} (disk : Disk (StateM σ)) : Prop :=
  ∀ path text state next, (disk.writeText path text).run state = (true, next) →
    ((disk.readText path).run next).1 = .ok text

namespace FileTree

variable (tree : FileTree) (location : Location) (content : List UInt8)

theorem get?_put_of_ne (other : Location) (entry : Entry) (differ : other ≠ location) :
    (tree.put location entry).get? other = tree.get? other := by
  unfold get? put
  split
  · rfl
  · congr 1
    dsimp only
    rw [List.find?_cons_of_neg (by simpa using Ne.symm differ), List.find?_filter]
    congr 1
    funext item
    by_cases same : item.1 = other
    · simp [same, differ]
    · simp [same]

theorem get?_put_self (entry : Entry) (inside : location ≠ []) :
    (tree.put location entry).get? location = some entry := by
  unfold get? put
  rw [if_neg inside]
  dsimp only
  rw [List.find?_cons_of_pos (by simp)]
  rfl

variable (free : tree.get? location ≠ some .directory)

include free in
theorem get?_put_directory (other : Location) (entry : Entry)
    (directory : tree.get? other = some .directory) :
    (tree.put location entry).get? other = some .directory := by
  rw [get?_put_of_ne tree location other entry, directory]
  rintro rfl
  exact free directory

include free in
/-- A name still leads from one place to another after a file has been put where no directory is. -/
theorem enter_put (entry : Entry) (start next : Location) (name : List Char)
    (entered : tree.enter start name = .ok next) :
    (tree.put location entry).enter start name = .ok next := by
  have directory : tree.get? start = some .directory := by
    unfold enter at entered
    split at entered
    · cases entered
    · cases entered
    · assumption
  unfold enter at entered ⊢
  rw [directory] at entered
  rw [get?_put_directory tree location free start entry directory]
  exact entered

include free in
theorem foldlM_enter_put (entry : Entry) (names : List (List Char)) (start last : Location)
    (followed : names.foldlM tree.enter start = .ok last) :
    names.foldlM (tree.put location entry).enter start = .ok last := by
  induction names generalizing start with
  | nil => exact followed
  | cons name names ih =>
    rw [List.foldlM_cons] at followed ⊢
    obtain ⟨next, entered, later⟩ := bind_eq_ok _ _ _ followed
    rw [enter_put tree location free entry start next name entered, ok_bind]
    exact ih next later

include free in
theorem locate_put (entry : Entry) (path : String) (last : Location)
    (located : tree.locate path = .ok last) : (tree.put location entry).locate path = .ok last := by
  unfold locate follow at located ⊢
  split at located
  · cases located
  · rename_i named
    rw [if_neg named]
    split at located
    · cases located
    · rename_i usable
      rw [if_neg usable]
      exact foldlM_enter_put tree location free entry _ _ last located

/-- What has been written is read. -/
theorem read_write (next : FileTree) (path : String)
    (written : tree.write path content = .ok next) : next.read path = .ok content := by
  unfold write at written
  obtain ⟨location, located, written⟩ := bind_eq_ok _ _ _ written
  split at written
  · cases written
  · rename_i free
    cases written
    have inside : location ≠ [] := by
      rintro rfl
      exact free rfl
    unfold read
    rw [locate_put tree location free (.file content) path location located, ok_bind,
      get?_put_self tree location _ inside]
    rfl

/-- A text is written as its octets, if they can be written. -/
theorem run_writeText (path text : String) :
    (disk.writeText path text).run tree =
      ((tree.write path (Text.octets text)).toOption.isSome,
        (tree.write path (Text.octets text)).toOption.getD tree) := by
  unfold disk
  simp only [StateT.run_bind, StateT.run_get, pure_bind]
  cases tree.write path (Text.octets text) with
  | ok next => rfl
  | error failure => rfl

theorem recalls_disk : disk.Recalls := by
  intro path text tree next written
  rw [run_writeText] at written
  change next.readText path = .ok text
  unfold readText
  cases stored : tree.write path (Text.octets text) with
  | ok after =>
    rw [stored] at written
    have same : after = next := congrArg Prod.snd written
    rw [← same, read_write tree (Text.octets text) after path stored]
    dsimp only
    rw [Text.ofOctets?_octets]
  | error failure =>
    rw [stored] at written
    cases written

end FileTree

end GridChess
