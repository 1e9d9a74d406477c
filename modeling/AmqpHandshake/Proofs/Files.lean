import AmqpHandshake.Files.Tree

/-! Writing a file: whether a path can be written does not depend on the bytes, and what was written
is what the path reads as from then on. -/
namespace AmqpHandshake.FileTree

variable {tree : FileTree} {names target : List String} {place : Place} {bytes : ByteArray}

/-- Whether a file can be put somewhere, and the names it is put at. -/
def Place.Takes (names : List String) : Place → Prop
  | .directory => False
  | .file path _ | .vacant path => path = names

theorem place_of_isDirectory (directory : tree.isDirectory names = true) :
    tree.place names = .directory :=
  if_pos directory

theorem isDirectory_of_place (directory : tree.place names = .directory) :
    tree.isDirectory names = true := by
  unfold FileTree.place at directory
  split at directory
  · assumption
  · split at directory <;> cases directory

theorem of_place_takes (takes : (tree.place names).Takes target) :
    names = target ∧ tree.isDirectory names = false := by
  unfold FileTree.place at takes
  split at takes
  · exact takes.elim
  · rename_i noDirectory
    refine ⟨?_, Bool.eq_false_iff.mpr noDirectory⟩
    split at takes
    · exact takes
    · exact takes

/-- A step is taken from a directory, and where it leads depends on nothing else in the tree. -/
theorem walk_cons {step : String} {steps : List String}
    (walked : tree.walk names (step :: steps) = .ok place) :
    tree.isDirectory names = true ∧ ∃ next, tree.walk next steps = .ok place ∧
      ∀ other : FileTree, other.isDirectory names = true →
        other.walk names (step :: steps) = other.walk next steps := by
  have unfolded (other : FileTree) (directory : other.isDirectory names = true) :
      other.walk names (step :: steps) =
        if step = "" ∨ step = "." then other.walk names steps
        else if step = ".." then other.walk names.dropLast steps
        else if step.utf8ByteSize > maxNameBytes then .error .nameTooLong
        else other.walk (names ++ [step]) steps := by
    rw [walk, place_of_isDirectory directory]
  have directory : tree.isDirectory names = true := by
    rw [walk] at walked
    cases start : tree.place names with
    | directory => exact isDirectory_of_place start
    | file path bytes =>
      rw [start] at walked
      cases walked
    | vacant path =>
      rw [start] at walked
      cases walked
  refine ⟨directory, ?_⟩
  rw [unfolded tree directory] at walked
  by_cases here : step = "" ∨ step = "."
  · rw [if_pos here] at walked
    exact ⟨names, walked, fun other leads => by rw [unfolded other leads, if_pos here]⟩
  rw [if_neg here] at walked
  by_cases back : step = ".."
  · rw [if_pos back] at walked
    exact ⟨names.dropLast, walked, fun other leads => by
      rw [unfolded other leads, if_neg here, if_pos back]⟩
  rw [if_neg back] at walked
  by_cases long : step.utf8ByteSize > maxNameBytes
  · rw [if_pos long] at walked
    cases walked
  · rw [if_neg long] at walked
    exact ⟨names ++ [step], walked, fun other leads => by
      rw [unfolded other leads, if_neg here, if_neg back, if_neg long]⟩

theorem isDirectory_of_walk {steps : List String} (walked : tree.walk names steps = .ok place)
    (takes : place.Takes target) : tree.isDirectory target = false := by
  induction steps generalizing names with
  | nil =>
    cases walked
    obtain ⟨rfl, noDirectory⟩ := of_place_takes takes
    exact noDirectory
  | cons step steps ih =>
    obtain ⟨-, next, onward, -⟩ := walk_cons walked
    exact ih onward

/-- The way to a file that is put stays a way of directories. -/
theorem isDirectory_put (around : tree.isDirectory names = true)
    (noDirectory : tree.isDirectory target = false) :
    (tree.put target bytes).isDirectory names = true := by
  have apart : target ≠ names := by
    rintro rfl
    rw [around] at noDirectory
    cases noDirectory
  unfold isDirectory at around ⊢
  rcases Bool.or_eq_true_iff.mp around with root | inside
  · rw [root, Bool.true_or]
  · obtain ⟨⟨path, entry⟩, member, leads⟩ := List.any_eq_true.mp inside
    refine Bool.or_eq_true_iff.mpr (.inr (List.any_eq_true.mpr ?_))
    by_cases replaced : path = target
    · refine ⟨(target, .file bytes), List.mem_append_right _ List.mem_cons_self, ?_⟩
      simp only [replaced, if_neg apart] at leads ⊢
      exact leads
    · have kept : (path, entry) ∈ tree.entries.filter (·.1 ≠ target) :=
        List.mem_filter.mpr ⟨member, decide_eq_true replaced⟩
      exact ⟨(path, entry), List.mem_append_left _ kept, leads⟩

/-- A file that is put is where it was put. -/
theorem place_put (noDirectory : tree.isDirectory target = false) :
    (tree.put target bytes).place target = .file target bytes := by
  have stillNone : (tree.put target bytes).isDirectory target = false := by
    obtain ⟨below, none⟩ := Bool.or_eq_false_iff.mp noDirectory
    unfold isDirectory put
    rw [below, Bool.false_or, List.any_append, Bool.or_eq_false_iff]
    constructor
    · rw [List.any_eq_false]
      intro entry member
      exact List.any_eq_false.mp none entry (List.mem_filter.mp member).1
    · simp [FileEntry.isDirectory]
  have found : (tree.put target bytes).file? target = some bytes := by
    unfold file? put
    rw [List.findSome?_append, List.findSome?_eq_none_iff.mpr]
    · simp
    · rintro ⟨path, entry⟩ member
      have apart := of_decide_eq_true (List.mem_filter.mp member).2
      cases entry with
      | file => exact if_neg apart
      | directory => rfl
  unfold FileTree.place
  rw [stillNone, found]
  rfl

theorem walk_put {steps : List String} (walked : tree.walk names steps = .ok place)
    (takes : place.Takes target) :
    (tree.put target bytes).walk names steps = .ok (.file target bytes) := by
  have noDirectory := isDirectory_of_walk walked takes
  induction steps generalizing names with
  | nil =>
    cases walked
    obtain ⟨rfl, -⟩ := of_place_takes takes
    exact congrArg Except.ok (place_put noDirectory)
  | cons step steps ih =>
    obtain ⟨directory, next, onward, same⟩ := walk_cons walked
    rw [same _ (isDirectory_put directory noDirectory)]
    exact ih onward

/-- A path at which some file can be written. -/
def Writable (tree : FileTree) (path : String) : Prop :=
  ∃ bytes after, tree.write path bytes = .ok after

/-- A write that succeeds has found where the path leads, and puts any bytes there. -/
theorem write_ok {path : String} {after : FileTree} (written : tree.write path bytes = .ok after) :
    ∃ steps place target, lookup path = .ok steps ∧ tree.walk [] steps = .ok place ∧
      place.Takes target ∧ ∀ bytes, tree.write path bytes = .ok (tree.put target bytes) := by
  unfold write at written ⊢
  simp only [bind, Except.bind] at written ⊢
  cases looked : lookup path with
  | error fault =>
    rw [looked] at written
    cases written
  | ok steps =>
    rw [looked] at written
    simp only at written ⊢
    by_cases trailing : steps.getLast? = some ""
    · rw [if_pos trailing] at written
      split at written <;> cases written
    simp only [if_neg trailing] at written ⊢
    cases walked : tree.walk [] steps with
    | error fault =>
      rw [walked] at written
      cases written
    | ok place =>
      rw [walked] at written
      cases place with
      | directory => cases written
      | file target old => exact ⟨steps, _, target, rfl, walked, rfl, fun _ => rfl⟩
      | vacant target => exact ⟨steps, _, target, rfl, walked, rfl, fun _ => rfl⟩

/-- What was written at a path is what the path reads as. -/
theorem read_write {path : String} {after : FileTree}
    (written : tree.write path bytes = .ok after) : after.read path = .ok bytes := by
  obtain ⟨steps, place, target, looked, walked, takes, writes⟩ := write_ok written
  obtain rfl := Except.ok.inj (written.symm.trans (writes bytes))
  have found : (tree.put target bytes).find path = .ok (.file target bytes) := by
    unfold find
    rw [looked]
    exact walk_put walked takes
  unfold read
  rw [found]
  rfl

theorem Writable.write {path : String} (writable : tree.Writable path) (bytes : ByteArray) :
    ∃ after, tree.write path bytes = .ok after := by
  obtain ⟨other, after, written⟩ := writable
  obtain ⟨-, -, target, -, -, -, writes⟩ := write_ok written
  exact ⟨tree.put target bytes, writes bytes⟩

end AmqpHandshake.FileTree
