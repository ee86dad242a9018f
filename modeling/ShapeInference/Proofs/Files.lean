import ShapeInference.Files
import ShapeInference.Proofs.Entries

/-!
# Writing a file and reading it back

To write is to put one file where a path leads. No directory is there before, so every way through
directories that could be followed can still be followed afterwards, and the path of the file leads
to what was written. Nothing at another place is touched.

- `Files.node?_put_of_ne`: what is at another place stays there;
- `Files.follow_put`: a way to a directory stays open;
- `Files.Target`: what is known about the place of a file to write;
- `Files.read_put`: what is written is what is read then.
-/

namespace ShapeInference

namespace Files

open Entries

variable {fs : Files} {place other directory : FilePlace} {node found : FileNode}

/-! ## One more node -/

/-- Whether some place among entries has a property depends on the places alone. -/
theorem any_place (p : FilePlace → Bool) (nodes : List (FilePlace × FileNode)) :
    (nodes.any fun (names, _) => p names) = (keys nodes).any p := by
  rw [keys, List.any_map]
  rfl

/-- A node can be found where it was put, if a file can be there. -/
theorem node?_put_self (h : isBase place = false) :
    (fs.put place node).node? place = some node := by
  rw [node?, if_neg (by simp [h]), put, first?_insert, if_pos rfl]

/-- **What is at another place** stays there. -/
theorem node?_put_of_ne (hne : other ≠ place) (h : fs.node? other = some found) :
    (fs.put place node).node? other = some found := by
  have hfirst : first? (· = ·) other (fs.put place node).nodes = first? (· = ·) other fs.nodes := by
    rw [put, first?_insert, if_neg hne.symm]
  unfold node? at h ⊢
  rw [hfirst]
  by_cases hbase : isBase other
  · rw [if_pos hbase] at h ⊢
    exact h
  · rw [if_neg hbase] at h ⊢
    cases hnode : first? (· = ·) other fs.nodes with
    | some there =>
      rw [hnode] at h
      exact h
    | none =>
      rw [hnode] at h
      dsimp only at h ⊢
      rw [any_place] at h ⊢
      -- a directory that is there for what is in it has as much in it as before
      split at h
      next hany =>
        obtain ⟨names, hnames, hbelow⟩ := List.any_eq_true.mp hany
        have hkept : names ∈ keys (fs.put place node).nodes := by
          rw [put, keys_insert]
          split
          · exact hnames
          · exact List.mem_append_left _ hnames
        rw [if_pos (List.any_eq_true.mpr ⟨names, hkept, hbelow⟩)]
        exact h
      next => cases h

/-! ## Ways through directories -/

/-- What a way leads to is what is at its end. -/
theorem node?_of_follow {parts : List Text} (h : fs.follow other parts = .ok (place, found)) :
    fs.node? place = some found := by
  induction parts generalizing other with
  | nil =>
    rw [follow] at h
    split at h
    next hnode =>
      cases h
      exact hnode
    next => cases h
  | cons part rest ih =>
    rw [follow] at h
    split at h
    · cases h
    · cases h
    · split at h
      · cases h
      · exact ih h

/-- A way to a directory goes on from there. -/
theorem follow_append {front : List Text}
    (h : fs.follow other front = .ok (directory, .directory)) (rest : List Text) :
    fs.follow other (front ++ rest) = fs.follow directory rest := by
  induction front generalizing other with
  | nil =>
    rw [follow] at h
    split at h
    · cases h
      rfl
    · cases h
  | cons part front ih =>
    rw [List.cons_append, follow]
    rw [follow] at h
    split at h
    · cases h
    · cases h
    · split at h
      next => cases h
      next hsize =>
        rw [if_neg hsize]
        exact ih h

/-- **A way to a directory stays open** when a node is put where no directory was. -/
theorem follow_put (node : FileNode) {parts : List Text} (hplace : fs.node? place ≠ some .directory)
    (h : fs.follow other parts = .ok (directory, .directory)) :
    (fs.put place node).follow other parts = .ok (directory, .directory) := by
  have hkept : ∀ {way : FilePlace}, fs.node? way = some .directory →
      (fs.put place node).node? way = some .directory := by
    intro way hway
    refine node?_put_of_ne (fun heq => hplace ?_) hway
    rw [← heq]
    exact hway
  induction parts generalizing other with
  | nil =>
    rw [follow] at h ⊢
    split at h
    next hnode =>
      cases h
      rw [hkept hnode]
    next => cases h
  | cons part rest ih =>
    rw [follow] at h ⊢
    split at h
    · cases h
    · cases h
    next hnode =>
      rw [hkept hnode]
      split at h
      next => cases h
      next hsize =>
        dsimp only
        rw [if_neg hsize]
        exact ih h

/-! ## The place of a file to write -/

/-- What is known about the place of a file to write: the last part of its path leads there from a
directory, and no directory is there. -/
structure Target (fs : Files) (path : Text) (place : FilePlace) : Prop where
  short : Naming.size path ≤ Naming.maxPath
  closed : endsOpen path = false
  free : fs.node? place ≠ some .directory
  leads : ∃ front last directory, parts path = front ++ [last] ∧
    fs.follow (start path) front = .ok (directory, .directory) ∧
    Naming.size last ≤ Naming.maxPart ∧ place = enter directory last

variable {path : Text}

theorem target_of_ok (h : fs.target path = .ok place) : Target fs path place := by
  unfold target at h
  split at h
  next => cases h
  next hsize =>
    split at h
    next => cases h
    next last hlast =>
      split at h
      next => cases h
      next => cases h
      next directory hfollow =>
        dsimp only at h
        split at h
        next => cases h
        next hfree =>
          rw [Bool.or_eq_true, not_or, decide_eq_true_iff, Bool.not_eq_true] at hfree
          split at h
          next => cases h
          next hpart =>
            cases h
            obtain ⟨front, hfront⟩ := List.getLast?_eq_some_iff.mp hlast
            rw [hfront, List.dropLast_concat] at hfollow
            exact ⟨Nat.le_of_not_lt hsize, hfree.1, hfree.2, front, last, directory, hfront,
              hfollow, Nat.le_of_not_lt hpart, rfl⟩

/-- To write is to put a file at its place. -/
theorem write_eq_put (h : fs.target path = .ok place) (bytes : List UInt8) :
    fs.write path bytes = .ok (fs.put place (.file bytes)) := by
  unfold write
  rw [h]
  rfl

/-- **What is written is what is read then.** -/
theorem read_put (hpath : PathFlaw.of? path = none) (htarget : fs.target path = .ok place)
    (bytes : List UInt8) : (fs.put place (.file bytes)).read path = .ok bytes := by
  obtain ⟨hshort, hclosed, hfree, front, last, directory, hparts, hfollow, hpart, rfl⟩ :=
    target_of_ok htarget
  have hbase : isBase (enter directory last) = false := by
    rw [Bool.eq_false_iff]
    intro hbase
    exact hfree (by rw [node?, if_pos hbase])
  -- the directory of the file is found as before, and in it the file
  have hway := follow_put (.file bytes) hfree hfollow
  have hfound : (fs.put (enter directory last) (.file bytes)).follow (start path) (parts path) =
      .ok (enter directory last, .file bytes) := by
    rw [hparts, follow_append hway, follow, node?_of_follow hway]
    dsimp only
    rw [if_neg (Nat.not_lt.mpr hpart), follow, node?_put_self hbase]
  have hnonempty : path.isEmpty = false := by
    cases path with
    | nil => cases front <;> cases hparts
    | cons c rest => rfl
  unfold read find
  rw [if_neg (by simp [hnonempty, hpath]), if_neg (Nat.not_lt.mpr hshort), hfound]
  simp [hclosed]

end Files

end ShapeInference
