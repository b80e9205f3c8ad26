import Questionnaire.Command.Files
import Questionnaire.Proofs.Command.Path
import Questionnaire.Proofs.Results

/-
  Where paths lead in a file tree, and what is left of it once a
  text was written or folders were made.

  Key definitions include:
    * `FileTree.Plain`
    * `FileTree.standing`
    * `FileTree.Extends`
    * `FileTree.SameFiles`
    * `FileTree.Wrote`
    * `FileTree.Grows`

  The last name of a path is looked for in the folder that the
  others lead to (`approach_eq_ok_iff`), so a name in a folder is
  looked for in what the folder's own path leads to
  (`locate_of_approach_join`).  Writing changes the text at one
  place (`write_eq_ok_iff`) and making folders changes none
  (`grows_of_makeFolders`).  Neither takes a folder away, and a
  path that leads to a folder leads to the same one in a tree
  with more of them (`Extends.locate_eq_folder`).
-/

------------------------------------------------------------
-- Names
------------------------------------------------------------

namespace Questionnaire

namespace FileTree

variable {tree : FileTree}
variable {folder place : TreePath}
variable {name text : String}

/- A name of something in the folder it is looked for in. -/
structure Plain
    (name : String) : Prop where
  ne_dot : name ≠ "."
  ne_dots : name ≠ ".."
  fits : name.utf8ByteSize ≤ Path.maxNameLength

/- What stands at a place. -/
def standing
    (tree : FileTree)
    (place : TreePath) : Target :=
  if tree.isFolder place then
    .folder place
  else
    match tree.textOf? place with
    | some text => .file place text
    | none => .vacant place

/- What names lead to. -/
theorem look_eq_ok_iff
    {target : Target} :
    tree.look folder name = .ok target ↔
      (name = "." ∧ .folder folder = target) ∨
        (name = ".." ∧ .folder folder.dropLast = target) ∨
          (Plain name ∧
            tree.standing (folder ++ [name]) = target) := by
  by_cases hDot : name = "."
  · subst hDot
    have hPlain : ¬ Plain "." := fun h => h.ne_dot rfl
    simp [look, hPlain]
  · by_cases hDots : name = ".."
    · subst hDots
      have hPlain : ¬ Plain ".." := fun h => h.ne_dots rfl
      simp [look, hPlain]
    · by_cases hLong : Path.maxNameLength < name.utf8ByteSize
      · have hPlain : ¬ Plain name :=
          fun h => Nat.not_le.mpr hLong h.fits
        simp [look, hDot, hDots, hLong, hPlain]
      · have hPlain : Plain name :=
          ⟨hDot, hDots, Nat.not_lt.mp hLong⟩
        have hLook :
            tree.look folder name =
              .ok (tree.standing (folder ++ [name])) := by
          simp only [look, beq_iff_eq, if_neg hDot, if_neg hDots,
            if_neg hLong, standing]
          split
          · rfl
          · cases tree.textOf? (folder ++ [name]) with
            | none => rfl
            | some text => rfl
        simp [hLook, hDot, hDots, hPlain]

/- A plain name leads to what stands at it. -/
theorem look_of_plain
    (tree : FileTree)
    (folder : TreePath)
    (hPlain : Plain name) :
    tree.look folder name =
      .ok (tree.standing (folder ++ [name])) :=
  look_eq_ok_iff.mpr (.inr (.inr ⟨hPlain, rfl⟩))

theorem standing_eq_folder_iff
    {other : TreePath} :
    tree.standing place = .folder other ↔
      tree.isFolder place = true ∧ place = other := by
  unfold standing
  split
  · simp [*]
  · split
    all_goals simp [*]

/- Only a plain name leads to something that is no folder. -/
theorem plain_of_look
    {target : Target}
    (hLook : tree.look folder name = .ok target)
    (hTarget : ∀ place, target ≠ .folder place) :
    Plain name ∧ tree.isFolder (folder ++ [name]) = false ∧
      tree.standing (folder ++ [name]) = target := by
  rcases look_eq_ok_iff.mp hLook with
    ⟨_, hDot⟩ | ⟨_, hDots⟩ | ⟨hPlain, hStanding⟩
  · exact absurd hDot.symm (hTarget _)
  · exact absurd hDots.symm (hTarget _)
  · refine ⟨hPlain, ?_, hStanding⟩
    cases hFolder : tree.isFolder (folder ++ [name]) with
    | false => rfl
    | true =>
        have hThere := standing_eq_folder_iff.mpr ⟨hFolder, rfl⟩
        exact absurd (hStanding.symm.trans hThere) (hTarget _)

/- Where no folder stands there is a file or room for one. -/
theorem standing_of_no_folder
    (hFolder : tree.isFolder place = false) :
    tree.standing place =
      match tree.textOf? place with
      | some text => .file place text
      | none => .vacant place := by
  rw [standing, hFolder]
  rfl

/- Following a name is looking for a folder. -/
theorem enter_eq_ok_iff
    {next : TreePath} :
    tree.enter folder name = .ok next ↔
      tree.look folder name = .ok (.folder next) := by
  unfold enter
  cases hLook : tree.look folder name with
  | error error => simp [bind, Except.bind]
  | ok target =>
      cases target with
      | folder found => simp [bind, Except.bind, pure, Except.pure]
      | file found text =>
          simp [bind, Except.bind, throw, throwThe,
            MonadExceptOf.throw]
      | vacant found =>
          simp [bind, Except.bind, throw, throwThe,
            MonadExceptOf.throw]

end FileTree

end Questionnaire

------------------------------------------------------------
-- Paths
------------------------------------------------------------

namespace Questionnaire

namespace FileTree

variable {tree : FileTree}
variable {folder : TreePath}
variable {path name root : String}

/- The folder that a path starts from. -/
def start
    (tree : FileTree)
    (path : String) : TreePath :=
  if path.startsWith "/" then [] else tree.here

/- Where the last name of a path is looked for. -/
theorem approach_eq_ok_iff :
    tree.approach path = .ok (folder, name) ↔
      path ≠ "" ∧ path.utf8ByteSize ≤ Path.maxLength ∧
        (Path.words path).dropLast.foldlM tree.enter
            (tree.start path) = .ok folder ∧
          (Path.words path).getLast?.getD "." = name := by
  by_cases hEmpty : path.isEmpty = true
  · have hPath := String.isEmpty_iff.mp hEmpty
    simp [approach, hPath, bind, Except.bind, throw, throwThe,
      MonadExceptOf.throw]
  · have hPath : path ≠ "" :=
      fun h => hEmpty (String.isEmpty_iff.mpr h)
    by_cases hLong : Path.maxLength < path.utf8ByteSize
    · have hSize := Nat.not_le.mpr hLong
      simp [approach, hEmpty, hLong, hSize, bind, Except.bind,
        throw, throwThe, MonadExceptOf.throw]
    · have hChecked :
          tree.approach path = (do
            let folder ← (Path.words path).dropLast.foldlM tree.enter
              (tree.start path)
            return (folder,
              (Path.words path).getLast?.getD ".")) := by
        simp only [approach, if_neg hEmpty, if_neg hLong, start]
      rw [hChecked, bind_eq_ok]
      constructor
      · rintro ⟨found, hFold, hFound⟩
        rcases Prod.mk.inj (Except.ok.inj hFound) with ⟨rfl, hName⟩
        exact ⟨hPath, Nat.not_lt.mp hLong, hFold, hName⟩
      · rintro ⟨_, _, hFold, rfl⟩
        exact ⟨folder, hFold, rfl⟩

/- Following all names is looking for the last in the rest. -/
theorem foldlM_enter_eq_ok_iff
    {words : List String}
    {origin : TreePath} :
    words.foldlM tree.enter origin = .ok folder ↔
      ∃ middle,
        words.dropLast.foldlM tree.enter origin = .ok middle ∧
          tree.look middle (words.getLast?.getD ".") =
            .ok (.folder folder) := by
  rcases List.eq_nil_or_concat words with rfl | ⟨front, last, rfl⟩
  · constructor
    · intro hHere
      have hHere : origin = folder := Except.ok.inj hHere
      exact ⟨origin, rfl, hHere ▸ rfl⟩
    · rintro ⟨middle, hHere, hLook⟩
      have hHere : origin = middle := Except.ok.inj hHere
      have hLook : middle = folder :=
        Target.folder.inj (Except.ok.inj hLook)
      exact congrArg Except.ok (hHere.trans hLook)
  · rw [List.concat_eq_append, List.dropLast_concat,
      List.getLast?_concat, List.foldlM_append, bind_eq_ok]
    simp only [List.foldlM_cons, List.foldlM_nil, bind_pure,
      enter_eq_ok_iff, Option.getD_some]

/- A path leads to a folder when its last name does. -/
theorem locate_eq_folder_iff_look :
    tree.locate path = .ok (.folder folder) ↔
      ∃ middle name,
        tree.approach path = .ok (middle, name) ∧
          tree.look middle name = .ok (.folder folder) := by
  simp only [locate, bind_eq_ok, Prod.exists]
  refine exists_congr (fun middle => exists_congr (fun name =>
    and_congr_right (fun _ => ?_)))
  cases hLook : tree.look middle name with
  | error error => simp
  | ok target =>
      cases target with
      | folder place => simp [pure, Except.pure]
      | file place text =>
          cases hEnds : Path.endsInSlash path with
          | true => simp [throw, throwThe, MonadExceptOf.throw]
          | false => simp [pure, Except.pure]
      | vacant place => simp [pure, Except.pure]

/- That is, when all of its names do. -/
theorem locate_eq_folder_iff :
    tree.locate path = .ok (.folder folder) ↔
      path ≠ "" ∧ path.utf8ByteSize ≤ Path.maxLength ∧
        (Path.words path).foldlM tree.enter (tree.start path) =
          .ok folder := by
  rw [locate_eq_folder_iff_look, foldlM_enter_eq_ok_iff]
  simp only [approach_eq_ok_iff]
  constructor
  · rintro ⟨middle, name, ⟨hPath, hSize, hFold, rfl⟩, hLook⟩
    exact ⟨hPath, hSize, middle, hFold, hLook⟩
  · rintro ⟨hPath, hSize, middle, hFold, hLook⟩
    exact ⟨middle, _, ⟨hPath, hSize, hFold, rfl⟩, hLook⟩

/- A tree holds a folder if the path leads to one. -/
theorem holdsFolder_eq_true_iff :
    tree.holdsFolder path = true ↔
      ∃ folder, tree.locate path = .ok (.folder folder) := by
  unfold holdsFolder
  split
  · next folder hLocate => simp [hLocate]
  · next hOther =>
      refine iff_of_false Bool.false_ne_true ?_
      rintro ⟨folder, hLocate⟩
      exact hOther folder hLocate

/-
  A path that does not end in a slash leads where its last name
  does.
-/
theorem locate_of_approach
    (hApproach : tree.approach path = .ok (folder, name))
    (hEnds : Path.endsInSlash path = false) :
    tree.locate path = tree.look folder name := by
  unfold locate
  cases hLook : tree.look folder name with
  | error error => simp [hApproach, hLook, bind, Except.bind]
  | ok target =>
      cases target with
      | folder place =>
          simp [hApproach, hLook, bind, Except.bind, pure,
            Except.pure]
      | file place text =>
          simp [hApproach, hLook, hEnds, bind, Except.bind, pure,
            Except.pure]
      | vacant place =>
          simp [hApproach, hLook, bind, Except.bind, pure,
            Except.pure]

end FileTree

end Questionnaire

------------------------------------------------------------
-- Names in Folders
------------------------------------------------------------

namespace Questionnaire

namespace FileTree

variable {tree : FileTree}
variable {folder : TreePath}
variable {name last root : String}

/- A path and the path of its folder have one start. -/
theorem start_join
    (tree : FileTree)
    (hRoot : root ≠ "")
    (name : String) :
    tree.start (joinPath root name) = tree.start root := by
  rw [start, start, Path.startsWith_join hRoot]

/- A name is looked for only in a folder that is there. -/
theorem exists_of_approach_join
    (hRoot : root ≠ "")
    (hWords : Path.words name ≠ [])
    (hApproach :
      tree.approach (joinPath root name) = .ok (folder, last)) :
    ∃ middle, tree.locate root = .ok (.folder middle) := by
  rcases approach_eq_ok_iff.mp hApproach with ⟨_, hSize, hFold, _⟩
  rw [Path.words_join, List.dropLast_append_of_ne_nil hWords,
    List.foldlM_append, start_join tree hRoot, bind_eq_ok] at hFold
  rcases hFold with ⟨middle, hMiddle, _⟩
  exact ⟨middle, locate_eq_folder_iff.mpr
    ⟨hRoot, Nat.le_trans (Path.size_le_join root name) hSize,
      hMiddle⟩⟩

/- A name of one word is looked for in the folder itself. -/
theorem locate_of_approach_join
    (hRoot : root ≠ "")
    (hWords : Path.words name = [name])
    (hApproach :
      tree.approach (joinPath root name) = .ok (folder, last)) :
    tree.locate root = .ok (.folder folder) ∧ last = name := by
  rcases approach_eq_ok_iff.mp hApproach with
    ⟨_, hSize, hFold, hLast⟩
  rw [Path.words_join, hWords] at hFold hLast
  rw [List.dropLast_concat, start_join tree hRoot] at hFold
  rw [List.getLast?_concat] at hLast
  exact ⟨locate_eq_folder_iff.mpr
    ⟨hRoot, Nat.le_trans (Path.size_le_join root name) hSize, hFold⟩,
    hLast.symm⟩

/- Where a name in a folder is found, so is the folder. -/
theorem holdsFolder_of_holds_join
    (hRoot : root ≠ "")
    (hWords : Path.words name ≠ [])
    (hHolds : tree.holds (joinPath root name) = true) :
    tree.holdsFolder root = true := by
  cases hApproach : tree.approach (joinPath root name) with
  | error error =>
      simp [holds, locate, hApproach, bind, Except.bind] at hHolds
  | ok found =>
      exact holdsFolder_eq_true_iff.mpr
        (exists_of_approach_join hRoot hWords hApproach)

end FileTree

end Questionnaire

------------------------------------------------------------
-- Trees with More in Them
------------------------------------------------------------

namespace Questionnaire

namespace FileTree

variable {before middle after : FileTree}
variable {folder : TreePath}
variable {path name : String}

/- One still works in the same folder, and no folder is gone. -/
structure Extends
    (before after : FileTree) : Prop where
  here : after.here = before.here
  folders :
    ∀ place, before.isFolder place = true →
      after.isFolder place = true

/- No file has changed. -/
def SameFiles
    (before after : FileTree) : Prop :=
  ∀ place, after.textOf? place = before.textOf? place

/- A text was written where a path leads, and nowhere else. -/
structure Wrote
    (before after : FileTree)
    (path : String)
    (place : TreePath)
    (text : String) : Prop where
  leads : after.locate path = .ok (.file place text)
  others :
    ∀ other, other ≠ place →
      after.textOf? other = before.textOf? other

theorem SameFiles.refl
    (tree : FileTree) :
    tree.SameFiles tree :=
  fun _ => rfl

theorem SameFiles.trans
    (hFirst : before.SameFiles middle)
    (hSecond : middle.SameFiles after) :
    before.SameFiles after :=
  fun place => (hSecond place).trans (hFirst place)

namespace Extends

theorem refl
    (tree : FileTree) :
    tree.Extends tree :=
  ⟨rfl, fun _ hFolder => hFolder⟩

theorem trans
    (hFirst : before.Extends middle)
    (hSecond : middle.Extends after) :
    before.Extends after :=
  ⟨hSecond.here.trans hFirst.here,
    fun place hFolder => hSecond.folders place
      (hFirst.folders place hFolder)⟩

/- A name that leads to a folder still leads there. -/
theorem look_eq_folder
    (hExtends : before.Extends after)
    {next : TreePath}
    (hLook : before.look folder name = .ok (.folder next)) :
    after.look folder name = .ok (.folder next) := by
  rw [look_eq_ok_iff] at hLook ⊢
  rcases hLook with hDot | hDots | ⟨hPlain, hStanding⟩
  · exact .inl hDot
  · exact .inr (.inl hDots)
  · rcases standing_eq_folder_iff.mp hStanding with ⟨hFolder, hPlace⟩
    exact .inr (.inr ⟨hPlain,
      standing_eq_folder_iff.mpr
        ⟨hExtends.folders _ hFolder, hPlace⟩⟩)

/- So do names one after the other. -/
theorem foldlM_enter
    (hExtends : before.Extends after)
    {words : List String}
    {origin : TreePath}
    (hFold : words.foldlM before.enter origin = .ok folder) :
    words.foldlM after.enter origin = .ok folder := by
  induction words generalizing origin with
  | nil => exact hFold
  | cons word words ih =>
      rw [List.foldlM_cons, bind_eq_ok] at hFold
      rcases hFold with ⟨next, hNext, hRest⟩
      rw [List.foldlM_cons, bind_eq_ok]
      exact ⟨next,
        enter_eq_ok_iff.mpr
          (hExtends.look_eq_folder (enter_eq_ok_iff.mp hNext)),
        ih hRest⟩

/- The last name of a path is looked for in the same folder. -/
theorem approach
    (hExtends : before.Extends after)
    (hApproach : before.approach path = .ok (folder, name)) :
    after.approach path = .ok (folder, name) := by
  rcases approach_eq_ok_iff.mp hApproach with
    ⟨hPath, hSize, hFold, hName⟩
  have hStart : after.start path = before.start path := by
    rw [start, start, hExtends.here]
  rw [approach_eq_ok_iff, hStart]
  exact ⟨hPath, hSize, hExtends.foldlM_enter hFold, hName⟩

/- A path that leads to a folder still leads there. -/
theorem locate_eq_folder
    (hExtends : before.Extends after)
    (hLocate : before.locate path = .ok (.folder folder)) :
    after.locate path = .ok (.folder folder) := by
  rcases locate_eq_folder_iff_look.mp hLocate with
    ⟨found, name, hApproach, hLook⟩
  exact locate_eq_folder_iff_look.mpr
    ⟨found, name, hExtends.approach hApproach,
      hExtends.look_eq_folder hLook⟩

end Extends

end FileTree

end Questionnaire

------------------------------------------------------------
-- Writing
------------------------------------------------------------

namespace Questionnaire

namespace FileTree

variable {tree after : FileTree}
variable {folder place other : TreePath}
variable {path name text : String}

/- Taking away the files at one place leaves those at others. -/
theorem lookup_filter_ne
    (hOther : other ≠ place)
    (files : List (TreePath × String)) :
    (files.filter (fun file => file.1 != place)).lookup other =
      files.lookup other := by
  have hNe : (other == place) = false :=
    beq_eq_false_iff_ne.mpr hOther
  induction files with
  | nil => rfl
  | cons file files ih =>
      rcases file with ⟨found, text⟩
      by_cases hFound : found = place
      · simp [List.lookup_cons, hFound, hNe, ih]
      · simp [List.lookup_cons, hFound, ih]

/- A text is found where it was put, and all others stay. -/
theorem textOf?_put
    (tree : FileTree)
    (place : TreePath)
    (text : String) :
    (tree.put place text).textOf? place = some text := by
  simp [textOf?, put]

theorem textOf?_put_of_ne
    (tree : FileTree)
    (hOther : other ≠ place)
    (text : String) :
    (tree.put place text).textOf? other = tree.textOf? other := by
  have hNe : (other == place) = false :=
    beq_eq_false_iff_ne.mpr hOther
  simp [textOf?, put, List.lookup_cons, hNe,
    lookup_filter_ne hOther]

/- Putting a text somewhere takes no folder away. -/
theorem extends_put
    (tree : FileTree)
    (place : TreePath)
    (text : String) :
    tree.Extends (tree.put place text) :=
  ⟨rfl, fun _ hFolder => hFolder⟩

/-
  A text is put where the last name of the path stands in its
  folder, when that is a plain name and no folder stands there.
-/
theorem write_eq_ok_iff :
    tree.write path text = .ok after ↔
      ∃ folder name,
        tree.approach path = .ok (folder, name) ∧
          Path.endsInSlash path = false ∧ Plain name ∧
            tree.isFolder (folder ++ [name]) = false ∧
              tree.put (folder ++ [name]) text = after := by
  constructor
  · intro hWrite
    rw [write, bind_eq_ok] at hWrite
    rcases hWrite with ⟨⟨folder, name⟩, hApproach, hRest⟩
    cases hEnds : Path.endsInSlash path with
    | true =>
        simp [hEnds, throw, throwThe, MonadExceptOf.throw, bind,
          Except.bind] at hRest
    | false =>
        simp only [hEnds, Bool.false_eq_true, if_false,
          bind_eq_ok] at hRest
        rcases hRest with ⟨target, hLook, hPut⟩
        have hTarget (place : TreePath) : target ≠ .folder place := by
          rintro rfl
          simp [throw, throwThe, MonadExceptOf.throw] at hPut
        rcases plain_of_look hLook hTarget with
          ⟨hPlain, hFolder, hStanding⟩
        rw [standing_of_no_folder hFolder] at hStanding
        refine ⟨folder, name, hApproach, rfl, hPlain, hFolder, ?_⟩
        cases hText : tree.textOf? (folder ++ [name]) with
        | none =>
            rw [hText] at hStanding
            rw [← hStanding] at hPut
            exact Except.ok.inj hPut
        | some old =>
            rw [hText] at hStanding
            rw [← hStanding] at hPut
            exact Except.ok.inj hPut
  · rintro ⟨folder, name, hApproach, hEnds, hPlain, hFolder, rfl⟩
    have hLook := look_of_plain tree folder hPlain
    rw [standing_of_no_folder hFolder] at hLook
    cases hText : tree.textOf? (folder ++ [name]) with
    | none =>
        simp [write, hApproach, hEnds, hLook, hText, bind,
          Except.bind, pure, Except.pure]
    | some old =>
        simp [write, hApproach, hEnds, hLook, hText, bind,
          Except.bind, pure, Except.pure]

/- The written text is found where the path leads. -/
theorem wrote_put
    (hApproach : tree.approach path = .ok (folder, name))
    (hEnds : Path.endsInSlash path = false)
    (hPlain : Plain name)
    (hFolder : tree.isFolder (folder ++ [name]) = false) :
    tree.Wrote (tree.put (folder ++ [name]) text) path
      (folder ++ [name]) text := by
  have hAfter :=
    (extends_put tree (folder ++ [name]) text).approach hApproach
  have hSame :
      (tree.put (folder ++ [name]) text).isFolder (folder ++ [name]) =
        false := hFolder
  refine ⟨?_, fun other hOther => textOf?_put_of_ne tree hOther text⟩
  rw [locate_of_approach hAfter hEnds, look_of_plain _ folder hPlain,
    standing_of_no_folder hSame, textOf?_put]

/-
  Where a text can be written, a path that leads nowhere finds
  no file.
-/
theorem textOf?_of_not_holds
    (hApproach : tree.approach path = .ok (folder, name))
    (hEnds : Path.endsInSlash path = false)
    (hPlain : Plain name)
    (hFolder : tree.isFolder (folder ++ [name]) = false)
    (hHolds : tree.holds path = false) :
    tree.textOf? (folder ++ [name]) = none := by
  rw [holds, locate_of_approach hApproach hEnds,
    look_of_plain tree folder hPlain,
    standing_of_no_folder hFolder] at hHolds
  cases hText : tree.textOf? (folder ++ [name]) with
  | none => rfl
  | some text =>
      rw [hText] at hHolds
      exact absurd hHolds nofun

end FileTree

end Questionnaire

------------------------------------------------------------
-- Making Folders
------------------------------------------------------------

namespace Questionnaire

namespace FileTree

variable {before middle after : FileTree}
variable {folder : TreePath}
variable {path : String}

/- A tree with the same files, and no folder less. -/
structure Grows
    (before after : FileTree) : Prop
    extends before.Extends after where
  files : after.files = before.files

theorem Grows.refl
    (tree : FileTree) :
    tree.Grows tree :=
  ⟨.refl tree, rfl⟩

theorem Grows.trans
    (hFirst : before.Grows middle)
    (hSecond : middle.Grows after) :
    before.Grows after :=
  ⟨hFirst.toExtends.trans hSecond.toExtends,
    hSecond.files.trans hFirst.files⟩

/- New folders are no files. -/
theorem Grows.sameFiles
    (hGrows : before.Grows after) :
    before.SameFiles after := by
  intro place
  rw [textOf?, textOf?, hGrows.files]

/- Whatever way a folder is made, the tree only grows. -/
theorem grows_of_makeFolder
    (hMake : before.makeFolder path = .ok after) :
    before.Grows after := by
  simp only [makeFolder, bind_eq_ok, Prod.exists] at hMake
  rcases hMake with ⟨folder, name, _, target, _, hMade⟩
  cases target with
  | folder place =>
      simp [throw, throwThe, MonadExceptOf.throw] at hMade
  | file place text =>
      simp [throw, throwThe, MonadExceptOf.throw] at hMade
  | vacant place =>
      rw [← Except.ok.inj hMade]
      refine ⟨⟨rfl, fun other hOther => ?_⟩, rfl⟩
      rw [isFolder, Bool.or_eq_true] at hOther ⊢
      exact hOther.imp_right (fun hMem => by simp_all)

theorem grows_of_ensureFolder
    (hEnsure : before.ensureFolder path = .ok after) :
    before.Grows after := by
  unfold ensureFolder at hEnsure
  split at hEnsure
  · next hMake =>
      rw [← Except.ok.inj hEnsure]
      exact grows_of_makeFolder hMake
  · split at hEnsure
    · rw [← Except.ok.inj hEnsure]
      exact .refl before
    · exact absurd hEnsure nofun

/- By the paths that may have to be made. -/
theorem grows_of_makeAlong
    {paths : List String}
    (hMake : before.makeAlong paths = .ok after) :
    before.Grows after := by
  induction paths generalizing after with
  | nil =>
      rw [← Except.ok.inj hMake]
      exact .refl before
  | cons path around ih =>
      unfold makeAlong at hMake
      split at hMake
      · rcases bind_eq_ok.mp hMake with ⟨found, hFound, hEnsure⟩
        exact (ih hFound).trans (grows_of_ensureFolder hEnsure)
      · exact grows_of_ensureFolder hMake

theorem grows_of_makeFolders
    (hMake : before.makeFolders path = .ok after) :
    before.Grows after :=
  grows_of_makeAlong hMake

/- Where there is a folder, none is made. -/
theorem makeFolders_of_holdsFolder
    (hHolds : before.holdsFolder path = true) :
    before.makeFolders path = .ok before := by
  rcases holdsFolder_eq_true_iff.mp hHolds with ⟨folder, hLocate⟩
  have hMake : before.makeFolder path = .error .alreadyExists := by
    rcases locate_eq_folder_iff_look.mp hLocate with
      ⟨found, name, hApproach, hLook⟩
    simp [makeFolder, hApproach, hLook, bind, Except.bind, throw,
      throwThe, MonadExceptOf.throw]
  rw [makeFolders, makeAlong, hMake]
  simp only [ensureFolder, hMake, hHolds, if_true]

end FileTree

end Questionnaire
