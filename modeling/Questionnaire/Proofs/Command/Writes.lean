import Questionnaire.Proofs.Command.Tree
import Questionnaire.Proofs.Form.Audit
import Questionnaire.Proofs.Form.Blame

/-
  What the commands do to the files around them.

  Key definitions include:
    * `outcome`
    * `KeepsFiles`
    * `KeepsOnFailure`
    * `Command.Effect`

  A command that fails has changed no file, since the one write
  of a command comes after all else that may fail
  (`Command.keepsOnFailure`).  One that succeeds has written the
  file it was asked for, and no other one.  A page is put
  directly into the folder for pages, under a name that only the
  slug varies; what stood there is replaced only by force, or
  when the folder had still to be made (`Command.run_effect`).
-/

------------------------------------------------------------
-- Outcomes
------------------------------------------------------------

namespace Questionnaire

/- A part of a command, at work on a file tree. -/
abbrev TreeAction
    (α : Type) : Type :=
  ExceptT Failure (StateM FileTree) α

/- The result of an action, and the tree that it leaves. -/
def outcome
    {α : Type}
    (action : TreeAction α)
    (tree : FileTree) : Except Failure α × FileTree :=
  (action.run.run tree).run

section

variable {α β ε : Type}
variable {tree after : FileTree}

/- After the first failure no later step is taken. -/
theorem outcome_bind
    (first : TreeAction α)
    (next : α → TreeAction β)
    (tree : FileTree) :
    outcome (first >>= next) tree =
      match outcome first tree with
      | (.ok result, middle) => outcome (next result) middle
      | (.error failure, middle) => (.error failure, middle) := by
  rcases hFirst : outcome first tree with ⟨result, middle⟩
  have hRun : first tree = (result, middle) := hFirst
  cases result with
  | ok result =>
      simp [outcome, bind, ExceptT.bind, ExceptT.mk, ExceptT.run,
        StateT.bind, StateT.run, ExceptT.bindCont, hRun]
  | error failure =>
      simp [outcome, bind, ExceptT.bind, ExceptT.mk, ExceptT.run,
        StateT.bind, StateT.run, ExceptT.bindCont, hRun]
      rfl

/- Actions succeed together when each one does. -/
theorem outcome_bind_eq_ok
    {first : TreeAction α}
    {next : α → TreeAction β}
    {result : β} :
    outcome (first >>= next) tree = (.ok result, after) ↔
      ∃ found middle,
        outcome first tree = (.ok found, middle) ∧
          outcome (next found) middle = (.ok result, after) := by
  rw [outcome_bind]
  rcases outcome first tree with ⟨found, middle⟩
  cases found with
  | ok found => simp
  | error failure => simp

theorem outcome_orFail
    (failure : ε → Failure)
    (result : Except ε α)
    (tree : FileTree) :
    outcome (orFail failure result) tree =
      (result.mapError failure, tree) :=
  rfl

theorem outcome_readText
    (failure : FileError → Failure)
    (path : String)
    (tree : FileTree) :
    outcome (accessOrFail failure (FileAccess.readText path)) tree =
      ((tree.read path).mapError failure, tree) :=
  rfl

theorem outcome_pathExists
    (path : String)
    (tree : FileTree) :
    outcome (ExceptT.lift (FileAccess.pathExists path)) tree =
      (.ok (tree.holds path), tree) :=
  rfl

/- A change that fails changes nothing. -/
theorem outcome_changeTree
    (failure : FileError → Failure)
    (change : FileTree → Except FileError FileTree)
    (tree : FileTree) :
    outcome (accessOrFail failure (changeTree change)) tree =
      match change tree with
      | .ok changed => (.ok (), changed)
      | .error error => (.error (failure error), tree) := by
  cases hChange : change tree with
  | error error =>
      simp [outcome, accessOrFail, changeTree, hChange, bind,
        ExceptT.mk, ExceptT.run, StateT.bind, StateT.run]
      rfl
  | ok changed =>
      simp [outcome, accessOrFail, changeTree, hChange, bind,
        ExceptT.mk, ExceptT.run, StateT.bind, StateT.run]
      rfl

theorem outcome_makeFolders
    (failure : FileError → Failure)
    (path : String)
    (tree : FileTree) :
    outcome (accessOrFail failure (FileAccess.makeFolders path))
        tree =
      match tree.makeFolders path with
      | .ok made => (.ok (), made)
      | .error error => (.error (failure error), tree) :=
  outcome_changeTree failure (·.makeFolders path) tree

theorem outcome_writeText
    (failure : FileError → Failure)
    (path text : String)
    (tree : FileTree) :
    outcome (accessOrFail failure (FileAccess.writeText path text))
        tree =
      match tree.write path text with
      | .ok written => (.ok (), written)
      | .error error => (.error (failure error), tree) :=
  outcome_changeTree failure (·.write path text) tree

end

end Questionnaire

------------------------------------------------------------
-- Actions That Keep the Files
------------------------------------------------------------

namespace Questionnaire

variable {α β ε : Type}

/- An action that changes no file. -/
def KeepsFiles
    (action : TreeAction α) : Prop :=
  ∀ tree : FileTree, tree.SameFiles (outcome action tree).2

/- An action that has changed no file when it fails. -/
def KeepsOnFailure
    (action : TreeAction α) : Prop :=
  ∀ (tree : FileTree) failure after,
    outcome action tree = (.error failure, after) →
      tree.SameFiles after

namespace KeepsFiles

variable {first action : TreeAction α}
variable {next : α → TreeAction β}

/- An action that leaves the tree as it is. -/
theorem of_same
    (hSame : ∀ tree, (outcome action tree).2 = tree) :
    KeepsFiles action := by
  intro tree
  rw [hSame]
  exact .refl tree

theorem pure
    (result : α) :
    KeepsFiles (pure result : TreeAction α) :=
  of_same (fun _ => rfl)

theorem throw
    (failure : Failure) :
    KeepsFiles (throw failure : TreeAction α) :=
  of_same (fun _ => rfl)

theorem orFail
    (failure : ε → Failure)
    (result : Except ε α) :
    KeepsFiles (orFail failure result : TreeAction α) :=
  of_same (fun _ => rfl)

theorem readText
    (failure : FileError → Failure)
    (path : String) :
    KeepsFiles (accessOrFail failure (FileAccess.readText path)) :=
  of_same (fun _ => rfl)

theorem pathExists
    (path : String) :
    KeepsFiles (ExceptT.lift (FileAccess.pathExists path)) :=
  of_same (fun _ => rfl)

/- Folders may be new, but every file is as it was. -/
theorem makeFolders
    (failure : FileError → Failure)
    (path : String) :
    KeepsFiles
      (accessOrFail failure (FileAccess.makeFolders path)) := by
  intro tree
  rw [outcome_makeFolders]
  cases hMake : tree.makeFolders path with
  | error error => exact .refl tree
  | ok made => exact (FileTree.grows_of_makeFolders hMake).sameFiles

/- Such actions may follow one another. -/
theorem bind
    (hFirst : KeepsFiles first)
    (hNext : ∀ result, KeepsFiles (next result)) :
    KeepsFiles (first >>= next) := by
  intro tree
  have hMiddle := hFirst tree
  rw [outcome_bind]
  rcases hOutcome : outcome first tree with ⟨result, middle⟩
  rw [hOutcome] at hMiddle
  cases result with
  | ok result => exact hMiddle.trans (hNext result middle)
  | error failure => exact hMiddle

end KeepsFiles

namespace KeepsOnFailure

variable {first action : TreeAction α}
variable {next : α → TreeAction β}

/- What changes no file changes none when it fails. -/
theorem of_keeps
    (hKeeps : KeepsFiles action) :
    KeepsOnFailure action := by
  intro tree failure after hOutcome
  have hSame := hKeeps tree
  rw [hOutcome] at hSame
  exact hSame

/- What changes a file may come after them only. -/
theorem after_keeps
    (hFirst : KeepsFiles first)
    (hNext : ∀ result, KeepsOnFailure (next result)) :
    KeepsOnFailure (first >>= next) := by
  intro tree failure after hOutcome
  have hMiddle := hFirst tree
  rw [outcome_bind] at hOutcome
  rcases hFound : outcome first tree with ⟨result, middle⟩
  rw [hFound] at hMiddle hOutcome
  cases result with
  | ok result =>
      exact hMiddle.trans (hNext result middle failure after hOutcome)
  | error error =>
      rw [← (Prod.mk.inj hOutcome).2]
      exact hMiddle

/- And nothing that may fail comes after it. -/
theorem before_pure
    (hFirst : KeepsOnFailure first)
    (result : β) :
    KeepsOnFailure (first >>= fun _ => Pure.pure result) := by
  intro tree failure after hOutcome
  rw [outcome_bind] at hOutcome
  rcases hFound : outcome first tree with ⟨found, middle⟩
  rw [hFound] at hOutcome
  cases found with
  | ok found => exact absurd (Prod.mk.inj hOutcome).1 nofun
  | error error =>
      rw [← (Prod.mk.inj hOutcome).2]
      exact hFirst tree error middle hFound

/- Where a text cannot be written, the file is as it was. -/
theorem writeText
    (failure : FileError → Failure)
    (path text : String) :
    KeepsOnFailure
      (accessOrFail failure (FileAccess.writeText path text)) := by
  intro tree error after hOutcome
  rw [outcome_writeText] at hOutcome
  cases hWrite : tree.write path text with
  | error reason =>
      rw [hWrite] at hOutcome
      rw [← (Prod.mk.inj hOutcome).2]
      exact .refl tree
  | ok written =>
      rw [hWrite] at hOutcome
      exact absurd (Prod.mk.inj hOutcome).1 nofun

end KeepsOnFailure

end Questionnaire

------------------------------------------------------------
-- Failed Commands
------------------------------------------------------------

namespace Questionnaire

theorem KeepsFiles.loadForm
    (path : String) :
    KeepsFiles (loadForm path) :=
  (readText _ path).bind (fun _ => orFail _ _)

/- Writing the output comes last. -/
theorem KeepsOnFailure.emit
    (text : String)
    (path : Option String) :
    KeepsOnFailure (emit text path) := by
  cases path with
  | none => exact of_keeps (.pure text)
  | some path => exact (writeText _ path text).before_pure ""

/- So does writing a page, after all that may be refused. -/
theorem KeepsOnFailure.publishForm
    (form : Form)
    (root : String)
    (force : Bool) :
    KeepsOnFailure (publishForm form root force) := by
  refine after_keeps (.pathExists _) (fun found => ?_)
  split
  · exact of_keeps (.throw _)
  · refine after_keeps (.orFail _ _) (fun page => ?_)
    refine after_keeps (.makeFolders _ root) (fun _ => ?_)
    exact (writeText _ _ page).before_pure _

theorem KeepsFiles.walkWith
    (form : Form)
    (answersPath : String)
    (now : Instant)
    (decline : Bool) :
    KeepsFiles (walkWith form answersPath now decline) :=
  (readText _ answersPath).bind (fun _ =>
    (orFail _ _).bind (fun _ =>
      (orFail _ _).bind (fun _ =>
        (orFail _ _).bind (fun _ => pure _))))

/- Commands that only print. -/
theorem KeepsFiles.audit
    (surroundings : Surroundings)
    (path : String) :
    KeepsFiles ((Command.audit path).run surroundings) :=
  (loadForm path).bind (fun _ =>
    (orFail _ _).bind (fun _ => pure _))

theorem KeepsFiles.walk
    (surroundings : Surroundings)
    (path answersPath : String)
    (decline : Bool) :
    KeepsFiles
      ((Command.walk path answersPath decline).run surroundings) :=
  (loadForm path).bind (fun form =>
    walkWith form answersPath surroundings.now decline)

/- A command that fails leaves every file as it was. -/
theorem Command.keepsOnFailure
    (surroundings : Surroundings)
    (command : Command) :
    KeepsOnFailure (command.run surroundings) := by
  cases command with
  | start company out =>
      exact .after_keeps (.orFail _ _) (fun form => .emit _ out)
  | audit path =>
      exact .of_keeps (.audit surroundings path)
  | page path output =>
      exact .after_keeps (.loadForm path) (fun form =>
        .after_keeps (.orFail _ _) (fun page => .emit page output))
  | publish path out force =>
      exact .after_keeps (.loadForm path) (fun form =>
        .after_keeps (.orFail _ _) (fun root =>
          .publishForm form root force))
  | schema => exact .of_keeps (.pure _)
  | walk path answersPath decline =>
      exact .of_keeps (.walk surroundings path answersPath decline)

end Questionnaire

------------------------------------------------------------
-- Actions That Succeed
------------------------------------------------------------

namespace Questionnaire

variable {α ε : Type}
variable {tree before after : FileTree}
variable {path text said : String}
variable {form : Form}

/- A file holds the text of a form. -/
def FileTree.HoldsForm
    (tree : FileTree)
    (path : String)
    (form : Form) : Prop :=
  ∃ text, tree.read path = .ok text ∧ Form.read text = .ok form

/- Going on with a result changes nothing. -/
theorem outcome_mapError_eq_ok
    {failure : ε → Failure}
    {result : Except ε α}
    {value : α} :
    (result.mapError failure, tree) = (.ok value, after) ↔
      result = .ok value ∧ tree = after := by
  cases result with
  | error error => simp [Except.mapError]
  | ok found => simp [Except.mapError]

/- Each step that succeeds is traced back to what it did. -/
theorem outcome_orFail_eq_ok
    {failure : ε → Failure}
    {result : Except ε α}
    {value : α} :
    outcome (orFail failure result) tree = (.ok value, after) ↔
      result = .ok value ∧ tree = after :=
  outcome_mapError_eq_ok

theorem outcome_loadForm_eq_ok :
    outcome (loadForm path) tree = (.ok form, after) ↔
      tree.HoldsForm path form ∧ tree = after := by
  simp only [loadForm, outcome_bind_eq_ok, outcome_readText,
    outcome_mapError_eq_ok, outcome_orFail_eq_ok]
  constructor
  · rintro ⟨text, middle, ⟨hText, rfl⟩, hForm, rfl⟩
    exact ⟨⟨text, hText, hForm⟩, rfl⟩
  · rintro ⟨⟨text, hText, hForm⟩, rfl⟩
    exact ⟨text, tree, ⟨hText, rfl⟩, hForm, rfl⟩

theorem outcome_writeText_eq_ok
    {failure : FileError → Failure} :
    outcome (accessOrFail failure (FileAccess.writeText path text))
        tree = (.ok (), after) ↔
      tree.write path text = .ok after := by
  rw [outcome_writeText]
  cases tree.write path text with
  | error error => simp
  | ok written => simp

theorem outcome_makeFolders_eq_ok
    {failure : FileError → Failure} :
    outcome (accessOrFail failure (FileAccess.makeFolders path))
        tree = (.ok (), after) ↔
      tree.makeFolders path = .ok after := by
  rw [outcome_makeFolders]
  cases tree.makeFolders path with
  | error error => simp
  | ok made => simp

/- A text is emitted into the file asked for. -/
theorem wrote_of_emit
    (hEmit :
      outcome (emit text (some path)) before = (.ok said, after)) :
    ∃ place, before.Wrote after path place text := by
  rcases outcome_bind_eq_ok.mp hEmit with ⟨_, middle, hFound, hRest⟩
  have hSame : middle = after := (Prod.mk.inj hRest).2
  rw [hSame] at hFound
  rcases FileTree.write_eq_ok_iff.mp
    (outcome_writeText_eq_ok.mp hFound) with
    ⟨folder, name, hApproach, hEnds, hPlain, hFolder, rfl⟩
  exact ⟨folder ++ [name],
    FileTree.wrote_put hApproach hEnds hPlain hFolder⟩

/- Nor does one change a file when it succeeds. -/
theorem KeepsFiles.sameFiles
    {action : TreeAction α}
    (hKeeps : KeepsFiles action)
    {result : α}
    (hOutcome : outcome action before = (.ok result, after)) :
    before.SameFiles after := by
  have hSame := hKeeps before
  rw [hOutcome] at hSame
  exact hSame

end Questionnaire

------------------------------------------------------------
-- Pages in Their Folder
------------------------------------------------------------

namespace Questionnaire

namespace Form

variable {form : Form}
variable {root said page : String}
variable {force : Bool}
variable {before made after : FileTree}
variable {folder : TreePath}

/-
  A page was put into the folder for pages, directly and under
  the name of its form.  Unless it was forced, or the folder was
  still to be made, no file stood there.
-/
structure Published
    (form : Form)
    (root page : String)
    (force : Bool)
    (before after : FileTree)
    (folder : TreePath) : Prop where
  slug : Slug.Spelled form.company.slug
  within : after.locate root = .ok (.folder folder)
  wrote :
    before.Wrote after (form.pagePath root)
      (folder ++ [form.fileName]) page
  spared :
    force = false → before.holdsFolder root = true →
      before.textOf? (folder ++ [form.fileName]) = none

/- A sound form has a page. -/
theorem exists_page
    {warnings : List Warning}
    (hAudit : form.audit = .ok warnings)
    (settings : Settings) :
    ∃ page, form.page settings = .ok page := by
  rw [Form.page, hAudit]
  exact ⟨_, rfl⟩

/- A form that has a page has a slug. -/
theorem spelled_of_page
    {settings : Settings}
    (hPage : form.page settings = .ok page) :
    Slug.Spelled form.company.slug := by
  rcases bind_eq_ok.mp hPage with ⟨warnings, hAudit, _⟩
  have hName := (audited_of_audit hAudit).name
  exact ((auditName_decided form.company).passes.mp hName).2

/- What publishing does after its checks. -/
theorem published_of_write
    (hRoot : root ≠ "")
    (hPage : form.page {} = .ok page)
    (hGuard :
      force = false → before.holds (form.pagePath root) = false)
    (hMake : before.makeFolders root = .ok made)
    (hWrite : made.write (form.pagePath root) page = .ok after) :
    ∃ folder, form.Published root page force before after folder := by
  have hSlug := spelled_of_page hPage
  rcases FileTree.write_eq_ok_iff.mp hWrite with
    ⟨folder, name, hApproach, hEnds, hPlain, hFolder, rfl⟩
  rcases FileTree.locate_of_approach_join hRoot (words_fileName hSlug)
    hApproach with ⟨hWithin, rfl⟩
  have hWrote : made.Wrote _ _ _ page :=
    FileTree.wrote_put hApproach hEnds hPlain hFolder
  have hSame := (FileTree.grows_of_makeFolders hMake).sameFiles
  refine ⟨folder, hSlug,
    (FileTree.extends_put _ _ _).locate_eq_folder hWithin,
    ⟨hWrote.leads, fun other hOther =>
      (hWrote.others other hOther).trans (hSame other)⟩, ?_⟩
  intro hForce hHolds
  -- No folder was made, so the file was looked for in the tree
  -- that it was then written to.
  have hMade : made = before :=
    Except.ok.inj
      (hMake.symm.trans (FileTree.makeFolders_of_holdsFolder hHolds))
  rw [hMade] at hApproach hFolder
  exact FileTree.textOf?_of_not_holds hApproach hEnds hPlain hFolder
    (hGuard hForce)

/- Publishing succeeds when each of its steps does. -/
theorem outcome_publishForm_eq_ok :
    outcome (publishForm form root force) before =
        (.ok said, after) ↔
      (before.holds (form.pagePath root) && !force) = false ∧
        ∃ page made,
          form.page {} = .ok page ∧
            before.makeFolders root = .ok made ∧
            made.write (form.pagePath root) page = .ok after ∧
            "Exported funnel to " ++ form.pagePath root ++ "\n" =
              said := by
  rw [publishForm, outcome_bind, outcome_pathExists]
  cases hGuard : before.holds (form.pagePath root) && !force with
  | true =>
      simp only [hGuard, if_true, Bool.true_eq_false, false_and,
        iff_false]
      exact nofun
  | false =>
      simp only [hGuard, Bool.false_eq_true, if_false, true_and,
        outcome_bind_eq_ok, outcome_orFail_eq_ok]
      constructor
      · rintro ⟨page, _, ⟨hPage, rfl⟩, _, made, hMake, _, written,
          hWrite, hRest⟩
        rcases Prod.mk.inj hRest with ⟨hSaid, rfl⟩
        exact ⟨page, made, hPage, outcome_makeFolders_eq_ok.mp hMake,
          outcome_writeText_eq_ok.mp hWrite, Except.ok.inj hSaid⟩
      · rintro ⟨page, made, hPage, hMake, hWrite, rfl⟩
        exact ⟨page, before, ⟨hPage, rfl⟩,
          (), made, outcome_makeFolders_eq_ok.mpr hMake,
          (), after, outcome_writeText_eq_ok.mpr hWrite, rfl⟩

/- The guard was passed, the folder was made, the page written. -/
theorem published_of_publishForm
    (hRoot : root ≠ "")
    (hPublish :
      outcome (publishForm form root force) before =
        (.ok said, after)) :
    ∃ page folder,
      form.page {} = .ok page ∧
        form.Published root page force before after folder := by
  rcases outcome_publishForm_eq_ok.mp hPublish with
    ⟨hGuard, page, made, hPage, hMake, hWrite, _⟩
  have hSpared (hForce : force = false) :
      before.holds (form.pagePath root) = false := by
    simpa [hForce] using hGuard
  rcases published_of_write hRoot hPage hSpared hMake hWrite with
    ⟨folder, hPublished⟩
  exact ⟨page, folder, hPage, hPublished⟩

end Form

end Questionnaire

------------------------------------------------------------
-- Pages Without Force
------------------------------------------------------------

namespace Questionnaire

variable {before : FileTree}

/- Nothing is found in a folder for pages that is not there. -/
theorem Form.publishForm_unforced
    {form : Form}
    {root : String}
    (hRoot : root ≠ "")
    (hHolds : before.holdsFolder root = false) :
    outcome (publishForm form root false) before =
      outcome (publishForm form root true) before := by
  have hPath : before.holds (form.pagePath root) = false := by
    cases hFound : before.holds (form.pagePath root) with
    | false => rfl
    | true =>
        have hFolder :=
          FileTree.holdsFolder_of_holds_join hRoot
            (words_fileName_ne_nil form) hFound
        rw [hHolds] at hFolder
        exact absurd hFolder Bool.false_ne_true
  rw [publishForm, publishForm, outcome_bind, outcome_bind,
    outcome_pathExists, hPath]
  rfl

/- The folder for pages has a name. -/
theorem ne_empty_of_outputRootOf
    {asked usual : Option String}
    {root : String}
    (hRoot : outputRootOf asked usual = .ok root) :
    root ≠ "" := by
  rintro rfl
  simp only [outputRootOf] at hRoot
  split at hRoot
  · exact absurd hRoot nofun
  · next hFull =>
      rw [Except.ok.inj hRoot] at hFull
      exact hFull rfl

/- With a form and a folder, the command is to publish. -/
theorem Command.outcome_publish
    {surroundings : Surroundings}
    {path root : String}
    {out : Option String}
    {force : Bool}
    {form : Form}
    (hForm : before.HoldsForm path form)
    (hRoot : outputRootOf out surroundings.outputRoot = .ok root) :
    outcome ((publish path out force).run surroundings) before =
      outcome (publishForm form root force) before := by
  have hLoad : outcome (loadForm path) before = (.ok form, before) :=
    outcome_loadForm_eq_ok.mpr ⟨hForm, rfl⟩
  simp only [run]
  rw [outcome_bind, hLoad]
  simp only
  rw [outcome_bind, outcome_orFail, hRoot]
  rfl

/- So force makes no difference to a command that makes it. -/
theorem Command.publish_unforced
    {surroundings : Surroundings}
    {path : String}
    {out : Option String}
    (hHolds :
      ∀ root, outputRootOf out surroundings.outputRoot = .ok root →
        before.holdsFolder root = false) :
    outcome ((publish path out false).run surroundings) before =
      outcome ((publish path out true).run surroundings) before := by
  simp only [run]
  rw [outcome_bind, outcome_bind]
  rcases hLoad : outcome (loadForm path) before with ⟨loaded, middle⟩
  cases loaded with
  | error failure => rfl
  | ok form =>
      rcases outcome_loadForm_eq_ok.mp hLoad with ⟨_, rfl⟩
      simp only
      rw [outcome_bind, outcome_bind, outcome_orFail]
      cases hRoot : outputRootOf out surroundings.outputRoot with
      | error failure => rfl
      | ok root =>
          exact Form.publishForm_unforced
            (ne_empty_of_outputRootOf hRoot) (hHolds root hRoot)

end Questionnaire

------------------------------------------------------------
-- Commands
------------------------------------------------------------

namespace Questionnaire

/- What a command that succeeds does to the files. -/
def Command.Effect
    (surroundings : Surroundings)
    (before after : FileTree) : Command → Prop
  | .start company (some out) =>
      ∃ form place,
        Form.starter company = .ok form ∧
          before.Wrote after out place form.fileText
  | .page source (some output) =>
      ∃ form page place,
        before.HoldsForm source form ∧ form.page {} = .ok page ∧
          before.Wrote after output place page
  | .publish source out force =>
      ∃ form root page folder,
        before.HoldsForm source form ∧
          outputRootOf out surroundings.outputRoot = .ok root ∧
          form.page {} = .ok page ∧
          form.Published root page force before after folder
  | _ => before.SameFiles after

namespace Command

variable {surroundings : Surroundings}
variable {before after : FileTree}
variable {said : String}

/- Command by command, what a run that succeeds has done. -/
theorem effect_of_run
    {command : Command}
    (hRun :
      outcome (command.run surroundings) before =
        (.ok said, after)) :
    command.Effect surroundings before after := by
  cases command with
  | start company out =>
      rcases outcome_bind_eq_ok.mp hRun with
        ⟨form, middle, hFound, hEmit⟩
      rcases outcome_orFail_eq_ok.mp hFound with ⟨hForm, rfl⟩
      cases out with
      | none => exact (KeepsFiles.pure _).sameFiles hEmit
      | some out =>
          rcases wrote_of_emit hEmit with ⟨place, hWrote⟩
          exact ⟨form, place, hForm, hWrote⟩
  | audit path =>
      exact (KeepsFiles.audit surroundings path).sameFiles hRun
  | page path output =>
      rcases outcome_bind_eq_ok.mp hRun with
        ⟨form, middle, hLoad, hRest⟩
      rcases outcome_loadForm_eq_ok.mp hLoad with ⟨hForm, rfl⟩
      rcases outcome_bind_eq_ok.mp hRest with
        ⟨page, middle, hFound, hEmit⟩
      rcases outcome_orFail_eq_ok.mp hFound with ⟨hPage, rfl⟩
      cases output with
      | none => exact (KeepsFiles.pure _).sameFiles hEmit
      | some output =>
          rcases wrote_of_emit hEmit with ⟨place, hWrote⟩
          exact ⟨form, page, place, hForm, hPage, hWrote⟩
  | publish path out force =>
      rcases outcome_bind_eq_ok.mp hRun with
        ⟨form, middle, hLoad, hRest⟩
      rcases outcome_loadForm_eq_ok.mp hLoad with ⟨hForm, rfl⟩
      rcases outcome_bind_eq_ok.mp hRest with
        ⟨root, middle, hFound, hPublish⟩
      rcases outcome_orFail_eq_ok.mp hFound with ⟨hRoot, rfl⟩
      rcases Form.published_of_publishForm
        (ne_empty_of_outputRootOf hRoot) hPublish with
        ⟨page, folder, hPage, hPublished⟩
      exact
        ⟨form, root, page, folder, hForm, hRoot, hPage, hPublished⟩
  | schema => exact (KeepsFiles.pure _).sameFiles hRun
  | walk path answersPath decline =>
      exact (KeepsFiles.walk surroundings path answersPath
        decline).sameFiles hRun

/-
  A command that fails changes no file.  One that succeeds has
  written the text that it was asked for, and where it was asked
  to; publishing keeps to the folder for pages, and without force
  to names that are free there, unless it had to make the folder
  first.
-/
theorem run_effect
    (surroundings : Surroundings)
    (before : FileTree) :
    (∀ command : Command,
      match outcome (command.run surroundings) before with
      | (.ok _, after) => command.Effect surroundings before after
      | (.error _, after) => before.SameFiles after) ∧
    (∀ source out,
      (∀ root, outputRootOf out surroundings.outputRoot = .ok root →
        before.holdsFolder root = false) →
      outcome ((publish source out false).run surroundings) before =
        outcome ((publish source out true).run surroundings)
          before) := by
  refine ⟨fun command => ?_, fun source out => publish_unforced⟩
  split
  · next hRun => exact effect_of_run hRun
  · next hRun =>
      exact keepsOnFailure surroundings command before _ _ hRun

end Command

end Questionnaire

------------------------------------------------------------
-- A Page in Place of Another File
------------------------------------------------------------

namespace Questionnaire

/- A page has marks. -/
theorem Form.mark_mem_page
    {form : Form}
    {settings : Settings}
    {page : String}
    (hPage : form.page settings = .ok page) :
    '<' ∈ page.toList := by
  rcases bind_eq_ok.mp hPage with ⟨warnings, _, hText⟩
  have hMarker : '<' ∈ Document.planMarker.toList := by decide
  rw [← Except.ok.inj hText, Document.pageOf, String.toList_ofList]
  exact List.mem_append_left _
    (List.mem_append_left _ (List.mem_append_right _ hMarker))

/- A small form. -/
def acmeText : String :=
  "\x7b\"companyName\":\"Acme\",\"slug\":\"acme\"\x7d"

/- The form, and a file that stands where its page belongs. -/
def takenTree : FileTree := {
  files := [
    (["f.json"], acmeText),
    (["formulario-acme.html"], "old")]
  folders := []
  here := [] }

/- The tree once a folder has been made. -/
def passedTree : FileTree :=
  { takenTree with folders := [["missing"]] }

/- A result that is there was a success. -/
theorem eq_ok_of_toOption
    {α ε : Type}
    {result : Except ε α}
    {value : α}
    (hResult : result.toOption = some value) :
    result = .ok value := by
  cases result with
  | error error => exact absurd hResult nofun
  | ok found => exact congrArg Except.ok (Option.some.inj hResult)

/- The form is sound, and its page belongs in that place. -/
theorem exists_acme :
    ∃ form page,
      takenTree.HoldsForm "f.json" form ∧
        form.page {} = .ok page ∧
        form.pagePath "missing/.." =
          "missing/../formulario-acme.html" := by
  have hText : takenTree.read "f.json" = .ok acmeText :=
    eq_ok_of_toOption (by decide +kernel)
  have hRead :
      (match Form.read acmeText with
        | .ok form => form.company.slug == "acme" && form.audit.isOk
        | .error _ => false) = true := by
    decide +kernel
  split at hRead
  · next form hForm =>
      rcases Bool.and_eq_true_iff.mp hRead with ⟨hSlug, hSound⟩
      cases hAudit : form.audit with
      | error error =>
          rw [hAudit] at hSound
          exact absurd hSound Bool.false_ne_true
      | ok warnings =>
          rcases Form.exists_page hAudit {} with ⟨page, hPage⟩
          refine ⟨form, page, ⟨acmeText, hText, hForm⟩, hPage, ?_⟩
          rw [Form.pagePath, Form.fileName, beq_iff_eq.mp hSlug]
          decide +kernel
  · exact absurd hRead Bool.false_ne_true

/- Its path leads there when the folder on the way is made. -/
theorem write_passedTree
    (text : String) :
    passedTree.write "missing/../formulario-acme.html" text =
      .ok (passedTree.put ["formulario-acme.html"] text) :=
  FileTree.write_eq_ok_iff.mpr
    ⟨[], "formulario-acme.html",
      eq_ok_of_toOption (by decide +kernel), by decide +kernel,
      ⟨by decide, by decide, by decide +kernel⟩, by decide, rfl⟩

/-
  The folder for pages is reached through one that is missing,
  so the file is not found before that one is made; then its
  text is lost.
-/
theorem page_replaced_unforced :
    takenTree.textOf? ["formulario-acme.html"] = some "old" ∧
      ∃ said after page,
        outcome
            ((Command.publish "f.json" (some "missing/..") false).run
              ⟨none, ⟨0, 0⟩⟩)
            takenTree = (.ok said, after) ∧
          after.textOf? ["formulario-acme.html"] = some page ∧
          page ≠ "old" := by
  rcases exists_acme with ⟨form, page, hForm, hPage, hPath⟩
  have hGuard :
      (takenTree.holds (form.pagePath "missing/..") && !false) =
        false := by
    rw [hPath]
    decide +kernel
  have hMake : takenTree.makeFolders "missing/.." = .ok passedTree :=
    eq_ok_of_toOption (by decide +kernel)
  have hWrite := write_passedTree page
  rw [← hPath] at hWrite
  have hPublish :=
    Form.outcome_publishForm_eq_ok.mpr
      ⟨hGuard, page, passedTree, hPage, hMake, hWrite, rfl⟩
  have hOther : page ≠ "old" := by
    rintro rfl
    exact absurd (Form.mark_mem_page hPage) (by decide)
  have hRun :
      outcome
          ((Command.publish "f.json" (some "missing/..") false).run
            ⟨none, ⟨0, 0⟩⟩)
          takenTree =
        outcome (publishForm form "missing/.." false) takenTree :=
    Command.outcome_publish hForm rfl
  exact ⟨by decide, _, _, page, hRun.trans hPublish,
    FileTree.textOf?_put _ _ _, hOther⟩

end Questionnaire
