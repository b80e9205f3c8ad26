import Questionnaire.Command.Run
import Questionnaire.Proofs.Text.Slug

/-
  The path of a name in a folder.

  Its words are those of the folder and then those of the name
  (`Path.words_join`), and it begins where the folder does
  (`Path.startsWith_join`).  The file name of a form with a slug
  is one word (`Form.words_fileName`).
-/

------------------------------------------------------------
-- Words
------------------------------------------------------------

namespace Questionnaire

namespace Path

/- The words of a path with a slash between two others. -/
theorem words_append_slash
    {path : String}
    {front back : List Char}
    (hPath : path.toList = front ++ '/' :: back) :
    words path =
      words (String.ofList front) ++ words (String.ofList back) := by
  have hRuns :
      Text.runs (fun c => c != '/') (front ++ '/' :: back) =
        Text.runs (fun c => c != '/') front ++
          Text.runs (fun c => c != '/') back :=
    Text.runs_append_mark (by exact bne_self_eq_false '/') _ _
  simp only [words, hPath, hRuns, String.toList_ofList,
    List.map_append]

/- A path without a slash is one word. -/
theorem words_of_no_slash
    {name : String}
    (hName : name ≠ "")
    (hSlash : '/' ∉ name.toList) :
    words name = [name] := by
  have hRuns :
      Text.runs (fun c => c != '/') name.toList = [name.toList] := by
    refine Text.runs_of_wanted ?_ (fun c hMem => ?_)
    · intro hNil
      exact hName (String.toList_eq_nil_iff.mp hNil)
    · rw [bne_iff_ne]
      intro hEq
      exact hSlash (hEq ▸ hMem)
  rw [words, hRuns, List.map_singleton, String.ofList_toList]

end Path

end Questionnaire

------------------------------------------------------------
-- Names in Folders
------------------------------------------------------------

namespace Questionnaire

namespace Path

variable {root : String}

/- A path that ends in a slash has all the rest before it. -/
theorem exists_of_endsInSlash
    (hEnds : endsInSlash root = true) :
    ∃ front, root.toList = front ++ ['/'] := by
  rw [endsInSlash, ← String.endsWith_toSlice,
    String.Slice.endsWith_string_iff, String.copy_toSlice] at hEnds
  rcases hEnds with ⟨front, hRoot⟩
  exact ⟨front, hRoot.symm⟩

/- What joins the two: a slash, unless the folder ends in one. -/
theorem exists_join
    (root name : String) :
    ∃ front,
      (joinPath root name).toList = front ++ '/' :: name.toList ∧
        words (String.ofList front) = words root ∧
        (root.toList = front ∨ root.toList = front ++ ['/']) := by
  cases hEnds : root.endsWith "/" with
  | true =>
      rcases exists_of_endsInSlash hEnds with ⟨front, hRoot⟩
      refine ⟨front, ?_, ?_, .inr hRoot⟩
      · simp [joinPath, hEnds, hRoot]
      · rw [words_append_slash hRoot]
        exact (List.append_nil _).symm
  | false =>
      refine ⟨root.toList, ?_, ?_, .inl rfl⟩
      · simp [joinPath, hEnds]
      · rw [String.ofList_toList]

theorem words_join
    (root name : String) :
    words (joinPath root name) = words root ++ words name := by
  rcases exists_join root name with ⟨front, hJoin, hFront, _⟩
  rw [words_append_slash hJoin, hFront, String.ofList_toList]

/- A path starts at the root of all when its folder does. -/
theorem startsWith_join
    (hRoot : root ≠ "")
    (name : String) :
    (joinPath root name).startsWith "/" = root.startsWith "/" := by
  rcases exists_join root name with ⟨front, hJoin, _, hFront⟩
  rw [Bool.eq_iff_iff, String.startsWith_string_iff,
    String.startsWith_string_iff, hJoin]
  rcases hFront with hFront | hFront
  · cases front with
    | nil => exact absurd (String.toList_eq_nil_iff.mp hFront) hRoot
    | cons c front =>
        rw [hFront]
        simp [List.cons_prefix_cons]
  · rw [hFront]
    cases front with
    | nil => simp [List.cons_prefix_cons]
    | cons c front => simp [List.cons_prefix_cons]

/- A name makes no path shorter. -/
theorem size_le_join
    (root name : String) :
    root.utf8ByteSize ≤ (joinPath root name).utf8ByteSize := by
  unfold joinPath
  split
  · rw [String.utf8ByteSize_append]
    exact Nat.le_add_right _ _
  · rw [String.utf8ByteSize_append, String.utf8ByteSize_append,
      Nat.add_assoc]
    exact Nat.le_add_right _ _

end Path

end Questionnaire

------------------------------------------------------------
-- File Names
------------------------------------------------------------

namespace Questionnaire

namespace Form

variable {form : Form}

theorem toList_fileName
    (form : Form) :
    form.fileName.toList =
      'f' :: ("ormulario-".toList ++ form.company.slug.toList
        ++ ".html".toList) := by
  simp [fileName]

/- A file name has a word, whatever the slug. -/
theorem words_fileName_ne_nil
    (form : Form) :
    Path.words form.fileName ≠ [] := by
  rw [Path.words, toList_fileName]
  intro hNil
  exact Text.runs_cons_ne_nil (by rfl) _ (List.map_eq_nil_iff.mp hNil)

/- A slug has no slash, so the file name is that word. -/
theorem words_fileName
    (hSlug : Slug.Spelled form.company.slug) :
    Path.words form.fileName = [form.fileName] := by
  refine Path.words_of_no_slash ?_ ?_
  · intro hEmpty
    have hList := toList_fileName form
    rw [hEmpty] at hList
    exact absurd hList nofun
  · intro hSlash
    rw [toList_fileName, List.mem_cons, List.mem_append,
      List.mem_append] at hSlash
    rcases hSlash with hFirst | (hFront | hChar) | hBack
    · exact absurd hFirst (by decide)
    · exact absurd hFront (by decide)
    · rcases hSlug.symbol_or_dash '/' hChar with hSymbol | hDash
      · exact absurd hSymbol (by decide)
      · exact absurd hDash (by decide)
    · exact absurd hBack (by decide)

end Form

end Questionnaire
