import LinkGate.Proofs.AnchorAddress

/-!
# Targets in the addresses of headings

A target that names a heading is cut at a number sign, and the parts are put together again in the address
of the heading. Nothing of the target is lost on the way but the slashes at its beginning: the address is the
base, the directory of the document and the target, whatever number signs stand in any of them.
-/

namespace LinkGate

namespace Path

/-- The directory of a path is the names on the way to it, with slashes between them and one behind. -/
theorem directory_eq_intercalate (p : Path) :
    p.directory =
      if p.directoryNames = [] then "" else "/".intercalate p.directoryNames ++ "/" := by
  rw [directory, ← directoryNames]
  induction p.directoryNames with
  | nil => rfl
  | cons name rest ih =>
      rw [List.map_cons, String.join_cons, ih, if_neg (List.cons_ne_nil name rest)]
      cases rest with
      | nil => rw [if_pos rfl, String.append_empty, String.intercalate_singleton]
      | cons other others =>
          rw [if_neg (List.cons_ne_nil other others), String.intercalate_cons_cons]
          simp only [String.append_assoc]

end Path

namespace Target

/-- The address of a heading is the base and behind it the target without slashes at its beginning, if there
are any. To a target without them the directory of the document is put in front, and to a fragment alone the
file name of the document as well. -/
theorem anchorUrl_keeps_target {document : Path} {target heading fragment : String} (base : String)
    (origin : Origin)
    (classified : classify target document true = .ok (.anchor heading fragment)) :
    let names := document.components.dropLast.filterMap Path.Component.name?
    let directory := if names = [] then "" else "/".intercalate names ++ "/"
    Scan.anchorUrl (some base) heading fragment origin = .ok
      (if target.toList.head? = some '/' then
        base ++ String.ofList (target.toList.dropWhile (· == '/'))
      else if target.toList.head? = some '#' then
        base ++ directory ++ document.fileName?.getD "" ++ target
      else base ++ directory ++ target) := by
  intro names directory
  have sameDirectory : document.directory = directory := document.directory_eq_intercalate
  have written := toList_anchorUrl_of_classify base classified
  rw [placed_withFileName] at written
  refine congrArg Except.ok (String.toList_inj.mp ?_)
  rw [written, ← sameDirectory]
  by_cases slash : target.toList.head? = some '/'
  · simp only [if_pos slash, String.toList_append, String.toList_ofList, List.nil_append]
  · by_cases sign : target.toList.head? = some '#'
    · simp only [if_neg slash, if_pos sign, String.toList_append, List.append_assoc]
    · simp only [if_neg slash, if_neg sign, String.toList_append, List.append_assoc]

/-- Number signs in the target, in the file name and in the directory of the document. -/
theorem anchorUrl_keeps_target_of_many_signs :
    let base := "https://github.com/o/r/tree/main/"
    classify "#one#two" ⟨"./a#b//c#d.md"⟩ true = .ok (.anchor "a#b/c" "d.md#one#two") ∧
      Scan.anchorUrl (some base) "a#b/c" "d.md#one#two" ⟨⟨"./a#b//c#d.md"⟩, "#one#two", 1⟩ =
        .ok (base ++ "a#b/" ++ "c#d.md" ++ "#one#two") := by
  intro base
  have classified : classify "#one#two" ⟨"./a#b//c#d.md"⟩ true =
      .ok (.anchor "a#b/c" "d.md#one#two") := by
    decide +kernel
  exact ⟨classified, (anchorUrl_keeps_target base ⟨_, _, 1⟩ classified).trans (by decide +kernel)⟩

end Target

end LinkGate
