import LinkGate.Proofs.PathContainment
import LinkGate.Proofs.ScanFindings
import LinkGate.Proofs.TrimmedLines

/-!
# Targets in both kinds of documents

Documents that allow full addresses only and those that allow any target agree on full addresses. Where any
target is allowed, none is rejected: a target that is no full address names a heading if it holds a number sign,
and a file otherwise. The path of a file never begins with a slash, so that every file that a scan comes upon is
looked up.
-/

namespace LinkGate

/-! ## Beginnings of full addresses -/

namespace Url

theorem head?_significant {s : String} {c : Char} (begins : s.toList.head? = some c)
    (shows : 0x20 < c.toNat) : (significant s).head? = some c := by
  obtain ⟨rest, characters⟩ := List.head?_eq_some_iff.mp begins
  let isEdge (c : Char) : Bool := c.toNat ≤ 0x20
  have inside : isEdge c = false := decide_eq_false (Nat.not_le.mpr shows)
  have front : s.toList.dropWhile isEdge = c :: rest := by
    rw [characters, List.dropWhile_cons_of_neg]
    rw [inside]
    exact Bool.false_ne_true
  have back : ((c :: rest).reverse.dropWhile isEdge).reverse = c :: rest.rdropWhile isEdge :=
    Text.rdropWhile_append_cons inside [] rest
  have counts : (!(c == '\t' || c == '\n' || c == '\r')) = true := by
    have different : c ≠ '\t' ∧ c ≠ '\n' ∧ c ≠ '\r' := by
      refine ⟨?_, ?_, ?_⟩ <;> rintro rfl <;> exact absurd shows (by decide)
    simp [different]
  change (((s.toList.dropWhile isEdge).reverse.dropWhile isEdge).reverse.filter _).head? = some c
  rw [front, back, List.filter_cons, if_pos counts, List.head?_cons]

theorem scheme?_eq_none {s : List Char} {c : Char} (begins : s.head? = some c)
    (noLetter : c.isAlpha = false) : scheme? s = none := by
  simp only [scheme?, begins, Option.any_some, noLetter]

end Url

/-- A full address begins with a letter, if it begins with a character that shows. -/
theorem isUrl_eq_false {s : String} {c : Char} (begins : s.toList.head? = some c)
    (shows : 0x20 < c.toNat) (noLetter : c.isAlpha = false) : isUrl s = false := by
  have noScheme := Url.scheme?_eq_none (Url.head?_significant begins shows) noLetter
  simp only [isUrl, Url.parse, noScheme]

namespace Target

variable {target : String}

/-! ## What a target is -/

theorem ofRootPath_of_sign (directory named : List Char) :
    ((∃ heading fragment, ofRootPath directory named = .anchor heading fragment) ↔ '#' ∈ named) ∧
      ((∃ path, ofRootPath directory named = .localFile path) ↔ '#' ∉ named) := by
  by_cases sign : '#' ∈ named
  · obtain ⟨before, after, rfl, first⟩ := List.eq_append_cons_of_mem sign
    rw [ofRootPath_eq, Text.splitOnce?_append_cons first]
    exact ⟨iff_of_true ⟨_, _, rfl⟩ sign,
      iff_of_false (fun ⟨_, isFile⟩ => nomatch isFile) (not_not.mpr sign)⟩
  · rw [ofRootPath_eq, Text.splitOnce?_of_not_mem sign]
    exact ⟨iff_of_false (fun ⟨_, _, isAnchor⟩ => nomatch isAnchor) sign,
      iff_of_true ⟨_, rfl⟩ sign⟩

theorem classify_strict (target : String) (document : Path) :
    classify target document false = if isUrl target then .ok (.remote target) else .error .notAUrl := by
  rw [classify, if_neg Bool.false_ne_true]

theorem withFileName_of_isUrl (isFull : isUrl target = true) (document : Path) :
    withFileName document target.toList = target.toList := by
  refine if_neg fun fragment => ?_
  rw [isUrl_eq_false fragment (by decide) (by decide)] at isFull
  contradiction

theorem classify_of_isUrl (isFull : isUrl target = true) (document : Path) :
    classify target document true = .ok (.remote target) := by
  have named := withFileName_of_isUrl isFull document
  simp only [classify, if_true, named, String.ofList_toList, isFull]

/-- A target as it is asked about: a fragment alone is put behind the file name of the document. -/
theorem ofList_withFileName (document : Path) (target : String) :
    String.ofList (withFileName document target.toList) =
      if target.toList.head? = some '#' then document.fileName?.getD "" ++ target else target := by
  unfold withFileName
  split
  · rw [String.ofList_append, String.ofList_toList, String.ofList_toList]
  · exact String.ofList_toList

theorem classify_of_not_isUrl
    (notFull : isUrl (String.ofList (withFileName document target.toList)) = false) :
    classify target document true = .ok (relative document (withFileName document target.toList)) := by
  simp only [classify, if_true, notFull, Bool.false_eq_true, if_false]

theorem exists_classify (target : String) (document : Path) :
    ∃ meaning, classify target document true = .ok meaning := by
  rw [classify, if_pos rfl]
  dsimp only
  split <;> exact ⟨_, rfl⟩

end Target

/-! ## What a scan looks up -/

/-- A file is missing exactly if a link names it and nothing is there. -/
theorem Occurrence.flaw?_eq_missingLocalFile_iff {context : Context} {files : Files} {o : Occurrence}
    {path : Path} :
    o.flaw? context files = some (.missingLocalFile path) ↔
      o.meaning = .ok (.localFile path) ∧ files.has (context.root.join path) = false := by
  unfold flaw?
  split
  · next rejected => simp [rejected]
  · next named meaning =>
      have relative : named.isAbsolute = false :=
        beq_eq_false_iff_ne.mpr (Target.head?_of_classify_localFile meaning)
      by_cases there : files.has (context.root.join named) = true
      · rw [if_pos ⟨relative, there⟩, meaning]
        refine iff_of_false (fun none => nomatch none) ?_
        rintro ⟨same, missing⟩
        obtain rfl := Target.localFile.inj (Except.ok.inj same)
        rw [there] at missing
        contradiction
      · rw [if_neg fun found => there found.2, meaning]
        simp only [Option.some.injEq, Flaw.missingLocalFile.injEq, Except.ok.injEq,
          Target.localFile.injEq]
        exact ⟨fun same => ⟨same, same ▸ Bool.eq_false_iff.mpr there⟩, And.left⟩
  · next other _ noFile =>
      refine iff_of_false (fun none => nomatch none) ?_
      exact fun ⟨meaning, _⟩ => noFile path meaning

/-- The two kinds of documents agree. For every target and document: where full addresses only are allowed, a target
is accepted exactly if it is one, and where any target is allowed it then is the same address; there nothing is
rejected. A target that is no full address, with the file name of the document in front if it is a fragment alone,
names a heading exactly if it holds a number sign, and a file exactly if it does not. The path of a file does not
begin with a slash, so that it is looked up whenever a scan comes upon it, and reported only if nothing is there. -/
theorem Target.classify_modes_agree (target : String) (document : Path) :
    ((∃ meaning, classify target document false = .ok meaning) ↔ isUrl target = true) ∧
    (isUrl target = true →
      classify target document false = .ok (.remote target) ∧
      classify target document true = .ok (.remote target)) ∧
    (∃ meaning, classify target document true = .ok meaning) ∧
    (isUrl target = false →
      (target.toList.head? = some '#' → isUrl (document.fileName?.getD "" ++ target) = false) →
      ((∃ heading fragment, classify target document true = .ok (.anchor heading fragment)) ↔
        '#' ∈ target.toList) ∧
      ((∃ path, classify target document true = .ok (.localFile path)) ↔ '#' ∉ target.toList)) ∧
    (∀ allowLocal path, classify target document allowLocal = .ok (.localFile path) →
      path.isAbsolute = false ∧
      ∀ files root, Verdicts.localExists files root path = files.has (root.join path)) ∧
    ∀ context files allowLocal text scan,
      let after := (Scan.scanText context files ⟨document, allowLocal⟩ text scan).2
      ∃ added, after.verdicts.failures = scan.verdicts.failures ++ added ∧
        ∀ failure ∈ added, ∀ path, failure.flaw = .missingLocalFile path →
          path.isAbsolute = false ∧ files.has (context.root.join path) = false := by
  refine ⟨?_, ?_, exists_classify target document, ?_, ?_, ?_⟩
  · rw [classify_strict]
    cases isUrl target <;> simp
  · intro isFull
    refine ⟨?_, classify_of_isUrl isFull document⟩
    rw [classify_strict, if_pos isFull]
  · intro noUrl noFragmentUrl
    have notFull : isUrl (String.ofList (withFileName document target.toList)) = false := by
      rw [ofList_withFileName]
      split
      · next fragment => exact noFragmentUrl fragment
      · exact noUrl
    -- Neither the directory nor the file name changes whether there is a number sign to cut at.
    have kinds := ofRootPath_of_sign (placed document (withFileName document target.toList)).1
      (placed document (withFileName document target.toList)).2
    rw [sign_mem_placed] at kinds
    simpa only [classify_of_not_isUrl notFull, relative_eq, Except.ok.injEq] using kinds
  · intro allowLocal path classified
    exact ⟨beq_eq_false_iff_ne.mpr (head?_of_classify_localFile classified),
      localExists_of_classify_localFile classified⟩
  · intro context files allowLocal text scan after
    obtain ⟨-, added⟩ := Scan.scanText_spec context files ⟨document, allowLocal⟩ text scan
    refine ⟨_, added.failures, ?_⟩
    intro failure member path missing
    obtain ⟨o, -, reported⟩ := List.mem_filterMap.mp member
    obtain ⟨flaw, found, rfl⟩ := Option.map_eq_some_iff.mp reported
    obtain rfl : flaw = .missingLocalFile path := missing
    obtain ⟨meaning, absent⟩ := Occurrence.flaw?_eq_missingLocalFile_iff.mp found
    exact ⟨beq_eq_false_iff_ne.mpr (head?_of_classify_localFile meaning), absent⟩

/-- A target with two slashes in front, in a document whose path begins with one. -/
theorem Target.classify_modes_agree_on_slashes :
    isUrl "//etc//hosts" = false ∧
      classify "//etc//hosts" ⟨"/docs/guide.md"⟩ true = .ok (.localFile ⟨"etc//hosts"⟩) ∧
      Path.isAbsolute ⟨"etc//hosts"⟩ = false ∧
      ∃ path, classify "//etc//hosts" ⟨"/docs/guide.md"⟩ true = .ok (.localFile path) := by
  have noUrl : isUrl "//etc//hosts" = false := by decide +kernel
  have classified : classify "//etc//hosts" ⟨"/docs/guide.md"⟩ true =
      .ok (.localFile ⟨"etc//hosts"⟩) := by
    decide +kernel
  obtain ⟨-, -, -, kinds, files, -⟩ := classify_modes_agree "//etc//hosts" ⟨"/docs/guide.md"⟩
  obtain ⟨-, isFile⟩ := kinds noUrl fun fragment => absurd fragment (by decide)
  exact ⟨noUrl, classified, (files true _ classified).1, isFile.mpr (by decide)⟩

end LinkGate
