import LinkGate.Proofs.BaseQuestions
import LinkGate.Run

/-!
# Addresses of headings

The address of a heading is put together from the owner and the name of a repository, a branch or commit,
the path of the linked document and the fragment. A number sign in one of the parts in front of the fragment
would have to be escaped and is not, so that the address leads to the linked document only if none of them
holds one.
-/

namespace LinkGate

open Git

/-! ## Where documents are rendered -/

/-- The repository and the branch or commit under which documents are rendered, as `git` and the build
server tell. -/
inductive Environment.RendersUnder (environment : Environment) (git : Behaviour)
    (earlier : List Call) : Repository → String → Prop where
  /-- A branch that is followed, on a remote that lives on the host. -/
  | tracked {remote branch url : String} {repository : Repository}
      (noSlash : '/' ∉ remote.toList)
      (followed : git earlier .trackedBranch = .ok (some (remote ++ "/" ++ branch)))
      (lives : git (earlier ++ [.trackedBranch]) (.remoteUrl remote) = .ok url)
      (hosted : Repository.ofRemoteUrl? url = some repository) :
      RendersUnder environment git earlier repository branch
  /-- The commit that is built, if no branch is followed. -/
  | built {name commit : String} {repository : Repository}
      (notFollowed : git earlier .trackedBranch = .ok none)
      (named : environment.repository = some name)
      (tested : environment.commit = some commit)
      (hosted : Repository.ofShortName? name = some repository) :
      RendersUnder environment git earlier repository commit

variable {environment : Environment} {git : Behaviour} {earlier : List Call} {base : String}

theorem baseUrl?_eq_some (found : environment.baseUrl? = some base) :
    ∃ name commit repository, environment.repository = some name ∧
      environment.commit = some commit ∧ Repository.ofShortName? name = some repository ∧
      base = repository.treeUrl commit := by
  simp only [Environment.baseUrl?, bind, Option.bind_eq_some_iff] at found
  obtain ⟨name, named, repository, hosted, commit, tested, same⟩ := found
  exact ⟨name, commit, repository, named, tested, hosted, (Option.some.inj same).symm⟩

/-- The address of the rendered documents names the repository and the branch or commit. -/
theorem rendersUnder_of_resolveBaseUrl
    (resolved : ((resolveBaseUrl environment).run git earlier).1 = .ok (some base)) :
    ∃ repository ref, environment.RendersUnder git earlier repository ref ∧
      base = repository.treeUrl ref := by
  generalize ran : (resolveBaseUrl environment).run git earlier = outcome at resolved
  have finds : environment.FindsBase git earlier outcome := ran ▸ findsBase_run environment git earlier
  cases finds with
  | unanswered => cases resolved
  | built notFollowed =>
      obtain ⟨name, commit, repository, named, tested, hosted, same⟩ :=
        baseUrl?_eq_some (Except.ok.inj resolved)
      exact ⟨repository, commit, .built notFollowed named tested hosted, same⟩
  | offRemote => cases resolved
  | unknown => cases resolved
  | onRemote noSlash followed lives =>
      obtain ⟨repository, hosted, same⟩ := Option.map_eq_some_iff.mp (Except.ok.inj resolved)
      exact ⟨repository, _, .tracked noSlash followed lives hosted, same.symm⟩

/-! ## Linked documents -/

namespace Target

/-- The path from the root of the document that a target with a fragment is written for. -/
def linkedPath (document : Path) (target : String) : List Char :=
  let path := target.toList.takeWhile (· != '#')
  if target.toList.head? = some '/' then path.dropWhile (· == '/')
  else if target.toList.head? = some '#' then
    document.directory.toList ++ (document.fileName?.getD "").toList
  else document.directory.toList ++ path

def linkedFragment (target : String) : List Char :=
  (target.toList.dropWhile (· != '#')).drop 1

/-- A target with a fragment is put together of the path and the fragment that it is written for. -/
theorem placed_eq_linked (document : Path) {target : String} (member : '#' ∈ target.toList) :
    (placed document (withFileName document target.toList)).1 ++
        (placed document (withFileName document target.toList)).2 =
      linkedPath document target ++ '#' :: linkedFragment target := by
  obtain ⟨path, fragment, written, first⟩ := List.eq_append_cons_of_mem member
  have taken : target.toList.takeWhile (· != '#') = path := by
    rw [written, Text.takeWhile_append_cons first]
  have behind : linkedFragment target = fragment := by
    rw [linkedFragment, written, Text.dropWhile_append_cons first, List.drop_one, List.tail_cons]
  rw [placed_withFileName, linkedPath, taken, behind]
  split
  · rw [written, List.nil_append, List.dropWhile_append]
    split
    · next empty =>
        rw [List.isEmpty_iff.mp empty, List.nil_append]
        rfl
    · rfl
  · split
    · next begins =>
        have noPath : path = [] := by
          cases path with
          | nil => rfl
          | cons c rest =>
              rw [written, List.cons_append, List.head?_cons, Option.some.injEq] at begins
              exact absurd (begins ▸ List.mem_cons_self) first
        rw [written, noPath, List.nil_append, List.append_assoc]
    · rw [written, List.append_assoc]

/-- The address of a heading is the base and the target as it is put behind it: the number sign at which
the target is cut is put back. -/
theorem toList_anchorUrl_of_classify {document : Path} {target heading fragment : String}
    {allowLocal : Bool} (base : String)
    (classified : classify target document allowLocal = .ok (.anchor heading fragment)) :
    (anchorUrl base heading fragment).toList =
      base.toList ++ ((placed document (withFileName document target.toList)).1 ++
        (placed document (withFileName document target.toList)).2) := by
  obtain ⟨-, isAnchor⟩ := classify_relative classified (by simp)
  rw [relative_eq] at isAnchor
  obtain ⟨before, -, named, heading_eq⟩ := of_ofRootPath_eq_anchor isAnchor.symm
  simp only [anchorUrl, String.toList_append, List.append_assoc]
  rw [named, heading_eq, List.append_assoc]
  rfl

theorem sign_mem_of_classify_anchor {document : Path} {target heading fragment : String}
    {allowLocal : Bool} (classified : classify target document allowLocal = .ok (.anchor heading fragment)) :
    '#' ∈ target.toList := by
  obtain ⟨-, isAnchor⟩ := classify_relative classified (by simp)
  rw [relative_eq] at isAnchor
  obtain ⟨before, -, named, -⟩ := of_ofRootPath_eq_anchor isAnchor.symm
  rw [← sign_mem_placed document, named]
  exact List.mem_append_right _ List.mem_cons_self

/-- The parts of the address of a heading, in their order. -/
theorem anchorUrl_of_classify {document : Path} {target heading fragment : String}
    {allowLocal : Bool} (base : String)
    (classified : classify target document allowLocal = .ok (.anchor heading fragment)) :
    (anchorUrl base heading fragment).toList =
      base.toList ++ linkedPath document target ++ '#' :: linkedFragment target := by
  rw [toList_anchorUrl_of_classify base classified,
    placed_eq_linked document (sign_mem_of_classify_anchor classified), List.append_assoc]

/-- The path that a target is written for holds a number sign only if the directory or the file name of
the document brings one into it. -/
theorem sign_not_mem_linkedPath {document : Path} {target : String} :
    '#' ∉ linkedPath document target ↔
      (target.toList.head? ≠ some '/' → '#' ∉ document.directory.toList) ∧
        (target.toList.head? = some '#' → '#' ∉ (document.fileName?.getD "").toList) := by
  have noSign : '#' ∉ target.toList.takeWhile (· != '#') :=
    fun member => absurd (List.mem_takeWhile_imp member) (by decide)
  unfold linkedPath
  by_cases slash : target.toList.head? = some '/'
  · have absent : '#' ∉ (target.toList.takeWhile (· != '#')).dropWhile (· == '/') :=
      fun member => noSign ((List.dropWhile_suffix _).subset member)
    simp [slash, absent]
  · by_cases fragment : target.toList.head? = some '#'
    · simp [fragment]
    · simp [slash, fragment, noSign]

end Target

namespace Repository

variable (repository : Repository) (ref : String)

theorem treeUrl_eq :
    repository.treeUrl ref = "https://github.com/" ++ repository.owner ++ "/" ++ repository.name ++
      "/tree/" ++ ref ++ "/" := by
  have site : "https://" ++ host ++ "/" = "https://github.com/" := by decide
  exact congrArg (· ++ repository.owner ++ "/" ++ repository.name ++ "/tree/" ++ ref ++ "/") site

/-- The address of the rendered documents holds a number sign only if a part of it does. -/
theorem sign_not_mem_treeUrl :
    '#' ∉ (repository.treeUrl ref).toList ↔
      '#' ∉ repository.owner.toList ∧ '#' ∉ repository.name.toList ∧ '#' ∉ ref.toList := by
  have inSite : '#' ∉ "https://github.com/".toList := by decide
  have inSlash : '#' ∉ "/".toList := by decide
  have inTree : '#' ∉ "/tree/".toList := by decide
  simp only [treeUrl_eq, String.toList_append, List.mem_append, inSite, inSlash, inTree, false_or,
    or_false, not_or, and_assoc]

end Repository

/-- The address of a heading is the address of the rendered documents, the path of the linked document
and, behind a number sign, the fragment, each as it is written. Read from the left, it divides into the
document and the fragment exactly if no part in front of the fragment holds a number sign. -/
theorem anchorUrl_addresses_document
    (resolved : ((resolveBaseUrl environment).run git earlier).1 = .ok (some base)) :
    ∃ repository ref, environment.RendersUnder git earlier repository ref ∧
      base = "https://github.com/" ++ repository.owner ++ "/" ++ repository.name ++ "/tree/" ++
        ref ++ "/" ∧
      ∀ (document : Path) (target heading fragment : String) (allowLocal : Bool) (origin : Origin),
        Target.classify target document allowLocal = .ok (.anchor heading fragment) →
        ∃ url, Scan.anchorUrl (some base) heading fragment origin = .ok url ∧
          url.toList = base.toList ++ Target.linkedPath document target ++
            '#' :: Target.linkedFragment target ∧
          (Text.splitOnce? '#' url.toList =
              some (base.toList ++ Target.linkedPath document target,
                Target.linkedFragment target) ↔
            ('#' ∉ repository.owner.toList ∧ '#' ∉ repository.name.toList ∧ '#' ∉ ref.toList) ∧
              (target.toList.head? ≠ some '/' → '#' ∉ document.directory.toList) ∧
              (target.toList.head? = some '#' → '#' ∉ (document.fileName?.getD "").toList)) := by
  obtain ⟨repository, ref, source, rfl⟩ := rendersUnder_of_resolveBaseUrl resolved
  refine ⟨repository, ref, source, repository.treeUrl_eq ref, ?_⟩
  intro document target heading fragment allowLocal origin classified
  have written := Target.anchorUrl_of_classify (repository.treeUrl ref) classified
  refine ⟨Target.anchorUrl (repository.treeUrl ref) heading fragment, rfl, written, ?_⟩
  rw [written, Text.splitOnce?_append_cons_iff, List.mem_append, not_or,
    Repository.sign_not_mem_treeUrl, Target.sign_not_mem_linkedPath]

/-- A heading of a document beside the one that links to it, on a branch that is followed. -/
theorem anchorUrl_addresses_document_on_main :
    let git : Behaviour := fun _ call =>
      match call with
      | .currentBranch => .ok "main"
      | .trackedBranch => .ok (some "origin/main")
      | .remoteUrl _ => .ok "git@github.com:o/r.git"
      | .fetch _ _ => .ok ()
      | .changedFiles _ _ => .ok []
    let base := "https://github.com/o/r/tree/main/"
    ((resolveBaseUrl .empty).run git []).1 = .ok (some base) ∧
      Target.classify "guide.md#setup" ⟨"docs/README.md"⟩ true =
        .ok (.anchor "docs/guide.md" "setup") ∧
      ∃ url, Scan.anchorUrl (some base) "docs/guide.md" "setup"
          ⟨⟨"docs/README.md"⟩, "guide.md#setup", 1⟩ = .ok url ∧
        url.toList = base.toList ++ Target.linkedPath ⟨"docs/README.md"⟩ "guide.md#setup" ++
          '#' :: Target.linkedFragment "guide.md#setup" := by
  intro git base
  have resolved : ((resolveBaseUrl .empty).run git []).1 = .ok (some base) := by decide +kernel
  have classified : Target.classify "guide.md#setup" ⟨"docs/README.md"⟩ true =
      .ok (.anchor "docs/guide.md" "setup") := by
    decide +kernel
  obtain ⟨_, _, _, _, addresses⟩ := anchorUrl_addresses_document resolved
  obtain ⟨url, made, written, _⟩ := addresses _ _ _ _ _ ⟨_, _, 1⟩ classified
  exact ⟨resolved, classified, url, made, written⟩

/-- The address of a heading is cut too early if the branch, the name of the document or a directory holds a
number sign: another document is asked for, and the rest of the path counts as the fragment. -/
theorem anchorUrl_addresses_other_document :
    let git : Behaviour := fun _ call =>
      match call with
      | .currentBranch => .ok "topic#1"
      | .trackedBranch => .ok (some "origin/topic#1")
      | .remoteUrl _ => .ok "git@github.com:o/r.git"
      | .fetch _ _ => .ok ()
      | .changedFiles _ _ => .ok []
    let site := "https://github.com/o/r/tree/"
    let onTopic := site ++ "topic#1/"
    let onMain := site ++ "main/"
    (((resolveBaseUrl .empty).run git []).1 = .ok (some onTopic) ∧
      Target.classify "guide.md#setup" ⟨"README.md"⟩ true = .ok (.anchor "guide.md" "setup") ∧
      Text.splitOnce? '#' (Target.anchorUrl onTopic "guide.md" "setup").toList =
        some ((site ++ "topic").toList, "1/guide.md#setup".toList)) ∧
    (Target.classify "#usage" ⟨"a#b.md"⟩ true = .ok (.anchor "a" "b.md#usage") ∧
      Text.splitOnce? '#' (Target.anchorUrl onMain "a" "b.md#usage").toList =
        some ((onMain ++ "a").toList, "b.md#usage".toList)) ∧
    Target.classify "guide.md#setup" ⟨"c#/README.md"⟩ true = .ok (.anchor "c#/guide.md" "setup") ∧
      Text.splitOnce? '#' (Target.anchorUrl onMain "c#/guide.md" "setup").toList =
        some ((onMain ++ "c").toList, "/guide.md#setup".toList) := by
  decide +kernel

end LinkGate
