import LinkGate.Proofs.TargetMeaning
import LinkGate.Run

/-!
# Files beside a document

A link that names a file is meant to be followed from the directory of its document. The directory that
is put in front of it holds only the names on the way to the document: steps up are left out, and the names
that they take back are kept. So the link leads to the file that is meant exactly if there is no step up on
the way to the document, whatever the link is.
-/

namespace LinkGate

namespace Path

/-! ## Places -/

/-- Where a relative path leads as far as its text tells: some steps up, and from there down along names,
the last one first. -/
structure Place where
  up : Nat
  names : List String
deriving DecidableEq, Repr

namespace Place

def start : Place := ⟨0, []⟩

/-- One step further. Two dots take back the name in front of them, and a dot makes no difference. -/
def take (place : Place) : Component → Place
  | .normal name => { place with names := name :: place.names }
  | .parent =>
    match place.names with
    | [] => { place with up := place.up + 1 }
    | _ :: names => { place with names := names }
  | .current => place
  | .root => place

def walk (place : Place) (steps : List Component) : Place :=
  steps.foldl take place

/-- How far a place is above or below the start. -/
def height (place : Place) : Int :=
  place.names.length - place.up

theorem walk_cons (place : Place) (step : Component) (rest : List Component) :
    place.walk (step :: rest) = (place.take step).walk rest :=
  rfl

theorem walk_append (place : Place) (first second : List Component) :
    place.walk (first ++ second) = (place.walk first).walk second :=
  List.foldl_append

theorem walk_filter (place : Place) (steps : List Component) :
    place.walk (steps.filter (· ≠ .current)) = place.walk steps := by
  induction steps generalizing place with
  | nil => rfl
  | cons step rest ih =>
      by_cases dot : step = .current
      · rw [List.filter_cons_of_neg (by simpa using dot), ih, dot]
        rfl
      · rw [List.filter_cons_of_pos (by simpa using dot), walk_cons, walk_cons, ih]

theorem height_take_parent (place : Place) : (place.take .parent).height = place.height - 1 := by
  obtain ⟨up, names⟩ := place
  cases names with
  | nil => simp only [take, height, List.length_nil]; omega
  | cons name rest => simp only [take, height, List.length_cons]; omega

/-- Each name leads one step down and each step up one step back, wherever they are taken. -/
theorem height_walk (place : Place) (steps : List Component) :
    (place.walk steps).height =
      place.height + (steps.filterMap Component.name?).length - steps.count .parent := by
  induction steps generalizing place with
  | nil => simp [walk]
  | cons step rest ih =>
      rw [walk_cons, ih]
      cases step with
      | normal name =>
          have down : (place.take (.normal name)).height = place.height + 1 := by
            simp only [take, height, List.length_cons]
            omega
          rw [down, List.count_cons_of_ne (by simp)]
          simp only [List.filterMap_cons, Component.name?, List.length_cons]
          omega
      | parent =>
          rw [height_take_parent, List.count_cons_self]
          simp only [List.filterMap_cons, Component.name?]
          omega
      | root | current => rfl

end Place

/-- Where a relative path leads. Two paths lead to one place if they are the same when dots are left out
and two dots cancel the name in front of them. -/
def place (p : Path) : Place :=
  .walk .start p.components

/-! ## Relative paths -/

theorem root_not_mem_followingComponents (parts : List (List Char)) :
    .root ∉ followingComponents parts := by
  intro member
  obtain ⟨part, -, read⟩ := List.mem_filterMap.mp (List.mem_filter.mp member).1
  unfold Component.ofPart? at read
  split at read <;> simp at read

theorem root_not_mem_components {p : Path} (relative : p.isAbsolute = false) :
    .root ∉ p.components := by
  intro member
  have noSlash : p.text.toList.head? ≠ some '/' := by simpa [isAbsolute] using relative
  have kept : .root ∈ p.components.filter (· ≠ .current) :=
    List.mem_filter.mpr ⟨member, by simp⟩
  rw [components, filter_componentsOf, if_neg noSlash, List.nil_append] at kept
  exact root_not_mem_followingComponents _ kept

/-- Where a relative path leads can be read off its parts. -/
theorem place_eq_walk {p : Path} (relative : p.text.toList.head? ≠ some '/') :
    p.place = .walk .start (followingComponents (p.text.toList.splitOn '/')) := by
  rw [place, ← Place.walk_filter, components, filter_componentsOf, if_neg relative, List.nil_append]

/-! ## Directories of documents -/

def Component.text : Component → String
  | root => ""
  | current => "."
  | parent => ".."
  | normal name => name

/-- The directory in which a relative path lies, with a slash behind each of its components. -/
def parent (p : Path) : Path :=
  ⟨String.join (p.components.dropLast.map (·.text ++ "/"))⟩

theorem toList_parent (p : Path) :
    p.parent.text.toList = p.components.dropLast.flatMap (·.text.toList ++ ['/']) := by
  rw [parent, String.toList_join, List.flatMap_map]
  simp only [String.toList_append]
  rfl

theorem toList_join_parent (p : Path) {target : Path} (relative : target.isAbsolute = false) :
    (p.parent.join target).text.toList = p.parent.text.toList ++ target.text.toList := by
  unfold join
  rw [relative, Bool.false_or]
  split
  · next empty => rw [String.isEmpty_iff.mp empty, String.toList_empty, List.nil_append]
  · next nonempty =>
      have last : p.parent.text.toList.getLast? = some '/' := by
        rw [toList_parent]
        rcases List.eq_nil_or_concat p.components.dropLast with none | ⟨front, c, some⟩
        · exact absurd (by simp [parent, none]) nonempty
        · rw [some, List.concat_eq_append, List.flatMap_append, List.flatMap_singleton,
            ← List.append_assoc, List.getLast?_concat]
      rw [if_pos last, String.toList_append]

/-- Apart from the slash at the beginning, the components of a path are read from what is written for
them, and no slash is written for them. -/
theorem ofPart?_text {p : Path} {c : Component} (member : c ∈ p.components) (noRoot : c ≠ .root) :
    Component.ofPart? c.text.toList = some c ∧ '/' ∉ c.text.toList := by
  cases c with
  | root => exact absurd rfl noRoot
  | current | parent => decide
  | normal name =>
      have isName := isName_of_mem_components member
      exact ⟨isName.part, isName.noSlash⟩

theorem followingComponents_parent_append {p : Path} (relative : p.isAbsolute = false)
    (s : List Char) :
    followingComponents ((p.parent.text.toList ++ s).splitOn '/') =
      p.components.dropLast.filter (· ≠ .current) ++ followingComponents (s.splitOn '/') := by
  rw [toList_parent]
  have readable : ∀ c ∈ p.components.dropLast,
      Component.ofPart? c.text.toList = some c ∧ '/' ∉ c.text.toList := by
    intro c member
    have inPath := List.mem_of_mem_dropLast member
    exact ofPart?_text inPath fun isRoot => root_not_mem_components relative (isRoot ▸ inPath)
  generalize p.components.dropLast = steps at readable
  induction steps with
  | nil => rfl
  | cons step rest ih =>
      obtain ⟨⟨read, noSlash⟩, others⟩ := List.forall_mem_cons.mp readable
      rw [List.flatMap_cons, List.append_assoc, List.append_assoc, List.singleton_append,
        List.splitOn_append_cons_self_of_not_mem noSlash, followingComponents_cons, ih others, read,
        ← List.append_assoc, Option.toList_some, ← List.filter_append, List.singleton_append]

theorem place_join_parent {p target : Path} (relative : p.isAbsolute = false)
    (noSlash : target.text.toList.head? ≠ some '/') :
    (p.parent.join target).place =
      (Place.start.walk p.components.dropLast).walk
        (followingComponents (target.text.toList.splitOn '/')) := by
  have targetRelative : target.isAbsolute = false := by simpa [isAbsolute] using noSlash
  have written := toList_join_parent p targetRelative
  have begins : (p.parent.join target).text.toList.head? ≠ some '/' := by
    rw [written, toList_parent]
    cases steps : p.components.dropLast with
    | nil => exact noSlash
    | cons step rest =>
        have inPath : step ∈ p.components :=
          List.mem_of_mem_dropLast (steps ▸ List.mem_cons_self)
        obtain ⟨read, stepNoSlash⟩ :=
          ofPart?_text inPath fun isRoot => root_not_mem_components relative (isRoot ▸ inPath)
        have nonempty : step.text.toList ≠ [] := by
          intro empty
          rw [empty] at read
          contradiction
        rw [List.flatMap_cons, List.append_assoc, List.append_assoc,
          List.head?_append_of_ne_nil _ nonempty]
        exact fun slash => stepNoSlash (List.mem_of_mem_head? slash)
  rw [place_eq_walk begins, written, followingComponents_parent_append relative, Place.walk_append,
    Place.walk_filter]

/-- Where a row of characters leads behind the names of a directory. -/
theorem place_directory_append (p : Path) {s : List Char} (noSlash : s.head? ≠ some '/') :
    Path.place ⟨String.ofList (p.directory.toList ++ s)⟩ =
      (Place.start.walk (p.directoryNames.map .normal)).walk
        (followingComponents (s.splitOn '/')) := by
  have begins := head?_directory_append p noSlash
  rw [place_eq_walk (by rwa [String.toList_ofList]), String.toList_ofList,
    followingComponents_directory_append, Place.walk_append]

/-- Without steps up, the way to a relative path holds nothing but names and dots. -/
theorem map_directoryNames {p : Path} (relative : p.isAbsolute = false)
    (noStepUp : .parent ∉ p.components.dropLast) :
    p.directoryNames.map .normal = p.components.dropLast.filter (· ≠ .current) := by
  have noRoot : .root ∉ p.components.dropLast :=
    fun member => root_not_mem_components relative (List.mem_of_mem_dropLast member)
  rw [directoryNames]
  generalize p.components.dropLast = steps at noStepUp noRoot
  induction steps with
  | nil => rfl
  | cons step rest ih =>
      rw [List.mem_cons, not_or] at noStepUp noRoot
      have others := ih noStepUp.2 noRoot.2
      cases step with
      | normal name => simp [Component.name?, others]
      | current =>
          rw [List.filterMap_cons_none rfl, List.filter_cons_of_neg (by simp)]
          exact others
      | parent => exact absurd rfl noStepUp.1
      | root => exact absurd rfl noRoot.1

/-- A row of characters leads to one place from the names of a directory and from the way to it exactly if
there is no step up on the way. -/
theorem place_directory_append_eq_iff {p target : Path} (relative : p.isAbsolute = false)
    (noSlash : target.text.toList.head? ≠ some '/') :
    Path.place ⟨String.ofList (p.directory.toList ++ target.text.toList)⟩ =
        (p.parent.join target).place ↔
      .parent ∉ p.components.dropLast := by
  rw [place_directory_append p noSlash, place_join_parent relative noSlash]
  constructor
  · -- The target leads equally far down from both, so both are equally far below the start.
    intro same
    have heights := congrArg Place.height same
    have names : (p.directoryNames.map Component.normal).filterMap Component.name? =
        p.components.dropLast.filterMap Component.name? := by
      rw [List.filterMap_map]
      exact List.filterMap_some
    have noneUp : (p.directoryNames.map Component.normal).count .parent = 0 :=
      List.count_eq_zero.mpr (by simp)
    simp only [Place.height_walk, names, noneUp] at heights
    exact List.count_eq_zero.mp (by omega)
  · intro noStepUp
    rw [map_directoryNames relative noStepUp, Place.walk_filter]

end Path

/-! ## Links -/

namespace Target

open LinkGate.Path

/-- A target that is no full address and holds no number sign names a file, behind the directory of the
document unless it begins with a slash. -/
theorem classify_eq_localFile {document : Path} {target : String} (noUrl : isUrl target = false)
    (noSign : '#' ∉ target.toList) (noSlash : target.toList.head? ≠ some '/') :
    classify target document true =
      .ok (.localFile ⟨String.ofList (document.directory.toList ++ target.toList)⟩) := by
  have noFragment : target.toList.head? ≠ some '#' :=
    fun fragment => noSign (List.mem_of_mem_head? fragment)
  have named : withFileName document target.toList = target.toList := by
    rw [withFileName, if_neg noFragment]
  simp only [classify, if_true, named, String.ofList_toList, noUrl, Bool.false_eq_true, if_false]
  rw [relative_eq, placed, if_neg noSlash, ofRootPath_eq, Text.splitOnce?_of_not_mem noSign]

/-- A target that is no full address, holds no number sign and does not begin with a slash names a file. It
is the file to which the target leads from the directory of the document exactly if there is no step up on
the way to the document. -/
theorem localFile_beside_document_iff {document : Path} {target : String}
    (relative : document.isAbsolute = false) (noUrl : isUrl target = false)
    (noSign : '#' ∉ target.toList) (noSlash : target.toList.head? ≠ some '/') :
    ∃ path, classify target document true = .ok (.localFile path) ∧
      (path.place = (document.parent.join ⟨target⟩).place ↔
        .parent ∉ document.components.dropLast) :=
  ⟨_, classify_eq_localFile noUrl noSign noSlash, place_directory_append_eq_iff relative noSlash⟩

/-- A picture in a directory beside that of the document, which is spelt with a dot and two slashes. -/
theorem localFile_beside_document_of_dotted_path :
    Path.isAbsolute ⟨"./docs//guide.md"⟩ = false ∧ isUrl "../img/./a.png" = false ∧
      classify "../img/./a.png" ⟨"./docs//guide.md"⟩ true =
        .ok (.localFile ⟨"docs/../img/./a.png"⟩) ∧
      Path.place ⟨"docs/../img/./a.png"⟩ =
        (Path.join (Path.parent ⟨"./docs//guide.md"⟩) ⟨"../img/./a.png"⟩).place := by
  have relative : Path.isAbsolute ⟨"./docs//guide.md"⟩ = false := by decide
  have noUrl : isUrl "../img/./a.png" = false := by decide +kernel
  obtain ⟨path, classified, same⟩ :=
    localFile_beside_document_iff relative noUrl (by decide) (by decide)
  have written : classify "../img/./a.png" ⟨"./docs//guide.md"⟩ true =
      .ok (.localFile ⟨"docs/../img/./a.png"⟩) := by
    decide +kernel
  obtain rfl : path = ⟨"docs/../img/./a.png"⟩ := by
    rw [written] at classified
    exact (localFile.inj (Except.ok.inj classified)).symm
  exact ⟨relative, noUrl, written, same.mpr (by decide +kernel)⟩

/-- The names in front of a step up are kept: a file beside the document is looked for elsewhere, and is
reported as missing although it is there. -/
theorem localFile_beside_other_document :
    let document : Path := ⟨"docs/../guide/a.md"⟩
    let context : Context := ⟨⟨"."⟩, "main", none, Scope.whole [⟨document, true⟩]⟩
    let files : Files :=
      { read := fun path =>
          if path.text = "./docs/../guide/a.md" then .ok "[b](b.md)".toUTF8 else .error .notFound
        has := fun path => path.place == Path.place ⟨"guide/b.md"⟩ }
    let report : Report :=
      ⟨"main", .full, [document], [], 1,
        [], [⟨⟨document, "b.md", 1⟩, .missingLocalFile ⟨"docs/guide/b.md"⟩⟩]⟩
    document.isAbsolute = false ∧ isUrl "b.md" = false ∧
      classify "b.md" document true = .ok (.localFile ⟨"docs/guide/b.md"⟩) ∧
      (document.parent.join ⟨"b.md"⟩).place = Path.place ⟨"guide/b.md"⟩ ∧
      Path.place ⟨"docs/guide/b.md"⟩ ≠ (document.parent.join ⟨"b.md"⟩).place ∧
      files.has (context.root.join (document.parent.join ⟨"b.md"⟩)) = true ∧
      (context.run files .standard none fun _ _ => ⟨.code 200, 0⟩).result = .ok report := by
  decide +kernel

end Target

end LinkGate
