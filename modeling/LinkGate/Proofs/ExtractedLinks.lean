import LinkGate.Proofs.LineNumbers
import LinkGate.Proofs.LinkStarts
import LinkGate.Proofs.Trimming
import Mathlib.Data.List.Nodup

/-!
# Links among the events of a text

Of the events of a text, the links and images are kept that are written with brackets and have a destination
that is not blank, each of them once and in the order of the events. The line of a link is counted in the text
in front of it; as links begin one after the other, their lines never decrease.
-/

namespace LinkGate.Markdown

open Text

variable {text : String} {events : List Event} {event : Event}

/-! ## Events that are kept -/

/-- Whether an event is a link or an image with brackets, and with something other than whitespace for its
destination. -/
def Event.IsKept : Event → Prop
  | .link form _ destination _ _ =>
    form ∈ [.inline, .reference, .collapsed, .shortcut] ∧
      ∃ c ∈ destination.toList, isWhitespace c = false
  | .other .. => False

/-- Whether an event begins between two characters of a text, or at one of its ends. -/
def Event.BeginsIn (text : String) (event : Event) : Prop :=
  (⟨event.start⟩ : String.Pos.Raw).IsValid text

instance (text : String) (event : Event) : Decidable (event.BeginsIn text) :=
  inferInstanceAs (Decidable (String.Pos.Raw.IsValid _ _))

theorem LinkForm.isBracketed_iff (form : LinkForm) :
    form.isBracketed = true ↔ form ∈ [inline, reference, collapsed, shortcut] := by
  cases form <;> decide

theorem Event.isKept_link_iff {form : LinkForm} {isImage : Bool} {destination : String} {start stop : Nat} :
    (Event.link form isImage destination start stop).IsKept ↔
      (form.isBracketed && !(trim destination).isEmpty) = true := by
  rw [IsKept, ← LinkForm.isBracketed_iff, ← trim_ne_empty_iff, Bool.and_eq_true, Bool.not_eq_true',
    ← Bool.not_eq_true, String.isEmpty_iff]

instance : DecidablePred Event.IsKept
  | .link .. => decidable_of_iff _ Event.isKept_link_iff.symm
  | .other .. => isFalse id

/-- What is reported of an event of a text, if it is kept. -/
inductive Event.Reports (text : String) : Event → RawLink → Prop where
  | link {form : LinkForm} {isImage : Bool} {destination target before : String} {start stop : Nat}
      (bracketed : form ∈ [.inline, .reference, .collapsed, .shortcut])
      (trimmed : IsTrimOf target destination) (filled : target ≠ "")
      (front : Between text 0 start before) :
      Reports text (.link form isImage destination start stop)
        ⟨target, before.toList.count '\n' + 1, start, stop⟩

namespace RawLink

theorem ofEvent?_link {form : LinkForm} {isImage : Bool} {destination : String} {start stop : Nat}
    (feeds : List Nat) (kept : (Event.link form isImage destination start stop).IsKept) :
    ofEvent? feeds (.link form isImage destination start stop) =
      some ⟨trim destination, lineAt feeds start, start, stop⟩ := by
  rw [ofEvent?, if_pos (Event.isKept_link_iff.mp kept)]

theorem ofEvent?_of_not_isKept (feeds : List Nat) (dropped : ¬ event.IsKept) :
    ofEvent? feeds event = none := by
  cases event with
  | link form isImage destination start stop =>
      rw [Event.isKept_link_iff] at dropped
      rw [ofEvent?, if_neg dropped]
  | other start stop => rfl

theorem ofEvent?_of_isKept (kept : event.IsKept) (begins : event.BeginsIn text) :
    ∃ link, ofEvent? (lineFeeds text) event = some link ∧ event.Reports text link := by
  cases event with
  | link form isImage destination start stop =>
      obtain ⟨before, front⟩ : ∃ before, Between text 0 start before :=
        exists_between String.Pos.Raw.isValid_zero begins (Nat.zero_le start)
      have line : lineAt (lineFeeds text) start = before.toList.count '\n' + 1 := by
        rw [lineAt_of_between front, lineAt_lineFeeds_zero, Nat.add_comm]
      refine ⟨_, ofEvent?_link _ kept, ?_⟩
      rw [line]
      exact .link kept.1 (isTrimOf_trim destination) ((trim_ne_empty_iff destination).mpr kept.2) front
  | other start stop => exact kept.elim

/-- Each kept event is reported once, in the order of the events. -/
theorem forall₂_reports (placed : ∀ event ∈ events, event.IsKept → event.BeginsIn text) :
    List.Forall₂ (Event.Reports text) (events.filter (·.IsKept)) (ofEvents text events) := by
  rw [ofEvents]
  induction events with
  | nil => exact .nil
  | cons event rest ih =>
      obtain ⟨here, there⟩ := List.forall_mem_cons.mp placed
      by_cases kept : event.IsKept
      · obtain ⟨link, found, reported⟩ := ofEvent?_of_isKept kept (here kept)
        rw [List.filter_cons_of_pos (by simpa using kept), List.filterMap_cons_some found]
        exact .cons reported (ih there)
      · rw [List.filter_cons_of_neg (by simpa using kept),
          List.filterMap_cons_none (ofEvent?_of_not_isKept _ kept)]
        exact ih there

/-! ## Lines that are counted in the text -/

theorem ofEvents_cons (text : String) (event : Event) (events : List Event) :
    ofEvents text (event :: events) =
      (ofEvent? (lineFeeds text) event).toList ++ ofEvents text events := by
  rw [ofEvents, List.filterMap_cons]
  cases ofEvent? (lineFeeds text) event <;> rfl

/-- The text is cut where an event begins only if the event is kept, and the line that is counted is that of
the link. -/
theorem counted?_cons (text : String) (event : Event) (events : List Event) :
    counted? text (event :: events) =
      if event.IsKept → event.BeginsIn text then
        (counted? text events).map ((ofEvent? (lineFeeds text) event).toList ++ ·)
      else none := by
  by_cases kept : event.IsKept
  · cases event with
    | link form isImage destination start stop =>
        rw [counted?, if_pos (Event.isKept_link_iff.mp kept), ofEvent?_link _ kept]
        by_cases begins : (Event.link form isImage destination start stop).BeginsIn text
        · rw [(lineOf?_eq text start).trans (if_pos begins), if_pos (fun _ => begins)]
          cases counted? text events <;> rfl
        · rw [(lineOf?_eq text start).trans (if_neg begins), if_neg (fun all => begins (all kept))]
          rfl
    | other start stop => exact kept.elim
  · rw [if_pos (fun isKept => absurd isKept kept), ofEvent?_of_not_isKept _ kept]
    cases event with
    | link form isImage destination start stop =>
        rw [Event.isKept_link_iff] at kept
        rw [counted?, if_neg kept]
        cases counted? text events <;> rfl
    | other start stop =>
        rw [counted?]
        cases counted? text events <;> rfl

/-- There is an answer exactly if all kept events begin between characters, and then it is the links. -/
theorem counted?_eq (text : String) (events : List Event) :
    counted? text events =
      if ∀ event ∈ events, event.IsKept → event.BeginsIn text then some (ofEvents text events)
      else none := by
  induction events with
  | nil => rfl
  | cons event rest ih =>
      rw [counted?_cons, ih, ofEvents_cons]
      simp only [List.forall_mem_cons]
      by_cases here : event.IsKept → event.BeginsIn text
      · by_cases there : ∀ event ∈ rest, event.IsKept → event.BeginsIn text
        · rw [if_pos here, if_pos there, if_pos ⟨here, there⟩, Option.map_some]
        · rw [if_pos here, if_neg there, if_neg (fun all => there all.2), Option.map_none]
      · rw [if_neg here, if_neg (fun all => here all.1)]

end RawLink

/-! ## Links in order -/

/-- The events of a document come in the order in which they begin. -/
theorem pairwise_start_events (text : String) :
    (Markdown.events text).Pairwise fun a b => a.start ≤ b.start := by
  let inFront (a b : Event) : Bool := decide (a.start ≤ b.start)
  have transitive (a b c : Event) (first : inFront a b = true) (second : inFront b c = true) :
      inFront a c = true :=
    decide_eq_true (Nat.le_trans (of_decide_eq_true first) (of_decide_eq_true second))
  have total (a b : Event) : (inFront a b || inFront b a) = true := by
    rw [Bool.or_eq_true, decide_eq_true_eq, decide_eq_true_eq]
    exact Nat.le_total _ _
  exact (List.pairwise_mergeSort transitive total _).imp of_decide_eq_true

namespace RawLink

variable {link : RawLink}

theorem of_ofEvent?_eq_some {feeds : List Nat} (found : ofEvent? feeds event = some link) :
    event.IsKept ∧ link.start = event.start ∧ link.line = lineAt feeds event.start := by
  have kept : event.IsKept := by
    by_contra dropped
    rw [ofEvent?_of_not_isKept feeds dropped] at found
    cases found
  refine ⟨kept, ?_⟩
  cases event with
  | link form isImage destination start stop =>
      rw [ofEvent?_link feeds kept] at found
      cases found
      exact ⟨rfl, rfl⟩
  | other start stop => exact kept.elim

theorem line_eq_of_mem (member : link ∈ ofEvents text events) :
    link.line = lineAt (lineFeeds text) link.start := by
  obtain ⟨event, -, found⟩ := List.mem_filterMap.mp member
  obtain ⟨-, start, line⟩ := of_ofEvent?_eq_some found
  rw [line, start]

theorem pairwise_start_ofEvents
    (inOrder : (events.filter (·.IsKept)).Pairwise fun a b => a.start ≤ b.start) :
    (ofEvents text events).Pairwise fun a b => a.start ≤ b.start := by
  rw [ofEvents, List.pairwise_filterMap]
  apply (List.pairwise_filter.mp inOrder).imp
  intro a b ordered link found link' found'
  obtain ⟨kept, start, -⟩ := of_ofEvent?_eq_some found
  obtain ⟨kept', start', -⟩ := of_ofEvent?_eq_some found'
  rw [start, start']
  exact ordered (decide_eq_true kept) (decide_eq_true kept')

/-- Lines never decrease among links that come in the order in which they begin. -/
theorem pairwise_line_ofEvents
    (inOrder : (events.filter (·.IsKept)).Pairwise fun a b => a.start ≤ b.start) :
    (ofEvents text events).Pairwise fun a b => a.line ≤ b.line := by
  apply (pairwise_start_ofEvents inOrder).imp_of_mem
  intro a b memberA memberB ordered
  rw [line_eq_of_mem memberA, line_eq_of_mem memberB]
  exact lineAt_le_lineAt _ ordered

/-- Two links are on one line exactly if no line feed stands between their beginnings. -/
theorem line_eq_iff {other : RawLink} (placed : ∀ event ∈ events, event.IsKept → event.BeginsIn text)
    (member : link ∈ ofEvents text events) (otherMember : other ∈ ofEvents text events)
    (inOrder : link.start ≤ other.start) :
    ∃ between, Between text link.start other.start between ∧
      (link.line = other.line ↔ '\n' ∉ between.toList) := by
  have begins {link : RawLink} (member : link ∈ ofEvents text events) :
      (⟨link.start⟩ : String.Pos.Raw).IsValid text := by
    obtain ⟨event, isEvent, found⟩ := List.mem_filterMap.mp member
    obtain ⟨kept, start, -⟩ := of_ofEvent?_eq_some found
    rw [start]
    exact placed event isEvent kept
  obtain ⟨between, isBetween⟩ := exists_between (begins member) (begins otherMember) inOrder
  refine ⟨between, isBetween, ?_⟩
  rw [line_eq_of_mem member, line_eq_of_mem otherMember]
  exact lineAt_eq_iff_of_between isBetween

end RawLink

/-- What the links report of the events of a text. -/
structure Extracts (text : String) (events : List Event) (links : List RawLink) : Prop where
  /-- The text can be cut wherever the reading of the links asks for it. -/
  counted : RawLink.counted? text events = some links
  /-- Each kept event gives one link, in the order of the events, and no other event gives one. -/
  reports : List.Forall₂ (Event.Reports text) (events.filter (·.IsKept)) links
  /-- Lines never decrease, and stay the same only where no line feed is passed. -/
  lines : links.Pairwise fun a b =>
    a.line ≤ b.line ∧
      ∃ between, Between text a.start b.start between ∧ (a.line = b.line ↔ '\n' ∉ between.toList)

theorem extracts_ofEvents (placed : ∀ event ∈ events, event.IsKept → event.BeginsIn text)
    (inOrder : (events.filter (·.IsKept)).Pairwise fun a b => a.start ≤ b.start) :
    Extracts text events (RawLink.ofEvents text events) where
  counted := by rw [RawLink.counted?_eq, if_pos placed]
  reports := RawLink.forall₂_reports placed
  lines := by
    let links := RawLink.ofEvents text events
    have starts : links.Pairwise fun a b => a.start ≤ b.start := RawLink.pairwise_start_ofEvents inOrder
    have lines : links.Pairwise fun a b => a.line ≤ b.line := RawLink.pairwise_line_ofEvents inOrder
    apply (starts.and lines).imp_of_mem
    intro a b memberA memberB both
    exact ⟨both.2, RawLink.line_eq_iff placed memberA memberB both.1⟩

/-- Kept events of a document begin between characters. -/
theorem beginsIn_of_mem_events (member : event ∈ Markdown.events text) (kept : event.IsKept) :
    event.BeginsIn text := by
  cases event with
  | link form isImage destination start stop =>
      exact isValid_start_of_mem_events member ((LinkForm.isBracketed_iff form).mpr kept.1)
  | other start stop => exact kept.elim

/-- The events of a document are found by putting those of its blocks in order. -/
theorem events_eq_of_perm (perm : (blockEvents text).Perm events)
    (inOrder : events.Pairwise fun a b => a.start < b.start) : Markdown.events text = events := by
  have distinct : (events.map Event.start).Nodup :=
    List.nodup_iff_pairwise_ne.mpr (List.pairwise_map.mpr (inOrder.imp Nat.ne_of_lt))
  have sorted : (Markdown.events text).Perm events := (List.mergeSort_perm _ _).trans perm
  refine List.Perm.eq_of_pairwise ?_ (pairwise_start_events text) (inOrder.imp Nat.le_of_lt) sorted
  intro a b memberA memberB first second
  exact List.inj_on_of_nodup_map distinct (sorted.subset memberA) memberB (Nat.le_antisymm first second)

/-- For each link or image of a document that is written with brackets and has a destination other than
whitespace there is one link, in the order of their beginnings, with the destination without the whitespace
around it, with the bytes of the link, and with a line that is one more than the line feeds in front of it;
nothing else is reported. The text can be cut wherever the reading of the links asks for it, lines never
decrease, and two links are on one line exactly if no line feed stands between their beginnings. All of this
holds of whatever events a text is said to have, as long as those that are kept begin between characters, one
after the other. -/
theorem extractLinks_reports_kept_events (text : String) :
    Extracts text (Markdown.events text) (extractLinks text) ∧
      ∀ events : List Event, (∀ event ∈ events, event.IsKept → event.BeginsIn text) →
        ((events.filter (·.IsKept)).Pairwise fun a b => a.start ≤ b.start) →
        Extracts text events (RawLink.ofEvents text events) := by
  refine ⟨extracts_ofEvents ?_ ?_, fun events => extracts_ofEvents⟩
  · exact fun event => beginsIn_of_mem_events
  · exact (pairwise_start_events text).filter _

/-- An image inside of a link, an autolink, a link that leads nowhere, and a reference on the second line. The
same text is read with an event of its own for a label that has no definition. -/
theorem extractLinks_reports_kept_events_of_nested_image :
    let text := "é [![i](i.png)](b.md)\n<http://x.y> [d](<>) [c][r] [u]\n\n[r]: <c.md >\n"
    let links : List RawLink := [⟨"b.md", 1, 3, 22⟩, ⟨"i.png", 1, 4, 15⟩, ⟨"c.md", 2, 44, 50⟩]
    let found : List Event := [.link .inline false "b.md" 3 22, .link .inline true "i.png" 4 15,
      .link .autolink false "http://x.y" 23 35, .link .inline false "" 36 43,
      .link .reference false "c.md " 44 50]
    let others := found ++ [.link .undefined false "u.md" 51 54, .other 54 55]
    Markdown.events text = found ∧ extractLinks text = links ∧ RawLink.counted? text found = some links ∧
      (∀ event ∈ others, event.IsKept → event.BeginsIn text) ∧
      ((others.filter (·.IsKept)).Pairwise fun a b => a.start ≤ b.start) ∧
      RawLink.counted? text others = some (extractLinks text) := by
  intro text links found others
  have isFound : Markdown.events text = found := events_eq_of_perm (by decide +kernel) (by decide)
  have extracted : extractLinks text = links := by
    rw [extractLinks, isFound]
    decide +kernel
  have placed : ∀ event ∈ others, event.IsKept → event.BeginsIn text := by decide +kernel
  have inOrder : (others.filter (·.IsKept)).Pairwise fun a b => a.start ≤ b.start := by decide
  obtain ⟨here, forAll⟩ := extractLinks_reports_kept_events text
  have counted := here.counted
  rw [isFound, extracted] at counted
  have same : RawLink.ofEvents text others = links := by decide +kernel
  refine ⟨isFound, extracted, counted, placed, inOrder, ?_⟩
  rw [(forAll others placed inOrder).counted, same, extracted]

end LinkGate.Markdown
