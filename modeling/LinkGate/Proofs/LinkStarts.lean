import LinkGate.Markdown.Extract
import LinkGate.Proofs.BracketTokens
import Mathlib.Data.Nat.Bitwise

/-!
# Where links begin

Links with brackets begin with a character of one byte, so that a text can be cut where they begin.
-/

namespace LinkGate.Markdown

/-- An event that begins with a character of one byte if it is a link with brackets. -/
def Event.Placed (s : Source) : Event → Prop
  | .link form _ _ start _ => form.isBracketed = true → s.HasAscii start
  | .other .. => True

structure Piece.Sound (s : Source) (p : Piece) : Prop where
  node : p.node.Sound s
  inner : ∀ event ∈ p.inner, event.Placed s

variable {s : Source}

/-! ## Pieces of running text -/

theorem Node.Sound.startingFrom {node : Node} (sound : node.Sound s) {position : Nat}
    (ends : position < node.stop) : (node.startingFrom position).Sound s := by
  cases sound with
  | token tokenSound =>
      refine .token fun opening => ?_
      obtain ⟨first, ascii⟩ := tokenSound opening
      exact ⟨Nat.max_lt.mpr ⟨first, ends⟩, fun i begun => ascii i (Nat.le_trans (Nat.le_max_left _ _) begun)⟩
  | block each => exact .block each

namespace Piece

variable {pieces : List Piece}

theorem Sound.hasAscii_start {p : Piece} {t : Token} (sound : p.Sound s) (isToken : p.node = .token t)
    (opens : t.kind.IsOpening) : s.HasAscii t.start := by
  have token := sound.node
  rw [isToken] at token
  cases token with
  | token tokenSound =>
      obtain ⟨first, ascii⟩ := tokenSound opens
      exact ascii _ (Nat.le_refl _) first

theorem sound_endingAfter (sound : ∀ p ∈ pieces, p.Sound s) (position : Nat) :
    ∀ p ∈ endingAfter pieces position, p.Sound s :=
  fun p member => sound p ((List.dropWhile_suffix _).subset member)

theorem sound_closingBackticks (sound : ∀ p ∈ pieces, p.Sound s) (count : Nat) :
    ∀ p ∈ closingBackticks pieces count, p.Sound s :=
  fun p member => sound p ((List.dropWhile_suffix _).subset member)

theorem sound_after (sound : ∀ p ∈ pieces, p.Sound s) (position : Nat) :
    ∀ p ∈ after pieces position, p.Sound s := by
  unfold after
  split
  · simp
  · next first rest left =>
      have leftSound := sound_endingAfter sound position
      have ends : position < first.node.stop := by
        have kept := List.head?_dropWhile_not (fun p : Piece => decide (p.node.stop ≤ position)) pieces
        rw [endingAfter] at left
        rw [left] at kept
        simpa using kept
      rw [left, List.forall_mem_cons] at leftSound
      exact List.forall_mem_cons.mpr
        ⟨⟨leftSound.1.node.startingFrom ends, leftSound.1.inner⟩, leftSound.2⟩

theorem sound_refuseReferenceAt (sound : ∀ p ∈ pieces, p.Sound s) (position : Nat) :
    ∀ p ∈ refuseReferenceAt pieces position, p.Sound s := by
  induction pieces with
  | nil => simp [refuseReferenceAt]
  | cons first rest ih =>
      obtain ⟨here, there⟩ := List.forall_mem_cons.mp sound
      rw [refuseReferenceAt]
      split
      · exact List.forall_mem_cons.mpr ⟨here, ih there⟩
      · split
        · exact List.forall_mem_cons.mpr ⟨⟨.token False.elim, here.inner⟩, there⟩
        · exact sound

end Piece

/-! ## Constructs of running text -/

theorem isBracketed_of_autolink? {i stop : Nat} {form : LinkForm} {destination : String}
    (found : s.autolink? i = some (stop, form, destination)) : form.isBracketed = false := by
  unfold Source.autolink? at found
  split at found
  · cases found
    rfl
  · obtain ⟨_, -, same⟩ := Option.map_eq_some_iff.mp found
    cases same
    rfl

namespace InlineContext

variable {ctx : InlineContext} {pieces : List Piece}

/-- The pieces behind a reference are among those in front of which it is tried. -/
theorem sound_reference? {opener : Opener} {close : Token} {mayRefer : Bool} {ref : Reference}
    (sound : ∀ p ∈ pieces, p.Sound s) (found : ctx.reference? opener close mayRefer pieces = some ref) :
    (∀ p ∈ ref.rest, p.Sound s) ∧ ∀ p ∈ ref.otherwise, p.Sound s := by
  unfold reference? at found
  extract_lets source own at found
  have ofOwn {form : LinkForm} {rest : List Piece} (restSound : ∀ p ∈ rest, p.Sound s)
      (found : own form rest = some ref) :
      (∀ p ∈ ref.rest, p.Sound s) ∧ ∀ p ∈ ref.otherwise, p.Sound s := by
    dsimp only [own] at found
    split at found
    · obtain ⟨_, -, rfl⟩ := Option.map_eq_some_iff.mp found
      exact ⟨restSound, sound⟩
    · cases found
  split at found
  · exact ofOwn sound found
  · extract_lets i at found
    split at found
    · exact ofOwn (fun p member => sound p (List.mem_of_mem_drop member)) found
    · split at found
      · split at found
        · split at found
          · cases found
          · next left =>
              cases found
              refine ⟨?_, Piece.sound_refuseReferenceAt sound _⟩
              exact (List.forall_mem_cons.mp (left ▸ Piece.sound_endingAfter sound _)).2
        · exact ofOwn sound found
      · exact ofOwn sound found

/-- A bracket that can be no link any more stands where it stood. -/
theorem hasAscii_disabled {stack : List Opener} (opened : ∀ o ∈ stack, s.HasAscii o.start)
    {isImage : Bool} :
    ∀ o ∈ (if isImage then stack else stack.map fun o =>
      if o.kind == .link then { o with kind := .disabled } else o), s.HasAscii o.start := by
  split
  · exact opened
  · refine List.forall_mem_map.mpr fun o member => ?_
    split
    · exact opened o member
    · exact opened o member

theorem placed_scan_go {fuel : Nat} {stack : List Opener} {events : List Event}
    (sound : ∀ p ∈ pieces, p.Sound s) (opened : ∀ o ∈ stack, s.HasAscii o.start)
    (placed : ∀ event ∈ events, event.Placed s) :
    ∀ event ∈ scan.go ctx fuel pieces stack events, event.Placed s := by
  -- Events are only ever added, a link from the top of the stack, and every reader keeps the pieces behind it.
  fun_induction scan.go ctx fuel pieces stack events
  case case1 | case2 | case10 => exact placed
  case case3 ih =>
    obtain ⟨here, there⟩ := List.forall_mem_cons.mp sound
    exact ih there opened (List.forall_mem_append.mpr ⟨here.inner, placed⟩)
  case case4 ih | case5 ih | case8 ih | case13 ih | case14 ih =>
    exact ih (List.forall_mem_cons.mp sound).2 opened placed
  case case15 ih | case17 ih =>
    exact ih (List.forall_mem_cons.mp sound).2 (List.forall_mem_cons.mp opened).2 placed
  case case6 isToken opens ih | case7 isToken opens ih =>
    obtain ⟨here, there⟩ := List.forall_mem_cons.mp sound
    have begins := here.hasAscii_start isToken (by rw [opens]; trivial)
    exact ih there (List.forall_mem_cons.mpr ⟨begins, opened⟩) placed
  case case9 left ih =>
    have there := (List.forall_mem_cons.mp sound).2
    refine ih ?_ opened (List.forall_mem_cons.mpr ⟨trivial, placed⟩)
    split at left
    · cases left
    · exact (List.forall_mem_cons.mp (left ▸ Piece.sound_closingBackticks there _)).2
  case case11 found ih =>
    have there := Piece.sound_after (List.forall_mem_cons.mp sound).2
    refine ih (there _) opened (List.forall_mem_cons.mpr ⟨fun bracketed => ?_, placed⟩)
    rw [isBracketed_of_autolink? found] at bracketed
    cases bracketed
  case case12 ih =>
    have there := Piece.sound_after (List.forall_mem_cons.mp sound).2
    exact ih (there _) opened (List.forall_mem_cons.mpr ⟨trivial, placed⟩)
  case case16 ih =>
    obtain ⟨top, below⟩ := List.forall_mem_cons.mp opened
    have there := Piece.sound_after (List.forall_mem_cons.mp sound).2
    exact ih (there _) (hasAscii_disabled below) (List.forall_mem_cons.mpr ⟨fun _ => top, placed⟩)
  case case18 found _ _ ih =>
    obtain ⟨top, below⟩ := List.forall_mem_cons.mp opened
    have behind := sound_reference? (List.forall_mem_cons.mp sound).2 found
    exact ih behind.1 (hasAscii_disabled below) (List.forall_mem_cons.mpr ⟨fun _ => top, placed⟩)
  case case19 found _ ih =>
    have behind := sound_reference? (List.forall_mem_cons.mp sound).2 found
    exact ih behind.2 (List.forall_mem_cons.mp opened).2 placed

end InlineContext

/-! ## The whole document -/

mutual

theorem Node.placed_events (definitions : Definitions) (containers : List Container) (node : Node)
    (sound : node.Sound s) : ∀ event ∈ node.events s definitions containers, event.Placed s := by
  match node, sound with
  | .token _, _ => simp [Node.events]
  | .block kind start stop children, .block each =>
    unfold Node.events
    exact InlineContext.placed_scan_go (Node.sound_pieces definitions _ children each) (by simp) (by simp)

theorem Node.sound_pieces (definitions : Definitions) (containers : List Container) (nodes : List Node)
    (sound : ∀ node ∈ nodes, node.Sound s) :
    ∀ p ∈ Node.pieces s definitions containers nodes, p.Sound s := by
  match nodes with
  | [] => simp [Node.pieces]
  | node :: rest =>
    obtain ⟨here, there⟩ := List.forall_mem_cons.mp sound
    rw [Node.pieces]
    exact List.forall_mem_cons.mpr ⟨⟨here, Node.placed_events definitions containers node here⟩,
      Node.sound_pieces definitions containers rest there⟩

end

theorem placed_of_mem_events {text : String} {event : Event} (member : event ∈ events text) :
    event.Placed (Source.ofString text) := by
  obtain ⟨node, isNode, inNode⟩ := List.mem_flatMap.mp (List.mem_mergeSort.mp member)
  exact Node.placed_events _ _ node (sound_parseBlocks _ node isNode) event inNode

theorem isUTF8FirstByte_of_lt {b : UInt8} (small : b.toNat < 128) : b.IsUTF8FirstByte := by
  refine Or.inl (UInt8.toNat_inj.mp ?_)
  rw [UInt8.toNat_and]
  -- The bit that marks the bytes of longer characters is not set.
  change b.toNat &&& 2 ^ 7 = 0
  rw [Nat.and_two_pow, Nat.testBit_lt_two_pow small]
  rfl

/-- A text can be cut in front of a character of one byte. -/
theorem isValid_of_hasAscii {text : String} {i : Nat} (ascii : (Source.ofString text).HasAscii i) :
    (⟨i⟩ : String.Pos.Raw).IsValid text := by
  obtain ⟨c, found, small⟩ := ascii
  rw [Source.get?] at found
  split at found
  · next inside =>
      obtain ⟨b, isByte, rfl⟩ := Option.map_eq_some_iff.mp found
      obtain ⟨_, byte⟩ := getElem?_eq_some_iff.mp isByte
      have whole : b.toNat.isValidChar := Or.inl (Nat.lt_trans b.toNat_lt_size (by decide))
      rw [Char.ofNat, dif_pos whole] at small
      have first : (text.getUTF8Byte ⟨i⟩ inside).IsUTF8FirstByte := by
        rw [show text.getUTF8Byte ⟨i⟩ inside = b from byte]
        exact isUTF8FirstByte_of_lt small
      exact String.Pos.Raw.isValid_iff_isUTF8FirstByte.mpr (Or.inr ⟨inside, first⟩)
  · cases found

/-- A link with brackets begins where its text can be cut. -/
theorem isValid_start_of_mem_events {text : String} {form : LinkForm} {isImage : Bool}
    {destination : String} {start stop : Nat}
    (member : .link form isImage destination start stop ∈ events text)
    (bracketed : form.isBracketed = true) : (⟨start⟩ : String.Pos.Raw).IsValid text :=
  isValid_of_hasAscii (placed_of_mem_events member bracketed)

end LinkGate.Markdown
