import LinkGate.Markdown.Block

/-!
# Opening brackets among the tokens of a document

A link begins with the token of an opening bracket. The bytes of such a token are those of a bracket or of an
exclamation mark with one, whatever the reading of blocks does with the token afterwards: tokens are moved
from block to block, but no other token becomes an opening bracket.
-/

namespace LinkGate.Markdown

def Source.HasAscii (s : Source) (i : Nat) : Prop :=
  ∃ c, s.get? i = some c ∧ c.toNat < 128

def TokenKind.IsOpening : TokenKind → Prop
  | .linkOpen | .imageOpen => True
  | _ => False

/-- A token that covers characters of one byte if it is an opening bracket. -/
def Token.Sound (s : Source) (t : Token) : Prop :=
  t.kind.IsOpening → t.start < t.stop ∧ ∀ i, t.start ≤ i → i < t.stop → s.HasAscii i

inductive Node.Sound (s : Source) : Node → Prop where
  | token {t : Token} (sound : t.Sound s) : Sound s (.token t)
  | block {kind : BlockKind} {start stop : Nat} {children : List Node}
      (each : ∀ child ∈ children, Sound s child) : Sound s (.block kind start stop children)

variable {s : Source}

theorem Node.Sound.ofTokens {tokens : List Token} (sound : ∀ t ∈ tokens, t.Sound s) :
    ∀ node ∈ tokens.reverse.map Node.token, node.Sound s := by
  intro node member
  obtain ⟨t, isToken, rfl⟩ := List.mem_map.mp member
  exact .token (sound t (List.mem_reverse.mp isToken))

theorem Node.Sound.children {kind : BlockKind} {start stop : Nat} {children : List Node}
    (sound : (Node.block kind start stop children).Sound s) : ∀ child ∈ children, child.Sound s := by
  cases sound with
  | block each => exact each

/-! ## Lines -/

structure LineTokens.Sound (s : Source) (line : LineTokens) : Prop where
  tokens : ∀ t ∈ line.tokens, t.Sound s
  lineBreak : ∀ t, line.outcome = .broken t → t.Sound s

theorem sound_addText {start stop : Nat} {tokens : List Token} (sound : ∀ t ∈ tokens, t.Sound s) :
    ∀ t ∈ addText start stop tokens, t.Sound s := by
  unfold addText
  split
  · exact List.forall_mem_cons.mpr ⟨False.elim, sound⟩
  · exact sound

theorem sound_breakAt {begin i : Nat} {tokens : List Token} (sound : ∀ t ∈ tokens, t.Sound s) :
    (lineTokens.breakAt s begin i tokens).Sound s := by
  refine ⟨sound_addText sound, ?_⟩
  intro t broken
  cases broken
  exact False.elim

theorem sound_linkOpen {i : Nat} (bracket : s.get? i = some '[') :
    Token.Sound s ⟨.linkOpen, i, i + 1⟩ := by
  -- The bracket is the only byte of its token.
  refine fun _ => ⟨Nat.lt_succ_self i, fun j first last => ?_⟩
  obtain rfl : j = i := Nat.le_antisymm (Nat.le_of_lt_succ last) first
  exact ⟨'[', bracket, by decide⟩

theorem sound_imageOpen {i : Nat} (mark : s.get? i = some '!') (bracket : s.get? (i + 1) = some '[') :
    Token.Sound s ⟨.imageOpen, i, i + 2⟩ := by
  refine fun _ => ⟨Nat.lt_add_of_pos_right (by decide), fun j first last => ?_⟩
  obtain rfl | rfl : j = i ∨ j = i + 1 := by
    have : i ≤ j ∧ j < i + 2 := ⟨first, last⟩
    omega
  · exact ⟨'!', mark, by decide⟩
  · exact ⟨'[', bracket, by decide⟩

theorem sound_go {containers : List Container} {mode : BarMode} {start fuel begin i : Nat}
    {tokens : List Token} {bars lastBar : Nat} (sound : ∀ t ∈ tokens, t.Sound s) :
    (lineTokens.go s containers mode start fuel begin i tokens bars lastBar).Sound s := by
  fun_induction lineTokens.go s containers mode start fuel begin i tokens bars lastBar
  case case1 | case4 | case7 => exact ⟨sound, nofun⟩
  case case2 | case3 | case6 | case18 => exact ⟨sound_addText sound, nofun⟩
  case case5 | case8 => exact sound_breakAt sound
  case case9 ih => exact ih (List.forall_mem_cons.mpr ⟨False.elim, sound_addText sound⟩)
  case case10 ih => exact ih (sound_addText sound)
  case case11 ih | case17 ih | case19 ih | case20 ih => exact ih sound
  case case12 ih | case13 ih | case15 ih =>
    exact ih _ _ (List.forall_mem_cons.mpr ⟨False.elim, sound_addText sound⟩)
  case case14 bracket ih =>
    exact ih _ _ (List.forall_mem_cons.mpr ⟨sound_linkOpen bracket, sound_addText sound⟩)
  case case16 mark bracket ih =>
    exact ih _ _ (List.forall_mem_cons.mpr ⟨sound_imageOpen mark bracket, sound_addText sound⟩)

theorem sound_lineTokens (containers : List Container) (mode : BarMode) (start : Nat) :
    (lineTokens s containers mode start).Sound s :=
  sound_go (by simp)

namespace BlockState

/-! ## Leaf blocks -/

theorem sound_tableRow_go {containers : List Container} {fuel i : Nat} {cells : List Node}
    (sound : ∀ node ∈ cells, node.Sound s) :
    ∀ node ∈ (tableRow.go s containers fuel i cells).1, node.Sound s := by
  fun_induction tableRow.go s containers fuel i cells
  case case1 | case2 => exact fun node member => sound node (List.mem_reverse.mp member)
  case case3 ih =>
    refine ih (List.forall_mem_cons.mpr ⟨.block ?_, sound⟩)
    exact Node.Sound.ofTokens (sound_lineTokens _ _ _).tokens

theorem sound_tableRow (containers : List Container) (columns i : Nat) :
    (tableRow s containers columns i).1.Sound s := by
  have cells : ∀ node ∈ (tableRow.go s containers (s.stop + 1) i []).1, node.Sound s :=
    sound_tableRow_go (by simp)
  refine .block fun node member => ?_
  split at member
  · exact cells node member
  · exact cells node (List.mem_of_mem_take member)

theorem sound_table_go {containers : List Container} {columns fuel i : Nat} {rows : List Node}
    (sound : ∀ node ∈ rows, node.Sound s) :
    ∀ node ∈ (table.go s containers columns fuel i rows).1, node.Sound s := by
  fun_induction table.go s containers columns fuel i rows
  case case1 | case3 => exact fun node member => sound node (List.mem_reverse.mp member)
  case case2 start _ row _ read ih =>
    have here := sound_tableRow (s := s) containers columns start
    rw [read] at here
    exact ih (List.forall_mem_cons.mpr ⟨here, sound⟩)

theorem sound_table (containers : List Container) (columns headStart bodyStart : Nat) :
    (table s containers columns headStart bodyStart).1.Sound s := by
  have rows : ∀ node ∈ (table.go s containers columns (s.stop + 1) bodyStart []).1, node.Sound s :=
    sound_table_go (by simp)
  exact .block (List.forall_mem_cons.mpr ⟨sound_tableRow _ _ _, rows⟩)

theorem sound_paragraph_go {containers : List Container} {listDepth start fuel i : Nat}
    {tokens : List Token} (sound : ∀ t ∈ tokens, t.Sound s) :
    (paragraph.go s containers listDepth start fuel i tokens).1.Sound s := by
  have finish (kind : BlockKind) (stop : Nat) {tokens : List Token} (sound : ∀ t ∈ tokens, t.Sound s) :
      (paragraph.finish start kind stop tokens).1.Sound s := .block (.ofTokens sound)
  have longer {mode : BarMode} {i : Nat} {tokens : List Token} (sound : ∀ t ∈ tokens, t.Sound s) :
      ∀ t ∈ (lineTokens s containers mode i).tokens ++ tokens, t.Sound s :=
    List.forall_mem_append.mpr ⟨(sound_lineTokens _ _ _).tokens, sound⟩
  fun_induction paragraph.go s containers listDepth start fuel i tokens
  case case1 => exact finish _ _ sound
  case case2 => exact sound_table _ _ _ _
  case case3 | case4 | case5 => exact finish _ _ (longer sound)
  case case6 tokens ih =>
    apply ih
    dsimp only [tokens]
    split
    · next lineBreak broken =>
        exact List.forall_mem_cons.mpr ⟨(sound_lineTokens _ _ _).lineBreak _ broken, longer sound⟩
    · exact longer sound

theorem sound_paragraph (containers : List Container) (listDepth start : Nat) :
    (paragraph s containers listDepth start).1.Sound s :=
  sound_paragraph_go (by simp)

theorem sound_markedHeading (containers : List Container) (level start : Nat) :
    (markedHeading s containers level start).1.Sound s := by
  unfold markedHeading
  split
  · exact .block (by simp)
  · exact .block (Node.Sound.ofTokens (sound_lineTokens _ _ _).tokens)

/-! ## Open containers -/

/-- A state whose nodes are all sound, those in open containers included. -/
structure Sound (s : Source) (st : BlockState) : Prop where
  frames : ∀ frame ∈ st.frames, ∀ node ∈ frame.children, node.Sound s
  nodes : ∀ node ∈ st.nodes, node.Sound s

variable {st : BlockState}

/-- Only the nodes of a state matter. -/
theorem Sound.of_same (sound : st.Sound s) {other : BlockState} (frames : other.frames = st.frames)
    (nodes : other.nodes = st.nodes) : other.Sound s :=
  ⟨frames ▸ sound.frames, nodes ▸ sound.nodes⟩

theorem Sound.append (sound : st.Sound s) {node : Node} (added : node.Sound s) :
    (st.append node).Sound s := by
  obtain ⟨frames, nodes⟩ := sound
  unfold BlockState.append
  split
  · exact ⟨frames, List.forall_mem_cons.mpr ⟨added, nodes⟩⟩
  · next frame rest same =>
      rw [same] at frames
      obtain ⟨inner, outer⟩ := List.forall_mem_cons.mp frames
      exact ⟨List.forall_mem_cons.mpr ⟨List.forall_mem_cons.mpr ⟨added, inner⟩, outer⟩, nodes⟩

theorem Sound.openContainer (sound : st.Sound s) (container : Container) (start : Nat) :
    (st.openContainer container start).Sound s :=
  ⟨List.forall_mem_cons.mpr ⟨by simp, sound.frames⟩, sound.nodes⟩

/-- The text of an item is that of its paragraphs. -/
theorem sound_tightenItem {node : Node} (sound : node.Sound s) : (tightenItem node).Sound s := by
  unfold tightenItem
  split
  · split
    · exact .block (by simp)
    · refine .block fun child member => ?_
      obtain ⟨inner, isInner, isChild⟩ := List.mem_flatMap.mp member
      have innerSound := sound.children inner isInner
      split at isChild
      · exact innerSound.children child isChild
      · exact List.mem_singleton.mp isChild ▸ innerSound
  · exact sound

theorem Sound.close (sound : st.Sound s) (stop : Nat) : (st.close stop).Sound s := by
  unfold BlockState.close
  split
  · exact sound
  · next frame rest same =>
      obtain ⟨frames, nodes⟩ := sound
      rw [same] at frames
      obtain ⟨inner, outer⟩ := List.forall_mem_cons.mp frames
      extract_lets children isTight given
      have childrenSound : ∀ node ∈ children, node.Sound s :=
        fun node member => inner node (List.mem_reverse.mp member)
      have givenSound : ∀ node ∈ given, node.Sound s := by
        dsimp only [given]
        split
        · exact List.forall_mem_map.mpr fun node member => sound_tightenItem (childrenSound node member)
        · exact childrenSound
      have rest : BlockState.Sound s { st with frames := rest } := ⟨outer, nodes⟩
      exact rest.append (.block givenSound)

theorem Sound.closeTo (sound : st.Sound s) (depth stop : Nat) : (st.closeTo depth stop).Sound s := by
  unfold BlockState.closeTo
  generalize List.range _ = rounds
  induction rounds generalizing st with
  | nil => exact sound
  | cons round rest ih => exact ih (sound.close stop)

theorem sound_loosen {frame : Frame} {rest : List Frame}
    (sound : ∀ inner ∈ frame :: rest, ∀ node ∈ inner.children, node.Sound s) :
    ∀ inner ∈ loosen frame :: rest, ∀ node ∈ inner.children, node.Sound s := by
  have same : (loosen frame).children = frame.children := by
    unfold loosen
    split <;> rfl
  rw [List.forall_mem_cons] at sound ⊢
  rwa [same]

theorem Sound.finishList (sound : st.Sound s) (stop : Nat) : (st.finishList stop).Sound s := by
  unfold BlockState.finishList
  extract_lets closed ended frames
  have endedSound : ended.Sound s := by
    dsimp only [ended]
    split
    · exact (sound.close stop).of_same rfl rfl
    · exact sound
  split
  · refine ⟨?_, endedSound.nodes⟩
    have before := endedSound.frames
    dsimp only [frames]
    split
    · next inner outer rest same =>
        rw [same, List.forall_mem_cons] at before
        exact List.forall_mem_cons.mpr ⟨before.1, sound_loosen before.2⟩
    · exact before
  · exact endedSound

theorem Sound.continueList (sound : st.Sound s) (delimiter : Char) (start : Nat) :
    (st.continueList delimiter start).Sound s := by
  unfold BlockState.continueList
  extract_lets isContinued ended
  split
  · split
    · refine ⟨?_, sound.nodes⟩
      have before := sound.frames
      dsimp only
      split
      · next frame rest same =>
          rw [same] at before
          exact sound_loosen before
      · simp
    · exact sound
  · have endedSound : ended.Sound s := by
      dsimp only [ended]
      split
      · exact sound
      · exact sound.finishList start
    exact (endedSound.openContainer (.list true delimiter) start).of_same rfl rfl

/-! ## The whole document -/

theorem sound_openContainers_go {lineStart fuel : Nat} {line : Line} (sound : st.Sound s) :
    (openContainers.go s lineStart fuel st line).1.Sound s := by
  fun_induction openContainers.go s lineStart fuel st line
  case case1 | case5 => exact sound
  case case2 =>
    exact ((sound.continueList _ _).openContainer _ _).of_same rfl rfl
  case case3 ih => exact ih ((sound.continueList _ _).openContainer _ _)
  case case4 ih => exact ih ((sound.finishList _).openContainer _ _)

theorem Sound.blankLine (sound : st.Sound s) (lineStart : Nat) :
    (st.blankLine lineStart).Sound s := by
  unfold BlockState.blankLine
  split
  · exact sound
  · exact sound
  · split
    · exact (sound.close lineStart).of_same rfl rfl
    · exact sound.of_same rfl rfl

theorem Sound.leaf (sound : st.Sound s) (line : Line) : (BlockState.leaf s st line).1.Sound s := by
  have plain {start stop : Nat} : (st.append (.block .other start stop [])).Sound s :=
    sound.append (.block (by simp))
  unfold BlockState.leaf
  dsimp only
  split
  · exact plain
  · split
    · exact plain
    · exact plain
    · exact sound.append (sound_markedHeading _ _ _)
    · split
      · exact sound.of_same rfl rfl
      · exact plain
      · exact sound.append (sound_paragraph _ _ _)

theorem Sound.step (sound : st.Sound s) (lineStart : Nat) :
    (BlockState.step s st lineStart).1.Sound s := by
  unfold BlockState.step
  dsimp only
  generalize (Line.start lineStart).takeContainers s st.containers = taken
  have opened : (openContainers s lineStart (st.closeTo taken.2 lineStart) taken.1).1.Sound s :=
    sound_openContainers_go (sound.closeTo _ _)
  split
  · exact opened
  · split
    · exact opened.blankLine lineStart
    · refine (Sound.finishList ?_ lineStart).leaf _
      exact opened.of_same rfl rfl

end BlockState

theorem sound_parseBlocks_go {fuel i : Nat} {st : BlockState} (sound : st.Sound s) :
    ∀ node ∈ (parseBlocks.go s fuel st i).1, node.Sound s := by
  have nodes {st : BlockState} (sound : st.Sound s) : ∀ node ∈ st.nodes.reverse, node.Sound s :=
    fun node member => sound.nodes node (List.mem_reverse.mp member)
  fun_induction parseBlocks.go s fuel st i
  case case1 => exact nodes sound
  case case2 before i _ after next read ih =>
    have after := sound.step i
    rw [read] at after
    exact ih after
  case case3 => exact nodes (sound.closeTo _ _)

/-- The tokens of a document are sound. -/
theorem sound_parseBlocks (s : Source) : ∀ node ∈ (parseBlocks s).1, node.Sound s :=
  sound_parseBlocks_go ⟨by simp [BlockState.empty], by simp [BlockState.empty]⟩

end LinkGate.Markdown
