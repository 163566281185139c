import SearchBox.Proofs.Grammar.Extents
import SearchBox.Proofs.Grammar.Parts

/-! Every node of a tree is a query of its own: the part of the text that it spans, read alone, gives
the node back. -/

namespace SearchBox

namespace Grammar

/-- A part of the tokens of a text that begins where an operand does, read alone. -/
theorem Disjunction.reads_slice {input : String} {before after : List Token} (part : Disjunction)
    (read : tokenize input = before ++ (part.tokens ++ after))
    (running : ∀ token ∈ before ++ part.tokens, token.kind ≠ .endOfInput)
    (leaves : LeavesOperand before) (ordered : Token.InOrder part.tokens) :
    ∃ slice : String, part.tree.span.Covers slice.toList input.toList ∧
      ∃ alone, Tree.ofTokens none (tokenize slice) = .ok (some alone) ∧
        alone.moved part.tree.span.position = part.tree := by
  obtain ⟨front, last, row, free⟩ := Closed.free.disjunction part
  have encloses := part.encloses ordered
  obtain ⟨slice, covers, same⟩ := Lexer.tokenize_slice read running
    (leaves .start LexicalContext.AtOperand.start) encloses (by
      intro token isLast
      rw [row, List.getLast?_concat] at isLast
      exact Option.mem_some_iff.1 isLast ▸ free)
  obtain ⟨body, ending, cut, inPart, isEnd⟩ := List.map_eq_append_iff.1 same
  obtain ⟨alone, rfl, moved⟩ := part.exists_of_map_moved inPart
  obtain ⟨stop, rest, rfl, atEnd, nothing⟩ := List.map_eq_cons_iff.1 isEnd
  obtain rfl := List.map_eq_nil_iff.1 nothing
  have ends : stop.kind = .endOfInput := congrArg Token.kind atEnd
  refine ⟨slice, covers, alone.tree, ?_, moved⟩
  rw [cut]
  exact ofTokens_derived alone ends rfl (by cases alone.tree <;> rfl)

end Grammar

/-- Each node of the tree of a text spans a part of the text between two characters. That part, read
alone, gives the node with all that is in it, only that it stands at the front. What the node is made
of stands inside it, its left operand before its right one. And on every text, at every limit and
wherever the parser gets to, no span that it measures ends before it starts. -/
theorem Tree.subtrees_spans (input : String) :
    (∀ tree, Tree.ofTokens none (tokenize input) = .ok (some tree) → ∀ node ∈ tree.subtrees,
      node.Nested ∧ ∃ slice : String, node.span.Covers slice.toList input.toList ∧
        ∃ alone, Tree.ofTokens none (tokenize slice) = .ok (some alone) ∧
          alone.moved node.span.position = node) ∧
    ∀ limit, ∀ visit ∈ Parser.visits limit [] .operand (tokenize input),
      ∀ extent ∈ Parser.extents limit visit.stack visit.stage visit.token, extent.1 ≤ extent.2 := by
  constructor
  · intro tree found node member
    obtain ⟨derivation, rfl, read, ordered, inside⟩ := Grammar.derived_of_tokenize found
    obtain ⟨before, part, after, row, rfl, leaves⟩ := derivation.parted node member
    rw [row] at ordered inside
    have orderedPart : Token.InOrder part.tokens := ordered.middle
    refine ⟨(Grammar.Closed.nested.disjunction part orderedPart).2, ?_⟩
    rw [row, List.append_assoc, List.append_assoc] at read
    apply part.reads_slice read _ leaves orderedPart
    intro token inRow
    apply (inside token _).1
    rw [← List.append_assoc]
    exact List.mem_append_left _ inRow
  · intro limit
    have fresh : Grammar.Reached [] [] .operand := .start
    exact fresh.forward_visits (Lexer.tiles_tokenize input).ordered.2

/-- A group in the middle of a query, with a list and a character of two bytes. -/
theorem Tree.subtrees_spans_group :
    let node : Tree := .join .and ⟨2, 14⟩ 2
      (.leaf ⟨3, 9⟩ (.member ⟨"é", ⟨3, 2⟩⟩ [⟨"1", .number, ⟨10, 1⟩⟩]))
      (.leaf ⟨13, 2⟩ (.wildcard "b" false))
    ∃ tree, Tree.ofTokens none (tokenize "x (é:in (1) b*) OR c") = .ok (some tree) ∧
      node ∈ tree.subtrees ∧ node.Nested ∧
      ∃ slice : String, node.span.Covers slice.toList "x (é:in (1) b*) OR c".toList ∧
        ∃ alone, Tree.ofTokens none (tokenize slice) = .ok (some alone) ∧ alone.moved 2 = node := by
  intro node
  let tree : Tree := .join .or ⟨0, 21⟩ 4
    (.join .and ⟨0, 16⟩ 3 (.leaf ⟨0, 1⟩ (.term "x")) node) (.leaf ⟨20, 1⟩ (.term "c"))
  have found : Tree.ofTokens none (tokenize "x (é:in (1) b*) OR c") = .ok (some tree) := by
    decide +kernel
  have member : node ∈ tree.subtrees := by decide
  exact ⟨tree, found, member, (Tree.subtrees_spans _).1 tree found node member⟩

end SearchBox
