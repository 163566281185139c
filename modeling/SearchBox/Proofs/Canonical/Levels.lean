import SearchBox.Proofs.Canonical.Operands
import SearchBox.Proofs.Canonical.RoundTrip
import SearchBox.Proofs.Grammar.Limits

/-! Canonical text under the limit that the query was read with. An expression that was read is as
high as the limit allows, but its text opens a group for every join and two levels for every negation,
so the text of some expressions is too deep to be read again. -/

namespace SearchBox

namespace Parser

variable {limit : DepthLimit} {most : Nat} {stack : List Frame}

/-- The run ends with a diagnostic, which is about the nesting exactly if the query is too deep. -/
def Refuses (outcome : Except Diagnostic Tree × List Token) (tooDeep : Prop) : Prop :=
  ∃ diagnostic rest, outcome = (.error diagnostic, rest) ∧
    (diagnostic.code = .nestingTooDeep ↔ tooDeep)

theorem Refuses.congr {outcome : Except Diagnostic Tree × List Token} {tooDeep tooDeep' : Prop}
    (refuses : Refuses outcome tooDeep) (same : tooDeep ↔ tooDeep') : Refuses outcome tooDeep' := by
  obtain ⟨diagnostic, rest, refused, reason⟩ := refuses
  exact ⟨diagnostic, rest, refused, reason.trans same⟩

theorem run_not_opened {frame : Frame} {token : Token}
    (opens : startOperand (some most) stack token = openLevel (some most) stack frame token)
    (full : most ≤ Frame.nesting stack) (later : List Token) {tooDeep : Prop} (holds : tooDeep) :
    Refuses (run (some most) stack .operand (token :: later)) tooDeep := by
  have refused : step (some most) stack .operand token =
      .refuseAfter ((Problem.nestedTooDeep most).report token.span) :=
    opens.trans (if_neg (by simp [DepthLimit.allows]; omega))
  have deep : ((Problem.nestedTooDeep most).report token.span).code = .nestingTooDeep := rfl
  refine ⟨_, pass token later, ?_, iff_of_true deep holds⟩
  rw [run, refused]

/-- Between two operands in a group, with or without the word, a join is left open. -/
theorem run_connected {connective : Connective}
    (mark? : Option (Grammar.Mark (.keyword connective.keyword))) (tree : Tree)
    (opens : Frame.OpensDisjunction stack) {later : List Token}
    (ahead : Grammar.Ahead (Grammar.startsOperand · = true) later) :
    ∃ joining blamed, run limit stack (.afterOperand tree)
        ((mark?.map Subtype.val).toList ++ later) =
      run limit (.join joining tree blamed :: stack) .operand later := by
  cases mark? with
  | none =>
    obtain ⟨token, after, rfl, starts⟩ := ahead
    exact ⟨.and, token, run_congr after (step_juxtaposed tree opens.opensConjunction starts)⟩
  | some mark =>
    cases connective with
    | and => exact ⟨.and, mark.val, run_of_take later (step_and tree mark opens.opensConjunction)⟩
    | or => exact ⟨.or, mark.val, run_of_take later (step_or tree mark opens)⟩

/-- A symbol at the end of a group or of the text lacks its value. -/
theorem run_without_value (field : Grammar.Mark .fieldName) (colon : Grammar.Mark .colon)
    {comparison : Comparison} (mark : Grammar.Mark (.range (.bound comparison))) {token : Token}
    (ends : token.kind = .rightParen ∨ token.kind = .endOfInput) (later : List Token)
    {tooDeep : Prop} (fails : ¬tooDeep) :
    Refuses (run limit stack .operand (field.val :: colon.val :: mark.val :: token :: later))
      tooDeep := by
  have marked : step limit stack (.clause (.ofToken field.val)) mark.val =
      .take stack (.bound (.ofToken field.val) comparison) := by
    simp [step, mark.property]
  have refused : step limit stack (.bound (.ofToken field.val) comparison) token =
      .refuse ((Problem.noValue (FieldName.ofToken field.val).name token).report token.span) := by
    rcases ends with kind | kind <;> simp [step, expectLiteral, kind]
  rw [run_onField, run_of_take _ marked, run, refused]
  refine ⟨_, _, rfl, iff_of_false ?_ fails⟩
  intro deep
  cases deep

end Parser

namespace Lexer

variable {context : LexicalContext} {rest : List Char}

theorem tokens_ends (ends : rest = [] ∨ ∃ later, rest = ')' :: later) (context : LexicalContext)
    (position : Nat) : ∃ token later, (token.kind = .rightParen ∨ token.kind = .endOfInput) ∧
      tokens ⟨rest, position, context, false⟩ = token :: later := by
  rcases ends with rfl | ⟨later, rfl⟩
  · exact ⟨Token.atEnd position, [], .inr rfl, tokens_nil position context⟩
  · obtain ⟨closing, position', context', -, closed⟩ := tokens_closing later context position
    exact ⟨closing.val, _, .inl closing.property, closed⟩

/-- The text of an expression begins as an operand does. -/
theorem ahead_expression {expression : Expression}
    (writable : ∀ clause ∈ expression.atoms, clause.Writable) (seam : Seam rest)
    (place : context.AtOperand) (position : Nat) :
    Grammar.Ahead (Grammar.startsOperand · = true)
      (tokens ⟨expression.write Clause.write ++ rest, position, context, false⟩) := by
  cases expression with
  | atom clause =>
    have single := writable clause (List.mem_singleton.2 rfl)
    rw [Formula.write_atom]
    by_cases glued : clause.Glued
    · obtain ⟨word, -, -, front⟩ := tokens_glued single glued
      obtain ⟨field, colon, comparison, mark, position', read⟩ := front rest context position
      exact ⟨field.val, _, read, by rw [field.property]; rfl⟩
    · obtain ⟨leaf, position', context', -, -, read⟩ :=
        tokens_clause single glued seam place position
      rw [read]
      exact leaf.ahead _
  | join connective left right =>
    rw [Formula.write_join]
    obtain ⟨opening, position', context', -, opened⟩ := tokens_opening _ place position
    exact ⟨opening.val, _, opened, by rw [opening.property]; rfl⟩
  | negation inner =>
    rw [Formula.write_negation]
    obtain ⟨mark, opening, position', context', -, opened⟩ := tokens_negation _ place position
    exact ⟨mark.val, _, opened, by rw [mark.property]; rfl⟩

/-- A left operand with not too many levels is read, and the join behind it is left open. -/
theorem run_left (most : Nat) (stack : List Frame) (connective : Connective)
    {left right : Expression} (rest : List Char)
    (leftWritable : ∀ clause ∈ left.atoms, clause.Writable)
    (rightWritable : ∀ clause ∈ right.atoms, clause.Writable) (high : left.depth ≤ max most 1)
    (goesOn : left.breaksOff true = false) (opens : Frame.OpensDisjunction stack)
    (shallow : Frame.nesting stack + left.levels ≤ most) (place : context.AtOperand)
    (position : Nat) :
    ∃ joining tree blamed position' context', context'.AtOperand ∧
      Parser.run (some most) stack .operand (tokens ⟨left.write Clause.write ++
          ' ' :: (connective.word.toList ++ ' ' :: (right.write Clause.write ++ ')' :: rest)),
        position, context, false⟩) =
      Parser.run (some most) (.join joining tree blamed :: stack) .operand
        (tokens ⟨right.write Clause.write ++ ')' :: rest, position', context', false⟩) := by
  obtain ⟨unary, mark?, position', context', place', nesting, depth, read⟩ :=
    readsLeft_expression leftWritable goesOn
      (fun whole => readsOperand_expression leftWritable whole (Seam.blank _)) context position place
  have ahead := ahead_expression rightWritable (Seam.rightParen rest) place' position'
  obtain ⟨joining, blamed, joined⟩ := Parser.run_connected mark? unary.tree opens ahead
  have noDots : Grammar.NoDots ((mark?.map Subtype.val).toList ++
      tokens ⟨right.write Clause.write ++ ')' :: rest, position', context', false⟩) := by
    cases mark? with
    | none =>
      obtain ⟨token, later, same, starts⟩ := ahead
      exact ⟨token, later, same, Grammar.ne_dots_of_startsOperand starts⟩
    | some mark => exact ⟨mark.val, _, rfl, by rw [mark.property]; nofun⟩
  have within : DepthLimit.allows (some most) (Frame.nesting stack + unary.nesting) = true :=
    DepthLimit.allows_some (by omega)
  have admitted : DepthLimit.admits (some most) unary.tree = true :=
    (DepthLimit.admits_iff unary.depth_tree).2 (by omega)
  refine ⟨joining, unary.tree, blamed, position', context', place', ?_⟩
  rw [read, Parser.run_unary unary stack noDots within admitted, joined]

/-- The text of an expression that breaks off or opens too many levels is refused, and the levels are
the reason exactly if there are too many of them. -/
theorem refuses_expression {most : Nat} {stack : List Frame} {expression : Expression}
    (rest : List Char) (writable : ∀ clause ∈ expression.atoms, clause.Writable)
    (high : expression.depth ≤ max most 1) (followed : Bool)
    (ends : followed = false → rest = [] ∨ ∃ later, rest = ')' :: later)
    (nested : Frame.nesting stack ≤ most)
    (stops : expression.breaksOff followed = true ∨
      most < Frame.nesting stack + expression.levels)
    (place : context.AtOperand) (position : Nat) :
    Parser.Refuses (Parser.run (some most) stack .operand
      (tokens ⟨expression.write Clause.write ++ rest, position, context, false⟩))
      (most < Frame.nesting stack + expression.levels) := by
  induction expression generalizing stack context rest followed position with
  | atom clause =>
    have shallow : ¬most < Frame.nesting stack + Expression.levels (.atom clause) := by
      rw [Expression.levels]
      omega
    obtain ⟨alone, lacks⟩ : followed = false ∧ clause.lacksValue = true := by
      simpa [Expression.breaksOff] using stops.resolve_right shallow
    have single := writable clause (List.mem_singleton.2 rfl)
    obtain ⟨word, empty, -, front⟩ := tokens_glued single (Clause.glued_of_lacksValue lacks)
    obtain rfl : word = [] := List.isEmpty_iff.1 (empty.symm.trans lacks)
    obtain ⟨field, colon, comparison, mark, position₁, read⟩ := front rest context position
    obtain ⟨token, later, kind, last⟩ := tokens_ends (ends alone)
      (((context.after .fieldName).after .colon).after (.range (.bound comparison))) position₁
    rw [Formula.write_atom, read, List.nil_append, last]
    exact Parser.run_without_value field colon mark kind later shallow
  | join connective left right leftIh rightIh =>
    simp only [Formula.atoms, List.mem_append, or_imp, forall_and] at writable
    simp only [Formula.depth] at high
    let behind := ' ' :: (connective.word.toList ++ ' ' :: (right.write Clause.write ++ ')' :: rest))
    obtain ⟨opening, position₁, context₁, place₁, opened⟩ :=
      tokens_opening (left.write Clause.write ++ behind) place position
    rw [Formula.write_join, opened, Expression.levels]
    rw [Expression.levels] at stops
    by_cases room : Frame.nesting stack < most
    · rw [Parser.run_opened (Parser.startOperand_opening _ opening) (DepthLimit.allows_some room)]
      have inside : Frame.nesting (.group opening.val :: stack) = Frame.nesting stack + 1 := rfl
      -- The first place that stops the reading decides, so the left operand is asked first.
      by_cases leftStops : Expression.breaksOff left true = true ∨
          most < Frame.nesting (.group opening.val :: stack) + Expression.levels left
      · have refused := leftIh behind writable.1 (by omega) true (fun same => Bool.noConfusion same)
          (by omega) leftStops place₁ position₁
        refine refused.congr ?_
        split
        · omega
        · next goesOn =>
          have deep := leftStops.resolve_left goesOn
          exact iff_of_true deep (by omega)
      · simp only [not_or, Bool.not_eq_true] at leftStops
        obtain ⟨goesOn, shallow⟩ := leftStops
        obtain ⟨joining, tree, blamed, position₂, context₂, place₂, joined⟩ :=
          run_left most (.group opening.val :: stack) connective rest writable.1 writable.2
            (by omega) goesOn trivial (by omega) place₁ position₁
        have waiting : Frame.nesting (.join joining tree blamed :: .group opening.val :: stack) =
            Frame.nesting stack + 1 := rfl
        rw [if_neg (by simp [goesOn])] at stops ⊢
        have rightStops : Expression.breaksOff right false = true ∨ most < Frame.nesting
            (.join joining tree blamed :: .group opening.val :: stack) + Expression.levels right := by
          rcases stops with broken | deep
          · exact .inl (by simpa [Expression.breaksOff, goesOn] using broken)
          · exact .inr (by omega)
        have refused := rightIh (')' :: rest) writable.2 (by omega) false (fun _ => .inr ⟨rest, rfl⟩)
          (by omega) rightStops place₂ position₂
        rw [joined]
        exact refused.congr (by omega)
    · apply Parser.run_not_opened (Parser.startOperand_opening _ opening) (Nat.le_of_not_lt room)
      omega
  | negation inner ih =>
    simp only [Formula.depth] at high
    obtain ⟨mark, opening, position₁, context₁, place₁, opened⟩ :=
      tokens_negation (inner.write Clause.write ++ ')' :: rest) place position
    rw [Formula.write_negation, opened, Expression.levels]
    rw [Expression.levels] at stops
    by_cases room : Frame.nesting stack < most
    · have inside : Frame.nesting (.negation mark.val :: stack) = Frame.nesting stack + 1 := rfl
      rw [Parser.run_opened (Parser.startOperand_not _ mark) (DepthLimit.allows_some room)]
      by_cases more : Frame.nesting (.negation mark.val :: stack) < most
      · have within : Frame.nesting (.group opening.val :: .negation mark.val :: stack) =
            Frame.nesting stack + 2 := rfl
        rw [Parser.run_opened (Parser.startOperand_opening _ opening) (DepthLimit.allows_some more)]
        have innerStops : Expression.breaksOff inner false = true ∨ most < Frame.nesting
            (.group opening.val :: .negation mark.val :: stack) + Expression.levels inner :=
          stops.imp id fun deep => by omega
        have refused := ih _ writable (by omega) false (fun _ => .inr ⟨rest, rfl⟩) (by omega) innerStops
          place₁ position₁
        exact refused.congr (by omega)
      · apply Parser.run_not_opened (Parser.startOperand_opening _ opening) (Nat.le_of_not_lt more)
        omega
    · apply Parser.run_not_opened (Parser.startOperand_not _ mark) (Nat.le_of_not_lt room)
      omega

end Lexer

/-- What the parser refuses is no query. -/
theorem Grammar.ofTokens_of_refused {limit : DepthLimit} {tokens rest : List Token}
    {diagnostic : Diagnostic} (ahead : Ahead (startsOperand · = true) tokens)
    (refused : Parser.run limit [] .operand tokens = (.error diagnostic, rest)) :
    Tree.ofTokens limit tokens = .error diagnostic := by
  obtain ⟨token, later, rfl, starts⟩ := ahead
  have running : token.kind ≠ .endOfInput := by
    intro kind
    simp [kind, startsOperand, Token.Kind.isLiteral] at starts
  simp only [Tree.ofTokens, Parser.parse, Parser.ahead, List.headD_cons, if_neg running, refused]
  rfl

namespace Query

variable {limits : Limits} {schema : Schema} {input : String} {expression : Expression}

/-- The reading failed because the query is nested too deep. -/
def TooDeep (outcome : Except QueryError Query) : Prop :=
  ∃ error, outcome = .error error ∧ .nestingTooDeep ∈ error.codes

theorem not_tooDeep_ofTree (tree : Tree) : ¬TooDeep (ofTree schema tree) := by
  rintro ⟨error, failed, deep⟩
  unfold ofTree at failed
  split at failed
  · cases failed
  · cases failed
    obtain ⟨diagnostic, member, code⟩ := List.mem_map.1 deep
    have mild := tree.collected_problems schema diagnostic member
    rw [code] at mild
    cases mild

theorem tooDeep_singleton_iff {diagnostic : Diagnostic} :
    TooDeep (.error ⟨[diagnostic]⟩) ↔ diagnostic.code = .nestingTooDeep := by
  constructor
  · rintro ⟨error, failed, deep⟩
    cases failed
    exact (List.mem_singleton.1 deep).symm
  · intro code
    exact ⟨_, rfl, List.mem_singleton.2 code.symm⟩

/-- An expression that was read is no higher than the limit, unless it is a single clause. -/
theorem depth_le_of_parse (parsed : parse limits schema input = .ok ⟨some expression⟩) :
    expression.depth ≤ max limits.maxDepth 1 := by
  obtain ⟨_, tree, found, rfl, _⟩ := parse_eq_ok.1 parsed
  have admitted := Grammar.admits_of_ofTokens found
  obtain ⟨part, rfl, _⟩ := Grammar.derived_of_tokenize found
  rw [Tree.expression, Formula.depth_map]
  exact (DepthLimit.admits_iff part.depth_tree).1 admitted

/-- Under the limits that an expression was read with, its text is too deep exactly if it has more
levels than they allow. A join makes one level, as it adds one to the height, but a negation makes
two. -/
theorem tooDeep_parse_text (parsed : parse limits schema input = .ok ⟨some expression⟩)
    (short : byteWidth expression.text.toList ≤ limits.maxInputLength) :
    TooDeep (parse limits schema expression.text) ↔ limits.maxDepth < expression.levels := by
  have writable (clause) (member : clause ∈ expression.atoms) :=
    (wasRead_of_parse parsed clause member).writable
  have high := depth_le_of_parse parsed
  have whole : tokenize expression.text =
      Lexer.tokens ⟨expression.write Clause.write ++ [], 0, .start, false⟩ := by
    rw [tokenize, Lexer.ofText, expression.toList_text, List.append_nil]
  rw [parse_of_short short, whole]
  by_cases stops : expression.breaksOff false = true ∨ limits.maxDepth < expression.levels
  · have ahead := Lexer.ahead_expression writable (show Seam [] from trivial)
      LexicalContext.AtOperand.start 0
    have outside : Frame.nesting [] + expression.levels = expression.levels := Nat.zero_add _
    have refuses := Lexer.refuses_expression [] writable high false (fun _ => .inl rfl)
      (show Frame.nesting [] ≤ limits.maxDepth from Nat.zero_le _) (by rwa [outside])
      LexicalContext.AtOperand.start 0
    obtain ⟨diagnostic, rest, refused, reason⟩ := refuses
    rw [Grammar.ofTokens_of_refused ahead refused, tooDeep_singleton_iff, reason, outside]
  · simp only [not_or, Bool.not_eq_true] at stops
    obtain ⟨unary, position, context, -, nesting, depth, read⟩ :=
      Lexer.readsOperand_expression writable stops.1 (show Seam [] from trivial) .start 0
        LexicalContext.AtOperand.start
    rw [read, Lexer.tokens_nil, ← unary.tokens_alone, Grammar.ofTokens_derived unary.alone rfl]
    · exact iff_of_false (not_tooDeep_ofTree _) stops.2
    · rw [unary.nesting_alone]
      exact DepthLimit.allows_some (by omega)
    · rw [unary.tree_alone, DepthLimit.admits_iff unary.depth_tree]
      omega

theorem tooDeep_parse_text_negated : ∃ expression : Expression,
    parse ⟨64, 4⟩ ⟨[]⟩ "x OR NOT NOT a" = .ok ⟨some expression⟩ ∧
      byteWidth expression.text.toList ≤ 64 ∧
      TooDeep (parse ⟨64, 4⟩ ⟨[]⟩ expression.text) := by
  let expression : Expression :=
    .join .or (.atom (.term "x")) (.negation (.negation (.atom (.term "a"))))
  have parsed : parse ⟨64, 4⟩ ⟨[]⟩ "x OR NOT NOT a" = .ok ⟨some expression⟩ := by decide +kernel
  have short : byteWidth expression.text.toList ≤ 64 := by decide +kernel
  have deep : 4 < expression.levels := by decide
  exact ⟨expression, parsed, short, (tooDeep_parse_text parsed short).2 deep⟩

/-- `NOT NOT a` is three high, and its text `NOT (NOT (a))` opens four levels. -/
theorem not_forall_text_within_depth : ¬∀ (limits : Limits) (schema : Schema) (input : String)
    (expression : Expression), parse limits schema input = .ok ⟨some expression⟩ →
      byteWidth expression.text.toList ≤ limits.maxInputLength →
      ¬TooDeep (parse limits schema expression.text) := by
  intro always
  apply always ⟨64, 3⟩ ⟨[]⟩ "NOT NOT a" (.negation (.negation (.atom (.term "a"))))
    (by decide +kernel) (by decide +kernel)
  have failed : parse ⟨64, 3⟩ ⟨[]⟩
      (Expression.text (.negation (.negation (.atom (.term "a"))))) =
        .error ⟨[(Problem.nestedTooDeep 3).report ⟨9, 1⟩]⟩ := by decide +kernel
  exact ⟨_, failed, List.mem_singleton.2 rfl⟩

end Query

end SearchBox
