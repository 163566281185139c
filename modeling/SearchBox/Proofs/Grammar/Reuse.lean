import SearchBox.Proofs.Grammar.Following

/-! One parser, asked again and again. Whatever was read or refused before, each answer is the one that
a new parser gives in front of the tokens that are left, and nothing is left open in between. -/

namespace SearchBox

/-- What can be asked of a parser. -/
inductive Request where
  | parse
  | expectEnd
  deriving DecidableEq, Repr

inductive Answer where
  | parsed (result : Except Diagnostic (Option Tree))
  | ended (result : Except Diagnostic Unit)
  deriving DecidableEq, Repr

/-- A request and its answer, with the one that was asked as it was before and as it is after. -/
structure Exchange (σ : Type) where
  before : σ
  request : Request
  answer : Answer
  after : σ

def Exchange.map {σ τ : Type} (f : σ → τ) (exchange : Exchange σ) : Exchange τ :=
  ⟨f exchange.before, exchange.request, exchange.answer, f exchange.after⟩

namespace Parser

def answer (parser : Parser) : Request → Answer × Parser
  | .parse => (.parsed parser.parse.1, parser.parse.2)
  | .expectEnd => (.ended parser.expectEnd, parser)

/-- The answers to requests one after another. -/
def exchanges (parser : Parser) : List Request → List (Exchange Parser)
  | [] => []
  | request :: requests =>
    let answered := parser.answer request
    ⟨parser, request, answered.1, answered.2⟩ :: answered.2.exchanges requests

end Parser

namespace Cursor

def answer (cursor : Cursor) : Request → Option (Answer × Cursor)
  | .parse => cursor.parse.map fun outcome => (.parsed outcome.1, outcome.2)
  | .expectEnd => some (.ended cursor.expectEnd, cursor)

/-- The answers to requests one after another, if each request returns. -/
def exchanges (cursor : Cursor) : List Request → Option (List (Exchange Cursor))
  | [] => some []
  | request :: requests => do
    let answered ← cursor.answer request
    let later ← answered.2.exchanges requests
    return ⟨cursor, request, answered.1, answered.2⟩ :: later

/-- The parser with the tokens that are left. -/
def parser (cursor : Cursor) : Parser :=
  ⟨cursor.rest, cursor.limit⟩

/-- What one request does to a cursor on the row: it goes on from one place to another that is no
further back and still on the row, and leaves no group or negation open. Where it reads a tree it goes on
by a token or more and stands at the end of the input or at a parenthesis. A reading has the result that
it has for a new cursor on the tokens that are left. -/
structure Afresh (row : List Token) (limit : DepthLimit) (exchange : Exchange Cursor) : Prop where
  before : exchange.before = ⟨row, exchange.before.index, 0, limit⟩
  after : exchange.after = ⟨row, exchange.after.index, 0, limit⟩
  forth : exchange.before.index ≤ exchange.after.index
  within : exchange.after.index < row.length
  reads : ∀ tree, exchange.answer = .parsed (.ok (some tree)) →
    exchange.before.index < exchange.after.index ∧
      (exchange.after.ahead.kind = .endOfInput ∨ exchange.after.ahead.kind = .rightParen)
  same : exchange.request = .parse →
    ∃ outcome, (start (row.drop exchange.before.index) limit).parse = some outcome ∧
      exchange.answer = .parsed outcome.1

variable {cursor later : Cursor}

theorem Stands.ahead_parser (stands : cursor.Stands) : cursor.parser.ahead = cursor.ahead := by
  rw [parser, Parser.ahead, stands.rest_eq, List.headD_cons]

/-- A reading with nothing open returns what the parser returns, and stands in front of the tokens that
the parser leaves. -/
theorem Stands.exists_parse (stands : cursor.Stands) (level : cursor.level = 0) :
    ∃ later, cursor.parse = some (cursor.parser.parse.1, later) ∧
      cursor.parser.parse.2 = later.parser ∧ cursor.Onward later ∧
      ∀ tree, cursor.parser.parse.1 = .ok (some tree) →
        cursor.index < later.index ∧
          (later.ahead.kind = .endOfInput ∨ later.ahead.kind = .rightParen) := by
  rw [parse, Parser.parse, stands.ahead_parser]
  by_cases ended : cursor.ahead.kind = .endOfInput
  · simp only [if_pos ended]
    exact ⟨cursor, rfl, rfl, .refl stands, fun _ found => by cases found⟩
  · simp only [if_neg ended]
    have follows := stands.follows_disjunction [] trivial level
    generalize disjunction cursor = outcome at follows
    cases follows with
    | @refused diagnostic later onward ran =>
      have limit := onward.limit
      simp only [parser, ran, Except.map, Option.map_some]
      exact ⟨later, rfl, by rw [limit], onward, fun _ found => by cases found⟩
    | @read tree later onward ran reached stops =>
      have limit := onward.limit
      have kinds : later.ahead.kind = .rightParen ∨ later.ahead.kind = .endOfInput := by
        unfold Grammar.endsExpression at stops
        split at stops
        · next closing => exact .inl closing
        · next ending => exact .inr ending
        · cases stops
      have standsLater := onward.stands stands
      rw [standsLater.rest_eq, Parser.run_complete tree _ kinds, ← standsLater.rest_eq] at ran
      simp only [parser, ran, Except.map, Option.map_some]
      exact ⟨later, rfl, by rw [limit], onward, fun _ _ => ⟨reached, kinds.symm⟩⟩

/-- A new cursor on the tokens that are left. -/
theorem Stands.fresh (stands : cursor.Stands) : (start cursor.rest cursor.limit).Stands := by
  obtain ⟨body, ending, row, ends, inside⟩ := stands.ended
  have within := stands.within
  have left : cursor.rest = body.drop cursor.index ++ [ending] := by
    rw [row, List.length_append, List.length_singleton] at within
    rw [rest, row, List.drop_append_of_le_length (by omega)]
  refine ⟨⟨_, ending, left, ends, fun token member => inside token (List.mem_of_mem_drop member)⟩,
    List.Pairwise.sublist (List.drop_sublist _ _) stands.ordered, ?_⟩
  show 0 < cursor.rest.length
  rw [left, List.length_append, List.length_singleton]
  omega

/-- One request: the cursor and the parser give the same answer and stand in front of the same tokens. -/
theorem Stands.exists_answer (stands : cursor.Stands) (level : cursor.level = 0)
    (request : Request) :
    ∃ answer later, cursor.answer request = some (answer, later) ∧
      cursor.parser.answer request = (answer, later.parser) ∧ cursor.Onward later ∧
      Afresh cursor.row cursor.limit ⟨cursor, request, answer, later⟩ := by
  cases request with
  | expectEnd =>
    refine ⟨.ended cursor.expectEnd, cursor, rfl, ?_, .refl stands, ?_⟩
    · rw [Parser.answer, Parser.expectEnd, stands.ahead_parser]
      rfl
    · refine ⟨by rw [← level], by rw [← level], Nat.le_refl _, stands.within, ?_, ?_⟩
      · intro _ found
        cases found
      · intro asked
        cases asked
  | parse =>
    obtain ⟨later, read, left, onward, reads⟩ := stands.exists_parse level
    obtain ⟨other, fresh, _⟩ := stands.fresh.exists_parse rfl
    refine ⟨.parsed cursor.parser.parse.1, later, ?_, ?_, onward, ?_⟩
    · rw [answer, read]
      rfl
    · rw [Parser.answer, left]
    · have after : later = ⟨cursor.row, later.index, 0, cursor.limit⟩ := by
        rw [← onward.row, ← onward.limit, ← level, ← onward.level]
      refine ⟨by rw [← level], after, onward.forth, onward.within, ?_, fun _ => ⟨_, fresh, rfl⟩⟩
      intro tree found
      exact reads tree (Answer.parsed.inj found)

/-- Any number of requests. -/
theorem Stands.exists_exchanges (stands : cursor.Stands) (level : cursor.level = 0)
    (requests : List Request) :
    ∃ exchanges, cursor.exchanges requests = some exchanges ∧
      cursor.parser.exchanges requests = exchanges.map (Exchange.map parser) ∧
      exchanges.map Exchange.request = requests ∧
      ∀ exchange ∈ exchanges, Afresh cursor.row cursor.limit exchange := by
  -- what one request keeps is that the cursor stands on its row with nothing open
  induction requests generalizing cursor with
  | nil => exact ⟨[], rfl, rfl, rfl, List.forall_mem_nil _⟩
  | cons request requests ih =>
    obtain ⟨answer, later, answered, running, onward, afresh⟩ := stands.exists_answer level request
    obtain ⟨exchanges, more, runs, asked, all⟩ :=
      ih (onward.stands stands) (onward.level.trans level)
    refine ⟨⟨cursor, request, answer, later⟩ :: exchanges, ?_, ?_, ?_, ?_⟩
    · rw [Cursor.exchanges, answered]
      simp only [Option.bind_eq_bind, Option.bind_some, more]
      rfl
    · rw [Parser.exchanges, running, runs]
      rfl
    · rw [List.map_cons, asked]
    · rw [onward.row, onward.limit] at all
      exact List.forall_mem_cons.2 ⟨afresh, all⟩

/-- A parser may be asked again, whatever came before, on every row of tokens with one end of input, at
its end, and no token before the one in front of it. Every request returns, and the cursor, which reads
by recursive descent, answers as the parser does that keeps a stack. Between the requests nothing is
open; the place never goes back and never past the end of the input; and the result of a reading is the
one of a new reader on the tokens that are left. -/
theorem exchanges_afresh (body : List Token) (ending : Token)
    (inside : ∀ token ∈ body, token.kind ≠ .endOfInput) (ends : ending.kind = .endOfInput)
    (ordered : Token.StartInOrder (body ++ [ending])) (limit : DepthLimit)
    (requests : List Request) :
    ∃ exchanges, (start (body ++ [ending]) limit).exchanges requests = some exchanges ∧
      Parser.exchanges ⟨body ++ [ending], limit⟩ requests = exchanges.map (Exchange.map parser) ∧
      exchanges.map Exchange.request = requests ∧
      ∀ exchange ∈ exchanges, Afresh (body ++ [ending]) limit exchange := by
  have stands : (start (body ++ [ending]) limit).Stands :=
    ⟨⟨body, ending, rfl, ends, inside⟩, ordered, by simp [start]⟩
  exact stands.exists_exchanges rfl requests

/-- The row of `(((a)` where one level is allowed: the second parenthesis is refused with the first one
open, and the third may be opened again. -/
theorem exchanges_afresh_nested :
    let body : List Token := [⟨.leftParen, "(", ⟨0, 1⟩⟩, ⟨.leftParen, "(", ⟨1, 1⟩⟩,
      ⟨.leftParen, "(", ⟨2, 1⟩⟩, ⟨.word, "a", ⟨3, 1⟩⟩, ⟨.rightParen, ")", ⟨4, 1⟩⟩]
    let requests : List Request := [.parse, .parse, .expectEnd, .parse]
    ∃ exchanges, (start (body ++ [Token.atEnd 5]) (some 1)).exchanges requests = some exchanges ∧
      exchanges.map Exchange.answer =
        [.parsed (.error (tooNested (some 1) ⟨.leftParen, "(", ⟨1, 1⟩⟩)),
        .parsed (.ok (some (.leaf ⟨2, 3⟩ (.term "a")))), .ended (.ok ()), .parsed (.ok none)] ∧
      ∀ exchange ∈ exchanges, Afresh (body ++ [Token.atEnd 5]) (some 1) exchange := by
  intro body requests
  obtain ⟨exchanges, answered, runs, _, afresh⟩ := exchanges_afresh body (Token.atEnd 5)
    (by decide) rfl (by unfold Token.StartInOrder; decide) (some 1) requests
  refine ⟨exchanges, answered, ?_, afresh⟩
  have same := congrArg (List.map Exchange.answer) runs
  rw [List.map_map] at same
  exact same.symm

end Cursor

end SearchBox
