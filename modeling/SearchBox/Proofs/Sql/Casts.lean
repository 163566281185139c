import Mathlib.Data.List.Basic
import SearchBox.Proofs.Sql.Occurrences
import SearchBox.Proofs.Sql.Placeholders

/-! Casts and comparisons among the tokens of a predicate. A placeholder with a cast stands for an
operand of the type that is cast to, and a sign that compares by order stands right behind the
column of a predicate that does. -/

namespace SearchBox.Sql

/-- Whether the token compares values by their order. -/
def SqlToken.comparesOrder : SqlToken → Bool
  | operator text => [">=", ">", "<=", "<"].any fun sign => sign.toList == text
  | word text => sameIgnoringAsciiCase text "BETWEEN".toList
  | _ => false

theorem placeholder_notMem_castTokens (type : FieldType) (number : Nat) :
    .placeholder number ∉ castTokens type := by
  cases type <;> simp [castTokens]

theorem notMem_columnTokens {column : String} (quoted : ∃ name, column = quoteIdentifier name)
    {token : SqlToken} (other : ∀ text, token ≠ .identifier text) (noDot : token ≠ .symbol '.') :
    token ∉ columnTokens column := by
  intro member
  rcases mem_columnTokens quoted member with ⟨text, same⟩ | same
  · exact other text same
  · exact noDot same

/-- A cast in a typed operand is that of its type. -/
theorem cast_of_typedTokens {type : FieldType} {operand number : Nat} {early later : List SqlToken}
    (same : typedTokens type operand = early ++ ([.placeholder number, .cast] ++ later)) :
    number = operand ∧ .cast :: later = castTokens type := by
  cases early with
  | nil =>
    obtain ⟨first, rest⟩ := List.cons.inj same
    exact ⟨(SqlToken.placeholder.inj first).symm, rest.symm⟩
  | cons first early =>
    have inside : .placeholder number ∈ castTokens type := by
      rw [(List.cons.inj same).2]
      simp
    exact (placeholder_notMem_castTokens type number inside).elim

/-- No token compares values by their order. -/
def Unordered (tokens : List SqlToken) : Prop :=
  ∀ token ∈ tokens, token.comparesOrder = false

namespace Unordered

theorem nil : Unordered [] :=
  nofun

theorem cons {token : SqlToken} {tokens : List SqlToken} (head : token.comparesOrder = false)
    (tail : Unordered tokens) : Unordered (token :: tokens) :=
  List.forall_mem_cons.2 ⟨head, tail⟩

theorem append {first second : List SqlToken} (before : Unordered first) (after : Unordered second) :
    Unordered (first ++ second) :=
  List.forall_mem_append.2 ⟨before, after⟩

theorem column {column : String} (quoted : ∃ name, column = quoteIdentifier name) :
    Unordered (columnTokens column) := by
  intro token member
  rcases mem_columnTokens quoted member with ⟨text, rfl⟩ | rfl <;> rfl

theorem typed (type : FieldType) (number : Nat) : Unordered (typedTokens type number) := by
  cases type with
  | string => exact nil.cons rfl
  | number | date | boolean => exact ((nil.cons rfl).cons rfl).cons rfl

theorem intercalate {separator : List SqlToken} (between : Unordered separator)
    {lists : List (List SqlToken)} (each : ∀ list ∈ lists, Unordered list) :
    Unordered (separator.intercalate lists) := by
  induction lists with
  | nil => nofun
  | cons list lists ih =>
    obtain ⟨here, later⟩ := List.forall_mem_cons.1 each
    cases lists with
    | nil =>
      rw [List.intercalate_singleton]
      exact here
    | cons next lists =>
      rw [List.intercalate_cons_cons]
      exact (here.append between).append (ih later)

/-- Only predicates that compare by order have a token that does. -/
theorem predicate {predicate : Predicate Nat} (readable : predicate.Readable)
    (unordered : predicate.comparesOrder = false) : Unordered predicate.tokens := by
  have name := column readable.quoted
  cases predicate with
  | pattern | ranked => exact name.append ((nil.cons rfl).cons rfl)
  | equals column type operand => exact name.append ((typed type operand).cons rfl)
  | bound | between => cases unordered
  | member column type operands =>
    have comma : Unordered [.symbol ','] := nil.cons rfl
    have items : Unordered ([SqlToken.symbol ','].intercalate (operands.map (typedTokens type))) :=
      comma.intercalate (List.forall_mem_map.2 fun operand _ => typed type operand)
    exact name.append (((items.append (nil.cons rfl)).cons rfl).cons rfl)
  | fullText column configuration reading operand =>
    have front : Unordered [.word "to_tsvector".toList, .symbol '(',
        .string configuration.toList, .symbol ','] :=
      (((nil.cons rfl).cons rfl).cons rfl).cons rfl
    have query : Unordered [.symbol '(', .string configuration.toList, .symbol ',',
        .placeholder operand, .symbol ')'] :=
      ((((nil.cons rfl).cons rfl).cons rfl).cons rfl).cons rfl
    have function : (SqlToken.word reading.function.toList).comparesOrder = false := by
      cases reading <;> rfl
    exact front.append (name.append (((query.cons function).cons rfl).cons rfl))

end Unordered

namespace Predicate

variable {number : Nat} {early later : List SqlToken}

/-- The placeholder stands for an operand, and what follows is the name of its type. -/
def Casts (predicate : Predicate Nat) (number : Nat) (later : List SqlToken) : Prop :=
  number ∈ predicate.operands ∧ ∃ type name back, predicate.type? = some type ∧
    castTokens type = .cast :: name ∧ later = name ++ back

/-- What stands behind the sign of an operation, if it is no part of the column and the sign. -/
theorem behind_sign {column : String} (quoted : ∃ name, column = quoteIdentifier name)
    {sign : SqlToken} (known : sign ∉ [.placeholder number, .cast]) {operands : List SqlToken}
    (same : columnTokens column ++ sign :: operands =
      early ++ ([.placeholder number, .cast] ++ later)) :
    ∃ early', operands = early' ++ ([.placeholder number, .cast] ++ later) := by
  rcases side_of_cut (by simp) known same with ⟨middle, inColumn, _⟩ | ⟨early', behind, _⟩
  · have outside : .placeholder number ∉ columnTokens column :=
      notMem_columnTokens quoted nofun nofun
    exact (outside (by simp [inColumn])).elim
  · exact ⟨early', behind⟩

theorem cast_notMem_of_untyped {predicate : Predicate Nat} (readable : predicate.Readable)
    (untyped : predicate.type? = none) : .cast ∉ predicate.tokens := by
  have column : .cast ∉ columnTokens predicate.column :=
    notMem_columnTokens readable.quoted nofun nofun
  cases predicate with
  | pattern | fullText | ranked =>
    intro member
    simp_all [tokens, Predicate.column]
  | equals | bound | between | member => cases untyped

/-- A placeholder with a cast stands for an operand of a typed predicate. -/
theorem casts_of_tokens {predicate : Predicate Nat} (readable : predicate.Readable)
    (same : predicate.tokens = early ++ ([.placeholder number, .cast] ++ later)) :
    predicate.Casts number later := by
  have untyped (none : predicate.type? = none) : predicate.Casts number later :=
    (cast_notMem_of_untyped readable none (by simp [same])).elim
  have typed {type : FieldType} {operand : Nat} {early' later' back : List SqlToken}
      (named : predicate.type? = some type) (member : operand ∈ predicate.operands)
      (inOperand : typedTokens type operand = early' ++ ([.placeholder number, .cast] ++ later'))
      (rest : later = later' ++ back) : predicate.Casts number later := by
    obtain ⟨rfl, cast⟩ := cast_of_typedTokens inOperand
    exact ⟨member, type, later', back, named, cast.symm, rest⟩
  let marks : List SqlToken := [.symbol '(', .symbol ')', .symbol ',']
  cases predicate with
  | pattern | fullText | ranked => exact untyped rfl
  | equals column type operand =>
    obtain ⟨_, inOperand⟩ := behind_sign readable.quoted (by simp) same
    exact typed rfl (by simp [operands]) inOperand (List.append_nil later).symm
  | bound column comparison type operand =>
    obtain ⟨_, inOperand⟩ := behind_sign readable.quoted (by simp) same
    exact typed rfl (by simp [operands]) inOperand (List.append_nil later).symm
  | between column type low high =>
    obtain ⟨_, inOperands⟩ := behind_sign readable.quoted (by simp) same
    rcases side_of_cut (by simp) (by simp) inOperands with ⟨_, inLow, rest⟩ | ⟨_, inHigh, _⟩
    · exact typed rfl (by simp [operands]) inLow rest
    · exact typed rfl (by simp [operands]) inHigh (List.append_nil later).symm
  | member column type operands =>
    obtain ⟨_, inList⟩ := behind_sign readable.quoted (by simp) same
    have opens : SqlToken.symbol '(' ∈ marks := by simp [marks]
    have closes : SqlToken.symbol ')' ∈ marks := by simp [marks]
    have parts : SqlToken.symbol ',' ∈ marks := by simp [marks]
    obtain ⟨_, _, inItems, lift⟩ :=
      Inside.of_enclosed opens closes (by simp) (by simp) (by simp) inList
    obtain ⟨part, found, inside⟩ := Inside.of_intercalate parts (by simp) (by simp) inItems
    obtain ⟨operand, member, rfl⟩ := List.mem_map.1 found
    obtain ⟨_, _, _, _, inOperand, _, rest, _⟩ := lift _ inside
    exact typed rfl member inOperand rest

/-- A sign that compares by order stands right behind the column. -/
theorem order_of_tokens {predicate : Predicate Nat} (readable : predicate.Readable)
    {sign : SqlToken} (ordered : sign.comparesOrder = true)
    (same : predicate.tokens = early ++ sign :: later) :
    predicate.comparesOrder = true ∧ early = columnTokens predicate.column := by
  have outside {tokens : List SqlToken} (unordered : Unordered tokens) : sign ∉ tokens := by
    intro member
    rw [unordered sign member] at ordered
    cases ordered
  have name := outside (Unordered.column readable.quoted)
  have behind {first : SqlToken} {operands : List SqlToken} (unordered : Unordered operands)
      (parts : columnTokens predicate.column ++ first :: operands = early ++ sign :: later) :
      early = columnTokens predicate.column :=
    ((List.append_cons_inj_of_notMem name (outside unordered)).1 parts).1.symm
  cases kind : predicate.comparesOrder with
  | false => exact (outside (Unordered.predicate readable kind) (by simp [same])).elim
  | true =>
    refine ⟨rfl, ?_⟩
    cases predicate with
    | bound column comparison type operand => exact behind (Unordered.typed type operand) same
    | between column type low high =>
      have upper : Unordered (.word "AND".toList :: typedTokens type high) :=
        (Unordered.typed type high).cons rfl
      exact behind ((Unordered.typed type low).append upper) same
    | pattern | fullText | ranked | equals | member => cases kind

end Predicate

namespace Condition

variable {condition : Condition String} {before after : List SqlToken}

/-- What a placeholder with a cast is bound to in a whole condition. -/
theorem cast_of_tokens (readable : condition.Readable) {number : Nat} {word : List Char}
    (same : (condition.number 1).tokens =
      before ++ .placeholder number :: .cast :: .word word :: after) :
    ∃ alternatives ∈ condition.atoms, ∃ predicate ∈ alternatives, ∃ type value,
      predicate.type? = some type ∧ castTokens type = [.cast, .word word] ∧
        value ∈ predicate.operands ∧ 0 < number ∧ condition.operands[number - 1]? = some value := by
  have solid : ∀ joint ∈ joints, joint ∉ [SqlToken.placeholder number, .cast] := by
    simp [joints]
  obtain ⟨numbered, inside, predicate, member, _, _, later, back, piece, _, behind, _⟩ :=
    inside_condition (by simp) solid same
  obtain ⟨bound, type, name, tail, typed, cast, rfl⟩ :=
    Predicate.casts_of_tokens (readable.number 1 numbered inside predicate member) piece
  obtain ⟨alternatives, here, original, found, early, late, rfl, split⟩ :=
    exists_number inside member
  rw [Predicate.operands_number, List.mem_range'_1] at bound
  obtain ⟨low, high⟩ := bound
  have index : number - 1 - early.length < original.operands.length := by omega
  refine ⟨alternatives, here, original, found, type, original.operands[number - 1 - early.length],
    ?_, ?_, List.getElem_mem index, by omega, ?_⟩
  · rwa [Predicate.type?_number] at typed
  · cases type with
    | string => cases cast
    | number | date | boolean =>
      obtain rfl := (List.cons.inj cast).2
      rw [castTokens, (List.cons.inj behind).1]
  · rw [split, List.getElem?_append_right (by omega), List.getElem?_append_left index]
    exact List.getElem?_eq_getElem index

/-- What stands before a sign that compares by order in a whole condition. -/
theorem order_of_tokens (readable : condition.Readable) {sign : SqlToken}
    (ordered : sign.comparesOrder = true)
    (same : (condition.number 1).tokens = before ++ sign :: after) :
    ∃ alternatives ∈ condition.atoms, ∃ predicate ∈ alternatives, predicate.comparesOrder = true ∧
      ∃ front, before = front ++ columnTokens predicate.column ∧
        front.getLast? ≠ some (.symbol '.') := by
  have solid : ∀ joint ∈ joints, joint ∉ [sign] := by
    intro joint known inSign
    obtain rfl := List.mem_singleton.1 inSign
    have none : Unordered joints :=
      (((((Unordered.nil.cons rfl).cons rfl).cons rfl).cons rfl).cons rfl)
    rw [none joint known] at ordered
    cases ordered
  obtain ⟨numbered, inside, predicate, member, front, early, later, back, piece, rfl, _, ends⟩ :=
    inside_condition (by simp) solid same
  obtain ⟨kind, rfl⟩ := Predicate.order_of_tokens
    (readable.number 1 numbered inside predicate member) ordered piece
  obtain ⟨alternatives, here, original, found, _, _, rfl, _⟩ := exists_number inside member
  rw [Predicate.comparesOrder_number] at kind
  rw [Predicate.column_number]
  refine ⟨alternatives, here, original, found, kind, front, rfl, ?_⟩
  intro dot
  have known := ends _ dot
  simp [joints] at known

end Condition

end SearchBox.Sql
