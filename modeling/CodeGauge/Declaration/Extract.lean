/-
Module: CodeGauge.Declaration.Extract
Purpose: The functions declared in a token buffer, and what became of every candidate.
Main exports:
  Outcome, judge, outcomes, extract, Statistics, Statistics.ofOutcomes
-/
import CodeGauge.Declaration.Basic
import CodeGauge.Declaration.Bracket
import CodeGauge.Declaration.Rule

namespace CodeGauge.Declaration

open CodeGauge.Source

/-!
Every word that has a token on each side is a candidate.  A candidate that no rule rejects declares a
function if the parenthesis behind it closes, a brace opens right behind that, and this brace closes as
well.  What happens to a candidate depends on the token before it and on the tokens from it on, and on
nothing else.
-/

/-- What becomes of a candidate. -/
inductive Outcome where
  /-- A rule says that it names no function. -/
  | rejected (rule : Rule)
  /-- A parenthesis or a brace never closes. -/
  | unresolved
  /-- No brace opens behind the parameters. -/
  | bodiless
  /-- It declares a function. -/
  | declared (declaration : Declaration)
deriving DecidableEq, Repr, Inhabited

/-- What becomes of the candidate at an index, given its neighbours and the tokens behind them. -/
def judge (index : Nat) (before word after : Token) (rest : List Token) : Outcome :=
  match Rule.firstRejecting? before word after with
  | some rule => .rejected rule
  | none =>
    match closing? '(' ')' 0 rest with
    | none => .unresolved
    | some parameters =>
      match rest.drop (parameters + 1) with
      | [] => .bodiless
      | brace :: inside =>
        if brace.isSymbol '{' then
          match closing? '{' '}' 0 inside with
          | none => .unresolved
          | some body =>
            .declared
              { name := index
                parameters := ⟨index + 2, index + 2 + parameters⟩
                body := ⟨index + 4 + parameters, index + 4 + parameters + body⟩ }
        else .bodiless

/-- The outcomes of all candidates in order, for tokens of which the second one has the given
index. -/
def outcomesFrom (index : Nat) : List Token → List Outcome
  | before :: word :: after :: rest =>
      let more := outcomesFrom (index + 1) (word :: after :: rest)
      match word with
      | .word .. => judge index before word after rest :: more
      | _ => more
  | _ => []

/-- The outcomes of all candidates of a token list, in order. -/
def outcomes (tokens : List Token) : List Outcome := outcomesFrom 1 tokens

/-- The function that an outcome declares. -/
def Outcome.declaration? : Outcome → Option Declaration
  | .declared declaration => some declaration
  | _ => none

/-- The functions declared in a token list, in the order of their names. -/
def extract (tokens : List Token) : List Declaration :=
  (outcomes tokens).filterMap Outcome.declaration?

/-! ### Counting -/

/-- How many candidates came to which end. -/
structure Statistics where
  candidates : Nat
  rejected : Nat
  bodiless : Nat
  unresolved : Nat
  declared : Nat
  /-- The rules that rejected a candidate, in their order, each with the number of its candidates. -/
  rejectedBy : List (Rule × Nat)
deriving DecidableEq, Repr, Inhabited

/-- Whether the outcome is a rejection. -/
def Outcome.isRejected : Outcome → Bool
  | .rejected _ => true
  | _ => false

/-- Whether the outcome is a declaration. -/
def Outcome.isDeclared : Outcome → Bool
  | .declared _ => true
  | _ => false

/-- Count outcomes. -/
def Statistics.ofOutcomes (outcomes : List Outcome) : Statistics where
  candidates := outcomes.length
  rejected := outcomes.countP Outcome.isRejected
  bodiless := outcomes.count .bodiless
  unresolved := outcomes.count .unresolved
  declared := outcomes.countP Outcome.isDeclared
  rejectedBy :=
    (Rule.all.map fun rule => (rule, outcomes.count (.rejected rule))).filter fun entry => entry.2 != 0

/-- The counts of a token list. -/
def statistics (tokens : List Token) : Statistics := Statistics.ofOutcomes (outcomes tokens)

end CodeGauge.Declaration
