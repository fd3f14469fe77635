import Mathlib.Data.List.Basic
import Mathlib.Tactic.Common

/-!
# Contracts of services

A service takes requests one after the other and keeps a state.  Its contract
says which requests it takes in a state and what state it may come to; from it
follow which lists of requests it takes, and what these lead to.
-/

namespace Library

/-- Which requests are taken in a state, and what they may lead to. -/
structure Contract (State Request : Type*) where
  able : State → Request → Prop
  serve : State → Request → State → Prop

namespace Contract

variable {State Request : Type*} (contract : Contract State Request)

/-- A list of requests is taken, whatever each of them leads to. -/
def Able : State → List Request → Prop
  | _, [] => True
  | state, request :: requests =>
      contract.able state request ∧
        ∀ next, contract.serve state request next → Able next requests

/-- Requests that have been taken lead from one state to another. -/
inductive Served : State → List Request → State → Prop
  | nil (state : State) : Served state [] state
  | cons {state middle final : State} {request : Request}
      {requests : List Request} (first : contract.serve state request middle)
      (rest : Served middle requests final) :
      Served state (request :: requests) final

variable {contract}

theorem Able.left
    {state : State} {first second : List Request}
    (able : contract.Able state (first ++ second)) :
    contract.Able state first := by
  induction first generalizing state with
  | nil => trivial
  | cons request first inductionHypothesis =>
      exact ⟨able.1, fun next served =>
        inductionHypothesis (able.2 next served)⟩

theorem Able.right
    {state middle : State} {first second : List Request}
    (able : contract.Able state (first ++ second))
    (served : contract.Served state first middle) :
    contract.Able middle second := by
  induction served with
  | nil => exact able
  | cons one rest inductionHypothesis =>
      exact inductionHypothesis (able.2 _ one)

theorem Served.append
    {state middle final : State} {first second : List Request}
    (one : contract.Served state first middle)
    (other : contract.Served middle second final) :
    contract.Served state (first ++ second) final := by
  induction one with
  | nil => exact other
  | cons served rest inductionHypothesis =>
      exact .cons served (inductionHypothesis other)

/-- A service that takes every request takes all lists of them. -/
theorem able_of_total
    (total : ∀ state request, contract.able state request)
    (state : State) (requests : List Request) :
    contract.Able state requests := by
  induction requests generalizing state with
  | nil => trivial
  | cons request requests inductionHypothesis =>
      exact ⟨total state request, fun next _ => inductionHypothesis next⟩

end Contract
end Library
