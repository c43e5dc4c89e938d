import Mathlib.Data.List.Basic

namespace Virtualization.Core

inductive ConditionStatus where
  | conditionTrue | conditionFalse | conditionUnknown | unset
deriving DecidableEq

structure Condition (τ ρ : Type) where
  type : τ
  status : ConditionStatus
  reason : ρ
  message : String
  observedGeneration : Int
deriving DecidableEq

variable {τ ρ : Type} [DecidableEq τ] [Inhabited ρ]

def getCondition (type : τ) (conditions : List (Condition τ ρ)) : Condition τ ρ × Bool :=
  match conditions.find? (·.type = type) with
  | some condition => (condition, true)
  | none =>
    ({ type, status := .unset, reason := default, message := "", observedGeneration := 0 }, false)

omit [Inhabited ρ] in
def setCondition (new : Condition τ ρ) : List (Condition τ ρ) → List (Condition τ ρ)
  | [] => [new]
  | old :: rest => if old.type = new.type then new :: rest else old :: setCondition new rest

omit [Inhabited ρ] in
def removeCondition (type : τ) (conditions : List (Condition τ ρ)) : List (Condition τ ρ) :=
  conditions.filter (·.type ≠ type)

def isLastUpdated (condition : Condition τ ρ) (generation : Int) : Bool :=
  condition.observedGeneration = generation

theorem getCondition_setCondition (new : Condition τ ρ) (conditions : List (Condition τ ρ)) :
    getCondition new.type (setCondition new conditions) = (new, true) := by
  unfold getCondition
  have found : (setCondition new conditions).find? (·.type = new.type) = some new := by
    induction conditions with
    | nil => simp [setCondition]
    | cons _ _ ih =>
      unfold setCondition
      split
      · simp
      rename_i other
      simpa [other] using ih
  rw [found]

theorem getCondition_setCondition_other {new : Condition τ ρ} {type : τ} (different : type ≠ new.type)
    (conditions : List (Condition τ ρ)) :
    getCondition type (setCondition new conditions) = getCondition type conditions := by
  unfold getCondition
  have found : (setCondition new conditions).find? (·.type = type) =
      conditions.find? (·.type = type) := by
    induction conditions with
    | nil => simp [setCondition, Ne.symm different]
    | cons _ _ ih =>
      unfold setCondition
      split
      · rename_i same
        simp [same, Ne.symm different]
      · simp only [List.find?_cons, ih]
  rw [found]

def quoted (name : String) : String := "\"" ++ name ++ "\""

def capitalizeFirstLetter (s : String) : String :=
  match s.toList with
  | [] => ""
  | first :: rest => String.ofList (first.toUpper :: rest)

def maxConditionMessageLength : Nat := 256

def truncationMarker : String := " (truncated)."

def lastIndex (pattern : List Char) : List Char → Option Nat
  | [] => none
  | c :: rest =>
    match lastIndex pattern rest with
    | some i => some (i + 1)
    | none => if pattern.isPrefixOf (c :: rest) then some 0 else none

def trimRight (drop : List Char) (text : List Char) : List Char :=
  (text.reverse.dropWhile (· ∈ drop)).reverse

def truncateMessage (s : String) : String :=
  let runes := s.toList
  if runes.length ≤ maxConditionMessageLength then s
  else
    let hardCut := runes.take (maxConditionMessageLength - truncationMarker.toList.length)
    let separator :=
      match lastIndex "; ".toList hardCut, lastIndex ", ".toList hardCut with
      | some i, some j => some (if i < j then j else i)
      | some i, none => some i
      | none, some j => some j
      | none, none => lastIndex " ".toList hardCut
    let kept :=
      match separator with
      | some (i + 1) => hardCut.take (i + 1)
      | _ => hardCut
    let kept :=
      if kept.count '"' % 2 ≠ 0 then
        match lastIndex "\"".toList kept with
        | some openingQuote => kept.take openingQuote
        | none => kept
      else kept
    let kept := trimRight " ,;".toList kept
    String.ofList (if kept = [] then hardCut else kept) ++ truncationMarker

def inUseByVirtualMachinesMessage (resourceKind : String) (vmNames : List String) : String :=
  match vmNames with
  | [] => truncateMessage s!"The {resourceKind} is in use by a VirtualMachine."
  | [name] =>
    truncateMessage (s!"The {resourceKind} is in use by the VirtualMachine {quoted name}; " ++
      s!"detach it or stop the VirtualMachine to release the {resourceKind}.")
  | _ =>
    truncateMessage (s!"The {resourceKind} is in use by {vmNames.length} VirtualMachines; " ++
      s!"detach it or stop them to release the {resourceKind}. " ++
      "In use by: " ++ ", ".intercalate (vmNames.map quoted) ++ ".")

end Virtualization.Core
