import Mathlib
import Virtualization.Core.Objects

namespace Virtualization.Machine

open Virtualization.Core

def vdDiskPrefix : List Char := "vd-".toList
def viDiskPrefix : List Char := "vi-".toList
def cviDiskPrefix : List Char := "cvi-".toList

def vdNameBudget : Nat := 60
def viNameBudget : Nat := 49
def cviNameBudget : Nat := 48

def isLabelChar (c : Char) : Bool := 'a' ≤ c ∧ c ≤ 'z' ∨ '0' ≤ c ∧ c ≤ '9'

variable (name : List Char)

def isDNS1123Label : Bool :=
  name.length ≤ 63 ∧ name.all (fun c => isLabelChar c ∨ c = '-') ∧
    name.head?.any isLabelChar ∧ name.getLast?.any isLabelChar

/-- FNV-1a over the bytes of a name; resource names are ASCII. -/
def fnv64a : Nat :=
  name.foldl (fun hash c => (hash ^^^ c.toNat) * 1099511628211 % 2 ^ 64) 14695981039346656037

def hexDigit (n : Nat) : Char := if n < 10 then Char.ofNat (48 + n) else Char.ofNat (87 + n)

def hexDigits : Nat → Nat → List Char
  | 0, _ => []
  | digits + 1, n => hexDigits digits (n / 16) ++ [hexDigit (n % 16)]

def sanitizeLabel : List Char :=
  name.map fun c => if isLabelChar c ∨ c = '-' then c else '-'

def trimDashes (text : List Char) : List Char := trimRight ['-'] (text.dropWhile (· = '-'))

def shortenDiskName (budget : Nat) : List Char :=
  if name.length ≤ budget ∧ isDNS1123Label name then name
  else
    let suffix := hexDigits 16 (fnv64a name)
    let trimmed := trimDashes (sanitizeLabel name)
    let readable :=
      if trimmed.length > budget - 1 - suffix.length then trimRight ['-'] (trimmed.take (budget - 1 - suffix.length))
      else trimmed
    if readable = [] then suffix else readable ++ '-' :: suffix

def generateDiskName (kind : BlockDeviceKind) (name : String) : String :=
  String.ofList <|
    match kind with
    | .diskDevice => vdDiskPrefix ++ shortenDiskName name.toList vdNameBudget
    | .imageDevice => viDiskPrefix ++ shortenDiskName name.toList viNameBudget
    | .clusterImageDevice => cviDiskPrefix ++ shortenDiskName name.toList cviNameBudget

def generateVMBDADiskName (ref : BlockDeviceRef) : String := generateDiskName ref.kind ref.name

def getOriginalDiskName (volumeName : String) : Option BlockDeviceRef :=
  match vdDiskPrefix.isPrefixOf volumeName.toList, viDiskPrefix.isPrefixOf volumeName.toList,
      cviDiskPrefix.isPrefixOf volumeName.toList with
  | true, _, _ => some ⟨.diskDevice, String.ofList (volumeName.toList.drop 3)⟩
  | false, true, _ => some ⟨.imageDevice, String.ofList (volumeName.toList.drop 3)⟩
  | false, false, true => some ⟨.clusterImageDevice, String.ofList (volumeName.toList.drop 4)⟩
  | false, false, false => none

/-- `VolumeNameResolver`, seeded with the devices a VM references: a known device whose volume
    has the name, the last one added first, and otherwise the name without its first letters. -/
def resolve (seeds : List BlockDeviceRef) (volumeName : String) : Option BlockDeviceRef :=
  match seeds.reverse.find? fun ref => generateDiskName ref.kind ref.name = volumeName with
  | some ref => some ref
  | none => getOriginalDiskName volumeName

example : generateDiskName .diskDevice "root" = "vd-root" := by decide

example : generateDiskName .diskDevice "a.b" = "vd-a-b-e61d99190466522c" := by decide

end Virtualization.Machine
