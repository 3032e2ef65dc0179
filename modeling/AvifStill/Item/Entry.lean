import AvifStill.Box.Basic

/-!
# Items and their references

The item list says what kind of thing each item is; references tie items together, a metadata or
alpha item to the image it belongs to.
-/

namespace AvifStill.Item

structure Entry where
  item : Nat
  kind : FourCC
  /-- The content type, which only one kind of item has. -/
  contentType : Bytes
  deriving DecidableEq, Repr

structure Reference where
  kind : FourCC
  source : Nat
  target : Nat
  deriving DecidableEq, Repr

namespace Entry

/-- Reads one entry of the item list. -/
def scan : Scan Entry := do
  let version ← Scan.nat truncated 1
  let _ ← Scan.nat truncated 3
  if version ≠ 2 ∧ version ≠ 3 then Scan.fail (.parse .itemEntryVersion)
  else
    let item ← Scan.nat truncated (if version = 2 then 2 else 4)
    let _ ← Scan.nat truncated 2
    let kind ← Scan.fourCC truncated
    let _ ← Scan.text
    let contentType ← if kind = .mime then Scan.text else pure []
    return ⟨item, kind, contentType⟩

/-- Reads a box that has to be an entry. -/
def scanBox : Scan Entry := do
  let box ← Box.scan
  if box.kind ≠ .infe then Scan.fail (.parse .foreignItemEntry)
  else monadLift (scan.run' box.content)

/-- Reads the item list, as many entries as it announces. -/
def scanTable : Scan (List Entry) := do
  let version ← Scan.nat truncated 1
  let _ ← Scan.nat truncated 3
  let count ← Scan.nat truncated (if version = 0 then 2 else 4)
  Scan.times count scanBox

end Entry

namespace Reference

/-- Reads the references of one kind from one item. -/
def scanBox (idWidth : Nat) (kind : FourCC) : Scan (List Reference) := do
  let source ← Scan.nat truncated idWidth
  let count ← Scan.nat truncated 2
  let targets ← Scan.times count (Scan.nat truncated idWidth)
  return targets.map fun target => ⟨kind, source, target⟩

/-- Reads all references; versions that are not known have none. -/
def scanTable : Scan (List Reference) := do
  let version ← Scan.nat truncated 1
  let _ ← Scan.nat truncated 3
  if 1 < version then return []
  else
    let boxes ← Scan.rest
    monadLift ((Box.split boxes).foldM
      (fun references box => do
        return references ++
          (← (scanBox (if version = 0 then 2 else 4) box.kind).run' box.content))
      [])

end Reference

end AvifStill.Item
