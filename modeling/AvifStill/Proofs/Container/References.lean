import AvifStill.Proofs.Container.Entries

/-!
# The written references

Metadata and alpha of a written file refer to its image, and a premultiplied image to its alpha. Both
readers find exactly these references.
-/

namespace AvifStill

namespace Item.Reference

open Scan

/-- The box of a reference, of which each has its own. -/
def box (reference : Reference) : Box :=
  Container.referenceBox reference.kind reference.source reference.target

/-- Whether a reference can be written: between two items with numbers of 16 bits. -/
structure Writable (reference : Reference) : Prop where
  source : reference.source < Bytes.capacity 2
  target : reference.target < Bytes.capacity 2
  distinct : reference.target ≠ reference.source
  plain : reference.kind ≠ .uuid

theorem content_box (reference : Reference) :
    reference.box.content = Bytes.ofNat 2 reference.source ++ (Bytes.ofNat 2 1 ++
      Bytes.ofNat 2 reference.target) := by
  simp [box, Container.referenceBox]

theorem reads_scanBox {reference : Reference} (writable : reference.Writable) :
    Reads (Reference.scanBox 2 reference.kind) reference.box.content [reference] := by
  have readsTargets := Reads.times fun _ (_ : _ ∈ [reference.target]) =>
    Reads.nat truncated writable.target
  simp only [List.length_singleton, List.flatMap_singleton, List.map_singleton] at readsTargets
  rw [content_box]
  refine Reads.bind (Reads.nat truncated writable.source) ?_
  refine Reads.bind (Reads.nat truncated (by decide : 1 < Bytes.capacity 2)) ?_
  exact readsTargets.bind_pure (List.map (Reference.mk reference.kind reference.source))

/-- The strict reader finds that the item does not refer to itself. -/
theorem reads_strict {reference : Reference} (writable : reference.Writable) :
    Reads (Payload.Table.scanReference 2 reference.kind) reference.box.content [reference] := by
  have readsTargets := Reads.times fun _ (_ : _ ∈ [reference.target]) =>
    Payload.Window.reads_nat writable.target
  simp only [List.length_singleton, List.flatMap_singleton, List.map_singleton] at readsTargets
  have distinct : (!List.contains [reference.target] reference.source) = true := by
    simp [writable.distinct.symm]
  rw [content_box]
  refine Reads.bind (Payload.Window.reads_nat writable.source) ?_
  refine Reads.bind (Payload.Window.reads_nat (by decide : 1 < Bytes.capacity 2)) ?_
  rw [← List.append_nil (Bytes.ofNat 2 reference.target)]
  refine Reads.bind readsTargets ?_
  refine Reads.bind_nothing (Payload.Window.reads_require distinct) ?_
  exact Reads.pure [reference]

end Item.Reference

namespace Container

open Item Scan Payload.Window

/-- The references of a written file. -/
def references (container : Container) : List Reference :=
  (container.exifItem.map fun _ => ⟨.cdsc, 3, 1⟩).toList ++
  (container.xmp.map fun _ => ⟨.cdsc, container.xmpItem, 1⟩).toList ++
  (container.alpha.map fun _ => ⟨.auxl, 2, 1⟩).toList ++
  (if container.alpha.isSome ∧ container.premultiplied then [⟨.prem, 1, 2⟩] else [])

theorem mem_references {container : Container} {reference : Reference}
    (isMember : reference ∈ container.references) :
    reference = ⟨.cdsc, 3, 1⟩ ∨ reference = ⟨.cdsc, container.xmpItem, 1⟩ ∨
      reference = ⟨.auxl, 2, 1⟩ ∨ reference = ⟨.prem, 1, 2⟩ := by
  simp only [references, List.mem_append, Option.mem_toList, Option.map_eq_some_iff] at isMember
  grind

theorem writable_of_mem_references {container : Container} {reference : Reference}
    (isMember : reference ∈ container.references) : reference.Writable := by
  rcases mem_references isMember with rfl | rfl | rfl | rfl
  · exact ⟨by decide, by decide, by decide, by decide⟩
  · rcases container.xmpItem_cases with isThree | isFour
    · rw [isThree]
      exact ⟨by decide, by decide, by decide, by decide⟩
    · rw [isFour]
      exact ⟨by decide, by decide, by decide, by decide⟩
  · exact ⟨by decide, by decide, by decide, by decide⟩
  · exact ⟨by decide, by decide, by decide, by decide⟩

theorem referencesBox?_eq (container : Container) :
    container.referencesBox? =
      if container.references = [] then none
      else some (.full .iref 0 ((container.references.map Reference.box).flatMap Box.toBytes)) := by
  unfold referencesBox? references xmpItem
  cases container.exifItem <;> cases container.xmp <;> cases container.alpha <;>
    cases container.premultiplied <;> rfl

theorem sound_references {container : Container}
    (fits : ((container.references.map Reference.box).flatMap Box.toBytes).length <
      Bytes.capacity 4) :
    Box.Sound (container.references.map Reference.box) := by
  refine ⟨?_, fits⟩
  intro box isMember
  rcases List.mem_map.mp isMember with ⟨reference, isReference, rfl⟩
  exact (writable_of_mem_references isReference).plain

theorem content_references (boxes : Bytes) :
    (Box.full .iref 0 boxes).content = [0] ++ ([0, 0, 0] ++ boxes) := rfl

theorem run'_references {container : Container}
    (fits : ((container.references.map Reference.box).flatMap Box.toBytes).length <
      Bytes.capacity 4) :
    Reference.scanTable.run'
        (Box.full .iref 0 ((container.references.map Reference.box).flatMap Box.toBytes)).content =
      .ok container.references := by
  have gone := Box.foldM_split_map (fun known reference => known ++ [id reference])
    (fun references box => do
      return references ++ (← (Reference.scanBox 2 box.kind).run' box.content))
    (sound_references fits)
    (fun known reference isMember => by
      rw [show reference.box.kind = reference.kind from rfl,
        (Reference.reads_scanBox (writable_of_mem_references isMember)).run']
      rfl) []
  rw [Box.foldl_snoc, List.map_id, List.nil_append] at gone
  have finishes : Reference.scanTable
      (Box.full .iref 0 ((container.references.map Reference.box).flatMap Box.toBytes)).content =
        .ok (container.references, []) := by
    rw [content_references]
    refine Reads.bind_rest (Reads.natOfBytes truncated rfl) ?_
    refine Reads.bind_rest (Reads.natOfBytes truncated rfl) ?_
    refine (bind_of_ok (rfl : Scan.rest _ = .ok (_, []))).trans ?_
    refine (congrArg (fun result => (monadLift result : Scan _) []) gone).trans ?_
    rfl
  rw [Scan.run', finishes]
  rfl

theorem strict_references {container : Container}
    (fits : ((container.references.map Reference.box).flatMap Box.toBytes).length <
      Bytes.capacity 4) :
    Payload.Table.scanReferences
        (Box.full .iref 0 ((container.references.map Reference.box).flatMap Box.toBytes)).content =
      .ok (container.references, []) := by
  rw [content_references]
  refine Reads.bind_rest (reads_natOfBytes rfl) ?_
  refine Reads.bind_rest (reads_skip rfl) ?_
  refine Reads.bind_nothing_rest (reads_require rfl) ?_
  rw [fold_map (fun known reference => known ++ [id reference]) (sound_references fits)]
  · rw [Box.foldl_snoc, List.map_id]
    rfl
  · intro known reference isMember
    have scanned := (Reference.reads_strict (writable_of_mem_references isMember)).apply
    exact (bind_of_ok scanned).trans rfl

end Container

end AvifStill
