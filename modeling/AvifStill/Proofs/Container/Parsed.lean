import AvifStill.Container.Reader
import AvifStill.Proofs.Av1.Config
import AvifStill.Proofs.BoxSequence

/-!
# What is known of a container that was read

The reader keeps only those bits of a rotation, of a mirror axis and of a codec configuration that
have a meaning, and calls colour premultiplied only where there is alpha. So nothing of a container
that was read is lost when it is written, whichever file it comes from.
-/

namespace AvifStill

namespace Scan

variable {α β : Type}

/-- Every result of a step has some property. -/
def Yields (holds : α → Prop) (step : Scan α) : Prop :=
  ∀ input result after, step input = .ok (result, after) → holds result

namespace Yields

variable {holds : α → Prop}

theorem pure {value : α} (has : holds value) : Yields holds (Pure.pure value) := by
  intro input result after done
  rcases pure_eq_ok_iff.mp done with ⟨rfl, -⟩
  exact has

theorem bind {first : Scan β} {next : β → Scan α} (goesOn : ∀ value, Yields holds (next value)) :
    Yields holds (first >>= next) := by
  intro input result after done
  rcases bind_eq_ok_iff.mp done with ⟨middle, between, -, done⟩
  exact goesOn middle between result after done

theorem map {function : β → α} (step : Scan β) (each : ∀ value, holds (function value)) :
    Yields holds (function <$> step) := by
  rw [map_eq_pure_bind]
  exact bind fun value => pure (each value)

/-- A result that is taken over from elsewhere has the property if it had it there. -/
theorem map_lift {function : β → α} {found : Except Fault β}
    (each : ∀ value, found = .ok value → holds (function value)) :
    Yields holds (function <$> (monadLift found : Scan β)) := by
  intro input result after done
  cases found with
  | error fault => cases done
  | ok value =>
      cases done
      exact each value rfl

theorem run' {step : Scan α} (yields : Yields holds step) {input : Bytes} {result : α}
    (done : step.run' input = .ok result) : holds result := by
  rw [Scan.run'] at done
  cases found : step input with
  | error fault =>
      rw [found] at done
      cases done
  | ok pair =>
      rw [found] at done
      cases done
      exact yields input pair.1 pair.2 found

end Yields

end Scan

theorem Box.Sequence.foldM_invariant {σ : Type} {sequence : Sequence}
    {step : σ → Box → Except Fault σ} {start final : σ} (holds : σ → Prop)
    (keeps : ∀ state box next, holds state → step state box = .ok next → holds next)
    (first : holds start) (done : sequence.foldM step start = .ok final) : holds final :=
  foldlM_invariant holds keeps first (Sequence.done_of_foldM done).2

/-- Whether transforms have only the bits that mean something. -/
structure Transforms.Normal (transforms : Transforms) : Prop where
  rotation : ∀ turns, transforms.rotation = some turns → turns &&& 3 = turns
  mirror : ∀ axis, transforms.mirror = some axis → axis &&& 1 = axis

namespace Item

open Scan

namespace Property

/-- Whether a property has only the bits that mean something. -/
def Normal : Property → Prop
  | .config record => record.packed = record
  | .rotation turns => turns &&& 3 = turns
  | .mirror axis => axis &&& 1 = axis
  | _ => True

theorem yields_scanColor : Yields Normal scanColor := by
  apply Yields.bind
  intro kind
  split
  · exact Yields.bind fun _ => Yields.bind fun _ => Yields.bind fun _ => Yields.bind fun _ =>
      Yields.pure trivial
  · split
    · exact Yields.map _ fun _ => trivial
    · exact Yields.pure trivial

theorem yields_scan (kind : FourCC) : Yields Normal (scan kind) := by
  unfold scan
  split
  · exact Yields.bind fun _ => Yields.bind fun _ => Yields.bind fun _ => Yields.pure trivial
  split
  · apply Yields.bind
    intro record
    apply Yields.map_lift
    intro config read
    exact Av1.Config.packed_of_ofBytes? read
  split
  · exact yields_scanColor
  split
  · exact Yields.bind fun _ => Yields.map _ fun _ => trivial
  split
  · exact Yields.bind fun _ => Yields.bind fun _ => Yields.bind fun _ => Yields.bind fun _ =>
      Yields.bind fun _ => Yields.bind fun _ => Yields.bind fun _ => Yields.bind fun _ =>
      Yields.pure trivial
  split
  · apply Yields.bind
    intro turns
    apply Yields.pure
    rw [Normal, UInt8.and_assoc]
    rfl
  split
  · apply Yields.bind
    intro axis
    apply Yields.pure
    rw [Normal, UInt8.and_assoc]
    rfl
  · exact Yields.pure trivial

end Property

/-- Whether all properties of a table are normal. -/
def PropertyTable.Normal (table : PropertyTable) : Prop :=
  ∀ property ∈ table.properties, property.Normal

theorem PropertyTable.normal_readProperties {content : Bytes} {properties : List Property}
    (done : readProperties content = .ok properties) : ∀ property ∈ properties, property.Normal := by
  refine Box.Sequence.foldM_invariant
    (fun properties => ∀ property ∈ properties, property.Normal) ?_ (by simp) done
  intro known box next kept stepped
  rcases done_of_bind stepped with ⟨property, scanned, appended⟩
  cases appended
  intro listed isMember
  rcases List.mem_append.mp isMember with isKnown | isNew
  · exact kept listed isKnown
  · rw [List.mem_singleton.mp isNew]
    exact (Property.yields_scan box.kind).run' scanned

theorem PropertyTable.normal_read {content : Bytes} {table : PropertyTable}
    (done : read content = .ok table) : table.Normal := by
  rcases done_of_bind done with ⟨⟨list, rest⟩, -, done⟩
  simp only at done
  split at done
  · cases done
  · rcases done_of_bind done with ⟨properties, listed, done⟩
    rcases done_of_bind done with ⟨associations, -, done⟩
    cases done
    exact normal_readProperties listed

theorem PropertyTable.normal_append {left right : PropertyTable} (isLeft : left.Normal)
    (isRight : right.Normal) : (left.append right).Normal := by
  intro property isMember
  rcases List.mem_append.mp isMember with inLeft | inRight
  · exact isLeft property inLeft
  · exact isRight property inRight

theorem PropertyTable.normal_of_mem_ofItem {table : PropertyTable} (normal : table.Normal)
    {item : Nat} {property : Property} (isMember : property ∈ table.ofItem item) :
    property.Normal := by
  rcases List.mem_flatMap.mp isMember with ⟨association, -, isIndexed⟩
  rcases List.mem_filterMap.mp isIndexed with ⟨index, -, found⟩
  split at found
  · cases found
  · exact normal property (List.mem_of_getElem? found)

/-- Whether all properties of the directory among some outermost boxes are normal. -/
def Outline.Normal (outline : Outline) : Prop :=
  ∀ directory, outline.directory = some directory → directory.table.Normal

namespace Directory

theorem normal_step {progress next : Progress} {box : Box} (normal : progress.directory.table.Normal)
    (done : step progress box = .ok next) : next.directory.table.Normal := by
  unfold step at done
  simp only at done
  split at done
  · rcases done_of_bind done with ⟨-, -, done⟩
    cases done
    exact normal
  split at done
  · rcases done_of_bind done with ⟨primary, -, done⟩
    cases done
    exact normal
  split at done
  · rcases done_of_bind done with ⟨locations, -, done⟩
    cases done
    exact normal
  split at done
  · rcases done_of_bind done with ⟨entries, -, done⟩
    cases done
    exact normal
  split at done
  · rcases done_of_bind done with ⟨references, -, done⟩
    cases done
    exact normal
  split at done
  · rcases done_of_bind done with ⟨table, read, done⟩
    cases done
    exact PropertyTable.normal_append normal (PropertyTable.normal_read read)
  split at done
  · cases done
    exact normal
  · cases done
    exact normal

theorem normal_read {content : Bytes} {directory : Directory}
    (done : read content = .ok directory) : directory.table.Normal := by
  rcases done_of_bind done with ⟨⟨header, boxes⟩, -, done⟩
  rcases done_of_bind done with ⟨progress, gone, done⟩
  have normal := Box.Sequence.foldM_invariant
    (fun progress : Progress => progress.directory.table.Normal)
    (fun _ _ _ kept stepped => normal_step kept stepped)
    (by simp [Directory.empty, PropertyTable.empty, PropertyTable.Normal]) gone
  split at done
  · cases done
    exact normal
  · cases done

theorem normal_outline {outline next : Outline} {box : Box} (normal : outline.Normal)
    (done : outline.step box = .ok next) : next.Normal := by
  unfold Outline.step at done
  split at done
  · rcases done_of_bind done with ⟨brands, -, done⟩
    split at done
    · cases done
      exact normal
    · cases done
  split at done
  · cases done
  split at done
  · rcases done_of_bind done with ⟨directory, read, done⟩
    cases done
    intro found isFound
    cases isFound
    exact normal_read read
  split at done
  · cases done
    exact normal
  · cases done
    exact normal

theorem normal_ofFile {file : Bytes} {directory : Directory} (done : ofFile file = .ok directory) :
    directory.table.Normal := by
  unfold ofFile at done
  split at done
  · cases done
  rcases done_of_bind done with ⟨outline, gone, done⟩
  have normal := Box.Sequence.foldM_invariant Outline.Normal
    (fun _ _ _ kept stepped => normal_outline kept stepped) (fun _ isNone => by cases isNone) gone
  split at done
  · cases done
  · rename_i found
    cases done
    exact normal directory found
  · split at done
    · cases done
    · cases done

end Directory

end Item

namespace Container

open Item

theorem normal_lastTransforms {properties : List Property}
    (normal : ∀ property ∈ properties, property.Normal) : (lastTransforms properties).Normal := by
  refine List.foldlRecOn properties _ ?_ ?_
  · exact ⟨fun _ isSome => (nomatch isSome), fun _ isSome => (nomatch isSome)⟩
  · intro transforms kept property isMember
    have isNormal := normal property isMember
    split
    · exact ⟨kept.rotation, kept.mirror⟩
    · refine ⟨fun turns isSome => ?_, kept.mirror⟩
      cases isSome
      exact isNormal
    · refine ⟨kept.rotation, fun axis isSome => ?_⟩
      cases isSome
      exact isNormal
    · exact kept

/-- A configuration that is found among properties is one of them. -/
theorem mem_of_lastConfig? {properties : List Property} {config : Av1.Config}
    (found : CodedImage.lastConfig? properties = some config) :
    Property.config config ∈ properties := by
  refine List.foldlRecOn (motive := fun last => ∀ config, last = some config →
    Property.config config ∈ properties) properties _ ?_ ?_ config found
  · intro config isSome
    cases isSome
  · intro last kept property isMember config isSome
    split at isSome
    · cases isSome
      exact isMember
    · exact kept config isSome

theorem mem_of_ofProperties {properties : List Property} {data : Bytes} {image : CodedImage}
    (done : CodedImage.ofProperties properties data = .ok image) :
    Property.config image.config ∈ properties := by
  unfold CodedImage.ofProperties at done
  split at done
  · cases done
  · cases done
  · rename_i config width height found extent
    cases done
    exact mem_of_lastConfig? found

theorem parts_of_parse {file : Bytes} {container : Container}
    (parsed : parse file = .ok container) :
    ∃ (directory : Directory) (payloads : Payload.Payloads), Directory.ofFile file = .ok directory ∧
      Property.config container.color.config ∈ directory.table.ofItem directory.primary ∧
      container.transforms = lastTransforms (directory.table.ofItem directory.primary) ∧
      container.premultiplied = (container.alpha.isSome && payloads.premultiplied) := by
  rcases done_of_bind parsed with ⟨directory, found, done⟩
  rcases done_of_bind done with ⟨-, -, done⟩
  rcases done_of_bind done with ⟨payloads, -, done⟩
  rcases done_of_bind done with ⟨color, isColor, done⟩
  rcases done_of_bind done with ⟨alpha, -, done⟩
  cases done
  exact ⟨directory, payloads, found, mem_of_ofProperties isColor, rfl, rfl⟩

/-- The transforms of a container that was read are normal. -/
theorem normal_parse {file : Bytes} {container : Container} (parsed : parse file = .ok container) :
    container.transforms.Normal := by
  rcases parts_of_parse parsed with ⟨directory, payloads, found, -, transforms, -⟩
  rw [transforms]
  exact normal_lastTransforms fun property isMember =>
    PropertyTable.normal_of_mem_ofItem (Directory.normal_ofFile found) isMember

/-- So is the codec configuration. -/
theorem packed_parse {file : Bytes} {container : Container} (parsed : parse file = .ok container) :
    container.color.config.packed = container.color.config := by
  rcases parts_of_parse parsed with ⟨directory, payloads, found, isMember, -⟩
  exact PropertyTable.normal_of_mem_ofItem (Directory.normal_ofFile found) isMember

/-- Only colour beside alpha is read as premultiplied. -/
theorem premultiplied_parse {file : Bytes} {container : Container}
    (parsed : parse file = .ok container) :
    (container.alpha.isSome && container.premultiplied) = container.premultiplied := by
  rcases parts_of_parse parsed with ⟨directory, payloads, -, -, -, premultiplied⟩
  rw [premultiplied]
  cases container.alpha <;> simp

end Container

end AvifStill
