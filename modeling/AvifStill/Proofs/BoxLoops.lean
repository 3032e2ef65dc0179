import AvifStill.Item.Directory
import AvifStill.Proofs.BoxFrame

/-!
# Going through boxes comes to an end

The readers of boxes are given here on a cursor, with all their loops cut off after as many rounds as
there is room for headers. A loop that is cut off has no outcome, and neither has a step that leaves
its bytes. Every reader has one on all bytes, and it is what the reader makes of what is left there.
-/

namespace AvifStill

open Scan

namespace Scan

variable {α β : Type}

theorem bind_apply (first : Scan α) (next : α → Scan β) (input : Bytes) :
    (first >>= next) input = first input >>= fun pair => next pair.1 pair.2 := rfl

theorem run'_lift (found : Except Fault α) (input : Bytes) :
    (monadLift found : Scan α).run' input = found := by
  cases found <;> rfl

theorem run'_bind (first : Scan α) (next : α → Scan β) (input : Bytes) :
    (first >>= next).run' input = first input >>= fun pair => (next pair.1).run' pair.2 := by
  rw [run', bind_apply]
  cases first input <;> rfl

end Scan

namespace Cursor

open Box Item

variable {α β σ : Type}

/-! ## Readers and their loops -/

/-- Whether a step gives what a reader makes of the bytes that are left, wherever that may be. -/
def Gives (step : Step α) (read : Bytes → Except Fault α) : Prop :=
  ∀ cursor, cursor.IsInside → ∃ after, step cursor = some (read cursor.left, after) ∧
    cursor.Advances after

/-- Takes a step on other bytes, from their start on. -/
def within (content : Bytes) (step : Step α) : Step α := fun cursor =>
  (step (.start content)).map fun outcome => (outcome.1, cursor)

theorem within_eq {step : Step α} {read : Bytes → Except Fault α} (gives : Gives step read)
    (content : Bytes) : within content step = answer (read content) := by
  funext cursor
  rcases gives (.start content) (Nat.zero_le _) with ⟨after, done, -⟩
  rw [within, done]
  rfl

namespace Gives

variable {step : Step α} {scan : Scan α} {read : Bytes → Except Fault α}

theorem of_follows (follows : Follows step scan) : Gives step scan.run' := by
  intro cursor inside
  rcases follows cursor cursor (.refl inside) with ⟨result, after, done, advances, same⟩
  refine ⟨after, ?_, advances⟩
  rw [done, Scan.run', same]
  cases result <;> rfl

theorem congr {other : Bytes → Except Fault α} (gives : Gives step read)
    (same : ∀ input, read input = other input) : Gives step other :=
  funext same ▸ gives

theorem bind_of_follows {next : α → Step β} {goesOn : α → Bytes → Except Fault β}
    (follows : Follows step scan) (andThen : ∀ value, Gives (next value) (goesOn value)) :
    Gives (step >>= next) fun input => scan input >>= fun pair => goesOn pair.1 pair.2 := by
  intro cursor inside
  rcases follows cursor cursor (.refl inside) with ⟨result, between, done, advances, same⟩
  simp only [same]
  cases result with
  | error fault => exact ⟨between, Cursor.bind_of_failed done, advances⟩
  | ok value =>
      rcases andThen value between advances.inside with ⟨after, finished, further⟩
      exact ⟨after, (Cursor.bind_of_done done).trans finished, advances.trans further⟩

theorem bind_answer (gives : Gives step read) (finish : α → Except Fault β) :
    Gives (step >>= fun value => answer (finish value)) fun input => read input >>= finish := by
  intro cursor inside
  rcases gives cursor inside with ⟨after, done, advances⟩
  simp only
  cases found : read cursor.left with
  | error fault =>
      rw [found] at done
      exact ⟨after, Cursor.bind_of_failed done, advances⟩
  | ok value =>
      rw [found] at done
      exact ⟨after, Cursor.bind_of_done done, advances⟩

theorem answer_bind (first : Except Fault α) {next : α → Step β}
    {goesOn : α → Bytes → Except Fault β} (andThen : ∀ value, Gives (next value) (goesOn value)) :
    Gives (answer first >>= next) fun input => first >>= fun value => goesOn value input := by
  intro cursor inside
  cases first with
  | error fault => exact ⟨cursor, Cursor.bind_of_failed rfl, .refl inside⟩
  | ok value =>
      rw [Cursor.bind_of_done (rfl : answer (.ok value) cursor = _)]
      exact andThen value cursor inside

end Gives

theorem answer_bind (first : Except Fault α) (next : α → Except Fault β) :
    (answer first >>= fun value => answer (next value)) = answer (first >>= next) := by
  funext cursor
  cases first with
  | error fault => exact Cursor.bind_of_failed (rfl : answer (.error fault) cursor = _)
  | ok value => exact Cursor.bind_of_done (rfl : answer (.ok value) cursor = _)

/-- How many boxes some bytes have room for, and one more. -/
def rounds (cursor : Cursor) : Nat := cursor.bytesLeft / 8 + 1

/-- The loop over the boxes that are left, each of which is read when its turn comes. -/
def foldWithin (step : σ → Box → Step σ) (rounds : Nat) (state : σ) : Step σ := fun cursor =>
  if cursor.bytesLeft = 0 then some (.ok state, cursor)
  else
    match rounds with
    | 0 => none
    | rounds + 1 =>
        (box >>= fun box => step state box >>= fun next => foldWithin step rounds next) cursor

def fold (step : σ → Box → Step σ) (state : σ) : Step σ := fun cursor =>
  foldWithin step cursor.rounds state cursor

/-- The loop that takes a step as often as announced. -/
def timesWithin (step : Step α) (rounds count : Nat) (results : List α) : Step (List α) :=
  match count, rounds with
  | 0, _ => pure results.reverse
  | _ + 1, 0 => fun _ => none
  | count + 1, rounds + 1 =>
      step >>= fun result => timesWithin step rounds count (result :: results)

def times (count : Nat) (step : Step α) : Step (List α) := fun cursor =>
  timesWithin step cursor.rounds count [] cursor

end Cursor

namespace Box.Sequence

variable {σ : Type}

theorem foldM_cons (box : Box) (boxes : List Box) (fault : Option Fault)
    (step : σ → Box → Except Fault σ) (state : σ) :
    foldM ⟨box :: boxes, fault⟩ step state =
      step state box >>= fun next => foldM ⟨boxes, fault⟩ step next := by
  simp only [foldM, List.foldlM_cons, bind_assoc]

end Box.Sequence

namespace Cursor

open Box Item

variable {α β σ : Type}

/-- Every round takes up the header of a box. -/
theorem foldWithin_eq {limited : σ → Box → Step σ} {step : σ → Box → Except Fault σ}
    (same : ∀ state box, limited state box = answer (step state box)) {rounds : Nat} {state : σ}
    {cursor : Cursor} (inside : cursor.IsInside) (enough : cursor.left.length / 8 < rounds) :
    ∃ after, foldWithin limited rounds state cursor =
        some ((split cursor.left).foldM step state, after) ∧ cursor.Advances after := by
  induction rounds generalizing state cursor with
  | zero => cases enough
  | succ rounds ih =>
      unfold foldWithin
      by_cases isEmpty : cursor.bytesLeft = 0
      · rw [← length_left, List.length_eq_zero_iff] at isEmpty
        refine ⟨cursor, ?_, .refl inside⟩
        rw [if_pos (by rw [← length_left, isEmpty]; rfl), isEmpty, split_nil]
        rfl
      · have notEmpty : cursor.left ≠ [] := by
          rwa [← length_left, List.length_eq_zero_iff] at isEmpty
        rw [if_neg isEmpty]
        simp only
        rcases follows_box cursor cursor (.refl inside) with ⟨found, between, done, advances, read⟩
        cases found with
        | error fault =>
            refine ⟨between, ?_, advances⟩
            rw [split_of_scan_error notEmpty read]
            exact Cursor.bind_of_failed done
        | ok found =>
            have shorter := length_of_scan read
            rw [split_of_scan read, Sequence.foldM_cons, Cursor.bind_of_done done, same]
            cases taken : step state found with
            | error fault =>
                refine ⟨between, ?_, advances⟩
                exact Cursor.bind_of_failed rfl
            | ok next =>
                rcases @ih next between advances.inside (by omega) with ⟨after, ends, further⟩
                refine ⟨after, ?_, advances.trans further⟩
                refine Eq.trans ?_ ends
                exact Cursor.bind_of_done rfl

theorem gives_fold {limited : σ → Box → Step σ} {step : σ → Box → Except Fault σ}
    (same : ∀ state box, limited state box = answer (step state box)) (state : σ) :
    Gives (fold limited state) fun input => (split input).foldM step state := by
  intro cursor inside
  apply foldWithin_eq same inside
  rw [length_left]
  exact Nat.lt_succ_self _

/-- If every step takes up as much as a header, the announced count does not matter. -/
theorem timesWithin_eq {step : Step α} {scan : Scan α} (follows : Follows step scan)
    (takes : ∀ input result rest, scan input = .ok (result, rest) → rest.length + 8 ≤ input.length)
    {rounds count : Nat} {results : List α} {cursor : Cursor} (inside : cursor.IsInside)
    (enough : cursor.left.length / 8 < rounds) :
    ∃ result after, timesWithin step rounds count results cursor = some (result, after) ∧
      cursor.Advances after ∧
      Scan.times.go scan count results cursor.left =
        result.map fun value => (value, after.left) := by
  induction rounds generalizing count results cursor with
  | zero => cases enough
  | succ rounds ih =>
      cases count with
      | zero => exact ⟨.ok results.reverse, cursor, rfl, .refl inside, rfl⟩
      | succ count =>
          unfold timesWithin Scan.times.go
          rcases follows cursor cursor (.refl inside) with ⟨found, between, done, advances, read⟩
          cases found with
          | error fault =>
              refine ⟨.error fault, between, Cursor.bind_of_failed done, advances, ?_⟩
              exact Scan.bind_of_error read
          | ok found =>
              have shorter := takes _ _ _ read
              rcases @ih count (found :: results) between advances.inside (by omega) with
                ⟨result, after, ends, further, same⟩
              refine ⟨result, after, ?_, advances.trans further, ?_⟩
              · exact (Cursor.bind_of_done done).trans ends
              · exact (Scan.bind_of_ok read).trans same

theorem follows_times {step : Step α} {scan : Scan α} (follows : Follows step scan)
    (takes : ∀ input result rest, scan input = .ok (result, rest) → rest.length + 8 ≤ input.length)
    (count : Nat) : Follows (times count step) (Scan.times count scan) := by
  intro origin cursor comes
  apply timesWithin_eq follows takes comes.inside
  rw [length_left]
  exact Nat.lt_succ_self _

/-! ## The readers of boxes -/

/-- The content of a box that has to be of one kind, which is looked at first. -/
def contentOf (kind : FourCC) (foreign : Fault) : Step Bytes := do
  let framing ← header
  if framing.kind ≠ kind then answer (.error foreign)
  else do
    let content ← sub framing.size
    return content.data

theorem follows_contentOf (kind : FourCC) (foreign : Fault) : Follows (contentOf kind foreign)
    (Box.scan >>= fun box => if box.kind ≠ kind then Scan.fail foreign else pure box.content) := by
  intro origin cursor comes
  rcases follows_header comes.inside with ⟨result, between, done, advances, read⟩
  rcases follows_box origin cursor comes with ⟨found, after, readBox, forth, same⟩
  unfold contentOf
  unfold box at readBox
  cases result with
  | error fault =>
      rw [Cursor.bind_of_failed done] at readBox ⊢
      cases readBox
      exact ⟨.error fault, between, rfl, advances, Scan.bind_of_error same⟩
  | ok framing =>
      have enters := (opens_of_header done).enters
      rw [Cursor.bind_of_done done] at readBox ⊢
      rw [Cursor.bind_of_done enters] at readBox
      cases readBox
      rw [Scan.bind_of_ok same]
      by_cases isForeign : framing.kind ≠ kind
      · rw [if_pos isForeign, if_pos isForeign]
        exact ⟨.error foreign, between, rfl, advances, rfl⟩
      · rw [if_neg isForeign, if_neg isForeign, Cursor.bind_of_done enters]
        exact ⟨.ok (between.left.take framing.size), _, rfl, forth, rfl⟩

/-- The content of a box that has to be an entry of the item list. -/
def entry : Step Entry := do
  let content ← contentOf .infe (.parse .foreignItemEntry)
  answer (Entry.scan.run' content)

def entries : Step (List Entry) := do
  let head ← version
  let count ← nat (if head.1 = 0 then 2 else 4)
  times count entry

/-- The references in boxes of a version. -/
def referencesOf (version : Nat) : Step (List Reference) :=
  if 1 < version then return []
  else
    fold
      (fun references box => answer (do
        let found ← (Reference.scanBox (if version = 0 then 2 else 4) box.kind).run' box.content
        return references ++ found))
      []

def references : Step (List Reference) := do
  let head ← version
  referencesOf head.1

def properties : Step (List Property) :=
  fold
    (fun properties box => answer (do
      return properties ++ [← (Property.scan box.kind).run' box.content]))
    []

def associations : Step (List Association) :=
  fold
    (fun associations box => answer (
      if box.kind = .ipma then do
        return associations ++ (← Association.scanTable.run' box.content)
      else .ok associations))
    []

def propertyTable : Step PropertyTable := do
  let list ← contentOf .ipco (.parse .propertiesNotFirst)
  let properties ← within list properties
  let associations ← associations
  return ⟨properties, associations⟩

/-- Takes in one box of a directory, in some kinds of which there are more boxes. -/
def directoryStep (progress : Directory.Progress) (box : Box) : Step Directory.Progress := do
  let directory := progress.directory
  if box.kind = .iinf then
    let entries ← within box.content entries
    return { progress with directory := { directory with entries } }
  else if box.kind = .iref then
    let references ← within box.content references
    return { progress with directory := { directory with references } }
  else if box.kind = .iprp then
    let table ← within box.content propertyTable
    return { progress with directory := { directory with table := directory.table.append table } }
  else answer (Directory.step progress box)

def directory : Step Directory := do
  let _ ← version
  let progress ← fold directoryStep ⟨.empty, false⟩
  answer (if progress.hasHandler then .ok progress.directory else .error (.parse .noHandler))

/-- Takes in one outermost box. -/
def outlineStep (outline : Outline) (box : Box) : Step Outline :=
  if box.kind = .metadata ∧ outline.brands ≠ none then do
    let directory ← within box.content directory
    return { outline with directory := some directory }
  else answer (outline.step box)

/-- The directory that has been found when all boxes have been seen. -/
def conclude (outline : Outline) : Except Fault Directory :=
  match outline.brands, outline.directory with
  | none, _ => .error (.parse .notAvif)
  | some _, some directory => .ok directory
  | some brands, none =>
      if outline.hasMovie ∨ brands.has .avis then .error (.unsupported .imageSequence)
      else .error (.parse .noMeta)

/-- Reads the item directory of a file. -/
def file : Step Directory := do
  let left ← remaining
  if left = 0 then answer (.error (.parse .emptyInput))
  else do
    let outline ← fold outlineStep ⟨none, none, false⟩
    answer (conclude outline)

/-! ## They come to an end -/

theorem follows_entry : Follows entry Entry.scanBox := by
  have same : Entry.scanBox = (Box.scan >>= fun box =>
      if box.kind ≠ .infe then Scan.fail (.parse .foreignItemEntry) else pure box.content) >>=
        fun content => monadLift (Entry.scan.run' content) := by
    rw [bind_assoc]
    refine congrArg (Box.scan >>= ·) (funext fun box => ?_)
    split <;> rfl
  rw [same]
  exact (follows_contentOf .infe _).bind fun content origin => .answer (Entry.scan.run' content)

theorem length_of_scanBox {input rest : Bytes} {entry : Entry}
    (done : Entry.scanBox input = .ok (entry, rest)) : rest.length + 8 ≤ input.length := by
  rcases bind_eq_ok_iff.mp done with ⟨box, after, readBox, finish⟩
  have shorter := length_of_scan readBox
  split at finish
  · cases finish
  · cases found : Entry.scan.run' box.content with
    | error fault =>
        rw [found] at finish
        cases finish
    | ok entry =>
        rw [found] at finish
        cases finish
        exact shorter

theorem follows_entries : Follows entries Entry.scanTable := by
  have follows := follows_version.bind fun (pair : Nat × Nat) =>
    (follows_nat (if pair.1 = 0 then 2 else 4)).bind fun count =>
      follows_times follows_entry (fun _ _ _ => length_of_scanBox) count
  simp only [bind_assoc, pure_bind] at follows
  exact follows

theorem gives_referencesOf (version : Nat) : Gives (referencesOf version) fun boxes =>
    if 1 < version then .ok []
    else (split boxes).foldM (fun references box => do
      let found ← (Reference.scanBox (if version = 0 then 2 else 4) box.kind).run' box.content
      return references ++ found) [] := by
  unfold referencesOf
  split
  · exact fun cursor inside => ⟨cursor, rfl, .refl inside⟩
  · exact gives_fold (fun _ _ => rfl) []

theorem gives_references : Gives references Reference.scanTable.run' := by
  refine (Gives.bind_of_follows follows_version fun head => gives_referencesOf head.1).congr ?_
  intro input
  simp only [Reference.scanTable, run'_bind, bind_apply, bind_assoc]
  refine bind_congr fun first => bind_congr fun second => ?_
  rw [pure_apply, AvifStill.bind_of_done rfl]
  simp only
  split
  · rfl
  · simp only [run'_bind, run'_lift]
    rfl

theorem gives_properties : Gives properties PropertyTable.readProperties :=
  gives_fold (fun _ _ => rfl) []

theorem gives_associations : Gives associations PropertyTable.readAssociations :=
  gives_fold (fun _ _ => rfl) []

theorem gives_propertyTable : Gives propertyTable PropertyTable.read := by
  have listed (list : Bytes) : Gives (within list properties >>= fun properties =>
      associations >>= fun associations => pure ⟨properties, associations⟩) fun rest => do
        let properties ← PropertyTable.readProperties list
        let associations ← PropertyTable.readAssociations rest
        return (⟨properties, associations⟩ : PropertyTable) := by
    rw [within_eq gives_properties]
    exact .answer_bind _ fun properties => gives_associations.bind_answer fun associations =>
      .ok (PropertyTable.mk properties associations)
  refine (Gives.bind_of_follows (follows_contentOf .ipco _) listed).congr ?_
  intro input
  simp only [PropertyTable.read, bind_apply, bind_assoc]
  refine bind_congr fun first => ?_
  split <;> rfl

theorem directoryStep_eq (progress : Directory.Progress) (box : Box) :
    directoryStep progress box = answer (Directory.step progress box) := by
  rcases box with ⟨kind, content⟩
  unfold directoryStep
  by_cases isEntries : kind = .iinf
  · subst isEntries
    simp only [if_true, within_eq (Gives.of_follows follows_entries)]
    exact answer_bind _ fun entries => .ok
      { progress with directory := { progress.directory with entries } }
  by_cases isReferences : kind = .iref
  · subst isReferences
    simp only [if_true, within_eq gives_references]
    exact answer_bind _ fun references => .ok
      { progress with directory := { progress.directory with references } }
  by_cases isTable : kind = .iprp
  · subst isTable
    simp only [if_true, within_eq gives_propertyTable]
    exact answer_bind _ fun table => .ok { progress with
      directory := { progress.directory with table := progress.directory.table.append table } }
  · simp only [isEntries, isReferences, isTable, if_false]

theorem gives_directory : Gives directory Directory.read := by
  have boxes : Gives (fold directoryStep ⟨.empty, false⟩ >>= fun progress => answer
      (if progress.hasHandler then .ok progress.directory else .error (.parse .noHandler)))
        fun boxes => (split boxes).foldM Directory.step ⟨.empty, false⟩ >>= fun progress =>
          if progress.hasHandler then .ok progress.directory else .error (.parse .noHandler) :=
    (gives_fold directoryStep_eq _).bind_answer _
  refine (Gives.bind_of_follows follows_version fun _ => boxes).congr ?_
  intro input
  rw [Directory.read, show Scan.bytes truncated 4 = _ from bytes_add truncated 1 3]
  simp only [Scan.nat, bind_apply, bind_assoc, pure_apply]
  refine bind_congr fun first => ?_
  simp only [AvifStill.bind_of_done rfl]
  refine bind_congr fun second => bind_congr fun progress => ?_
  split <;> rfl

theorem outlineStep_eq (outline : Outline) (box : Box) :
    outlineStep outline box = answer (outline.step box) := by
  rcases box with ⟨kind, content⟩
  unfold outlineStep
  by_cases isDirectory : kind = .metadata ∧ outline.brands ≠ none
  · rcases isDirectory with ⟨rfl, hasBrands⟩
    have entered : outline.step ⟨.metadata, content⟩ = do
        return { outline with directory := some (← Directory.read content) } :=
      if_neg hasBrands
    rw [if_pos ⟨rfl, hasBrands⟩, entered, within_eq gives_directory]
    exact answer_bind _ fun directory => .ok { outline with directory := some directory }
  · rw [if_neg isDirectory]

theorem gives_file : Gives file Directory.ofFile := by
  intro cursor inside
  unfold file Directory.ofFile
  rw [Cursor.bind_of_done (rfl : remaining cursor = _), ← length_left]
  by_cases isEmpty : cursor.left = []
  · rw [isEmpty]
    exact ⟨cursor, rfl, .refl inside⟩
  · have notZero : ¬cursor.left.length = 0 := by rwa [List.length_eq_zero_iff]
    rw [if_neg notZero, if_neg isEmpty]
    have loop := (gives_fold outlineStep_eq ⟨none, none, false⟩).bind_answer conclude
    rcases loop cursor inside with ⟨after, done, advances⟩
    refine ⟨after, done.trans (congrArg (fun result => some (result, after)) ?_), advances⟩
    refine bind_congr fun outline => ?_
    rcases outline with ⟨_ | brands, _ | directory, hasMovie⟩
    · rfl
    · rfl
    · simp only [conclude]
      split <;> rfl
    · rfl

/-- The operations of a cursor, each of which reads as a scan on what is left. -/
structure StepsFollow : Prop where
  bytes : ∀ count, Follows (bytes count) (Scan.bytes truncated count)
  sub : ∀ count, Follows (sub count) (do return start (← Scan.bytes truncated count))
  skip : ∀ count, Follows (skip count) (do let _ ← Scan.bytes truncated count)
  rest : Follows rest Scan.rest
  byte : Follows byte (Scan.byte truncated)
  nat : ∀ width, Follows (nat width) (Scan.nat truncated width)
  wide : Follows wide (Scan.nat truncated 8)
  field : ∀ width, Follows (field width) (Location.scanField width)
  fourCC : Follows fourCC (Scan.fourCC truncated)
  version : Follows version (do
    let version ← Scan.nat truncated 1
    let flags ← Scan.nat truncated 3
    return (version, flags))
  text : Follows text Scan.text
  /-- One after the other, also where the second depends on what the first has read. -/
  sequence : ∀ {α β : Type} {first : Step α} {next : α → Step β} {scan : Scan α}
    {goesOn : α → Scan β}, Follows first scan → (∀ value, Follows (next value) (goesOn value)) →
      Follows (first >>= next) (scan >>= goesOn)

theorem stepsFollow : StepsFollow where
  bytes := follows_bytes
  sub := follows_sub
  skip := follows_skip
  rest := follows_rest
  byte := follows_byte
  nat := follows_nat
  wide := follows_wide
  field := follows_field
  fourCC := follows_fourCC
  version := follows_version
  text := follows_text
  sequence := .bind

end Cursor

namespace Item

open Cursor

/-- How boxes are gone through, whatever the bytes are and wherever the cursor is. -/
structure ReadsToEnd : Prop where
  /-- No operation reads past the end of the bytes, or goes there. -/
  steps : StepsFollow
  /-- Of reading the start of a box. -/
  opens : ∀ {before after framing}, header before = some (.ok framing, after) →
    framing.Opens before after
  /-- Reading the start and then the content is how a box is read. -/
  box : Follows Cursor.box Box.scan
  /-- The loop over the outermost boxes, in which there are all others. -/
  file : Gives Cursor.file Directory.ofFile
  directory : Gives Cursor.directory Directory.read
  /-- The two loops one after the other. -/
  table : Gives propertyTable PropertyTable.read
  properties : Gives Cursor.properties PropertyTable.readProperties
  associations : Gives Cursor.associations PropertyTable.readAssociations
  references : Gives Cursor.references Reference.scanTable.run'
  entries : Follows Cursor.entries Entry.scanTable

/--
On all bytes every loop over boxes ends within the rounds that their number allows, and no cursor
leaves them.
-/
theorem readsToEnd : ReadsToEnd where
  steps := stepsFollow
  opens := opens_of_header
  box := follows_box
  file := gives_file
  directory := gives_directory
  table := gives_propertyTable
  properties := gives_properties
  associations := gives_associations
  references := gives_references
  entries := follows_entries

end Item

end AvifStill
