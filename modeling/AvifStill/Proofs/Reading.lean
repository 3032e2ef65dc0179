import AvifStill.Item.Location
import AvifStill.Payload.Window

/-!
# Reading back what was written

A step of a reader is related to the bytes that it takes up, whatever follows them. Written numbers,
codes and tables are then read back field by field: the relation holds of a sequence of steps and of
the concatenation of what each of them takes up, and so does the one that a step fails on a part of
its bytes. What the first steps of a reader have read also tells which bytes were there.
-/

namespace AvifStill

namespace Bytes

theorem capacity_two : capacity 2 = 65536 := rfl

theorem capacity_four : capacity 4 = 4294967296 := rfl

@[simp]
theorem toNat_ofNat_of_lt {width value : Nat} (fits : value < capacity width) :
    toNat (ofNat width value) = value := by
  rw [toNat_ofNat, Nat.mod_eq_of_lt fits]

theorem capacity_pos (width : Nat) : 0 < capacity width := by
  induction width with
  | zero => decide
  | succ width ih => exact Nat.mul_pos (by decide) ih

theorem toNat_cons (byte : UInt8) (bytes : Bytes) :
    toNat (byte :: bytes) = byte.toNat * capacity bytes.length + toNat bytes := by
  have one : toNat [byte] = byte.toNat := by simp [toNat]
  rw [← one]
  exact toNat_append [byte] bytes

theorem toNat_lt (bytes : Bytes) : toNat bytes < capacity bytes.length := by
  induction bytes with
  | nil => decide
  | cons byte bytes ih =>
      rw [toNat_cons, List.length_cons, capacity]
      calc byte.toNat * capacity bytes.length + toNat bytes
          < byte.toNat * capacity bytes.length + capacity bytes.length := Nat.add_lt_add_left ih _
        _ = (byte.toNat + 1) * capacity bytes.length := (Nat.succ_mul ..).symm
        _ ≤ 256 * capacity bytes.length := Nat.mul_le_mul_right _ byte.toNat_lt

/-- Multiples of what the width can hold are not written. -/
theorem ofNat_add_mul (width value factor : Nat) :
    ofNat width (factor * capacity width + value) = ofNat width value := by
  induction width generalizing factor with
  | zero => rfl
  | succ width ih =>
      have apart : factor * capacity (width + 1) + value =
          factor * 256 * capacity width + value := by
        rw [capacity, Nat.mul_assoc]
      rw [apart, ofNat, ofNat, ih, Nat.add_comm, Nat.add_mul_div_right _ _ (capacity_pos width)]
      congr 1
      apply UInt8.toNat_inj.mp
      simp

theorem ofNat_toNat (bytes : Bytes) : ofNat bytes.length (toNat bytes) = bytes := by
  induction bytes with
  | nil => rfl
  | cons byte bytes ih =>
      have first : (byte.toNat * capacity bytes.length + toNat bytes) / capacity bytes.length =
          byte.toNat := by
        rw [Nat.add_comm, Nat.add_mul_div_right _ _ (capacity_pos _),
          Nat.div_eq_of_lt (toNat_lt bytes), Nat.zero_add]
      rw [toNat_cons, List.length_cons, ofNat, first, ofNat_add_mul, ih, UInt8.ofNat_toNat]

theorem slice?_append (before middle after : Bytes) :
    slice? (before ++ (middle ++ after)) before.length (before.length + middle.length) =
      some middle := by
  have enough : hasAtLeast (before.length + middle.length) (before ++ (middle ++ after)) = true := by
    rw [hasAtLeast_iff]
    simp only [List.length_append]
    omega
  simp [slice?, enough]

theorem slice?_append_length (before after : Bytes) :
    slice? (before ++ after) before.length (before ++ after).length = some after := by
  simpa using slice?_append before after []

theorem splitAtZero_append {text : Bytes} (noZero : (0 : UInt8) ∉ text) (after : Bytes) :
    splitAtZero (text ++ 0 :: after) = (text, after) := by
  induction text with
  | nil => simp [splitAtZero]
  | cons byte text ih =>
      simp only [List.mem_cons, not_or] at noZero
      have nonzero : ¬byte = 0 := fun isZero => noZero.1 isZero.symm
      simp only [List.cons_append, splitAtZero, nonzero, if_false, ih noZero.2]

end Bytes

theorem bind_of_done {α β : Type} {first : Except Fault α} {next : α → Except Fault β} {value : α}
    (done : first = .ok value) : (first >>= next) = next value := by
  rw [done]
  rfl

theorem bind_of_failed {α β : Type} {first : Except Fault α} {next : α → Except Fault β}
    {fault : Fault} (failed : first = .error fault) : (first >>= next) = .error fault := by
  rw [failed]
  rfl

theorem done_of_bind {α β : Type} {first : Except Fault α} {next : α → Except Fault β} {result : β}
    (done : (first >>= next) = .ok result) :
    ∃ value, first = .ok value ∧ next value = .ok result := by
  cases found : first with
  | error fault =>
      rw [found] at done
      cases done
  | ok value =>
      rw [found] at done
      exact ⟨value, rfl, done⟩

theorem failed_of_bind {α β : Type} {first : Except Fault α} {next : α → Except Fault β}
    {fault : Fault} (failed : (first >>= next) = .error fault) :
    first = .error fault ∨ ∃ value, first = .ok value ∧ next value = .error fault := by
  cases found : first with
  | error other =>
      rw [found] at failed
      cases failed
      exact Or.inl rfl
  | ok value =>
      rw [found] at failed
      exact Or.inr ⟨value, rfl, failed⟩

/-- On fixed inputs a result is compared without its faults. -/
theorem ok_of_toOption {α : Type} {result : Except Fault α} {value : α}
    (isSome : result.toOption = some value) : result = .ok value := by
  cases result with
  | error fault => cases isSome
  | ok found =>
      cases isSome
      rfl

theorem exists_ok_ite {α : Type} {condition : Prop} [Decidable condition] {holds : α → Prop}
    {first second : Except Fault α}
    (onTrue : condition → ∃ value, first = .ok value ∧ holds value)
    (onFalse : ¬condition → ∃ value, second = .ok value ∧ holds value) :
    ∃ value, (if condition then first else second) = .ok value ∧ holds value := by
  by_cases isTrue : condition
  · rw [if_pos isTrue]
    exact onTrue isTrue
  · rw [if_neg isTrue]
    exact onFalse isTrue

theorem exists_ok_bind {α β : Type} {first : Except Fault α} {next : α → β} {holds : β → Prop}
    (done : ∃ value, first = .ok value) (keeps : ∀ value, holds (next value)) :
    ∃ result, (first >>= fun value => pure (next value)) = .ok result ∧ holds result := by
  rcases done with ⟨value, done⟩
  exact ⟨next value, bind_of_done done, keeps value⟩

theorem foldlM_invariant {α σ : Type} {step : σ → α → Except Fault σ} (holds : σ → Prop)
    (keeps : ∀ state item next, holds state → step state item = .ok next → holds next)
    {items : List α} {start final : σ} (first : holds start)
    (done : items.foldlM step start = .ok final) : holds final := by
  induction items generalizing start with
  | nil =>
      cases done
      exact first
  | cons item items ih =>
      rw [List.foldlM_cons] at done
      rcases done_of_bind done with ⟨next, stepped, done⟩
      exact ih (keeps start item next first stepped) done

theorem exists_foldlM {α σ : Type} {step : σ → α → Except Fault σ} (holds : σ → Prop)
    {items : List α}
    (succeeds : ∀ item ∈ items, ∀ state, holds state →
      ∃ next, step state item = .ok next ∧ holds next)
    {start : σ} (first : holds start) :
    ∃ final, items.foldlM step start = .ok final ∧ holds final := by
  induction items generalizing start with
  | nil => exact ⟨start, rfl, first⟩
  | cons item items ih =>
      rcases succeeds item (List.mem_cons_self ..) start first with ⟨next, stepped, kept⟩
      rcases ih (fun other isMember => succeeds other (List.mem_cons_of_mem item isMember)) kept
        with ⟨final, done, kept⟩
      exact ⟨final, by rw [List.foldlM_cons, bind_of_done stepped, done], kept⟩

/-- Steps that either fail or do what a total function does. -/
theorem foldlM_eq_ok_iff {α σ : Type} {step : σ → α → Except Fault σ} {advance : σ → α → σ}
    {passes : α → Prop} (holds : σ → Prop)
    (stepped : ∀ state item next, holds state →
      (step state item = .ok next ↔ passes item ∧ advance state item = next))
    (keeps : ∀ state item, holds state → holds (advance state item)) {items : List α}
    {start final : σ} (first : holds start) :
    items.foldlM step start = .ok final ↔
      (∀ item ∈ items, passes item) ∧ items.foldl advance start = final := by
  induction items generalizing start with
  | nil => simp [pure, Except.pure]
  | cons item items ih =>
      rw [List.foldlM_cons, List.foldl_cons, List.forall_mem_cons]
      constructor
      · intro done
        rcases done_of_bind done with ⟨next, isNext, done⟩
        rcases (stepped start item next first).mp isNext with ⟨passed, rfl⟩
        rcases (ih (keeps start item first)).mp done with ⟨others, isFinal⟩
        exact ⟨⟨passed, others⟩, isFinal⟩
      · rintro ⟨⟨passed, others⟩, isFinal⟩
        rw [bind_of_done ((stepped start item _ first).mpr ⟨passed, rfl⟩)]
        exact (ih (keeps start item first)).mpr ⟨others, isFinal⟩

/-- Steps that leave a state as it is do so one after another. -/
theorem foldlM_stays {α σ : Type} {step : σ → α → Except Fault σ} {state : σ} {items : List α}
    (stays : ∀ item ∈ items, step state item = .ok state) :
    items.foldlM step state = .ok state := by
  induction items with
  | nil => rfl
  | cons item items ih =>
      rw [List.foldlM_cons, bind_of_done (stays item (List.mem_cons_self ..))]
      exact ih fun other isMember => stays other (List.mem_cons_of_mem item isMember)

namespace Scan

variable {α β : Type}

theorem append_of_bytes {short : Fault} {count : Nat} {input result rest : Bytes}
    (done : bytes short count input = .ok (result, rest)) :
    input = result ++ rest ∧ result.length = count := by
  refine ⟨?_, (length_of_bytes done).2⟩
  unfold bytes at done
  split at done
  · cases done
    exact (List.take_append_drop count input).symm
  · cases done

theorem append_of_nat {short : Fault} {width value : Nat} {input rest : Bytes}
    (done : nat short width input = .ok (value, rest)) :
    input = Bytes.ofNat width value ++ rest ∧ value < Bytes.capacity width := by
  rcases bind_eq_ok_iff.mp done with ⟨bytes, between, read, finish⟩
  rcases append_of_bytes read with ⟨rfl, rfl⟩
  cases finish
  exact ⟨congrArg (· ++ rest) (Bytes.ofNat_toNat bytes).symm, Bytes.toNat_lt bytes⟩

theorem append_of_fourCC {short : Fault} {input rest : Bytes} {code : FourCC}
    (done : fourCC short input = .ok (code, rest)) : input = code.toBytes ++ rest := by
  unfold fourCC at done
  split at done
  · cases done
    rfl
  · cases done

/-- A step takes up exactly some bytes at the front and yields a result. -/
def Reads (step : Scan α) (front : Bytes) (result : α) : Prop :=
  ∀ after, step (front ++ after) = .ok (result, after)

theorem bind_of_error {first : Scan α} {next : α → Scan β} {input : Bytes} {fault : Fault}
    (failed : first input = .error fault) : (first >>= next) input = .error fault := by
  simp only [Bind.bind, StateT.bind, Except.bind, failed]

namespace Reads

theorem pure (value : α) : Reads (Pure.pure value) [] value :=
  fun _ => rfl

theorem bind {first : Scan α} {next : α → Scan β} {front back : Bytes} {middle : α} {result : β}
    (reads : Reads first front middle) (goesOn : Reads (next middle) back result) :
    Reads (first >>= next) (front ++ back) result := by
  intro after
  rw [List.append_assoc, bind_of_ok (reads (back ++ after))]
  exact goesOn after

theorem bind_nothing {first : Scan α} {next : α → Scan β} {back : Bytes} {middle : α} {result : β}
    (reads : Reads first [] middle) (goesOn : Reads (next middle) back result) :
    Reads (first >>= next) back result :=
  reads.bind goesOn

theorem bind_pure {step : Scan α} {front : Bytes} {value : α} (function : α → β)
    (reads : Reads step front value) :
    Reads (step >>= fun value => Pure.pure (function value)) front (function value) := by
  intro after
  rw [bind_of_ok (reads after), pure_apply]

theorem map {step : Scan α} {front : Bytes} {value : α} (function : α → β)
    (reads : Reads step front value) : Reads (function <$> step) front (function value) := by
  rw [map_eq_pure_bind]
  exact reads.bind_pure function

/-- The last steps of a reader take up all that is left. -/
theorem bind_rest {first : Scan α} {next : α → Scan β} {front back : Bytes} {middle : α}
    {result : β} (reads : Reads first front middle)
    (finishes : next middle back = .ok (result, [])) :
    (first >>= next) (front ++ back) = .ok (result, []) := by
  rw [bind_of_ok (reads back)]
  exact finishes

theorem bind_nothing_rest {first : Scan α} {next : α → Scan β} {back : Bytes} {middle : α}
    {result : β} (reads : Reads first [] middle) (finishes : next middle back = .ok (result, [])) :
    (first >>= next) back = .ok (result, []) :=
  reads.bind_rest finishes

theorem apply {step : Scan α} {front : Bytes} {result : α} (reads : Reads step front result) :
    step front = .ok (result, []) := by
  simpa using reads []

/-- On a string of its own a step need not take up all of it. -/
theorem run'_append {step : Scan α} {front : Bytes} {result : α} (reads : Reads step front result)
    (after : Bytes) : step.run' (front ++ after) = .ok result := by
  rw [run', reads after]
  rfl

theorem run' {step : Scan α} {front : Bytes} {result : α} (reads : Reads step front result) :
    step.run' front = .ok result := by
  simpa using reads.run'_append []

theorem bytes (short : Fault) {count : Nat} {front : Bytes} (size : front.length = count) :
    Reads (Scan.bytes short count) front front :=
  fun after => bytes_append short after size

theorem nat (short : Fault) {width value : Nat} (fits : value < Bytes.capacity width) :
    Reads (Scan.nat short width) (Bytes.ofNat width value) value :=
  fun after => nat_ofNat short after fits

theorem natOfBytes (short : Fault) {width : Nat} {front : Bytes} (size : front.length = width) :
    Reads (Scan.nat short width) front front.toNat := by
  exact (Reads.bytes short size).bind_pure Bytes.toNat

theorem byte (short : Fault) (value : UInt8) : Reads (Scan.byte short) [value] value :=
  fun _ => rfl

theorem word (short : Fault) (value : UInt32) :
    Reads (Scan.word short) (Bytes.ofNat 4 value.toNat) value := by
  have fits : value.toNat < Bytes.capacity 4 := by
    rw [Bytes.capacity_four]
    exact value.toNat_lt
  have reads := (Reads.nat short fits).bind_pure UInt32.ofNat
  rw [UInt32.ofNat_toNat] at reads
  exact reads

theorem fourCC (short : Fault) (code : FourCC) : Reads (Scan.fourCC short) code.toBytes code :=
  fun after => fourCC_toBytes short code after

theorem go {step : Scan α} {encode : β → Bytes} {decode : β → α} {items : List β}
    (each : ∀ item ∈ items, Reads step (encode item) (decode item)) (results : List α) :
    Reads (times.go step items.length results) (items.flatMap encode)
      (results.reverse ++ items.map decode) := by
  induction items generalizing results with
  | nil =>
      simp only [List.length_nil, List.flatMap_nil, List.map_nil, List.append_nil, times.go]
      exact pure results.reverse
  | cons item items ih =>
      have first := each item (List.mem_cons_self ..)
      have others := ih (fun other isMember => each other (List.mem_cons_of_mem _ isMember))
        (decode item :: results)
      simp only [List.length_cons, List.flatMap_cons, List.map_cons, times.go]
      rw [List.reverse_cons, List.append_assoc, List.singleton_append] at others
      exact first.bind others

theorem times {step : Scan α} {encode : β → Bytes} {decode : β → α} {items : List β}
    (each : ∀ item ∈ items, Reads step (encode item) (decode item)) :
    Reads (Scan.times items.length step) (items.flatMap encode) (items.map decode) := by
  simpa [Scan.times] using go each []

end Reads

/-- A step fails on a part of the bytes that it takes up. -/
def Demands (step : Scan α) (front : Bytes) (fault : Fault) : Prop :=
  ∀ taken < front.length, step (front.take taken) = .error fault

namespace Demands

variable {fault : Fault}

theorem nothing (step : Scan α) (fault : Fault) : Demands step [] fault := by
  intro taken short
  exact absurd short (Nat.not_lt_zero taken)

/-- The bytes end within those of the first step or within those of the second. -/
theorem bind {first : Scan α} {next : α → Scan β} {front back : Bytes} {middle : α}
    (reads : Reads first front middle) (demands : Demands first front fault)
    (goesOn : Demands (next middle) back fault) : Demands (first >>= next) (front ++ back) fault := by
  intro taken short
  rw [List.take_append]
  by_cases within : taken < front.length
  · rw [Nat.sub_eq_zero_of_le (Nat.le_of_lt within), List.take_zero, List.append_nil]
    exact bind_of_error (demands taken within)
  · rw [List.take_of_length_le (Nat.le_of_not_lt within), bind_of_ok (reads _)]
    apply goesOn
    rw [List.length_append] at short
    omega

theorem bytes (fault : Fault) {count : Nat} {front : Bytes} (size : front.length = count) :
    Demands (Scan.bytes fault count) front fault := by
  intro taken short
  have few : ¬Bytes.hasAtLeast count (front.take taken) = true := by
    rw [Bytes.hasAtLeast_iff, List.length_take]
    omega
  exact if_neg few

theorem nat (fault : Fault) (width value : Nat) :
    Demands (Scan.nat fault width) (Bytes.ofNat width value) fault := by
  intro taken short
  apply bind_of_error
  exact bytes fault (Bytes.length_ofNat width value) taken short

theorem fourCC (fault : Fault) (code : FourCC) :
    Demands (Scan.fourCC fault) code.toBytes fault := by
  intro taken short
  rcases taken with _ | _ | _ | _ | taken
  · rfl
  · rfl
  · rfl
  · rfl
  · rw [FourCC.length_toBytes] at short
    omega

end Demands

theorem reads_text {text : Bytes} (noZero : (0 : UInt8) ∉ text) :
    Reads Scan.text (text ++ [0]) text := by
  intro after
  rw [Scan.text, List.append_assoc, List.singleton_append, Bytes.splitAtZero_append noZero]

end Scan

end AvifStill
